import ConstellationTopology.CompileAcceptance

set_option autoImplicit false

/-! # What candidates can change

A corpus packet states facts (work signals and exact duplicates, its scope, and what it did not run)
and proposes candidates. The stages read the facts only, so two compiles over packets that state the
same facts agree in every canonical domain, whatever either of them proposes or measures. -/

namespace ConstellationTopology

/-! ## The facts of a packet -/

section Facts

variable (c : Codec) (text : PythonText) (packet : CorpusIntelligencePacket)

variable (packets : List CorpusIntelligencePacket)

end Facts

/-! ## Two compiles over the same facts -/

/-- The canonical domains of a state; the graph shows candidates beside them. -/
def TopologyState.canonical (state : TopologyState) : TopologyState :=
  { state with
    graphRecords := []
    candidateRelations := []
    candidateClusters := []
    readinessEvidence := []
    topologyReasoningCandidates := [] }

section Isolation

variable {env : CompileEnvironment} {configuration : ResolvedConfiguration}
  {inputs : List RepositoryInput} {corpora corpora' : List CorpusAnalysisPacket}

end Isolation

/-! The notes with the topic that is proposed for their file, and without it. -/

end ConstellationTopology
