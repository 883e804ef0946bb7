import ConstellationTopology.Library.JsonText
import ConstellationTopology.Packets.WorkSignalPayload
import Mathlib.Algebra.Order.BigOperators.Group.List
import Mathlib.Algebra.Ring.Int.Defs

set_option autoImplicit false

/-! # Framing of the work-signal payload

A payload is written one record a line, joined by line feeds, and read back by `splitlines`. What
is accepted agrees with every count of the manifest (`load_counted`). What was written is read back
unless a text in a record holds one of the line boundaries that JSON leaves raw
(`load_written_iff`). -/

namespace ConstellationTopology

open Json (fieldText?_eq_some isObject_of_fieldText?)

variable {python : PythonReader} {generation : Generation} {c : Codec}

/-! ## When a step succeeds -/

@[simp] theorem require_eq_ok {passed : Prop} [Decidable passed] {error : PayloadError}
    {u : Unit} : require passed error = .ok u ↔ passed := by
  unfold require
  split <;> simp_all

theorem requireInt_eq_ok {container : Json} {key context : String} {minimum value : ℤ} :
    requireInt container key minimum context = .ok value ↔
      container.get? key = some (.int value) ∧ minimum ≤ value := by
  unfold requireInt
  split
  · next found h =>
      rw [h]
      by_cases hlow : found < minimum
      · rw [if_pos hlow]
        simp only [reduceCtorEq, Option.some.injEq, Json.int.injEq, false_iff, not_and]
        intro heq
        omega
      · rw [if_neg hlow]
        simp only [Except.ok.injEq, Option.some.injEq, Json.int.injEq]
        constructor
        · exact fun heq => ⟨heq, heq ▸ not_lt.1 hlow⟩
        · exact fun h => h.1
  · next h =>
      simp only [reduceCtorEq, false_iff, not_and]
      exact fun heq => absurd heq (h value)

theorem requireText_eq_ok {container : Json} {key context text : String} :
    requireText container key context = .ok text ↔
      container.get? key = some (.str text) ∧ text ≠ "" := by
  unfold requireText
  rw [← fieldText?_eq_some]
  split
  · next found h =>
      by_cases hempty : found = ""
      · simp_all
      · simp only [if_neg hempty, Except.ok.injEq, h, Option.some.injEq]
        constructor
        · exact fun heq => ⟨heq, heq ▸ hempty⟩
        · exact fun h => h.1
  · next h => simp [h]

/-! ## The records -/

/-- A line that gives the record. -/
structure Gives (python : PythonReader) (line : String) (record : Json) : Prop where
  not_blank : strip line ≠ ""
  loads : python.loads line = .ok record
  signal_id : ∃ signalId ≠ "", record.get? "signal_id" = some (.str signalId)

theorem parseLine_eq_ok {path line signalId : String} {number : ℕ} {record : Json} :
    parseLine python path number line = .ok (signalId, record) ↔
      Gives python line record ∧ record.fieldText? "signal_id" = some signalId := by
  unfold parseLine
  simp only [bind_eq_ok, require_eq_ok, mapError_eq_ok]
  constructor
  · rintro ⟨_, hblank, found, hloads, _, hobject, hmatch⟩
    split at hmatch
    · cases hmatch
    · next signalId' hid =>
        obtain ⟨_, hne, hpure⟩ := bind_eq_ok.1 hmatch
        obtain ⟨rfl, rfl⟩ := Prod.mk.inj (pure_eq_ok.1 hpure)
        exact ⟨⟨hblank, hloads, _, require_eq_ok.1 hne, fieldText?_eq_some.1 hid⟩, hid⟩
  · rintro ⟨⟨hblank, hloads, signalId', hne, hid⟩, htext⟩
    refine ⟨(), hblank, record, hloads, (), isObject_of_fieldText? htext, ?_⟩
    rw [htext]
    rw [fieldText?_eq_some, hid] at htext
    have heq : signalId' = signalId := by simpa using htext
    exact bind_eq_ok.2 ⟨(), require_eq_ok.2 (heq ▸ hne), rfl⟩

/-- The loop keeps one record a line, and no signal id twice. -/
theorem parseLines_eq_ok {path : String} {number : ℕ} {seen lines : List String}
    {records : List Json} :
    parseLines python path number seen lines = .ok records ↔
      List.Forall₂ (Gives python) lines records ∧
        (records.map (Json.fieldText? "signal_id")).Nodup ∧
          ∀ signalId ∈ seen, some signalId ∉ records.map (Json.fieldText? "signal_id") := by
  induction lines generalizing number seen records with
  | nil =>
      rw [parseLines, List.forall₂_nil_left_iff]
      constructor
      · intro h
        cases h
        simp
      · exact fun h => congrArg Except.ok h.1.symm
  | cons line rest ih =>
      rw [parseLines, List.forall₂_cons_left_iff]
      simp only [bind_eq_ok, require_eq_ok, pure_eq_ok]
      constructor
      · rintro ⟨⟨signalId, record⟩, hline, _, hseen, others, hrest, hrecords⟩
        obtain ⟨hgives, hid⟩ := parseLine_eq_ok.1 hline
        obtain ⟨hothers, hnodup, hfree⟩ := ih.1 hrest
        subst hrecords
        refine ⟨⟨record, others, hgives, hothers, rfl⟩, ?_, ?_⟩
        · rw [List.map_cons, List.nodup_cons, hid]
          exact ⟨hfree signalId List.mem_cons_self, hnodup⟩
        · intro other hother
          rw [List.map_cons, List.mem_cons, hid, not_or]
          refine ⟨fun heq => hseen (Option.some.inj heq ▸ hother), ?_⟩
          exact hfree other (List.mem_cons_of_mem _ hother)
      · rintro ⟨⟨record, others, hgives, hothers, heq⟩, hnodup, hfree⟩
        subst heq
        obtain ⟨signalId, hne, hid⟩ := hgives.signal_id
        rw [← fieldText?_eq_some] at hid
        rw [List.map_cons, List.nodup_cons, hid] at hnodup
        refine ⟨(signalId, record), parseLine_eq_ok.2 ⟨hgives, hid⟩, (), ?_, others, ?_, rfl⟩
        · intro hmem
          exact hfree signalId hmem (by rw [List.map_cons, hid]; exact List.mem_cons_self)
        · refine ih.2 ⟨hothers, hnodup.2, ?_⟩
          intro other hother
          rcases List.mem_cons.1 hother with rfl | hother
          · exact hnodup.1
          · exact fun hmem => hfree other hother (List.mem_cons_of_mem _ hmem)

theorem parsePayload_eq_ok {path text : String} {records : List Json} :
    parsePayload python path text = .ok records ↔
      List.Forall₂ (Gives python) (splitLines text) records ∧
        (records.map (Json.fieldText? "signal_id")).Nodup := by
  rw [parsePayload, parseLines_eq_ok]
  simp

/-! ## The declared counts -/

/-- How many signals the entries of a breakdown declare under a name. -/
def declaredCount (recordKey name : String) (declared : List Json) : ℤ :=
  (declared.filterMap fun entry =>
    if entry.fieldText? recordKey = some name then
      (entry.get? "signal_count").bind Json.wholeNumber?
    else none).sum

/-- What the loop takes out of a tally is what the entries declare. -/
theorem declaredCount_of_checkEntries {fieldName recordKey : String} {declared : List Json}
    {observed left : List String}
    (h : checkEntries python fieldName recordKey declared observed = .ok left) (name : String) :
    declaredCount recordKey name declared + left.count name = observed.count name := by
  induction declared generalizing observed with
  | nil =>
      cases h
      simp [declaredCount]
  | cons entry rest ih =>
      obtain ⟨_, hobject, h⟩ := bind_eq_ok.1 h
      split at h
      · next entryName expected hname hexpected =>
          obtain ⟨_, hcount, hrest⟩ := bind_eq_ok.1 h
          rw [require_eq_ok] at hcount
          have hrest := ih hrest
          unfold declaredCount at hrest ⊢
          rw [List.filterMap_cons, hname, hexpected]
          by_cases heq : entryName = name
          · subst heq
            have hnone : (observed.filter (· ≠ entryName)).count entryName = 0 := by
              simp [List.count_eq_zero]
            rw [hnone] at hrest
            simp only [if_true, List.sum_cons]
            omega
          · have hkept : (observed.filter (· ≠ entryName)).count name = observed.count name :=
              List.count_filter (by simpa using Ne.symm heq)
            rw [hkept] at hrest
            simpa [heq] using hrest
      · cases h

/-- A breakdown that the loop accepts: each entry counts a name of its own. -/
structure TallyEntries (recordKey : String) (declared : List Json) (observed : List String) :
    Prop where
  entries : ∀ entry ∈ declared, ∃ name, entry.get? recordKey = some (.str name) ∧
    entry.get? "signal_count" = some (.int (observed.count name))
  names_nodup : (declared.map (Json.fieldText? recordKey)).Nodup
  covered : ∀ name ∈ observed, some name ∈ declared.map (Json.fieldText? recordKey)

theorem checkEntries_of_tally {fieldName recordKey : String} {declared : List Json}
    {observed : List String} (h : TallyEntries recordKey declared observed) :
    checkEntries python fieldName recordKey declared observed = .ok [] := by
  induction declared generalizing observed with
  | nil =>
      have hnil : observed = [] := List.eq_nil_iff_forall_not_mem.2 fun name hname => by
        simpa using h.covered name hname
      rw [hnil]
      rfl
  | cons entry rest ih =>
      obtain ⟨name, hname, hcount⟩ := h.entries entry List.mem_cons_self
      rw [← fieldText?_eq_some] at hname
      have hnodup := h.names_nodup
      rw [List.map_cons, List.nodup_cons, hname] at hnodup
      rw [checkEntries]
      refine bind_eq_ok.2 ⟨(), require_eq_ok.2 (isObject_of_fieldText? hname), ?_⟩
      rw [hname, hcount]
      refine bind_eq_ok.2 ⟨(), require_eq_ok.2 rfl, ih ⟨?_, hnodup.2, ?_⟩⟩
      · intro other hother
        obtain ⟨otherName, hotherName, hotherCount⟩ :=
          h.entries other (List.mem_cons_of_mem _ hother)
        refine ⟨otherName, hotherName, ?_⟩
        -- the entries that follow count other names
        have hne : otherName ≠ name := by
          intro heq
          rw [← fieldText?_eq_some, heq] at hotherName
          exact hnodup.1 (List.mem_map.2 ⟨other, hother, hotherName⟩)
        rw [hotherCount, List.count_filter (by simpa using hne)]
      · intro other hother
        obtain ⟨hmem, hne⟩ := List.mem_filter.1 hother
        have hcovered := h.covered other hmem
        rw [List.map_cons, List.mem_cons, hname] at hcovered
        rcases hcovered with heq | hrest
        · exact absurd (Option.some.inj heq) (by simpa using hne)
        · exact hrest

theorem checkDeclaredTally_eq_ok {manifest : Json} {records : List Json}
    {fieldName recordKey : String} :
    checkDeclaredTally python manifest records fieldName recordKey = .ok () ↔
      ∀ declared, manifest.get? fieldName = some (.arr declared) →
        checkEntries python fieldName recordKey declared (tally records recordKey) = .ok [] := by
  unfold checkDeclaredTally
  split
  · next declared h =>
      rw [h]
      constructor
      · intro hcheck declared' heq
        obtain ⟨left, hleft, hrequire⟩ := bind_eq_ok.1 hcheck
        rw [require_eq_ok] at hrequire
        rw [← Json.arr.inj (Option.some.inj heq), hleft, hrequire]
      · exact fun hall => bind_eq_ok.2 ⟨[], hall declared rfl, require_eq_ok.2 rfl⟩
  · next h => simpa using fun declared heq => absurd heq (h declared)

theorem checkDeclaredDocumentCount_eq_ok {manifest : Json} {records : List Json} :
    checkDeclaredDocumentCount manifest records = .ok () ↔
      ∀ declared, manifest.get? "document_count" = some (.int declared) →
        ∃ artifacts, records.mapM (fun record => hashKey (artifactIdOf record)) = .ok artifacts ∧
          (artifacts.dedup.length : ℤ) = declared := by
  unfold checkDeclaredDocumentCount
  split
  · next declared h =>
      rw [h, bind_eq_ok]
      simp only [require_eq_ok]
      constructor
      · rintro ⟨artifacts, hartifacts, hcount⟩ declared' heq
        exact ⟨artifacts, hartifacts, hcount.trans (Json.int.inj (Option.some.inj heq))⟩
      · exact fun hall => hall declared rfl
  · next h => simpa using fun declared heq => absurd heq (h declared)

theorem checkDeclaredCounts_eq_ok {manifest : Json} {records : List Json} :
    checkDeclaredCounts python manifest records = .ok () ↔
      checkDeclaredDocumentCount manifest records = .ok () ∧
        checkDeclaredTally python manifest records "by_format" "format" = .ok () ∧
          checkDeclaredTally python manifest records "by_predicate" "predicate" = .ok () := by
  unfold checkDeclaredCounts
  simp only [bind_eq_ok]
  constructor
  · rintro ⟨_, hdocuments, _, hformats, hpredicates⟩
    exact ⟨hdocuments, hformats, hpredicates⟩
  · exact fun ⟨hdocuments, hformats, hpredicates⟩ => ⟨(), hdocuments, (), hformats, hpredicates⟩

/-! ## What is accepted -/

/-- Everything that a payload is checked against before it is accepted. -/
structure Verified (python : PythonReader) (generation : Generation) (c : Codec)
    (payload : WorkSignalPayload) (bytes : ByteArray) (text : String) : Prop where
  manifest : readManifest python generation = .ok payload.manifest
  file : generation.file documentWorkSignalsFile = some (.ok bytes)
  byte_length : payload.manifest.get? "payload_byte_length" = some (.int bytes.size)
  artifact_hash :
    payload.manifest.get? "payload_artifact_hash" = some (.str (c.artifactHash bytes))
  decoded : String.fromUTF8? bytes = some text
  lines : List.Forall₂ (Gives python) (splitLines text) payload.records
  ids_nodup : (payload.records.map (Json.fieldText? "signal_id")).Nodup
  record_count : payload.manifest.get? "record_count" = some (.int payload.records.length)
  semantic_hash : payload.manifest.get? "payload_semantic_hash" =
    some (.str (workSignalsSemanticHash c payload.records))
  counts : checkDeclaredCounts python payload.manifest payload.records = .ok ()

theorem readPayload_eq_ok {bytes : ByteArray} :
    readPayload generation = .ok bytes ↔
      generation.file documentWorkSignalsFile = some (.ok bytes) := by
  unfold readPayload
  split <;> simp_all

theorem decodePayload_eq_ok {path text : String} {bytes : ByteArray} :
    decodePayload python path bytes = .ok text ↔ String.fromUTF8? bytes = some text := by
  unfold decodePayload
  split <;> simp_all

theorem sha256Bytes_ne_empty (c : Codec) (bytes : ByteArray) : c.sha256Bytes bytes ≠ "" := by
  intro h
  have hchars := congrArg String.toList h
  simp [Codec.sha256Bytes] at hchars

theorem load_eq_ok {payload : WorkSignalPayload} :
    loadWorkSignalPayload python generation c = .ok payload ↔
      ∃ bytes text, Verified python generation c payload bytes text := by
  unfold loadWorkSignalPayload
  simp only [bind_eq_ok, require_eq_ok, requireInt_eq_ok, requireText_eq_ok, pure_eq_ok,
    readPayload_eq_ok, decodePayload_eq_ok, parsePayload_eq_ok]
  constructor
  · rintro ⟨manifest, hmanifest, bytes, hbytes, _, ⟨hlength, _⟩, _, hsize, _, ⟨hartifact, _⟩, _,
      hhash, text, htext, records, ⟨hlines, hnodup⟩, _, ⟨hcount, _⟩, _, hrecords, _,
      ⟨hsemantic, _⟩, _, hsemanticHash, _, hcounts, hpayload⟩
    subst hpayload hsize hhash hrecords hsemanticHash
    exact ⟨bytes, text, hmanifest, hbytes, hlength, hartifact, htext, hlines, hnodup, hcount,
      hsemantic, hcounts⟩
  · rintro ⟨bytes, text, h⟩
    exact ⟨payload.manifest, h.manifest, bytes, h.file, _, ⟨h.byte_length, Int.natCast_nonneg _⟩,
      (), rfl, _, ⟨h.artifact_hash, sha256Bytes_ne_empty c _⟩, (), rfl, text, h.decoded,
      payload.records, ⟨h.lines, h.ids_nodup⟩, _, ⟨h.record_count, Int.natCast_nonneg _⟩, (), rfl,
      _, ⟨h.semantic_hash, sha256Bytes_ne_empty c _⟩, (), rfl, (), h.counts, rfl⟩

/-- The payload agrees with what its manifest counts: each line of the file gives one record, no
    record is missing, added or told twice, and each breakdown adds up. -/
structure Counted (python : PythonReader) (generation : Generation) (payload : WorkSignalPayload) :
    Prop where
  manifest : readManifest python generation = .ok payload.manifest
  lines : ∃ bytes text, generation.file documentWorkSignalsFile = some (.ok bytes) ∧
    String.fromUTF8? bytes = some text ∧
      List.Forall₂ (Gives python) (splitLines text) payload.records
  ids_nodup : (payload.records.map (Json.fieldText? "signal_id")).Nodup
  record_count : payload.manifest.get? "record_count" = some (.int payload.records.length)
  documents : ∀ declared, payload.manifest.get? "document_count" = some (.int declared) →
    ∃ artifacts, payload.records.mapM (fun record => hashKey (artifactIdOf record)) =
      .ok artifacts ∧ (artifacts.dedup.length : ℤ) = declared
  formats : ∀ declared, payload.manifest.get? "by_format" = some (.arr declared) → ∀ name,
    declaredCount "format" name declared = (tally payload.records "format").count name
  predicates : ∀ declared, payload.manifest.get? "by_predicate" = some (.arr declared) → ∀ name,
    declaredCount "predicate" name declared = (tally payload.records "predicate").count name

/-- What is accepted agrees with every count of its manifest. -/
theorem load_counted {payload : WorkSignalPayload}
    (h : loadWorkSignalPayload python generation c = .ok payload) :
    Counted python generation payload := by
  obtain ⟨bytes, text, hverified⟩ := load_eq_ok.1 h
  obtain ⟨hdocuments, hformats, hpredicates⟩ := checkDeclaredCounts_eq_ok.1 hverified.counts
  refine ⟨hverified.manifest, ⟨bytes, text, hverified.file, hverified.decoded, hverified.lines⟩,
    hverified.ids_nodup, hverified.record_count, checkDeclaredDocumentCount_eq_ok.1 hdocuments,
    ?_, ?_⟩
  · intro declared hdeclared name
    simpa using
      declaredCount_of_checkEntries (checkDeclaredTally_eq_ok.1 hformats declared hdeclared) name
  · intro declared hdeclared name
    simpa using
      declaredCount_of_checkEntries (checkDeclaredTally_eq_ok.1 hpredicates declared hdeclared) name

/-! ## What is written -/

/-- One JSON object a line, joined by line feeds. -/
def writtenPayload (floats : FloatText) (records : List Json) : String :=
  String.intercalate "\n" (records.map (Json.stringify floats))

/-- Records that can be told apart: each has a signal id of its own. -/
structure Signals (records : List Json) : Prop where
  signal_id : ∀ record ∈ records, ∃ signalId ≠ "",
    record.get? "signal_id" = some (.str signalId)
  ids_nodup : (records.map (Json.fieldText? "signal_id")).Nodup

/-- A manifest that is right about the bytes and the records. -/
structure Describes (c : Codec) (manifest : Json) (bytes : ByteArray) (records : List Json) :
    Prop where
  schema : manifest.get? "schema" = some (.str documentWorkSignalsManifestSchema)
  payload_file : manifest.get? "payload_file" = some (.str documentWorkSignalsFile)
  byte_length : manifest.get? "payload_byte_length" = some (.int bytes.size)
  artifact_hash : manifest.get? "payload_artifact_hash" = some (.str (c.artifactHash bytes))
  record_count : manifest.get? "record_count" = some (.int records.length)
  semantic_hash :
    manifest.get? "payload_semantic_hash" = some (.str (workSignalsSemanticHash c records))
  document_count : ∀ declared, manifest.get? "document_count" = some (.int declared) →
    ∀ artifacts, records.mapM (fun record => hashKey (artifactIdOf record)) = .ok artifacts →
      (artifacts.dedup.length : ℤ) = declared
  by_format : ∀ declared, manifest.get? "by_format" = some (.arr declared) →
    TallyEntries "format" declared (tally records "format")
  by_predicate : ∀ declared, manifest.get? "by_predicate" = some (.arr declared) →
    TallyEntries "predicate" declared (tally records "predicate")

/-- A directory that holds the manifest and the written records. -/
structure Holds (python : PythonReader) (floats : FloatText) (generation : Generation)
    (manifest : Json) (records : List Json) : Prop where
  manifest_file : ∃ text, readManifestText python generation = .ok text ∧
    python.loads text = .ok manifest
  payload_file : generation.file documentWorkSignalsFile =
    some (.ok (writtenPayload floats records).toUTF8)

/-- No list and no mapping. -/
def Json.isScalar : Json → Bool
  | .arr _ => false
  | .obj _ => false
  | _ => true

/-- What the framing and the count of the documents need: no record holds a line boundary that is
    printed raw, and documents that are counted have ids a set can hold. -/
structure Framed (manifest : Json) (records : List Json) : Prop where
  raw_boundaries : ∀ record ∈ records, ∀ ch ∈ rawBoundaries, ¬ record.Mentions ch
  artifact_ids : ∀ declared, manifest.get? "document_count" = some (.int declared) →
    ∀ record ∈ records, (artifactIdOf record).isScalar = true

theorem hashKey_ok_iff (value : Json) :
    (∃ key, hashKey value = .ok key) ↔ value.isScalar = true := by
  cases value <;> simp [hashKey, Json.isScalar]

variable {floats : FloatText} {manifest : Json} {records : List Json}

theorem fromUTF8?_toUTF8 (text : String) : String.fromUTF8? text.toUTF8 = some text := by
  unfold String.fromUTF8?
  rw [dif_pos (show text.toUTF8.IsValidUTF8 from text.isValidUTF8)]
  rfl

/-- A record with a signal id is an object, so its text is not empty and ends inside a line. -/
theorem Signals.exists_fields (h : Signals records) {record : Json} (hrecord : record ∈ records) :
    ∃ fields, record = .obj fields := by
  obtain ⟨signalId, -, hid⟩ := h.signal_id record hrecord
  cases record with
  | obj fields => exact ⟨fields, rfl⟩
  | null | bool _ | int _ | float _ | str _ | arr _ => cases hid

theorem readManifest_of_describes {bytes : ByteArray} (h : Describes c manifest bytes records)
    (hfile : ∃ text, readManifestText python generation = .ok text ∧
      python.loads text = .ok manifest) :
    readManifest python generation = .ok manifest := by
  obtain ⟨text, htext, hloads⟩ := hfile
  have hschema := fieldText?_eq_some.2 h.schema
  unfold readManifest
  simp only [bind_eq_ok, require_eq_ok, mapError_eq_ok, pure_eq_ok]
  exact ⟨text, htext, manifest, hloads, (), isObject_of_fieldText? hschema, (), hschema, (),
    fieldText?_eq_some.2 h.payload_file, rfl⟩

/-- The declared counts of a manifest that is right are accepted. -/
theorem checkDeclaredCounts_of_describes {bytes : ByteArray}
    (h : Describes c manifest bytes records) (hframed : Framed manifest records) :
    checkDeclaredCounts python manifest records = .ok () := by
  rw [checkDeclaredCounts_eq_ok, checkDeclaredDocumentCount_eq_ok, checkDeclaredTally_eq_ok,
    checkDeclaredTally_eq_ok]
  refine ⟨?_, fun declared hdeclared => checkEntries_of_tally (h.by_format declared hdeclared),
    fun declared hdeclared => checkEntries_of_tally (h.by_predicate declared hdeclared)⟩
  intro declared hdeclared
  obtain ⟨artifacts, hartifacts⟩ := exists_mapM_eq_ok fun record hrecord =>
    (hashKey_ok_iff (artifactIdOf record)).2 (hframed.artifact_ids declared hdeclared record hrecord)
  exact ⟨artifacts, hartifacts, h.document_count declared hdeclared artifacts hartifacts⟩

/-- Lines without a raw boundary are read back as they were written. -/
theorem gives_writtenPayload (hrecords : Signals records)
    (hloads : ∀ record ∈ records, python.loads (record.stringify floats) = .ok record)
    (hraw : ∀ record ∈ records, ∀ ch ∈ rawBoundaries, ¬ record.Mentions ch) :
    List.Forall₂ (Gives python) (splitLines (writtenPayload floats records)) records := by
  have hlines : splitLines (writtenPayload floats records) =
      records.map (Json.stringify floats) := by
    refine splitLines_join ?_ ?_
    · intro line hline
      obtain ⟨record, hrecord, rfl⟩ := List.mem_map.1 hline
      obtain ⟨fields, rfl⟩ := hrecords.exists_fields hrecord
      exact Json.stringify_ne_empty fields
    · intro line hline ch hch hboundary
      obtain ⟨record, hrecord, rfl⟩ := List.mem_map.1 hline
      rw [Json.stringify, String.toList_ofList, Json.mem_stringifyChars hboundary] at hch
      exact hraw record hrecord ch hch.1 hch.2
  rw [hlines, List.forall₂_map_left_iff, List.forall₂_same]
  intro record hrecord
  refine ⟨?_, hloads record hrecord, hrecords.signal_id record hrecord⟩
  obtain ⟨fields, rfl⟩ := hrecords.exists_fields hrecord
  have hopen : '{' ∈ ((Json.obj fields).stringify floats).toList := by
    rw [Json.stringify_obj]
    exact List.mem_cons_self
  exact strip_ne_empty hopen (by decide)

/-- Records without a raw boundary are read back with their manifest. -/
theorem load_of_framed (hrecords : Signals records)
    (hloads : ∀ record ∈ records, python.loads (record.stringify floats) = .ok record)
    (hgeneration : Holds python floats generation manifest records)
    (hmanifest : Describes c manifest (writtenPayload floats records).toUTF8 records)
    (hframed : Framed manifest records) :
    loadWorkSignalPayload python generation c = .ok ⟨records, manifest⟩ :=
  load_eq_ok.2 ⟨(writtenPayload floats records).toUTF8, writtenPayload floats records,
    { manifest := readManifest_of_describes hmanifest hgeneration.manifest_file
      file := hgeneration.payload_file
      byte_length := hmanifest.byte_length
      artifact_hash := hmanifest.artifact_hash
      decoded := fromUTF8?_toUTF8 _
      lines := gives_writtenPayload hrecords hloads hframed.raw_boundaries
      ids_nodup := hrecords.ids_nodup
      record_count := hmanifest.record_count
      semantic_hash := hmanifest.semantic_hash
      counts := checkDeclaredCounts_of_describes hmanifest hframed }⟩

/-- A raw boundary in a record makes more lines than records. -/
theorem length_lt_of_raw (hrecords : Signals records) {record : Json} (hrecord : record ∈ records)
    {ch : Char} (hraw : ch ∈ rawBoundaries) (hmentions : record.Mentions ch) :
    records.length < (splitLines (writtenPayload floats records)).length := by
  have hcr : ∀ line ∈ records.map (Json.stringify floats), '\r' ∉ line.toList := by
    intro line hline hmem
    obtain ⟨other, hother, rfl⟩ := List.mem_map.1 hline
    rw [Json.stringify, String.toList_ofList, Json.mem_stringifyChars (by decide)] at hmem
    exact absurd hmem.1 (by decide)
  have hend : ∀ line ∈ records.map (Json.stringify floats), EndsInLine line.toList := by
    intro line hline
    obtain ⟨other, hother, rfl⟩ := List.mem_map.1 hline
    obtain ⟨fields, rfl⟩ := hrecords.exists_fields hother
    exact Json.endsInLine_stringify fields
  have hboundary := rawBoundaries_subset ch hraw
  have hcount : 0 < (record.stringify floats).toList.countP (· ∈ lineBoundaries) := by
    rw [List.countP_pos_iff]
    refine ⟨ch, ?_, decide_eq_true hboundary⟩
    rw [Json.stringify, String.toList_ofList, Json.mem_stringifyChars hboundary]
    exact ⟨hraw, hmentions⟩
  have hsum : (record.stringify floats).toList.countP (· ∈ lineBoundaries) ≤
      ((records.map (Json.stringify floats)).map fun line =>
        line.toList.countP (· ∈ lineBoundaries)).sum :=
    List.single_le_sum (by simp) _
      (List.mem_map_of_mem (List.mem_map_of_mem hrecord))
  rw [writtenPayload, length_splitLines_join hcr hend, List.length_map]
  omega

/-- Accepted records are as many as the lines, and the manifest counts them. -/
theorem length_of_load {payload : WorkSignalPayload}
    (hgeneration : Holds python floats generation manifest records)
    (h : loadWorkSignalPayload python generation c = .ok payload) :
    payload.records.length = (splitLines (writtenPayload floats records)).length := by
  obtain ⟨bytes, text, hverified⟩ := load_eq_ok.1 h
  have hbytes : bytes = (writtenPayload floats records).toUTF8 := by
    simpa [hgeneration.payload_file] using hverified.file.symm
  have htext := hverified.decoded
  rw [hbytes, fromUTF8?_toUTF8, Option.some.injEq] at htext
  rw [htext, hverified.lines.length_eq]

/-- A payload that is written with a raw boundary is not read back. -/
theorem load_ne_of_raw (hrecords : Signals records)
    (hgeneration : Holds python floats generation manifest records) {record : Json}
    (hrecord : record ∈ records) {ch : Char} (hraw : ch ∈ rawBoundaries)
    (hmentions : record.Mentions ch) :
    loadWorkSignalPayload python generation c ≠ .ok ⟨records, manifest⟩ := by
  intro h
  have hlength : records.length = (splitLines (writtenPayload floats records)).length :=
    length_of_load hgeneration h
  exact (length_lt_of_raw hrecords hrecord hraw hmentions).ne hlength

/-- **Reading undoes writing outside the raw line boundaries.** Records that were written with a
    manifest that is right about them are read back in order, and what is accepted agrees with the
    counts of its manifest, exactly when no text of a record holds a line boundary that JSON leaves
    raw and counted documents have ids a set can hold. -/
theorem load_written_iff (hrecords : Signals records)
    (hloads : ∀ record ∈ records, python.loads (record.stringify floats) = .ok record)
    (hgeneration : Holds python floats generation manifest records)
    (hmanifest : Describes c manifest (writtenPayload floats records).toUTF8 records) :
    (loadWorkSignalPayload python generation c = .ok ⟨records, manifest⟩ ∧
      ∀ (other : Generation) (payload : WorkSignalPayload),
        loadWorkSignalPayload python other c = .ok payload → Counted python other payload) ↔
      Framed manifest records := by
  constructor
  · rintro ⟨h, _⟩
    refine ⟨?_, ?_⟩
    · intro record hrecord ch hraw hmentions
      exact load_ne_of_raw hrecords hgeneration hrecord hraw hmentions h
    · intro declared hdeclared record hrecord
      obtain ⟨artifacts, hartifacts, -⟩ := (load_counted h).documents declared hdeclared
      rw [mapM_eq_ok] at hartifacts
      obtain ⟨key, -, hkey⟩ := exists_of_mem_forall₂ hartifacts.flip hrecord
      exact (hashKey_ok_iff _).1 ⟨key, hkey⟩
  · intro hframed
    exact ⟨load_of_framed hrecords hloads hgeneration hmanifest hframed,
      fun _ _ => load_counted⟩

theorem universalNewlines_of_not_mem {text : List Char} (h : '\r' ∉ text) :
    universalNewlines text = text := by
  induction text with
  | nil => rfl
  | cons ch rest ih =>
      rw [List.mem_cons, not_or] at h
      rw [universalNewlines, ih h.2]
      · exact fun _ heq _ => h.1 heq.symm
      · exact fun heq => h.1 heq.symm

/-- A printed manifest has no line end that reading changes. -/
theorem readManifestText_stringify {value : Json}
    (hfile : generation.file documentWorkSignalsManifestFile =
      some (.ok (value.stringify floats).toUTF8)) :
    readManifestText python generation = .ok (value.stringify floats) := by
  have hcr : '\r' ∉ value.stringifyChars floats := by
    rw [Json.mem_stringifyChars (by decide)]
    exact fun h => absurd h.1 (by decide)
  rw [readManifestText, hfile]
  simp only [fromUTF8?_toUTF8]
  rw [Json.stringify, String.toList_ofList, universalNewlines_of_not_mem hcr]

/-! ## Two records of one document -/

/-- A signal with its text. -/
def signalRecord (signalId text : String) : Json :=
  .obj [("signal_id", .str signalId), ("artifact_id", .str "artifact:1"),
    ("format", .str "markdown"), ("text", .str text)]

/-- A signal with some text, and one behind it. -/
def signalRecords (text : String) : List Json :=
  [signalRecord "signal:1" text, signalRecord "signal:2" "review"]

/-- The manifest a producer writes for records of one document and one format. -/
def producedManifest (c : Codec) (bytes : ByteArray) (records : List Json) : Json :=
  .obj [("schema", .str documentWorkSignalsManifestSchema),
    ("payload_file", .str documentWorkSignalsFile),
    ("payload_byte_length", .int bytes.size),
    ("payload_artifact_hash", .str (c.artifactHash bytes)),
    ("record_count", .int records.length),
    ("payload_semantic_hash", .str (workSignalsSemanticHash c records)),
    ("document_count", .int 1),
    ("by_format", .arr [.obj [("format", .str "markdown"),
      ("signal_count", .int records.length)]])]

/-- Numbers with a fraction are not printed here. -/
def noFloats : FloatText := ⟨fun _ => ['0', '.', '5'], fun _ => forall_mem_of_all (by decide)⟩

/-- The manifest of the two records. -/
def signalManifest (text : String) : Json :=
  producedManifest textCodec (writtenPayload noFloats (signalRecords text)).toUTF8
    (signalRecords text)

/-- A reader of the texts of the two records and of their manifest. -/
def signalPython (text : String) : PythonReader where
  loads line :=
    match (signalManifest text :: signalRecords text).find? fun value =>
        line = value.stringify noFloats with
    | some value => .ok value
    | none => .error "Expecting value"
  repr _ := ""
  decodeError _ := "invalid start byte"

/-- The directory with both files. -/
def signalGeneration (text : String) : Generation where
  root := "generation"
  path name := "generation/" ++ name
  file name :=
    if name = documentWorkSignalsFile then
      some (.ok (writtenPayload noFloats (signalRecords text)).toUTF8)
    else if name = documentWorkSignalsManifestFile then
      some (.ok ((signalManifest text).stringify noFloats).toUTF8)
    else none

/-- The three texts begin otherwise. -/
theorem signalTexts_nodup (text : String) :
    ((signalManifest text :: signalRecords text).map (Json.stringify noFloats)).Nodup := by
  have hheads : ((signalManifest text :: signalRecords text).map fun value =>
      ((value.stringifyChars noFloats).drop 2).take 20) =
        ["schema\":\"l9.document".toList, "signal_id\":\"signal:1".toList,
          "signal_id\":\"signal:2".toList] := rfl
  refine List.Nodup.of_map (fun text => (text.toList.drop 2).take 20) ?_
  rw [List.map_map]
  have hchars : ((fun text : String => (text.toList.drop 2).take 20) ∘ Json.stringify noFloats) =
      fun value => ((value.stringifyChars noFloats).drop 2).take 20 := by
    funext value
    simp only [Function.comp_apply, Json.stringify, String.toList_ofList]
  rw [hchars, hheads]
  decide

theorem signalPython_loads {text : String} {value : Json}
    (hvalue : value ∈ signalManifest text :: signalRecords text) :
    (signalPython text).loads (value.stringify noFloats) = .ok value := by
  have hfind : ((signalManifest text :: signalRecords text).find? fun other =>
      value.stringify noFloats = other.stringify noFloats) = some value := by
    cases hfound : (signalManifest text :: signalRecords text).find? fun other =>
        value.stringify noFloats = other.stringify noFloats with
    | none => exact absurd (List.find?_eq_none.1 hfound value hvalue) (by simp)
    | some other =>
        have hsame : value.stringify noFloats = other.stringify noFloats := by
          simpa using List.find?_some hfound
        rw [List.inj_on_of_nodup_map (signalTexts_nodup text) hvalue
          (List.mem_of_find?_eq_some hfound) hsame]
  show (match (signalManifest text :: signalRecords text).find? fun other =>
      value.stringify noFloats = other.stringify noFloats with
    | some found => Except.ok found
    | none => .error "Expecting value") = _
  rw [hfind]

/-- The directory holds the records and their manifest. -/
theorem signalGeneration_holds (text : String) :
    Holds (signalPython text) noFloats (signalGeneration text) (signalManifest text)
      (signalRecords text) := by
  refine ⟨⟨(signalManifest text).stringify noFloats, readManifestText_stringify rfl, ?_⟩, rfl⟩
  exact signalPython_loads List.mem_cons_self

theorem signalManifest_describes (text : String) :
    Describes textCodec (signalManifest text)
      (writtenPayload noFloats (signalRecords text)).toUTF8 (signalRecords text) where
  schema := rfl
  payload_file := rfl
  byte_length := rfl
  artifact_hash := rfl
  record_count := rfl
  semantic_hash := rfl
  document_count := by
    intro declared hdeclared artifacts hartifacts
    have heq : declared = 1 := (Json.int.inj (Option.some.inj hdeclared)).symm
    have hone : artifacts = [.text "artifact:1", .text "artifact:1"] :=
      (Except.ok.inj hartifacts).symm
    rw [heq, hone]
    rfl
  by_format := by
    intro declared hdeclared
    rw [← Json.arr.inj (Option.some.inj hdeclared)]
    exact ⟨by simp [tally, signalRecords, signalRecord, Json.fieldText?, List.lookup_cons], by simp,
      by simp [tally, signalRecords, signalRecord, Json.fieldText?, List.lookup_cons]⟩
  by_predicate := by
    intro declared hdeclared
    cases hdeclared

theorem signals_signalRecords (text : String) : Signals (signalRecords text) where
  signal_id := List.forall_mem_cons.2 ⟨⟨"signal:1", by decide, rfl⟩,
    List.forall_mem_singleton.2 ⟨"signal:2", by decide, rfl⟩⟩
  ids_nodup := by
    have hids : (signalRecords text).map (Json.fieldText? "signal_id") =
        [some "signal:1", some "signal:2"] := rfl
    rw [hids]
    decide

/-- Two signals with plain texts. -/
theorem load_written_iff_draft :
    (loadWorkSignalPayload (signalPython "draft") (signalGeneration "draft") textCodec =
        .ok ⟨signalRecords "draft", signalManifest "draft"⟩ ∧
      ∀ (other : Generation) (payload : WorkSignalPayload),
        loadWorkSignalPayload (signalPython "draft") other textCodec = .ok payload →
          Counted (signalPython "draft") other payload) ↔
      Framed (signalManifest "draft") (signalRecords "draft") :=
  load_written_iff (signals_signalRecords _)
    (fun _ hrecord => signalPython_loads (List.mem_cons_of_mem _ hrecord))
    (signalGeneration_holds _) (signalManifest_describes _)

/-- Two signals, one of whose texts has a line separator. -/
theorem load_line_separator :
    Signals (signalRecords "one\u2028two") ∧
      Describes textCodec (signalManifest "one\u2028two")
        (writtenPayload noFloats (signalRecords "one\u2028two")).toUTF8
          (signalRecords "one\u2028two") ∧
      loadWorkSignalPayload (signalPython "one\u2028two") (signalGeneration "one\u2028two")
          textCodec ≠
        .ok ⟨signalRecords "one\u2028two", signalManifest "one\u2028two"⟩ := by
  have hmentions : (signalRecord "signal:1" "one\u2028two").Mentions '\u2028' := by
    simp [signalRecord, Json.Mentions, Json.MentionsFields]
  exact ⟨signals_signalRecords _, signalManifest_describes _,
    load_ne_of_raw (signals_signalRecords _) (signalGeneration_holds _) List.mem_cons_self
      (by decide) hmentions⟩

end ConstellationTopology
