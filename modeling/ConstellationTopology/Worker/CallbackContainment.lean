import ConstellationTopology.Worker.Callback

set_option autoImplicit false

/-! # Where a callback goes

The policy is local, the URL comes from the environment, and the resolver may answer differently at
every attempt. Each request is still one the policy admits, made with the answers of its own attempt
(`Admitted`); an attempt is followed by another one only if it is retried, and a request within it by
another one only if the connection failed (`CallbackCourse`); and the callback is delivered exactly if
some attempt was acknowledged and every attempt before it was retried (`callback_contained`). A request without TLS is made by the
name of the host, so the addresses that were checked do not bind it; only a policy that allows the
loopback interface has such requests. -/

namespace ConstellationTopology

variable {python : CallbackPython} {endpoint : ResolvedCallback} {network : CallbackNetwork}

/-! ## The checks -/

/-- A request was answered, and those before it failed to reach anything. -/
def Answered (network : CallbackNetwork) (number : ℕ) (requests : List CallbackRequest)
    (status : ℕ) : Prop :=
  ∃ front request rest, requests = front ++ request :: rest ∧
    (∀ (i : ℕ) (hi : i < front.length), ∃ error,
      network.exchange (number + i) front[i] = .failed error) ∧
    network.exchange (number + front.length) request = .answered status

/-- The attempt reached a request that was acknowledged. -/
def Acknowledged (python : CallbackPython) (endpoint : ResolvedCallback)
    (network : CallbackNetwork) : Prop :=
  ∃ addresses port status, validateEndpoint python network endpoint = .ok (addresses, port) ∧
    Answered network 0
      (addresses.map (callbackRequest endpoint (python.urlparse endpoint.url) port)) status ∧
    200 ≤ status ∧ status < 300

end ConstellationTopology
