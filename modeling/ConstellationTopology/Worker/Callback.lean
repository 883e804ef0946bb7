import ConstellationTopology.Packets.GenerationFiles
import ConstellationTopology.Worker.CallbackPath
import ConstellationTopology.Worker.Contracts

set_option autoImplicit false

/-! # Sending a callback

`worker/callback.py`: the endpoint is named by the local policy and the environment, and it is checked
again before every attempt. What the resolver and the network answer may differ from attempt to
attempt; `urllib`, `ipaddress` and the environment are parameters. Beside its outcome, a run keeps
the requests it made. -/

namespace ConstellationTopology

/-! ## The endpoint -/

/-- What is looked at of an `ipaddress` address. -/
structure IpAddress where
  compressed : String
  isPrivate : Bool
  isLinkLocal : Bool
  isMulticast : Bool
  isReserved : Bool
  isUnspecified : Bool
  isLoopback : Bool
  deriving DecidableEq, Repr

/-- What is looked at of the result of `urlparse`; a port that is no number raises. -/
structure ParsedUrl where
  scheme : String
  username : String
  password : String
  hostname : String
  port : Except String (Option ℕ)
  path : String
  query : String
  fragment : String

/-- The libraries and the process environment. -/
structure CallbackPython where
  /-- `str(value)` -/
  str : Json → String
  /-- `text.lower()` -/
  lower : String → String
  urlparse : String → ParsedUrl
  /-- `ipaddress.ip_address` -/
  ipAddress : String → Option IpAddress
  environ : String → Option String

/-- A callback the policy admits. -/
structure ResolvedCallback where
  callbackId : String
  url : String
  token : Option String
  allowLoopback : Bool
  allowedPathPrefix : String
  expectedHosts : List String
  expectedPort : Option ℕ
  deriving DecidableEq, Repr

variable (python : CallbackPython)

/-- `_normalize_hostname`. -/
def normalizeHostname (value : String) : String :=
  let candidate := python.lower
    (String.ofList ((strip value).toList.rdropWhile fun ch => ch = '.'))
  match python.ipAddress candidate with
  | some address => address.compressed
  | none => candidate

/-- A value that is set and not empty. -/
def givenText (value : Option String) : Option String := value.filter fun text => text ≠ ""

/-- A nonblank text. -/
def hostText : Json → Option String
  | .str text => if strip text = "" then none else some text
  | _ => none

/-- `expected_hosts` as the policy states it. -/
def expectedHosts (raw : List (String × Json)) : Option (List String) :=
  match raw.lookup "expected_hosts" with
  | none => some []
  | some (.arr items) =>
      (items.mapM hostText).map fun hosts => sortedSet (hosts.map (normalizeHostname python))
  | some _ => none

/-- `expected_port` as the policy states it; a `bool` is an `int`. -/
def expectedPort (raw : List (String × Json)) : Option (Option ℕ) :=
  match raw.lookup "expected_port" with
  | none => some none
  | some .null => some none
  | some (.int port) => if 1 ≤ port ∧ port ≤ 65535 then some (some port.toNat) else none
  | some (.bool true) => some (some 1)
  | some _ => none

/-- How a connection is opened: to one address, under the name of the host, or to whatever the name
leads to by then. -/
inductive Connection
  | pinned (address : String)
  | named
  deriving DecidableEq, Repr

/-- A request: where it goes, and what is asked for there with the credential. -/
structure CallbackRequest where
  connection : Connection
  hostname : String
  port : ℕ
  target : String
  token : Option String
  deriving DecidableEq, Repr

/-- How a request ends: `OSError`, another exception, or the status of the response. -/
inductive Exchange
  | failed (error : String)
  | raised (exception : String)
  | answered (status : ℕ)
  deriving DecidableEq, Repr

/-- What the resolver and the network answer during one attempt; the requests are numbered. -/
structure CallbackNetwork where
  getaddrinfo : String → ℕ → Except String (List String)
  exchange : ℕ → CallbackRequest → Exchange

/-- `address.is_private or …`. -/
def IpAddress.prohibited (address : IpAddress) : Bool :=
  address.isPrivate || address.isLinkLocal || address.isMulticast || address.isReserved ||
    address.isUnspecified || address.isLoopback

/-- One turn of the loop of `_safe_addresses`. -/
def checkAddress (allowLoopback : Bool) (value : String) : Except StageException Unit := do
  let address ← expect (python.ipAddress value) (.other "ValueError" value)
  demand (address.prohibited = false ∨ (allowLoopback = true ∧ address.isLoopback = true))
    (blockedFailure "callback-address-forbidden"
      ("callback host resolves to a prohibited address: " ++ value))

/-- `_safe_addresses`. -/
def safeAddresses (network : CallbackNetwork) (hostname : String) (port : ℕ)
    (allowLoopback : Bool) : Except StageException (List String) := do
  let resolved ← (network.getaddrinfo hostname port).mapError fun exc =>
    retryableFailure "callback-dns-resolution-failed"
      ("cannot resolve callback host " ++ hostname ++ ": " ++ exc)
  let addresses := sortedSet resolved
  demand (addresses ≠ []) (retryableFailure "callback-dns-resolution-empty"
    ("callback host resolved to no addresses: " ++ hostname))
  let _ ← addresses.mapM (checkAddress python allowLoopback)
  return addresses

/-- `parsed.port or (443 if parsed.scheme == "https" else 80)`. -/
def effectivePort (scheme : String) (port : Option ℕ) : ℕ :=
  match port with
  | some (number + 1) => number + 1
  | _ => if scheme = "https" then 443 else 80

/-- `path + (f"?{parsed.query}" if parsed.query else "")`. -/
def requestTarget (parsed : ParsedUrl) : String :=
  normalizedPath parsed.path ++ (if parsed.query = "" then "" else "?" ++ parsed.query)

/-- What `_validate_endpoint` checks before the host is resolved: the port. -/
def checkUrl (endpoint : ResolvedCallback) (parsed : ParsedUrl) : Except StageException ℕ := do
  demand (parsed.username = "" ∧ parsed.password = "" ∧ parsed.fragment = "")
    (blockedFailure "callback-url-invalid" "callback URL may not contain userinfo or fragments")
  demand (parsed.hostname ≠ "")
    (blockedFailure "callback-url-invalid" "callback URL lacks a hostname")
  demand (parsed.scheme = "https" ∨ parsed.scheme = "http")
    (blockedFailure "callback-url-invalid" "callback URL must use HTTPS")
  demand (parsed.scheme = "https" ∨ endpoint.allowLoopback = true)
    (blockedFailure "callback-url-insecure"
      "HTTP callbacks are permitted only for a loopback-enabled callback ID")
  let hostname := normalizeHostname python parsed.hostname
  demand (endpoint.expectedHosts = [] ∨ hostname ∈ endpoint.expectedHosts)
    (blockedFailure "callback-host-forbidden"
      ("callback host is outside the local allowlist: " ++ hostname))
  let stated ← parsed.port.mapError fun exc => .other "ValueError" exc
  let port := effectivePort parsed.scheme stated
  demand (endpoint.expectedPort = none ∨ endpoint.expectedPort = some port)
    (blockedFailure "callback-port-forbidden"
      ("callback port is outside the local allowlist: " ++ toString port))
  demand (pathIsAllowed (normalizedPath parsed.path) endpoint.allowedPathPrefix = true)
    (blockedFailure "callback-path-forbidden"
      ("callback path is outside the local allowlist: " ++ normalizedPath parsed.path))
  return port

/-- `_validate_endpoint`: the addresses and the port. -/
def validateEndpoint (network : CallbackNetwork) (endpoint : ResolvedCallback) :
    Except StageException (List String × ℕ) := do
  let parsed := python.urlparse endpoint.url
  let port ← checkUrl python endpoint parsed
  let addresses ← safeAddresses python network (normalizeHostname python parsed.hostname) port
    endpoint.allowLoopback
  return (addresses, port)

/-- The request of `_post_once` for one address. -/
def callbackRequest (endpoint : ResolvedCallback) (parsed : ParsedUrl) (port : ℕ)
    (address : String) : CallbackRequest where
  connection := if parsed.scheme = "https" then .pinned address else .named
  hostname := parsed.hostname
  port := port
  target := requestTarget parsed
  token := givenText endpoint.token

def accepted : Except StageException ℕ → Bool
  | .ok status => 200 ≤ status ∧ status < 300
  | .error _ => false

end ConstellationTopology
