import TrustedRouter.Telemetry

/-!
# `TrustedRouter.Telemetry.Classify`: the class of a transport error

`classify_transport_error` of `crates/trusted-router/src/telemetry.rs`. An error comes with the
chain of its sources, and the classifier walks the chain twice. The first pass reads types only:
the kinds of the `io::Error`s among the links. The second pass reads texts, and starts one link
further down, because the text of the outermost link can hold what the caller wrote.

A chain is its outermost link and the list of the links below it.
-/

set_option autoImplicit false

namespace TrustedRouter.Telemetry

open Rust.Str

/-- `std::io::ErrorKind`: the kinds that the classifier names, and all others. -/
inductive IoErrorKind where
  | connectionRefused | connectionReset | connectionAborted | brokenPipe | timedOut | invalidData
  | other (code : Nat)
  deriving DecidableEq, Repr

/-- One link of a `source` chain: its text, and its kind if it is an `io::Error`. -/
structure ErrorLink where
  message : String
  ioKind : Option IoErrorKind
  deriving DecidableEq, Repr

/-- How many links each pass reads. -/
def maxDepth : Nat := 8

/-- The class that a kind decides, in the arms of the first pass that return. -/
def IoErrorKind.decides (connect : Bool) : IoErrorKind → Option ErrorClass
  | .connectionRefused => some .connectRefused
  | .connectionReset => some .reset
  | .connectionAborted => some .reset
  | .brokenPipe => some .reset
  | .timedOut => some (if connect then .connectTimeout else .readTimeout)
  | .invalidData => if connect then some .tls else none
  | .other _ => none

/-- The first pass: the class of a decisive kind, or else whether an `io::Error` was seen. -/
def typedPass (connect : Bool) : (depth : Nat) → (sawIo : Bool) → List ErrorLink →
    ErrorClass ⊕ Bool
  | _, sawIo, [] => .inr sawIo
  | depth, sawIo, link :: rest =>
      if maxDepth ≤ depth then .inr sawIo
      else
        match link.ioKind with
        | none => typedPass connect (depth + 1) sawIo rest
        | some kind =>
            match kind.decides connect with
            | some errorClass => .inl errorClass
            | none => typedPass connect (depth + 1) true rest

/-- The probes of the second pass on the text of one link. -/
def probe (message : String) : Option ErrorClass :=
  let text := toAsciiLowercase message
  if containsStr text "dns error" || containsStr text "failed to lookup address" then some .dns
  else if containsStr text "certificate" || containsStr text "handshake" ||
      containsStr text "tls" || containsStr text "corrupt message" then some .tls
  else if containsStr text "proxy" then some .proxyError
  else if containsStr text "connection closed before" || containsStr text "parse" then
    some .protocolError
  else none

/-- The second pass. -/
def probePass : (depth : Nat) → List ErrorLink → Option ErrorClass
  | _, [] => none
  | depth, link :: rest =>
      if maxDepth ≤ depth then none
      else (probe link.message).or (probePass (depth + 1) rest)

/-- `classify_chain`. -/
def classifyChain (top : ErrorLink) (sources : List ErrorLink) (connect : Bool) : ErrorClass :=
  match typedPass connect 0 false (top :: sources) with
  | .inl errorClass => errorClass
  | .inr sawIo =>
      match probePass 0 sources with
      | some errorClass => errorClass
      | none => if connect then .connectError else if sawIo then .ioError else .unknown

/-- What `classify_transport_error` reads of a `reqwest::Error`. -/
structure TypedError where
  isConnect : Bool
  isTimeout : Bool
  link : ErrorLink
  sources : List ErrorLink

/-- `classify_transport_error`. -/
def classifyTransportError (error : TypedError) : ErrorClass :=
  if error.isTimeout then if error.isConnect then .connectTimeout else .readTimeout
  else classifyChain error.link error.sources error.isConnect

end TrustedRouter.Telemetry
