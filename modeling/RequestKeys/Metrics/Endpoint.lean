import RequestKeys.Metrics.Histogram
import RequestKeys.Request.Target

/-!
# The metrics endpoint

One page at one path, for two methods.
-/

namespace RequestKeys.Metrics

/-- An answer to a request. -/
structure Response where
  status : Nat
  body : String

/-- The only path. -/
def metricsPath : List Char := ['/', 'm', 'e', 't', 'r', 'i', 'c', 's']

/-- The path that a request target names, as written. -/
def rawPath (target : List Char) : List Char :=
  Target.dropAuthority (Split.upTo '?' (Split.upTo '#' target))

/-- The answer to a request while `page` is the text of the metrics. -/
def respond (page : String) (method : String) (target : List Char) : Response :=
  if rawPath target ≠ metricsPath then ⟨404, ""⟩
  else match method with
    | "GET" => ⟨200, page⟩
    | "HEAD" => ⟨200, ""⟩
    | _ => ⟨405, ""⟩

/-- The page of a recorder, which is empty until the histogram exists. -/
def page : Option Histogram → String
  | some h => h.exposition
  | none => ""

/-- What can go wrong with the endpoint: its address cannot be understood, or a recorder is installed
a second time. -/
inductive Failure where
  | invalidAddress
  | alreadyInstalled

/-- The kind of an input or output failure. -/
def Failure.kind : Failure → String
  | invalidAddress => "InvalidInput"
  | alreadyInstalled => "Other"

/-- The wording of a failure. -/
def Failure.message : Failure → String
  | invalidAddress => "invalid socket address"
  | alreadyInstalled =>
    "failed to install exporter as global recorder: attempted to set a recorder after the metrics " ++
      "system was already initialized"

/-- A number of 16 bits. -/
def isHalfWord (text : List Char) : Bool :=
  match Number.readInt? text with
  | some n => text.head? ≠ some '-' && n ≤ 65535
  | none => false

/-- An address is a host, a colon and a number of 16 bits.  Whether the host exists is not looked at. -/
def checkAddress (address : List Char) : Except Failure Unit :=
  match Split.cut ':' address.reverse with
  | some (number, _) => if isHalfWord number.reverse then .ok () else .error .invalidAddress
  | none => .error .invalidAddress

end RequestKeys.Metrics
