import Telemetry.Text.Digit

/-!
# Failures of a send or a write

A send fails because the network did, or because the collector answered with another status
than 200; a write fails because the database did.  A classifier says which failures may pass
when the same thing is tried again.
-/

namespace Telemetry

/-- How a request failed on its way. -/
inductive NetworkFault
  | timeout
  | connectTimeout
  | readTimeout
  | writeTimeout
  | poolTimeout
  | network
  | connect
  | read
  | write
  | close
  | protocol
  | localProtocol
  | remoteProtocol
  | proxy
  | unsupportedScheme
  | transport
  | decoding
  | tooManyRedirects
  | request
  | http
  deriving DecidableEq

/-- A failure that is no fault of the network, the collector or the database. -/
inductive Mishap
  | badValue
  | runtime
  | system
  | storage
  | tooLarge
  deriving DecidableEq

inductive Failure
  | network (fault : NetworkFault) (message : String)
  /-- The collector answered with a status other than 200. -/
  | response (status : Int) (body : String)
  /-- The database refused, with a result code if it gave one. -/
  | database (code : Option Int) (message : String)
  | mishap (kind : Mishap) (message : String)
  deriving DecidableEq

def Failure.message : Failure → String
  | network _ message => message
  | response status body => "server returned status " ++ Text.ofInt status ++ ": " ++ body
  | database _ message => message
  | mishap _ message => message

/-- Whether another attempt could succeed. -/
inductive Prospect
  | retriable
  | fatal
  deriving DecidableEq

/-- A network fault may pass if it is a timeout, a broken connection or a broken reply. -/
def NetworkFault.prospect : NetworkFault → Prospect
  | timeout | connectTimeout | readTimeout | writeTimeout | poolTimeout => .retriable
  | network | connect | read | write | close | remoteProtocol => .retriable
  | protocol | localProtocol | proxy | unsupportedScheme | transport => .fatal
  | decoding | tooManyRedirects | request | http => .fatal

/-- The failures of sends that may pass: those of the network, and statuses 500 to 599. -/
def Failure.sendProspect : Failure → Prospect
  | network fault _ => fault.prospect
  | response status _ => if 500 ≤ status ∧ status ≤ 599 then .retriable else .fatal
  | _ => .fatal

/-- The primary result codes of the database that may pass: busy, locked, interrupted, input
or output error, cannot open, and locking protocol. -/
def passingCodes : List Int := [5, 6, 9, 10, 14, 15]

/-- The failures of writes that may pass.  The primary code is the low byte of the code. -/
def Failure.writeProspect : Failure → Prospect
  | database (some code) _ => if passingCodes.contains (code % 256) then .retriable else .fatal
  | _ => .fatal

/-- Every failure may pass. -/
def Failure.anyProspect (_ : Failure) : Prospect := .retriable

/-- Whether a reporter counts a failure as a failed send: the network and the collector only. -/
def Failure.isSendFailure : Failure → Bool
  | network .. => true
  | response .. => true
  | _ => false

/-- Whether the database refused. -/
def Failure.isDatabase : Failure → Bool
  | database .. => true
  | _ => false

theorem Failure.sendProspect_response_eq_retriable_iff {status : Int} {body : String} :
    (response status body).sendProspect = .retriable ↔ 500 ≤ status ∧ status ≤ 599 := by
  simp only [sendProspect]
  split <;> simp_all

end Telemetry
