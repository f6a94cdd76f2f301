import Telemetry.Sha256
import Telemetry.Text.Blank
import Telemetry.Text.Case
import Telemetry.Text.Hex

/-!
# Signatures

Agent and collector may share a key.  The sender then signs the exact bytes of a body, and
the receiver accepts only a signature equal to its own, up to letter case and blanks around
it.  Without a key nothing is signed and everything is accepted.
-/

namespace Telemetry

/-- A shared key; there is none if it is empty. -/
structure Guard where
  key : Bytes

/-- What comes of checking a signature. -/
inductive Verdict
  | accepted
  | refused
  /-- The signature holds a character that no signature can hold. -/
  | incomparable
  deriving DecidableEq

namespace Guard

def ofKey (key : Option String) : Guard := ⟨Utf8.encode (key.getD "")⟩

/-- Whether bodies are signed and checked. -/
def enabled (guard : Guard) : Bool := !guard.key.isEmpty

/-- The code of a body, in base sixteen. -/
def code (guard : Guard) (body : Bytes) : String := Hex.encode (Sha256.hmac guard.key body)

/-- The signature of a body, if bodies are signed. -/
def sign (guard : Guard) (body : Bytes) : Option String :=
  if guard.enabled then some (guard.code body) else none

/-- A signature in the form in which it is compared. -/
def normal (signature : String) : String :=
  String.ofList ((Text.trim Text.isBlank signature.toList).map Text.lowerChar)

def verify (guard : Guard) (body : Bytes) (signature : Option String) : Verdict :=
  if !guard.enabled then .accepted
  else
    match signature with
    | none => .refused
    | some s =>
        if s = "" then .refused
        else
          let s := normal s
          if !s.toList.all Text.isAscii then .incomparable
          else if s = guard.code body then .accepted
          else .refused

end Guard
end Telemetry
