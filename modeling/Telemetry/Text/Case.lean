/-!
# Letter case

Names are compared with ASCII names after a change of case.  Besides the ASCII letters only
three characters become ASCII that way: the Kelvin sign in lower case, and the dotless i and
the long s in upper case.  All others are left alone, which no comparison can tell.
-/

namespace Telemetry.Text

/-- Lower case, as far as the result is ASCII. -/
def lowerChar (c : Char) : Char :=
  if c.toNat = 0x212A then 'k' else c.toLower

/-- Upper case, as far as the result is ASCII. -/
def upperChar (c : Char) : Char :=
  if c.toNat = 0x131 then 'I' else if c.toNat = 0x17F then 'S' else c.toUpper

def lower (s : String) : String := String.ofList (s.toList.map lowerChar)

def upper (s : String) : String := String.ofList (s.toList.map upperChar)

def isAscii (c : Char) : Bool := c.toNat < 128

end Telemetry.Text
