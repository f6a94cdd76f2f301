import Telemetry.Double.Decimal
import Telemetry.Json.Value
import Telemetry.Text.Digit
import Telemetry.Text.Quoted

/-!
# Writing JSON

One writer serves every form of JSON that leaves the program.  A `Style` says what stands
between items, which characters are escaped, and how doubles are set.
-/

namespace Telemetry.Json

open Text

/-- How JSON is laid out. -/
structure Style where
  /-- What stands between two items on one line. -/
  itemSeparator : String
  /-- What stands between a name and its value. -/
  nameSeparator : String
  /-- The spaces that a level is indented by, if every item has a line of its own. -/
  indent : Option Nat
  /-- Whether all characters from DEL on are escaped. -/
  asciiOnly : Bool
  layout : Double.Layout

/-! ### Strings -/

/-- An escape by number, of one 16-bit unit. -/
def escapeUnit (n : Nat) : List Char := '\\' :: 'u' :: hexNumber 4 n

/-- An escape by number; a character past the first plane is two units. -/
def escapeByNumber (c : Char) : List Char :=
  if c.toNat < 0x10000 then escapeUnit c.toNat
  else
    let n := c.toNat - 0x10000
    escapeUnit (0xD800 + n / 0x400) ++ escapeUnit (0xDC00 + n % 0x400)

def writeChar (asciiOnly : Bool) (c : Char) : List Char :=
  if c = '\x22' then ['\\', '\x22']
  else if c = '\\' then ['\\', '\\']
  else if c = '\x08' then ['\\', 'b']
  else if c = '\x0c' then ['\\', 'f']
  else if c = '\n' then ['\\', 'n']
  else if c = '\r' then ['\\', 'r']
  else if c = '\t' then ['\\', 't']
  else if c.toNat < 0x20 then escapeByNumber c
  else if asciiOnly && 0x7F ≤ c.toNat then escapeByNumber c
  else [c]

def writeString (asciiOnly : Bool) (s : String) : List Char :=
  '\x22' :: s.toList.flatMap (writeChar asciiOnly) ++ ['\x22']

/-! ### Values -/

/-- The line break before something at a level, if lines are broken. -/
def Style.newLine (style : Style) (level : Nat) : List Char :=
  match style.indent with
  | none => []
  | some width => '\n' :: List.replicate (width * level) ' '

mutual

/-- Write a value that stands at a level. -/
def write (style : Style) (level : Nat) : Json → List Char
  | null => "null".toList
  | bool true => "true".toList
  | bool false => "false".toList
  | int i => (ofInt i).toList
  | float x => (style.layout.write x).toList
  | string s => writeString style.asciiOnly s
  | array [] => ['[', ']']
  | array (item :: items) =>
      '[' :: style.newLine (level + 1) ++ write style (level + 1) item
        ++ writeItems style (level + 1) items ++ style.newLine level ++ [']']
  | object [] => ['{', '}']
  | object ((name, value) :: fields) =>
      '{' :: style.newLine (level + 1) ++ writeString style.asciiOnly name
        ++ style.nameSeparator.toList ++ write style (level + 1) value
        ++ writeFields style (level + 1) fields ++ style.newLine level ++ ['}']

/-- Write the items after the first one. -/
def writeItems (style : Style) (level : Nat) : List Json → List Char
  | [] => []
  | item :: items =>
      style.itemSeparator.toList ++ style.newLine level ++ write style level item
        ++ writeItems style level items

/-- Write the fields after the first one. -/
def writeFields (style : Style) (level : Nat) : List (String × Json) → List Char
  | [] => []
  | (name, value) :: fields =>
      style.itemSeparator.toList ++ style.newLine level ++ writeString style.asciiOnly name
        ++ style.nameSeparator.toList ++ write style level value
        ++ writeFields style level fields

end

def toText (style : Style) (value : Json) : String := String.ofList (write style 0 value)

/-! ### Styles -/

/-- No blanks, characters as they are, doubles in their standard form. -/
def Style.compact : Style :=
  { itemSeparator := ",", nameSeparator := ":", indent := none, asciiOnly := false,
    layout := .standard }

/-- Blanks after separators, ASCII only, and words for the doubles that are not finite. -/
def Style.spaced : Style :=
  { itemSeparator := ", ", nameSeparator := ": ", indent := none, asciiOnly := true,
    layout := { Double.Layout.standard with nan := "NaN", infinity := "Infinity" } }

/-- The doubles of snapshots: exponents from -5 to 15 have a plain point, and others as few
digits as they need. -/
def Style.snapshotLayout : Double.Layout :=
  { lowest := -5, highest := 15, exponentWidth := 1, nan := "null", infinity := "null" }

/-- Snapshots, on one line or with every item on a line of its own. -/
def Style.snapshot (indent : Option Nat) : Style :=
  { itemSeparator := ",", nameSeparator := if indent.isSome then ": " else ":", indent,
    asciiOnly := false, layout := snapshotLayout }

end Telemetry.Json
