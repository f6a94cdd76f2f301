import Telemetry.Field
import Telemetry.Text.Line
import Telemetry.Text.Quoted
import Telemetry.Yaml.Node

/-!
# Values of a document

A scalar without a tag is a text if it is quoted; otherwise its form says what it is: a null, a
truth value, a whole number in one of five notations, a floating-point number, a point in
time, or a text after all.
-/

namespace Telemetry.Yaml

/-- Why a text is no document, or its values are not what they claim to be. -/
inductive Fault
  | malformed
  | badValue (message : String)

inductive Value
  | null
  | bool (value : Bool)
  | int (value : Int)
  | float (value : Double)
  | text (value : String)
  /-- A point in time, or bytes. -/
  | other
  | sequence (items : List Value)
  | mapping (entries : List (Value × Value))

/-! ### Numbers -/

/-- A digit, or an underscore, which may stand between digits. -/
def isGrouped (c : Char) : Bool := c.isDigit || c = '_'

/-- Whether a part of a number in base sixty is below sixty. -/
def isSixtieth : List Char → Bool
  | [c] => c.isDigit
  | [c, d] => c.isDigit && c ≤ '5' && d.isDigit
  | _ => false

def splitColons (cs : List Char) : List (List Char) :=
  ((String.ofList cs).splitOn ":").map String.toList

def ungroup (cs : List Char) : List Char := cs.filter (· ≠ '_')

/-- The digits of a number in a base; without any, there is no number. -/
def intIn (base : Nat) (digits : List Char) : Except Fault Nat :=
  match ungroup digits with
  | [] => .error (.badValue
      ("invalid literal for int() with base " ++ Text.ofInt base ++ ": ''"))
  | ds => .ok (ds.foldl (fun n d => base * n + (Hex.value? d).getD 0) 0)

def sixtieths (parts : List (List Char)) : Nat :=
  parts.foldl (fun n p => 60 * n + Text.ofDigits (ungroup p)) 0

/-- Read a whole number without a sign, if the text has the form of one: in base two after `0b`,
sixteen after `0x`, eight after `0`, ten, or sixty with colons. -/
def natural? (cs : List Char) : Option (Except Fault Nat) :=
  match cs with
  | ['0'] => some (.ok 0)
  | '0' :: 'b' :: ds =>
      if !ds.isEmpty && ds.all (fun c => c = '0' || c = '1' || c = '_') then some (intIn 2 ds)
      else none
  | '0' :: 'x' :: ds =>
      if !ds.isEmpty && ds.all (fun c => (Hex.value? c).isSome || c = '_') then some (intIn 16 ds)
      else none
  | '0' :: ds =>
      if ds.all (fun c => ('0' ≤ c && c ≤ '7') || c = '_') then some (intIn 8 ('0' :: ds))
      else none
  | c :: _ =>
      if !c.isDigit then none
      else
        match splitColons cs with
        | [] => none
        | first :: rest =>
            if first.all isGrouped && rest.all isSixtieth then some (.ok (sixtieths (first :: rest)))
            else none
  | [] => none

/-- Read a whole number, if the text has the form of one. -/
def int? (cs : List Char) : Option (Except Fault Int) :=
  let (negative, body) := Numeral.splitSign cs
  (natural? body).map fun n => n.map (Numeral.signed negative)

/-- Whether a text is an exponent with its sign, or nothing. -/
def isExponent : List Char → Bool
  | [] => true
  | e :: s :: ds => (e = 'e' || e = 'E') && (s = '-' || s = '+') && !ds.isEmpty && ds.all Char.isDigit
  | _ => false

/-- Read a floating-point number, which has a point, if the text has the form of one. -/
def float? (cs : List Char) : Option Double :=
  let (negative, body) := Numeral.splitSign cs
  let signed := body.length < cs.length
  match body with
  | '.' :: rest =>
      if [".inf", ".Inf", ".INF"].contains (String.ofList body) then some (.infinity negative)
      else if signed then none
      else if [".nan", ".NaN", ".NAN"].contains (String.ofList body) then some .nan
      else if (rest.head?.any Char.isDigit) && isExponent (rest.dropWhile isGrouped) then
        Numeral.plainDouble? (ungroup cs)
      else none
  | c :: _ =>
      if !c.isDigit then none
      else
        let (whole, rest) := body.span fun c => isGrouped c || c = ':'
        match rest with
        | '.' :: rest =>
            let (fraction, exponent) := rest.span isGrouped
            match splitColons whole with
            | [_] =>
                if isExponent exponent then Numeral.plainDouble? (ungroup cs) else none
            | first :: parts =>
                if first.all isGrouped && parts.all isSixtieth && exponent.isEmpty then
                  let last := parts.getLast?.getD []
                  let high := 60 * sixtieths (first :: parts.dropLast)
                  match Numeral.plainDouble? (last ++ '.' :: ungroup fraction) with
                  | some low =>
                      let sum := low.add (Double.ofInt high)
                      some (if negative then sum.negate else sum)
                  | none => none
                else none
            | [] => none
        | _ => none
  | [] => none

/-! ### Points in time -/

def daysIn (year month : Nat) : Nat :=
  if month = 2 then (if year % 4 = 0 && (year % 100 ≠ 0 || year % 400 = 0) then 29 else 28)
  else if [4, 6, 9, 11].contains month then 30
  else 31

/-- A date must be one of the calendar. -/
def checkDate (year month day : Nat) : Except Fault Unit :=
  if year = 0 then .error (.badValue "year 0 is out of range")
  else if month = 0 || 12 < month then .error (.badValue "month must be in 1..12")
  else if day = 0 || daysIn year month < day then
    .error (.badValue "day is out of range for month")
  else .ok ()

/-- A time must be one of the day. -/
def checkTime (hour minute second : Nat) : Except Fault Unit :=
  if 23 < hour then .error (.badValue "hour must be in 0..23")
  else if 59 < minute then .error (.badValue "minute must be in 0..59")
  else if 59 < second then .error (.badValue "second must be in 0..59")
  else .ok ()

/-- Split off a number of `least` to `most` digits. -/
def digits? (least most : Nat) (cs : List Char) : Option (Nat × List Char) :=
  let ds := (cs.take most).takeWhile Char.isDigit
  if ds.length < least then none else some (Text.ofDigits ds, cs.drop ds.length)

def char? (c : Char) (cs : List Char) : Option (List Char) :=
  if cs.head? = some c then some (cs.drop 1) else none

/-- Whether a text is a zone, or nothing. -/
def isZone (cs : List Char) : Bool :=
  match cs.dropWhile isGap with
  | [] => cs.isEmpty
  | ['Z'] => true
  | sign :: rest =>
      (sign = '-' || sign = '+') &&
        match digits? 1 2 rest with
        | none => false
        | some (_, []) => true
        | some (_, rest) =>
            match char? ':' rest >>= digits? 2 2 with
            | some (_, []) => true
            | _ => false

/-- Check a point in time, if the text has the form of one: a date, or a date with a time. -/
def time? (cs : List Char) : Option (Except Fault Unit) := do
  let (year, cs) ← digits? 4 4 cs
  let cs ← char? '-' cs
  let (month, cs') ← digits? 1 2 cs
  let (day, rest) ← char? '-' cs' >>= digits? 1 2
  if rest.isEmpty then
    if cs.length = 5 then pure (checkDate year month day) else none
  else
    let rest ←
      match rest with
      | 'T' :: rest | 't' :: rest => pure rest
      | c :: _ => if isGap c then pure (rest.dropWhile isGap) else none
      | [] => none
    let (hour, rest) ← digits? 1 2 rest
    let (minute, rest) ← char? ':' rest >>= digits? 2 2
    let (second, rest) ← char? ':' rest >>= digits? 2 2
    let rest :=
      match rest with
      | '.' :: fraction => fraction.dropWhile Char.isDigit
      | rest => rest
    if isZone rest then
      pure (checkDate year month day >>= fun () => checkTime hour minute second)
    else none

/-! ### Scalars -/

/-- The first part of the tags of this format. -/
def tagStart : String := "tag:yaml.org,2002:"

def truthWords : List (String × Bool) :=
  [("yes", true), ("true", true), ("on", true), ("no", false), ("false", false), ("off", false)]

/-- A truth value, whose word is in lower case, in upper case, or capitalised. -/
def plainBool? (text : String) : Option Bool :=
  truthWords.findSome? fun (word, b) =>
    if text = word || text = word.toUpper || text = word.capitalize then some b else none

def nullWords : List String := ["", "~", "null", "Null", "NULL"]

/-- The value of a plain scalar without a tag. -/
def plainValue (text : String) : Except Fault Value :=
  let cs := text.toList
  if nullWords.contains text then .ok .null
  else
    match plainBool? text, float? cs, int? cs, time? cs with
    | some b, _, _, _ => .ok (.bool b)
    | _, some x, _, _ => .ok (.float x)
    | _, _, some i, _ => i.map .int
    | _, _, _, some t => t.map fun () => .other
    | none, none, none, none =>
        if text = "=" || text = "<<" then .error .malformed else .ok (.text text)

def taggedValue (tag text : String) : Except Fault Value :=
  let cs := text.toList
  if tag = tagStart ++ "str" then .ok (.text text)
  else if tag = tagStart ++ "null" then .ok .null
  else if tag = tagStart ++ "binary" then .ok .other
  else if tag = tagStart ++ "bool" then
    match truthWords.lookup (Text.lower text) with
    | some b => .ok (.bool b)
    | none => .error .malformed
  else if tag = tagStart ++ "int" then
    match int? cs with
    | some i => i.map .int
    | none => .error (.badValue
        ("invalid literal for int() with base 10: " ++ Text.quoted (String.ofList (ungroup cs))))
  else if tag = tagStart ++ "float" then
    match float? cs, Numeral.anyDouble? (String.ofList (ungroup cs)) with
    | some x, _ => .ok (.float x)
    | none, some x => .ok (.float x)
    | none, none => .error (.badValue
        ("could not convert string to float: " ++ Text.quoted (String.ofList (ungroup cs))))
  else if tag = tagStart ++ "timestamp" then
    match time? cs with
    | some t => t.map fun () => .other
    | none => .error .malformed
  else .error .malformed

/-! ### Collections -/

namespace Value

/-- Whether a value can be a key: collections cannot. -/
def isKey : Value → Bool
  | sequence _ | mapping _ => false
  | _ => true

/-- Whether a value counts as none: zero, false, and what is empty. -/
def isVoid : Value → Bool
  | null => true
  | bool b => !b
  | int i => i = 0
  | float x => x.units? = some 0
  | text s => s = ""
  | other => false
  | sequence items => items.isEmpty
  | mapping entries => entries.isEmpty

def toRaw : Value → Raw
  | null => .null
  | bool b => .bool b
  | int i => .int i
  | float x => .float x
  | text s => .text s
  | other | sequence _ | mapping _ => .compound

end Value

/-- Whether a key asks for the entries of other mappings. -/
def isMerge : Node → Bool
  | .scalar none plain text => plain && text = "<<"
  | .scalar (some tag) _ _ => tag = tagStart ++ "merge"
  | _ => false

/-- A key; the equals sign is a text here. -/
def keyNode : Node → Node
  | .scalar none true "=" => .scalar none false "="
  | n => n

/-- The entries of a mapping after those of the mappings that it merges, of which the first ones
come last, so that they count. -/
def mergedEntries : Nat → List (Node × Node) → Except Fault (List (Node × Node))
  | 0, _ => .error .malformed
  | fuel + 1, entries => do
      let mapping (n : Node) : Except Fault (List (Node × Node)) :=
        match n with
        | .mapping _ entries => mergedEntries fuel entries
        | _ => .error .malformed
      let merged ← entries.mapM fun (key, value) =>
        if !isMerge key then .ok []
        else
          match value with
          | .sequence _ items => do pure (← items.mapM mapping).reverse.flatten
          | value => mapping value
      let own := entries.filter fun e => !isMerge e.1
      pure (merged.flatten ++ own.map fun e => (keyNode e.1, e.2))

/-- The value of a node; `fuel` bounds the depth of nodes. -/
def valueOf : Nat → Node → Except Fault Value
  | 0, _ => .error .malformed
  | _ + 1, .scalar none plain text => if plain then plainValue text else .ok (.text text)
  | _ + 1, .scalar (some tag) _ text => taggedValue tag text
  | fuel + 1, .sequence tag items => do
      let single (n : Node) : Bool :=
        match n with
        | .mapping _ [_] => true
        | _ => false
      let tag := tag.getD (tagStart ++ "seq")
      let pairs := tag = tagStart ++ "omap" || tag = tagStart ++ "pairs"
      if tag = tagStart ++ "seq" || (pairs && items.all single) then
        pure (.sequence (← items.mapM (valueOf fuel)))
      else .error .malformed
  | fuel + 1, .mapping tag entries => do
      let tag := tag.getD (tagStart ++ "map")
      if tag = tagStart ++ "map" || tag = tagStart ++ "set" then
        let entries ← (← mergedEntries (fuel + 1) entries).mapM fun (key, value) => do
          let key ← valueOf fuel key
          if !key.isKey then .error .malformed
          let value ← valueOf fuel value
          pure (key, value)
        pure (if tag = tagStart ++ "map" then .mapping entries else .sequence (entries.map (·.1)))
      else .error .malformed

/-- The value of the only document of a text; without a document it is null. -/
def Value.ofText (text : String) : Except Fault Value :=
  match Token.ofText? (Text.unifyBreaks text.toList) with
  | none => .error .malformed
  | some tokens =>
      match Node.ofTokens? tokens with
      | none => .error .malformed
      | some none => .ok .null
      | some (some n) => valueOf (tokens.length + 1) n

end Telemetry.Yaml
