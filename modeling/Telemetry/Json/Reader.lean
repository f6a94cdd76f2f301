import Telemetry.Json.Value
import Telemetry.Text.Hex
import Telemetry.Text.Numeral

/-!
# Reading JSON

The grammar is that of RFC 8259 with the numbers `NaN`, `Infinity` and `-Infinity` added.
Texts must be valid: invalid UTF-8, raw control characters and halves of surrogate pairs are
refused wherever they stand.  At most 200 containers that hold something may be nested, and
the whole part of a number has at most 4300 digits.
-/

namespace Telemetry.Json

open Text

/-- The most containers that may be nested, empty ones aside. -/
def maxDepth : Nat := 200

def isBlank (c : Char) : Bool := c = ' ' || c = '\t' || c = '\n' || c = '\r'

def skipBlank (cs : List Char) : List Char := cs.dropWhile isBlank

def skipWord? : List Char → List Char → Option (List Char)
  | [], cs => some cs
  | w :: word, c :: cs => if w = c then skipWord? word cs else none
  | _ :: _, [] => none

/-! ### Strings -/

def hex4? (a b c d : Char) : Option Nat := do
  let a ← Hex.value? a
  let b ← Hex.value? b
  let c ← Hex.value? c
  let d ← Hex.value? d
  pure (((a * 16 + b) * 16 + c) * 16 + d)

def simpleEscape? (c : Char) : Option Char :=
  if c = '\x22' || c = '\\' || c = '/' then some c
  else if c = 'b' then some '\x08'
  else if c = 'f' then some '\x0c'
  else if c = 'n' then some '\n'
  else if c = 'r' then some '\r'
  else if c = 't' then some '\t'
  else none

/-- Read a string body up to its closing quote, as code points and 16-bit units. -/
def scanString : List Char → Option (List Nat × List Char)
  | [] => none
  | '\x22' :: rest => some ([], rest)
  | '\\' :: 'u' :: a :: b :: c :: d :: rest => do
      let unit ← hex4? a b c d
      let (units, rest) ← scanString rest
      pure (unit :: units, rest)
  | '\\' :: c :: rest => do
      let c ← simpleEscape? c
      let (units, rest) ← scanString rest
      pure (c.toNat :: units, rest)
  | c :: rest =>
      if c.toNat < 0x20 || c = '\\' then none
      else do
        let (units, rest) ← scanString rest
        pure (c.toNat :: units, rest)

/-- The first half of a surrogate pair. -/
def isHighHalf (n : Nat) : Bool := 0xD800 ≤ n && n < 0xDC00

/-- The second half of a surrogate pair. -/
def isLowHalf (n : Nat) : Bool := 0xDC00 ≤ n && n < 0xE000

/-- The characters of code points and 16-bit units; a half without its other is refused. -/
def joinHalves : List Nat → Option (List Char)
  | [] => some []
  | high :: low :: rest =>
      if isHighHalf high && isLowHalf low then
        (Char.ofNat (0x10000 + (high - 0xD800) * 0x400 + (low - 0xDC00)) :: ·) <$> joinHalves rest
      else if isHighHalf high || isLowHalf high then none
      else (Char.ofNat high :: ·) <$> joinHalves (low :: rest)
  | [n] => if isHighHalf n || isLowHalf n then none else some [Char.ofNat n]

/-- Read a string whose opening quote has been read. -/
def readString (cs : List Char) : Option (String × List Char) := do
  let (units, rest) ← scanString cs
  let chars ← joinHalves units
  pure (String.ofList chars, rest)

/-! ### Numbers -/

/-- Read the exponent of a number, if there is one. -/
def readExponent (cs : List Char) : Option (Option Int × List Char) :=
  match cs with
  | e :: rest =>
      if e = 'e' || e = 'E' then
        let (negative, rest) := Numeral.splitSign rest
        let (ds, rest) := Numeral.splitDigits rest
        if ds.isEmpty then none else some (some (Numeral.signed negative (ofDigits ds)), rest)
      else some (none, cs)
  | [] => some (none, cs)

/-- Read the fraction of a number, if there is one. -/
def readFraction (cs : List Char) : Option (Option (List Char) × List Char) :=
  match cs with
  | '.' :: rest =>
      let (ds, rest) := Numeral.splitDigits rest
      if ds.isEmpty then none else some (some ds, rest)
  | _ => some (none, cs)

/-- Read the whole part of a number: no digit follows a leading zero. -/
def readWhole (cs : List Char) : Option (List Char × List Char) :=
  let (ds, rest) := Numeral.splitDigits cs
  match ds with
  | [] => none
  | '0' :: _ :: _ => none
  | _ => if Numeral.maxDigits < ds.length then none else some (ds, rest)

/-- Read a number without its sign. -/
def readMagnitude (negative : Bool) (cs : List Char) : Option (Json × List Char) := do
  let (whole, rest) ← readWhole cs
  let (fraction, rest) ← readFraction rest
  let (exponent, rest) ← readExponent rest
  match fraction, exponent with
  | none, none => pure (int (Numeral.signed negative (ofDigits whole)), rest)
  | _, _ =>
      let ds := whole ++ fraction.getD []
      let shift : Int := exponent.getD 0 - (fraction.getD []).length
      pure (float (Double.ofDecimal negative (ofDigits ds) shift), rest)

def readNumber (cs : List Char) : Option (Json × List Char) :=
  match cs with
  | '-' :: 'I' :: rest =>
      (float (.infinity true), ·) <$> skipWord? "nfinity".toList rest
  | '-' :: rest => readMagnitude true rest
  | _ => readMagnitude false cs

/-! ### Values -/

mutual

/-- Read a value that starts at once.  Every call takes a character or two, so `fuel` is the
length of the text. -/
def readValue (fuel depth : Nat) (cs : List Char) : Option (Json × List Char) :=
  match fuel with
  | 0 => none
  | fuel + 1 =>
      match cs with
      | 'n' :: rest => (null, ·) <$> skipWord? "ull".toList rest
      | 't' :: rest => (bool true, ·) <$> skipWord? "rue".toList rest
      | 'f' :: rest => (bool false, ·) <$> skipWord? "alse".toList rest
      | 'N' :: rest => (float .nan, ·) <$> skipWord? "aN".toList rest
      | 'I' :: rest => (float (.infinity false), ·) <$> skipWord? "nfinity".toList rest
      | '\x22' :: rest => do
          let (s, rest) ← readString rest
          pure (string s, rest)
      | '[' :: rest =>
          match skipBlank rest with
          | ']' :: rest => some (array [], rest)
          | rest =>
              match depth with
              | 0 => none
              | depth + 1 => do
                  let (items, rest) ← readItems fuel depth rest
                  pure (array items, rest)
      | '{' :: rest =>
          match skipBlank rest with
          | '}' :: rest => some (object [], rest)
          | rest =>
              match depth with
              | 0 => none
              | depth + 1 => do
                  let (fields, rest) ← readFields fuel depth rest
                  pure (object fields, rest)
      | _ => readNumber cs

/-- Read the items of an array up to its closing bracket. -/
def readItems (fuel depth : Nat) (cs : List Char) : Option (List Json × List Char) :=
  match fuel with
  | 0 => none
  | fuel + 1 => do
      let (item, rest) ← readValue fuel depth cs
      match skipBlank rest with
      | ',' :: rest =>
          let (items, rest) ← readItems fuel depth (skipBlank rest)
          pure (item :: items, rest)
      | ']' :: rest => pure ([item], rest)
      | _ => none

/-- Read the fields of an object up to its closing brace. -/
def readFields (fuel depth : Nat) (cs : List Char) : Option (List (String × Json) × List Char) :=
  match fuel with
  | 0 => none
  | fuel + 1 =>
      match cs with
      | '\x22' :: rest => do
          let (name, rest) ← readString rest
          match skipBlank rest with
          | ':' :: rest =>
              let (value, rest) ← readValue fuel depth (skipBlank rest)
              match skipBlank rest with
              | ',' :: rest =>
                  let (fields, rest) ← readFields fuel depth (skipBlank rest)
                  pure ((name, value) :: fields, rest)
              | '}' :: rest => pure ([(name, value)], rest)
              | _ => none
          | _ => none
      | _ => none

end

/-- Read a text that is one value with blanks around it. -/
def ofChars? (cs : List Char) : Option Json := do
  let (value, rest) ← readValue (cs.length + 1) maxDepth (skipBlank cs)
  if (skipBlank rest).isEmpty then pure value else none

def ofText? (s : String) : Option Json := ofChars? s.toList

def ofBytes? (bytes : Bytes) : Option Json := do
  let s ← Utf8.decode? bytes
  ofText? s

end Telemetry.Json
