/-!
# Places in a document

The layout of a document decides what its characters mean, so a place in it is known by its line
and column besides the text that is left.
-/

namespace Telemetry.Yaml

/-- The characters that end a line. -/
def isBreak (c : Char) : Bool :=
  c = '\n' || c.toNat = 0x85 || c.toNat = 0x2028 || c.toNat = 0x2029

def isGap (c : Char) : Bool := c = ' ' || c = '\t'

/-- The characters that may stand in a document. -/
def isAllowed (c : Char) : Bool :=
  let n := c.toNat
  n = 9 || n = 10 || n = 13 || (0x20 ≤ n && n ≤ 0x7E) || n = 0x85 || (0xA0 ≤ n && n ≤ 0xD7FF)
    || (0xE000 ≤ n && n ≤ 0xFFFD) || (0x10000 ≤ n && n ≤ 0x10FFFF)

/-- The character that may open a document without being part of it. -/
def byteOrderMark : Char := '\ufeff'

/-- Whether a text starts with a line break, or is at its end. -/
def atLineEnd : List Char → Bool
  | [] => true
  | c :: _ => isBreak c

/-- Whether a text starts with a space, a tab or a line break, or is at its end. -/
def atWordEnd : List Char → Bool
  | [] => true
  | c :: _ => isGap c || isBreak c

/-- Whether a text starts with a line break, or with a space, or is at its end. -/
def atTermEnd : List Char → Bool
  | [] => true
  | c :: _ => c = ' ' || isBreak c

/-- Whether a text starts with three of a character and no more of the word. -/
def atTriple (mark : Char) : List Char → Bool
  | a :: b :: c :: rest => a = mark && b = mark && c = mark && atWordEnd rest
  | _ => false

/-- Whether a line starts with the mark of a new document or of the end of one. -/
def atDocumentMark (cs : List Char) : Bool := atTriple '-' cs || atTriple '.' cs

/-- A place in a document. -/
structure Cursor where
  rest : List Char
  index : Nat
  line : Nat
  column : Nat

namespace Cursor

def start (text : List Char) : Cursor := ⟨text, 0, 0, 0⟩

/-- The place after the next character. -/
def next (c : Cursor) : Cursor :=
  match c.rest with
  | [] => c
  | ch :: rest =>
      if isBreak ch then ⟨rest, c.index + 1, c.line + 1, 0⟩
      else ⟨rest, c.index + 1, c.line, if ch = byteOrderMark then c.column else c.column + 1⟩

/-- The place after some characters. -/
def skip (c : Cursor) : Nat → Cursor
  | 0 => c
  | n + 1 => c.next.skip n

/-- Whether the next character is a given one. -/
def at? (c : Cursor) (ch : Char) : Bool := c.rest.head? = some ch

/-- The characters of a class that come next, and the place after them. -/
def span (c : Cursor) (p : Char → Bool) : List Char × Cursor :=
  let word := c.rest.takeWhile p
  (word, c.skip word.length)

/-- The place after the characters of a class. -/
def skipWhile (c : Cursor) (p : Char → Bool) : Cursor := (c.span p).2

/-- What a line break stands for: a line feed, unless it separates lines or paragraphs. -/
def breakText (ch : Char) : Char :=
  if ch.toNat = 0x2028 || ch.toNat = 0x2029 then ch else '\n'

/-- Read a line break if there is one. -/
def lineBreak (c : Cursor) : List Char × Cursor :=
  match c.rest with
  | ch :: _ => if isBreak ch then ([breakText ch], c.next) else ([], c)
  | [] => ([], c)

/-- The place after the rest of the line, which may only be a comment. -/
def finishLine? (c : Cursor) : Option Cursor :=
  let c := c.skipWhile (· = ' ')
  let c := if c.at? '#' then c.skipWhile (fun ch => !isBreak ch) else c
  if atLineEnd c.rest then some c.lineBreak.2 else none

end Cursor
end Telemetry.Yaml
