import Telemetry.Text.Hex
import Telemetry.Yaml.Cursor

/-!
# Scalars

A scalar is written plainly, in single or double quotes, or as a block of lines.  In all but the
literal blocks, one line break between words stands for a space and further ones for
themselves.  Each reader returns the text of the scalar and the place after it.
-/

namespace Telemetry.Yaml

/-- What stands for a line break and the breaks that follow it. -/
def foldBreaks (first more : List Char) : List Char :=
  if first ≠ ['\n'] then first ++ more else if more.isEmpty then [' '] else more

/-! ### Plain scalars -/

/-- Whether a colon before a text ends a plain word. -/
def colonEnds (flow : Bool) : List Char → Bool
  | [] => true
  | c :: _ => isGap c || isBreak c || (flow && [',', '[', ']', '{', '}'].contains c)

/-- The plain word that comes next. -/
def plainWord (flow : Bool) : List Char → List Char
  | [] => []
  | c :: rest =>
      if isGap c || isBreak c || (c = ':' && colonEnds flow rest)
        || (flow && [',', '?', '[', ']', '{', '}'].contains c) then []
      else c :: plainWord flow rest

/-- What stands between two plain words. -/
structure PlainGap where
  /-- The text of the gap; if there is none, no word can follow. -/
  text : List Char
  /-- Whether a line has ended. -/
  broken : Bool
  after : Cursor

/-- Skip empty lines and the indentation, and collect the line breaks.  At the mark of a
document there is no result. -/
def plainBreaks : Nat → Cursor → Option (List Char) × Cursor
  | 0, c => (some [], c)
  | fuel + 1, c =>
      match c.rest with
      | ch :: _ =>
          if ch = ' ' then plainBreaks fuel c.next
          else if isBreak ch then
            let (text, c) := c.lineBreak
            if atDocumentMark c.rest then (none, c)
            else
              let (more, c) := plainBreaks fuel c
              (more.map (text ++ ·), c)
          else (some [], c)
      | [] => (some [], c)

def plainGap (c : Cursor) : PlainGap :=
  let (spaces, c) := c.span (· = ' ')
  match c.lineBreak with
  | ([], c) => ⟨spaces, false, c⟩
  | (first, c) =>
      if atDocumentMark c.rest then ⟨[], true, c⟩
      else
        match plainBreaks c.rest.length c with
        | (some more, c) => ⟨foldBreaks first more, true, c⟩
        | (none, c) => ⟨[], true, c⟩

/-- Read a plain scalar from one of its words on, and tell whether a line has ended after it. -/
def plainFrom (flow : Bool) (indent : Int) : Nat → Cursor → List Char × Bool × Cursor
  | 0, c => ([], false, c)
  | fuel + 1, c =>
      let word := plainWord flow c.rest
      let gap := plainGap (c.skip word.length)
      let c := gap.after
      if gap.text.isEmpty || c.at? '#' || (!flow && c.column < indent)
        || (plainWord flow c.rest).isEmpty then (word, gap.broken, c)
      else
        let (more, broken, c) := plainFrom flow indent fuel c
        (word ++ gap.text ++ more, broken, c)

/-- Read a plain scalar whose lines are indented by at least `indent`. -/
def plain (flow : Bool) (indent : Int) (c : Cursor) : List Char × Bool × Cursor :=
  plainFrom flow indent c.rest.length c

/-! ### Quoted scalars -/

/-- The characters with a letter of their own after a backslash. -/
def escapes : List (Char × Char) :=
  [('0', '\x00'), ('a', '\x07'), ('b', '\x08'), ('t', '\t'), ('\t', '\t'), ('n', '\n'),
   ('v', '\x0b'), ('f', '\x0c'), ('r', '\r'), ('e', '\x1b'), (' ', ' '), ('\x22', '\x22'),
   ('\\', '\\'), ('/', '/'), ('N', '\u0085'), ('_', '\u00a0'), ('L', '\u2028'), ('P', '\u2029')]

/-- The number of base-sixteen digits after a backslash and a letter. -/
def escapeWidths : List (Char × Nat) := [('x', 2), ('u', 4), ('U', 8)]

/-- Read an escape after its backslash: the character and the length of the escape. -/
def escape? : List Char → Option (Char × Nat)
  | [] => none
  | c :: rest =>
      match escapes.lookup c, escapeWidths.lookup c with
      | some ch, _ => some (ch, 1)
      | none, some width =>
          let digits := rest.take width
          if digits.length < width then none
          else
            (digits.mapM Hex.value?).map fun ds =>
              (Char.ofNat (ds.foldl (fun n d => 16 * n + d) 0), width + 1)
      | none, none => none

/-- Skip empty lines and the indentation inside quotes, and collect the line breaks.  No
document may begin or end there. -/
def quotedBreaks? : Nat → Cursor → Option (List Char × Cursor)
  | 0, _ => none
  | fuel + 1, c =>
      if atDocumentMark c.rest then none
      else
        match (c.skipWhile isGap).lineBreak with
        | ([], c) => some ([], c)
        | (text, c) => (quotedBreaks? fuel c).map fun (more, c) => (text ++ more, c)

/-- Read a quoted scalar after its first quote. -/
def quotedFrom? (double : Bool) : Nat → Cursor → Option (List Char × Cursor)
  | 0, _ => none
  | fuel + 1, c =>
      let quote := if double then '\x22' else '\x27'
      let go (text : List Char) (c : Cursor) : Option (List Char × Cursor) :=
        (quotedFrom? double fuel c).map fun r => (text ++ r.1, r.2)
      match c.rest with
      | [] => none
      | ch :: rest =>
          if ch = quote then
            if !double && rest.head? = some quote then go [quote] (c.skip 2)
            else some ([], c.next)
          else if isGap ch || isBreak ch then
            let (gap, c) := c.span isGap
            match c.lineBreak with
            | ([], c) => go gap c
            | (first, c) =>
                match quotedBreaks? (c.rest.length + 1) c with
                | some (more, c) => go (foldBreaks first more) c
                | none => none
          else if double && ch = '\\' then
            if rest.head?.any isBreak then
              match quotedBreaks? (rest.length + 1) (c.skip 2) with
              | some (more, c) => go more c
              | none => none
            else
              match escape? rest with
              | some (ch, width) => go [ch] (c.skip (width + 1))
              | none => none
          else go [ch] c.next

def quoted? (double : Bool) (c : Cursor) : Option (List Char × Cursor) :=
  quotedFrom? double c.rest.length c.next

/-! ### Blocks -/

/-- What becomes of the line breaks at the end of a block. -/
inductive Chomping
  | strip
  | clip
  | keep
  deriving DecidableEq

/-- The head of a block: what it does at the end, and its indentation if that is given. -/
structure BlockHead where
  chomping : Chomping
  indentation : Option Nat

def chomping (c : Cursor) : Option Chomping × Cursor :=
  if c.at? '+' then (some .keep, c.next)
  else if c.at? '-' then (some .strip, c.next)
  else (none, c)

/-- Read an indentation, which is one digit and not zero. -/
def indentation? (c : Cursor) : Option (Option Nat × Cursor) :=
  match c.rest with
  | ch :: _ =>
      if ch = '0' then none
      else if ch.isDigit then some (some (ch.toNat - '0'.toNat), c.next)
      else some (none, c)
  | [] => some (none, c)

/-- Read the head of a block, its two parts in either order. -/
def blockHead? (c : Cursor) : Option (BlockHead × Cursor) :=
  let (early, c) := chomping c
  match indentation? c with
  | none => none
  | some (indentation, c) =>
      let (late, c) := if early.isNone && indentation.isSome then chomping c else (none, c)
      if atTermEnd c.rest then
        some (⟨(early.or late).getD .clip, indentation⟩, c)
      else none

/-- Skip empty lines, collect their breaks and find the largest indentation. -/
def blockIndentation : Nat → Cursor → Nat → List Char × Nat × Cursor
  | 0, c, deepest => ([], deepest, c)
  | fuel + 1, c, deepest =>
      match c.rest with
      | ch :: _ =>
          if ch = ' ' then blockIndentation fuel c.next (max deepest (c.column + 1))
          else if isBreak ch then
            let (text, c) := c.lineBreak
            let (more, deepest, c) := blockIndentation fuel c deepest
            (text ++ more, deepest, c)
          else ([], deepest, c)
      | [] => ([], deepest, c)

/-- Skip an indentation of at most `indent`. -/
def skipIndent (indent : Int) : Nat → Cursor → Cursor
  | 0, c => c
  | fuel + 1, c => if c.column < indent && c.at? ' ' then skipIndent indent fuel c.next else c

/-- Skip empty lines and the indentation, and collect the line breaks. -/
def blockBreaks (indent : Int) : Nat → Cursor → List Char × Cursor
  | 0, c => ([], c)
  | fuel + 1, c =>
      match (skipIndent indent c.rest.length c).lineBreak with
      | ([], c) => ([], c)
      | (text, c) =>
          let (more, c) := blockBreaks indent fuel c
          (text ++ more, c)

/-- Read the lines of a block from the place where one starts; `breaks` come before it. -/
def blockLines (folded : Bool) (chomping : Chomping) (indent : Int) :
    Nat → List Char → Cursor → List Char × Cursor
  | 0, _, c => ([], c)
  | fuel + 1, breaks, c =>
      let (line, c') := c.span fun ch => !isBreak ch
      let (ending, c') := c'.lineBreak
      let (more, c') := blockBreaks indent c'.rest.length c'
      if (c'.column : Int) = indent && !c'.rest.isEmpty then
        let loose := fun (cs : List Char) => (cs.head?.any isGap)
        let joint :=
          if folded && ending = ['\n'] && !loose line && !loose c'.rest then
            if more.isEmpty then [' '] else []
          else ending
        let (text, c') := blockLines folded chomping indent fuel more c'
        (breaks ++ line ++ joint ++ text, c')
      else
        let final :=
          match chomping with
          | .strip => []
          | .clip => ending
          | .keep => ending ++ more
        (breaks ++ line ++ final, c')

/-- Read a block after its sign, inside a structure with the given indentation. -/
def block? (folded : Bool) (outer : Int) (c : Cursor) : Option (List Char × Cursor) :=
  match blockHead? c with
  | none => none
  | some (head, c) =>
      match c.finishLine? with
      | none => none
      | some c =>
          let least := max 1 (outer + 1)
          let (breaks, indent, c) :=
            match head.indentation with
            | some n =>
                let indent := least + n - 1
                let (breaks, c) := blockBreaks indent c.rest.length c
                (breaks, indent, c)
            | none =>
                let (breaks, deepest, c) := blockIndentation c.rest.length c 0
                (breaks, max least deepest, c)
          if (c.column : Int) = indent && !c.rest.isEmpty then
            some (blockLines folded head.chomping indent (c.rest.length + 1) breaks c)
          else some (if head.chomping = .keep then breaks else [], c)

end Telemetry.Yaml
