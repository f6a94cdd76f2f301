import Telemetry.Yaml.Property
import Telemetry.Yaml.Scalar

/-!
# Tokens of a document

The indentation of a document becomes tokens that open and close its collections.  Where a key
starts is known only when its colon is found; until then its place is kept as a candidate, one
for each flow collection that is open and one for the blocks around them.
-/

namespace Telemetry.Yaml

/-- What the characters of a document say. -/
inductive Token
  | directive (directive : Directive)
  | documentStart
  | documentEnd
  | blockSequenceStart
  | blockMappingStart
  | blockEnd
  | flowSequenceStart
  | flowSequenceEnd
  | flowMappingStart
  | flowMappingEnd
  | blockEntry
  | flowEntry
  | key
  | value
  | alias (name : String)
  | anchor (name : String)
  | tag (tag : TagText)
  | scalar (plain : Bool) (text : String)

/-- Where a key may have started. -/
structure Candidate where
  /-- The number of tokens before it. -/
  position : Nat
  /-- Whether nothing but a key can stand there. -/
  required : Bool
  index : Nat
  line : Nat
  column : Nat

/-- The tokens so far, and the structures that are open. -/
structure Layout where
  cursor : Cursor
  tokens : Array Token := #[]
  /-- The indentation of the innermost block, and of those around it. -/
  indent : Int := -1
  outer : List Int := []
  /-- A candidate for each open flow collection, the innermost first, and for the blocks. -/
  candidates : List (Option Candidate) := [none]
  /-- Whether a key may start here. -/
  keyAllowed : Bool := true

namespace Layout

/-- Whether a flow collection is open. -/
def inFlow (s : Layout) : Bool := s.candidates.length > 1

def push (s : Layout) (token : Token) : Layout := { s with tokens := s.tokens.push token }

def goTo (s : Layout) (cursor : Cursor) : Layout := { s with cursor }

/-- Add a token and skip the characters of its sign. -/
def sign (s : Layout) (token : Token) (width : Nat) : Layout :=
  (s.push token).goTo (s.cursor.skip width)

/-- Skip blanks and comments; after a line break in a block a key may start. -/
def skipBlanks : Nat → Layout → Layout
  | 0, s => s
  | fuel + 1, s =>
      let c := s.cursor.skipWhile (· = ' ')
      let c := if c.at? '#' then c.skipWhile (fun ch => !isBreak ch) else c
      match c.lineBreak with
      | ([], c) => s.goTo c
      | (_, c) => skipBlanks fuel { s with cursor := c, keyAllowed := s.keyAllowed || !s.inFlow }

/-- Drop the candidates that are too far away; one that is required must not be. -/
def dropStale? (s : Layout) : Option Layout :=
  let fresh (k : Candidate) : Bool :=
    k.line = s.cursor.line && s.cursor.index - k.index ≤ 1024
  let kept (slot : Option Candidate) : Option (Option Candidate) :=
    match slot with
    | none => some none
    | some k => if fresh k then some (some k) else if k.required then none else some none
  (s.candidates.mapM kept).map fun candidates => { s with candidates }

/-- Drop the innermost candidate; it must not be required. -/
def dropCandidate? (s : Layout) : Option Layout :=
  match s.candidates with
  | some k :: rest => if k.required then none else some { s with candidates := none :: rest }
  | _ => some s

/-- Keep this place as a candidate, if a key may start here. -/
def keepCandidate? (s : Layout) : Option Layout :=
  if !s.keyAllowed then some s
  else
    let c := s.cursor
    let k : Candidate :=
      ⟨s.tokens.size, !s.inFlow && s.indent = c.column, c.index, c.line, c.column⟩
    (dropCandidate? s).map fun s => { s with candidates := some k :: s.candidates.drop 1 }

/-- Close the blocks that are indented by more than a column. -/
def unwindFrom (column : Int) (tokens : Array Token) (indent : Int) :
    List Int → Array Token × Int × List Int
  | [] => (tokens, indent, [])
  | around :: outer =>
      if column < indent then unwindFrom column (tokens.push .blockEnd) around outer
      else (tokens, indent, around :: outer)

/-- Close the blocks that are indented by more than a column, unless in a flow collection. -/
def unwind (s : Layout) (column : Int) : Layout :=
  if s.inFlow then s
  else
    let (tokens, indent, outer) := unwindFrom column s.tokens s.indent s.outer
    { s with tokens, indent, outer }

/-- Open a block at a column if it is indented by more than the ones that are open; its token
goes to the given position. -/
def openBlock (s : Layout) (token : Token) (column : Nat) (position : Nat) : Layout :=
  if s.indent < column then
    { s with
      tokens := s.tokens.insertIdxIfInBounds position token
      indent := column
      outer := s.indent :: s.outer }
  else s

/-! ### Steps -/

def directive? (s : Layout) : Option Layout := do
  let s ← (s.unwind (-1)).dropCandidate?
  let (directive, c) ← Yaml.directive? s.cursor.next
  pure ({ s with keyAllowed := false }.push (.directive directive) |>.goTo c)

def documentMark? (s : Layout) (token : Token) : Option Layout := do
  let s ← (s.unwind (-1)).dropCandidate?
  pure ({ s with keyAllowed := false }.sign token 3)

def openFlow? (s : Layout) (token : Token) : Option Layout := do
  let s ← s.keepCandidate?
  pure ({ s with candidates := none :: s.candidates, keyAllowed := true }.sign token 1)

def closeFlow? (s : Layout) (token : Token) : Option Layout :=
  match s.candidates with
  | _ :: around :: rest =>
      some ({ s with candidates := around :: rest, keyAllowed := false }.sign token 1)
  | _ => none

def flowEntry? (s : Layout) : Option Layout := do
  let s ← s.dropCandidate?
  pure ({ s with keyAllowed := true }.sign .flowEntry 1)

/-- Read the dash of an entry, which opens a sequence if it is indented by more. -/
def blockEntry? (s : Layout) : Option Layout := do
  if !s.inFlow && !s.keyAllowed then none
  let s :=
    if s.inFlow then s else s.openBlock .blockSequenceStart s.cursor.column s.tokens.size
  let s ← s.dropCandidate?
  pure ({ s with keyAllowed := true }.sign .blockEntry 1)

/-- Read the question mark of a key, which opens a mapping if it is indented by more. -/
def key? (s : Layout) : Option Layout := do
  if !s.inFlow && !s.keyAllowed then none
  let s :=
    if s.inFlow then s else s.openBlock .blockMappingStart s.cursor.column s.tokens.size
  let s ← s.dropCandidate?
  pure ({ s with keyAllowed := !s.inFlow }.sign .key 1)

/-- Read the colon of a value.  If there is a candidate, it was the key. -/
def value? (s : Layout) : Option Layout :=
  match s.candidates with
  | some k :: rest =>
      let s := { s with
        candidates := none :: rest
        tokens := s.tokens.insertIdxIfInBounds k.position .key
        keyAllowed := false }
      let s := if s.inFlow then s else s.openBlock .blockMappingStart k.column k.position
      some (s.sign .value 1)
  | _ =>
      if !s.inFlow && !s.keyAllowed then none
      else
        let s :=
          if s.inFlow then s else s.openBlock .blockMappingStart s.cursor.column s.tokens.size
        some ({ s with keyAllowed := !s.inFlow }.sign .value 1)

/-- Read a part of a node that a key may start with. -/
def part? (s : Layout) (read : Cursor → Option (Token × Cursor)) : Option Layout := do
  let s ← s.keepCandidate?
  let (token, c) ← read s.cursor
  pure ({ s with keyAllowed := false }.push token |>.goTo c)

def block? (s : Layout) (folded : Bool) : Option Layout := do
  let s ← s.dropCandidate?
  let (text, c) ← Yaml.block? folded s.indent s.cursor.next
  pure ({ s with keyAllowed := true }.push (.scalar false (String.ofList text)) |>.goTo c)

/-- Read a plain scalar.  If a line ends after it, a key may start there. -/
def plain? (s : Layout) : Option Layout := do
  let s ← s.keepCandidate?
  let (text, broken, c) := Yaml.plain s.inFlow (s.indent + 1) s.cursor
  pure ({ s with keyAllowed := broken }.push (.scalar true (String.ofList text)) |>.goTo c)

/-- Whether a plain scalar can start with a character before a text. -/
def startsPlain (flow : Bool) (ch : Char) (rest : List Char) : Bool :=
  !(isGap ch || isBreak ch || "-?:,[]\x7b\x7d#&*!|>'\x22%@\x60".toList.contains ch)
    || (!atWordEnd rest && (ch = '-' || (!flow && (ch = '?' || ch = ':'))))

/-- Read the tokens that start with a character. -/
def step? (s : Layout) (ch : Char) (rest : List Char) : Option Layout :=
  let c := s.cursor
  let flow := s.inFlow
  if ch = '%' && c.column = 0 then s.directive?
  else if c.column = 0 && atTriple '-' c.rest then s.documentMark? .documentStart
  else if c.column = 0 && atTriple '.' c.rest then s.documentMark? .documentEnd
  else if ch = '[' then s.openFlow? .flowSequenceStart
  else if ch = '\x7b' then s.openFlow? .flowMappingStart
  else if ch = ']' then s.closeFlow? .flowSequenceEnd
  else if ch = '\x7d' then s.closeFlow? .flowMappingEnd
  else if ch = ',' then s.flowEntry?
  else if ch = '-' && atWordEnd rest then s.blockEntry?
  else if ch = '?' && (flow || atWordEnd rest) then s.key?
  else if ch = ':' && (flow || atWordEnd rest) then s.value?
  else if ch = '*' then s.part? fun c => (name? c.next).map fun r => (.alias r.1, r.2)
  else if ch = '&' then s.part? fun c => (name? c.next).map fun r => (.anchor r.1, r.2)
  else if ch = '!' then s.part? fun c => (tag? c).map fun r => (.tag r.1, r.2)
  else if ch = '|' && !flow then s.block? false
  else if ch = '>' && !flow then s.block? true
  else if ch = '\x27' || ch = '\x22' then
    s.part? fun c => (quoted? (ch = '\x22') c).map fun r => (.scalar false (String.ofList r.1), r.2)
  else if startsPlain flow ch rest then s.plain?
  else none

/-- Read tokens until the document ends; each step reads at least one character. -/
def read? : Nat → Layout → Option Layout
  | 0, _ => none
  | fuel + 1, s => do
      let s ← (skipBlanks (s.cursor.rest.length + 1) s).dropStale?
      match s.cursor.rest with
      | [] => (s.unwind (-1)).dropCandidate?
      | ch :: rest =>
          let s ← (s.unwind s.cursor.column).step? ch rest
          read? fuel s

end Layout

/-- The tokens of a document whose lines end in line feeds. -/
def Token.ofText? (text : List Char) : Option (List Token) :=
  if !text.all isAllowed then none
  else
    let text := if text.head? = some byteOrderMark then text.drop 1 else text
    (Layout.read? (text.length + 1) { cursor := .start text }).map fun s => s.tokens.toList

end Telemetry.Yaml
