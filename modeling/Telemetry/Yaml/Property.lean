import Telemetry.Text.Hex
import Telemetry.Text.Utf8
import Telemetry.Yaml.Cursor

/-!
# Names, tags and directives

A node may have an anchor, by which aliases name it, and a tag, which says what kind of value it
is.  A tag is written in full or by a handle that stands for its first part; directives before a
document give handles their meaning.
-/

namespace Telemetry.Yaml

def isNameChar (c : Char) : Bool := c.isAlphanum || c = '-' || c = '_'

def isUriChar (c : Char) : Bool :=
  isNameChar c || "-;/?:@&=+$,_.!~*'()[]".toList.contains c

structure TagText where
  handle : Option String
  suffix : String

inductive Directive
  | version (major minor : Nat)
  | handle (handle start : String)
  | other

/-- Read an anchor or an alias after its sign. -/
def name? (c : Cursor) : Option (String × Cursor) :=
  let (name, c) := c.span isNameChar
  let follows := fun ch => isGap ch || isBreak ch || "?:,]\x7d%@\x60".toList.contains ch
  if name.isEmpty || !(c.rest.head?.all follows) then none else some (String.ofList name, c)

/-! ### Tags -/

/-- Read bytes written as percent signs with two digits in base sixteen. -/
def uriEscapes? : Nat → Cursor → Option (Bytes × Cursor)
  | 0, c => some ([], c)
  | fuel + 1, c =>
      match c.rest with
      | '%' :: a :: b :: _ =>
          match Hex.value? a, Hex.value? b with
          | some m, some n =>
              (uriEscapes? fuel (c.skip 3)).map fun r => (UInt8.ofNat (16 * m + n) :: r.1, r.2)
          | _, _ => none
      | '%' :: _ => none
      | _ => some ([], c)

/-- Read the characters of a tag, of which there may be none. -/
def uriFrom? : Nat → Cursor → Option (List Char × Cursor)
  | 0, c => some ([], c)
  | fuel + 1, c =>
      match c.rest with
      | [] => some ([], c)
      | ch :: _ =>
          if ch = '%' then
            match uriEscapes? c.rest.length c with
            | none => none
            | some (bytes, c) =>
                match Utf8.decode? bytes with
                | none => none
                | some text => (uriFrom? fuel c).map fun r => (text.toList ++ r.1, r.2)
          else if isUriChar ch then (uriFrom? fuel c.next).map fun r => (ch :: r.1, r.2)
          else some ([], c)

/-- Read the characters of a tag, of which there is at least one. -/
def uri? (c : Cursor) : Option (String × Cursor) :=
  match uriFrom? c.rest.length c with
  | some (ch :: rest, c) => some (String.ofList (ch :: rest), c)
  | _ => none

/-- Read a handle: one sign, or a name between two. -/
def handle? (c : Cursor) : Option (String × Cursor) :=
  match c.rest with
  | '!' :: ' ' :: _ => some ("!", c.next)
  | '!' :: _ =>
      let (name, after) := c.next.span isNameChar
      if after.at? '!' then some ("!" ++ String.ofList name ++ "!", after.next)
      else none
  | _ => none

def tag? (c : Cursor) : Option (TagText × Cursor) :=
  let read : Option (TagText × Cursor) :=
    if c.next.at? '<' then
      match uri? (c.skip 2) with
      | some (suffix, c) => if c.at? '>' then some (⟨none, suffix⟩, c.next) else none
      | none => none
    else if atWordEnd c.next.rest then some (⟨none, "!"⟩, c.next)
    else if (c.next.rest.takeWhile fun ch => ch ≠ ' ' && !isBreak ch).contains '!' then
      match handle? c with
      | some (handle, c) => (uri? c).map fun r => (⟨some handle, r.1⟩, r.2)
      | none => none
    else (uri? c.next).map fun r => (⟨some "!", r.1⟩, r.2)
  match read with
  | some (tag, c) => if atTermEnd c.rest then some (tag, c) else none
  | none => none

/-! ### Directives -/

def number? (c : Cursor) : Option (Nat × Cursor) :=
  let (digits, c) := c.span Char.isDigit
  if digits.isEmpty then none
  else some (digits.foldl (fun n d => 10 * n + (d.toNat - '0'.toNat)) 0, c)

def version? (c : Cursor) : Option (Directive × Cursor) :=
  match number? (c.skipWhile (· = ' ')) with
  | none => none
  | some (major, c) =>
      if !c.at? '.' then none
      else
        match number? c.next with
        | none => none
        | some (minor, c) => if atTermEnd c.rest then some (.version major minor, c) else none

def handleMeaning? (c : Cursor) : Option (Directive × Cursor) :=
  match handle? (c.skipWhile (· = ' ')) with
  | none => none
  | some (handle, c) =>
      if !c.at? ' ' then none
      else
        match uri? (c.skipWhile (· = ' ')) with
        | none => none
        | some (start, c) => if atTermEnd c.rest then some (.handle handle start, c) else none

/-- Read a directive after its sign, with the rest of its line. -/
def directive? (c : Cursor) : Option (Directive × Cursor) :=
  let (name, c) := c.span isNameChar
  if name.isEmpty || !atTermEnd c.rest then none
  else
    let read :=
      if name = "YAML".toList then version? c
      else if name = "TAG".toList then handleMeaning? c
      else some (.other, c.skipWhile fun ch => !isBreak ch)
    match read with
    | none => none
    | some (directive, c) => c.finishLine?.map fun c => (directive, c)

end Telemetry.Yaml
