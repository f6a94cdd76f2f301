import Telemetry.Table
import Telemetry.Text.Blank
import Telemetry.Text.Line

/-!
# Environment files

An environment file gives texts to names, one a line: `NAME=text`, perhaps after `export`.  The
text may be in quotes, and then it may run over several lines and hold escapes; without quotes
it ends at a `#` after a blank.  A name alone has no text, and a line that cannot be read is
skipped.  In the end `${NAME}` and `${NAME:-otherwise}` stand for other names, of this file so
far or of the environment.
-/

namespace Telemetry.EnvFile

open Text

/-! ### Lines -/

/-- A blank that does not end the line. -/
def isGap (c : Char) : Bool := isBlank c && c ≠ '\n'

def skipGap (cs : List Char) : List Char := cs.dropWhile isGap

/-- The text up to the end of the line, and what follows it. -/
def splitLine (cs : List Char) : List Char × List Char := cs.span (· ≠ '\n')

def skipLine (cs : List Char) : List Char := (splitLine cs).2.drop 1

/-- Skip a word `export` with blanks after it. -/
def skipExport (cs : List Char) : List Char :=
  match cs with
  | 'e' :: 'x' :: 'p' :: 'o' :: 'r' :: 't' :: rest =>
      if rest.head?.any isGap then skipGap rest else cs
  | _ => cs

/-- The rest of a line that holds nothing but a comment. -/
def lineEnd? (cs : List Char) : Option (List Char) :=
  match skipGap cs with
  | [] => some []
  | '\n' :: rest => some rest
  | '#' :: rest => some (skipLine rest)
  | _ => none

/-! ### Names and texts -/

/-- Read up to the first quote that has no backslash before it. -/
def untilQuote? (quote : Char) : List Char → Option (List Char × List Char)
  | [] => none
  | '\\' :: c :: rest =>
      if c = quote then (untilQuote? quote rest).map fun r => ('\\' :: c :: r.1, r.2)
      else (untilQuote? quote (c :: rest)).map fun r => ('\\' :: r.1, r.2)
  | c :: rest =>
      if c = quote then some ([], rest)
      else (untilQuote? quote rest).map fun r => (c :: r.1, r.2)

/-- Read up to the last quote. -/
def untilLastQuote? (quote : Char) : List Char → Option (List Char × List Char)
  | [] => none
  | c :: rest =>
      match untilLastQuote? quote rest with
      | some r => some (c :: r.1, r.2)
      | none => if c = quote then some ([], rest) else none

/-- Read a quoted text after its first quote.  It ends at the first quote without a backslash
before it, and at the last quote if all have one. -/
def quotedText? (quote : Char) (cs : List Char) : Option (List Char × List Char) :=
  (untilQuote? quote cs).or (untilLastQuote? quote cs)

/-- What an escape stands for: the quotes and the backslash in both kinds of texts, and
control characters in double quotes. -/
def escaped? (double : Bool) (c : Char) : Option Char :=
  if c = '\\' || c = '\x27' then some c
  else if !double then none
  else if c = '\x22' then some c
  else [('a', '\x07'), ('b', '\x08'), ('f', '\x0c'), ('n', '\n'), ('r', '\r'), ('t', '\t'),
    ('v', '\x0b')].lookup c

/-- Put characters in the place of their escapes; other backslashes stand for themselves. -/
def unescape (double : Bool) : List Char → List Char
  | '\\' :: c :: rest =>
      match escaped? double c with
      | some d => d :: unescape double rest
      | none => '\\' :: unescape double (c :: rest)
  | c :: rest => c :: unescape double rest
  | [] => []

/-- An unquoted text less the comment, which starts at a `#` after a blank. -/
def dropComment : List Char → List Char
  | [] => []
  | c :: rest =>
      if isBlank c && (rest.dropWhile isBlank).head? = some '#' then []
      else c :: dropComment rest

def plainText (line : List Char) : List Char :=
  ((dropComment line).reverse.dropWhile isBlank).reverse

/-- Read the text of a name, after the sign. -/
def text? (cs : List Char) : Option (List Char × List Char) :=
  match cs with
  | '\x27' :: rest => (quotedText? '\x27' rest).map fun r => (unescape false r.1, r.2)
  | '\x22' :: rest => (quotedText? '\x22' rest).map fun r => (unescape true r.1, r.2)
  | _ => some (plainText (splitLine cs).1, (splitLine cs).2)

/-- Read a name, which may be in single quotes.  A comment has none. -/
def name? (cs : List Char) : Option (Option (List Char) × List Char) :=
  match cs with
  | '#' :: _ => some (none, cs)
  | '\x27' :: rest =>
      match rest.span (· ≠ '\x27') with
      | (name, _ :: rest) => if name.isEmpty then none else some (some name, rest)
      | (_, []) => none
  | _ =>
      let (name, rest) := cs.span fun c => c ≠ '=' && c ≠ '#' && !isBlank c
      if name.isEmpty then none else some (some name, rest)

/-- A name with its text, if it has one. -/
abbrev Binding := String × Option String

/-- The place at which reading fails, as what is left from there, or what was read. -/
abbrev Attempt := Except (List Char) (Option Binding × List Char)

/-- Read a line that starts with no blank. -/
def binding (cs : List Char) : Attempt :=
  let start := skipExport cs
  match name? start with
  | none => .error start
  | some (name, rest) =>
      let bound (text : Option (List Char)) : Option Binding :=
        name.map fun n => (String.ofList n, text.map String.ofList)
      match skipGap rest with
      | '=' :: rest =>
          let rest := skipGap rest
          match text? rest with
          | none => .error rest
          | some (text, rest) =>
              match lineEnd? rest with
              | none => .error rest
              | some rest => .ok (bound (some text), rest)
      | rest =>
          match lineEnd? rest with
          | none => .error rest
          | some rest => .ok (bound none, rest)

/-- Read lines until the text ends; `fuel` bounds their number. -/
def bindingsIn : Nat → List Char → List Binding
  | 0, _ => []
  | fuel + 1, cs =>
      match cs.dropWhile isBlank with
      | [] => []
      | cs =>
          match binding cs with
          | .ok (some b, rest) => b :: bindingsIn fuel rest
          | .ok (none, rest) => bindingsIn fuel rest
          | .error rest => bindingsIn fuel (skipLine rest)

/-- The names of a file with their texts, in order.  A line has at least one character. -/
def bindings (text : String) : List Binding :=
  let cs := unifyBreaks text.toList
  bindingsIn (cs.length + 1) cs

/-! ### Names that stand for texts -/

/-- Read a reference after its `${`: the name, what it stands for otherwise, and the rest. -/
def reference? (cs : List Char) : Option (List Char × List Char × List Char) :=
  match cs.span fun c => c ≠ '}' && c ≠ ':' with
  | (name, '}' :: rest) => some (name, [], rest)
  | (name, ':' :: '-' :: rest) =>
      match rest.span (· ≠ '}') with
      | (otherwise, '}' :: rest) => some (name, otherwise, rest)
      | _ => none
  | _ => none

/-- Put texts in the place of references; `fuel` bounds their number. -/
def expandIn (meaning : String → Option String) : Nat → List Char → List Char
  | 0, cs => cs
  | _ + 1, [] => []
  | fuel + 1, '$' :: '{' :: rest =>
      match reference? rest with
      | some (name, otherwise, rest) =>
          ((meaning (String.ofList name)).map String.toList).getD otherwise
            ++ expandIn meaning fuel rest
      | none => '$' :: expandIn meaning fuel ('{' :: rest)
  | fuel + 1, c :: rest => c :: expandIn meaning fuel rest

def expand (meaning : String → Option String) (text : String) : String :=
  String.ofList (expandIn meaning text.length text.toList)

/-- What a name means after some lines of a file: its text there, which is empty for a name
alone, or else its text in the environment. -/
def meaning (environment : List (String × String)) (file : Table String (Option String))
    (name : String) : Option String :=
  match file.get? name with
  | some text => some (text.getD "")
  | none => (Table.ofList environment).get? name

/-- The names of a file with what they stand for.  A name that comes again keeps its place. -/
def entries (environment : List (String × String)) (text : String) :
    List (String × Option String) :=
  let table := (bindings text).foldl (fun (file : Table String (Option String)) b =>
    file.put b.1 (b.2.map (expand (meaning environment file)))) .empty
  table.entries

end Telemetry.EnvFile
