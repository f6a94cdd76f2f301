import Telemetry.Field
import Telemetry.Text.Quoted

/-!
# Command lines

A command line is a list of words.  Each flag takes one value, in the same word or in the next,
except the one that asks for help; there are no arguments without a flag.  A word is read in
two stages: `Word.ofText` says what it is on its own, and `read` says what follows from the
words in their order.
-/

namespace Telemetry.CommandLine

/-- What a flag is for. -/
inductive Role
  /-- It asks for help and takes no value. -/
  | help
  /-- Its value is the text of a field. -/
  | text (field : String)
  /-- Its value is the whole number of a field. -/
  | whole (field : String)

/-- A flag and the names that it goes by: a dash and a letter, or two dashes and a word. -/
structure Flag where
  names : List String
  role : Role

namespace Flag

/-- The flag that asks for help. -/
def help : Flag := ⟨["-h", "--help"], .help⟩

def title (f : Flag) : String := "/".intercalate f.names

def named? (flags : List Flag) (name : String) : Option Flag :=
  flags.find? fun f => f.names.contains name

end Flag

/-- How a command line can be wrong. -/
inductive Misuse
  /-- An abbreviation of more than one name. -/
  | ambiguous (word : String) (names : List String)
  /-- A flag without its value. -/
  | noValue (flag : Flag)
  /-- A value for a flag that takes none. -/
  | needlessValue (flag : Flag) (text : String)
  /-- A value that is not the whole number it has to be. -/
  | notWhole (flag : Flag) (text : String)
  /-- Words that belong to no flag. -/
  | unknown (words : List String)

def Misuse.message : Misuse → String
  | ambiguous word names =>
      "ambiguous option: " ++ word ++ " could match " ++ ", ".intercalate names
  | noValue flag => "argument " ++ flag.title ++ ": expected one argument"
  | needlessValue flag text =>
      "argument " ++ flag.title ++ ": ignored explicit argument " ++ Text.quoted text
  | notWhole flag text =>
      "argument " ++ flag.title ++ ": invalid int value: " ++ Text.quoted text
  | unknown words => "unrecognized arguments: " ++ " ".intercalate words

inductive Stop
  | help
  | misuse (misuse : Misuse)

/-! ### Single words -/

/-- A word on its own. -/
inductive Word
  /-- What can be the value of a flag. -/
  | value (text : String)
  /-- The name of a flag, and what follows the name in the same word. -/
  | use (flag : Flag) (attached : List Char)
  /-- What can be neither. -/
  | other (text : String)

/-- Whether a text reads as a negative number.  A line break may follow. -/
def isNegative : List Char → Bool
  | '-' :: rest =>
      let body := if rest.getLast? = some '\n' then rest.dropLast else rest
      let isDigit := fun c => (Text.decimalValue? c).isSome
      match body.dropWhile isDigit with
      | [] => !body.isEmpty
      | '.' :: fraction => !fraction.isEmpty && fraction.all isDigit
      | _ => false
  | _ => false

/-- The names that a word of two dashes may abbreviate, with their flags. -/
def completions (flags : List Flag) (start : List Char) : List (Flag × String) :=
  flags.flatMap fun f =>
    (f.names.filter fun name => start.isPrefixOf name.toList).map fun name => (f, name)

/-- A word that is neither the name of a flag nor plainly a value. -/
def ofUnnamed (flags : List Flag) (word : String) : Except Misuse Word :=
  let cs := word.toList
  let (start, rest) := cs.span (· ≠ '=')
  let found : List (Flag × String × List Char) :=
    match cs with
    | '-' :: '-' :: _ => (completions flags start).map fun (f, name) => (f, name, rest)
    | '-' :: c :: rest =>
        let name := String.ofList ['-', c]
        ((Flag.named? flags name).map fun f => (f, name, rest)).toList
    | _ => []
  match found with
  | [(f, _, attached)] => .ok (.use f attached)
  | [] => .ok (if isNegative cs || cs.contains ' ' then .value word else .other word)
  | several => .error (.ambiguous word (several.map fun f => f.2.1))

/-- What a word is on its own.  A word that does not start with a dash, a dash alone, a negative
number and a word with a space can be values unless they name a flag. -/
def Word.ofText (flags : List Flag) (word : String) : Except Misuse Word :=
  match word.toList with
  | '-' :: _ :: _ =>
      let (start, rest) := word.toList.span (· ≠ '=')
      match Flag.named? flags word, Flag.named? flags (String.ofList start) with
      | some f, _ => .ok (.use f [])
      | none, some f => .ok (.use f rest)
      | none, none => ofUnnamed flags word
  | _ => .ok (.value word)

/-- What the words are on their own.  After two dashes every word can be a value, though nothing
is left to take it. -/
def wordsOf (flags : List Flag) : List String → Except Misuse (List Word)
  | [] => .ok []
  | "--" :: rest => .ok (.other "--" :: rest.map .value)
  | word :: rest =>
      match Word.ofText flags word, wordsOf flags rest with
      | .ok w, .ok ws => .ok (w :: ws)
      | .error m, _ => .error m
      | _, .error m => .error m

/-! ### Words in order -/

/-- What a flag and the letters attached to it ask for; `helped` tells whether help was
asked for on the way. -/
inductive Demand
  | help
  | value (flag : Flag) (text : String) (helped : Bool)
  | next (flag : Flag) (helped : Bool)

/-- What a flag with a value asks for, given what is attached to it. -/
def Demand.ofValue (flag : Flag) (helped : Bool) : List Char → Demand
  | [] => .next flag helped
  | '=' :: text => .value flag (String.ofList text) helped
  | text => .value flag (String.ofList text) helped

/-- What the letters attached to a request for help ask for: each may be a flag of its own. -/
def Demand.ofHelp (flags : List Flag) (flag : Flag) : List Char → Except Misuse Demand
  | [] => .ok .help
  | '=' :: text => .error (.needlessValue flag (String.ofList text))
  | '-' :: text => .error (.needlessValue flag (String.ofList ('-' :: text)))
  | c :: rest =>
      match Flag.named? flags (String.ofList ['-', c]) with
      | none => .ok .help
      | some f =>
          match f.role with
          | .help => ofHelp flags f rest
          | _ => .ok (.ofValue f true rest)

def Demand.of (flags : List Flag) (flag : Flag) (attached : List Char) : Except Misuse Demand :=
  match flag.role with
  | .help => ofHelp flags flag attached
  | _ => .ok (.ofValue flag false attached)

/-- What has been read so far. -/
structure Progress where
  /-- Values of fields, the last one first. -/
  given : List (String × Raw) := []
  /-- Words that belong to no flag, the last one first. -/
  unknown : List String := []
  /-- The flag whose value is the next word. -/
  waiting : Option (Flag × Bool) := none

def Progress.take (p : Progress) (flag : Flag) (text : String) (helped : Bool) :
    Except Stop Progress :=
  if helped then .error .help
  else
    match flag.role with
    | .help => .error .help
    | .text field => .ok { p with given := (field, .text text) :: p.given, waiting := none }
    | .whole field =>
        match Numeral.anyInt? text with
        | some i => .ok { p with given := (field, .int i) :: p.given, waiting := none }
        | none => .error (.misuse (.notWhole flag text))

def Progress.step (flags : List Flag) (p : Progress) (word : Word) : Except Stop Progress :=
  match p.waiting, word with
  | some (flag, helped), .value text => p.take flag text helped
  | some (flag, _), _ => .error (.misuse (.noValue flag))
  | none, .value text => .ok { p with unknown := text :: p.unknown }
  | none, .other text => .ok { p with unknown := text :: p.unknown }
  | none, .use flag attached =>
      match Demand.of flags flag attached with
      | .error m => .error (.misuse m)
      | .ok .help => .error .help
      | .ok (.value flag text helped) => p.take flag text helped
      | .ok (.next flag helped) => .ok { p with waiting := some (flag, helped) }

/-- The values of the fields once there are no more words. -/
def Progress.finish (p : Progress) : Except Stop (List (String × Raw)) :=
  match p.waiting, p.unknown with
  | some (flag, _), _ => .error (.misuse (.noValue flag))
  | none, [] => .ok p.given.reverse
  | none, unknown => .error (.misuse (.unknown unknown.reverse))

/-- Read a command line with the given flags and the one for help.  The values are in the
order of the words; of two values of a field, the later one counts. -/
def read (flags : List Flag) (words : List String) : Except Stop (List (String × Raw)) :=
  let flags := Flag.help :: flags
  match wordsOf flags words with
  | .error m => .error (.misuse m)
  | .ok ws => ws.foldlM (Progress.step flags) {} >>= Progress.finish

end Telemetry.CommandLine
