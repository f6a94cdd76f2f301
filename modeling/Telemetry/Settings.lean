import Telemetry.CommandLine
import Telemetry.EnvFile

/-!
# Settings from several sources

A setting is given by the first source that has it.  A source answers for the name of a field
with a raw value and the name under which it holds it.  Sources that come later are never looked
at for the value of a field that is given, valid or not (`layered`).
-/

namespace Telemetry

namespace Settings

/-- A raw value and the name under which it is given. -/
structure Given where
  name : String
  raw : Raw

abbrev Source := String → Option Given

/-- What is given for a field by the first source that has it. -/
def given? (sources : List Source) : Source := fun field => sources.findSome? fun s => s field

@[simp] theorem given?_nil (field : String) : given? [] field = none := rfl

theorem given?_cons (source : Source) (sources : List Source) (field : String) :
    given? (source :: sources) field = (source field).or (given? sources field) := by
  simp only [given?, List.findSome?_cons]
  cases source field <;> rfl

/-- A source of texts under upper-case names, in which the last entry of a name in any case
counts; an entry without a text counts as none. -/
def ofTexts (entries : List (String × Option String)) : Source := fun field =>
  match (entries.reverse.find? fun e => Text.lower e.1 = field).bind (·.2) with
  | none => none
  | some s => some ⟨Text.upper field, .text s⟩

/-- A source of values under the names of the fields, in which the last entry of a name counts. -/
def ofFields (entries : List (String × Raw)) : Source := fun field =>
  (entries.reverse.find? fun e => e.1 = field).map fun e => ⟨field, e.2⟩

/-- What is given by the environment, else by the caller, else by the environment file.  A field
that the caller gives as well goes by the caller's name for it. -/
def layered (environment caller file : Source) : Source := fun field =>
  (given? [environment, caller, file] field).map fun g =>
    match caller field with
    | some c => ⟨c.name, g.raw⟩
    | none => g

/-! ### What a program is started with -/

/-- The words of a command line and the environment, with the text of the environment file if
there is one. -/
structure Start where
  words : List String := []
  environment : List (String × String) := []
  envFile : Option String := none

namespace Start

def environmentSource (s : Start) : Source :=
  ofTexts (s.environment.map fun e => (e.1, some e.2))

def fileSource (s : Start) : Source :=
  match s.envFile with
  | none => fun _ => none
  | some text => ofTexts (EnvFile.entries s.environment text)

/-- What all sources give, where the caller gives values to fields. -/
def source (s : Start) (caller : List (String × Raw)) : Source :=
  layered s.environmentSource (ofFields caller) s.fileSource

end Start

/-- Why a program does not run. -/
inductive Refusal
  /-- The command line asks for help or is wrong. -/
  | stop (stop : CommandLine.Stop)
  /-- The file of settings is a folder. -/
  | folder (path : String)
  /-- The file of settings cannot be read. -/
  | malformed
  /-- A value in the file of settings is not what it claims to be. -/
  | badValue (message : String)
  /-- The file of settings holds no mapping. -/
  | noMapping (path : String)
  /-- Some settings are not valid. -/
  | invalid (issues : List Issue)

/-- The wording of a refusal, apart from the issues. -/
def Refusal.message : Refusal → String
  | stop .help | malformed | invalid _ => ""
  | stop (.misuse m) => m.message
  | folder path => "[Errno 21] Is a directory: " ++ Text.quoted path
  | badValue message => message
  | noMapping path => "Config file " ++ path ++ " must contain a mapping"

/-! ### Fields -/

/-- The value of a field, read from what is given for it. -/
def field (given : Source) (read : Raw → Except Fault α) (name : String) (default : α) :
    Except Issue α :=
  match given name with
  | none => .ok default
  | some g => (read g.raw).mapError fun fault => ⟨fault, [.field g.name]⟩

/-- A value that passes a test. -/
def tested (read : Raw → Except Fault α) (passes : α → Bool) (fault : Fault) (raw : Raw) :
    Except Fault α :=
  match read raw with
  | .ok a => if passes a then .ok a else .error fault
  | .error e => .error e

def choice (choices : List (String × α)) (raw : Raw) : Except Fault α :=
  match raw with
  | .text s =>
      match choices.lookup s with
      | some a => .ok a
      | none => .error .unknownChoice
  | _ => .error .unknownChoice

/-! ### Addresses -/

/-- Split a text at its last colon; without one, all of it comes after. -/
def splitAtLastColon (s : String) : String × String :=
  let (after, before) := s.toList.reverse.span (· ≠ ':')
  (String.ofList (before.drop 1).reverse, String.ofList after.reverse)

end Settings
end Telemetry
