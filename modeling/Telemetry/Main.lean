import Telemetry.Agent.Report
import Telemetry.Collector.Settings
import Telemetry.Metric.Wire

/-!
# The command line

The first word says which program is meant, `collector` or `agent`; the flags of that program
follow.  What is printed is what the program would run with, after the environment, the command
line, the file of settings and the environment file have had their say.  A refusal goes to the
error stream.
-/

namespace Telemetry

/-- What a run prints, where, and the exit code. -/
structure Printout where
  output : String := ""
  errors : String := ""
  code : UInt32 := 0

namespace Printout

def usage : String := "usage: telemetry (collector | agent) [flag value]..."

def flagNames (flags : List CommandLine.Flag) : String :=
  " ".intercalate (flags.map CommandLine.Flag.title)

/-- The way to a fault, in one text. -/
def placeText (place : List Place) : String :=
  ".".intercalate (place.map fun
    | .field name => name
    | .item i => Text.ofInt i)

def ofRefusal (flags : List CommandLine.Flag) : Settings.Refusal → Printout
  | .stop .help => { output := usage ++ "\nflags: " ++ flagNames flags }
  | .stop (.misuse m) => { errors := "error: " ++ m.message, code := 2 }
  | .malformed => { errors := "error: the file of settings cannot be read", code := 1 }
  | .invalid issues =>
      { errors := "error: not valid: " ++ ", ".intercalate (issues.map fun i => placeText i.place)
        code := 1 }
  | refusal => { errors := "error: " ++ refusal.message, code := 1 }

def line (fields : List (String × Raw)) (more : List (String × Json)) : String :=
  Json.toText .compact (.object (fields.map (fun f => (f.1, Json.ofRaw f.2)) ++ more))

def ofCollector (start : Settings.Start) : Printout :=
  match Collector.Settings.load start with
  | .error refusal => ofRefusal Collector.Settings.flags refusal
  | .ok s =>
      match s.port with
      | .error failure => { errors := "error: " ++ failure.message, code := 1 }
      | .ok port =>
          { output := line s.fields
              [("host", .string s.host), ("port", .int port),
               ("backend", .string s.backend.word)] }

def ofAgent (start : Settings.Start) (flags : Agent.Settings.Flags)
    (find : String → Agent.Settings.Found) : Printout :=
  match flags.settings .strict start find with
  | .error refusal => ofRefusal Agent.Settings.flags refusal
  | .ok s =>
      match Agent.Reporter.ofSettings s with
      | .error fault => { errors := "error: " ++ fault.message, code := 1 }
      | .ok _ => { output := line s.fields [("base_url", .string s.baseUrl)] }

end Printout

/-! ### Files and streams -/

/-- The text of a file, if it can be read. -/
def textOf? (path : String) : IO (Option String) := do
  try
    pure (some (← IO.FS.readFile path))
  catch _ => pure none

def settingsFile (path : String) : IO Agent.Settings.Found := do
  try
    pure (.text (← IO.FS.readFile path))
  catch
    | .inappropriateType .. => pure .folder
    | _ => pure .missing

def environment : IO (List (String × String)) := do
  let text := ((← textOf? "/proc/self/environ").getD "").toList
  pure ((text.splitOn '\x00').filterMap fun entry =>
    match entry.span (· ≠ '=') with
    | (_, []) => none
    | (name, _ :: value) => some (String.ofList name, String.ofList value))

/-- Print what there is to print, and give the exit code. -/
def Printout.print (p : Printout) : IO UInt32 := do
  if p.output ≠ "" then IO.println p.output
  if p.errors ≠ "" then IO.eprintln p.errors
  pure p.code

end Telemetry

open Telemetry in
def main (words : List String) : IO UInt32 := do
  let start (words : List String) : IO Settings.Start := do
    pure { words, environment := ← environment, envFile := ← textOf? ".env" }
  match words with
  | "collector" :: words => do (Printout.ofCollector (← start words)).print
  | "agent" :: words =>
      match Agent.Settings.Flags.ofWords words with
      | .error refusal => (Printout.ofRefusal Agent.Settings.flags refusal).print
      | .ok flags => do
          let found ← settingsFile (flags.config.getD "")
          (Printout.ofAgent (← start words) flags fun _ => found).print
  | _ => Printout.print { errors := Printout.usage, code := 2 }
