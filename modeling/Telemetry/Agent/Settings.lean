import Telemetry.Settings
import Telemetry.Yaml.Value

/-!
# Settings of the agent

Besides the environment, the command line and the environment file, an agent takes settings from
a file that the command line names; there, names may be written in any case.  The values of the file
and of the command line are handed by name to a `Library`, which also takes options of its own so.
-/

namespace Telemetry.Agent

inductive Protocol
  | json
  | plain
  deriving DecidableEq

/-- What becomes of batches after one could not be sent. -/
inductive Fallback
  /-- The next report is a batch again. -/
  | retry
  /-- Readings are sent one by one from then on. -/
  | sticky
  deriving DecidableEq

def Protocol.word : Protocol → String
  | json => "json"
  | plain => "plain"

def Fallback.word : Fallback → String
  | retry => "retry"
  | sticky => "sticky"

/-- The settings of an agent. -/
structure Settings where
  address : String
  protocol : Protocol
  /-- Seconds until a request is given up. -/
  timeout : Double
  /-- Seconds between reports. -/
  reportInterval : Int
  /-- Seconds between polls. -/
  pollInterval : Int
  key : String
  fallback : Fallback
  logLevel : String
  deriving DecidableEq

namespace Settings

open Telemetry.Settings

/-- A number of seconds between two events, which is positive. -/
def interval : Raw → Except Fault Int := tested Raw.toInt (fun i => 0 < i) .notGreater

/-- A number of seconds to wait, which is positive. -/
def patience : Raw → Except Fault Double := tested Raw.toDouble Double.isPositive .notGreater

def protocols : List (String × Protocol) := [Protocol.json, .plain].map fun p => (p.word, p)

def fallbacks : List (String × Fallback) := [Fallback.retry, .sticky].map fun f => (f.word, f)

/-- The settings that a source gives, with defaults for the rest.  All faults are reported, in
the order of the fields. -/
def ofSource (given : Source) : Except (List Issue) Settings :=
  let address := field given Raw.toText "address" "localhost:8080"
  let protocol := field given (choice protocols) "protocol" .json
  let timeout := field given patience "request_timeout" (Double.ofInt 5)
  let reportInterval := field given interval "report_interval" 10
  let pollInterval := field given interval "poll_interval" 2
  let key := field given Raw.toText "key" ""
  let fallback := field given (choice fallbacks) "batch_fallback" .retry
  let logLevel := field given Raw.toText "log_level" "INFO"
  match address, protocol, timeout, reportInterval, pollInterval, key, fallback, logLevel with
  | .ok address, .ok protocol, .ok timeout, .ok reportInterval, .ok pollInterval, .ok key,
    .ok fallback, .ok logLevel =>
      .ok { address, protocol, timeout, reportInterval, pollInterval, key, fallback, logLevel }
  | _, _, _, _, _, _, _, _ =>
      .error (Issue.of address ++ Issue.of protocol ++ Issue.of timeout
        ++ Issue.of reportInterval ++ Issue.of pollInterval ++ Issue.of key ++ Issue.of fallback
        ++ Issue.of logLevel)

def fields (s : Settings) : List (String × Raw) :=
  [("address", .text s.address), ("protocol", .text s.protocol.word),
   ("request_timeout", .float s.timeout), ("report_interval", .int s.reportInterval),
   ("poll_interval", .int s.pollInterval), ("key", .text s.key),
   ("batch_fallback", .text s.fallback.word), ("log_level", .text s.logLevel)]

/-- Whether a text has another one in it. -/
def hasPart (part : List Char) : List Char → Bool
  | [] => part.isEmpty
  | c :: rest => part.isPrefixOf (c :: rest) || hasPart part rest

/-- Where the collector is.  An address without a scheme is one of plain HTTP. -/
def baseUrl (s : Settings) : String :=
  if hasPart "://".toList s.address.toList then s.address else "http://" ++ s.address

/-- The key to sign with, if there is one. -/
def signingKey (s : Settings) : Option String := if s.key = "" then none else some s.key

/-! ### The file of settings -/

/-- What is found at the path of a file. -/
inductive Found
  | missing
  | folder
  | text (content : String)

/-- The entries of a mapping under the names of fields.  Of several keys that differ in case
only, the one that came last into the mapping counts. -/
def fieldsOf (entries : List (Yaml.Value × Yaml.Value)) : List (String × Raw) :=
  let texts := entries.filterMap fun e =>
    match e.1 with
    | .text key => some (key, e.2)
    | _ => none
  (Table.ofList texts).entries.map fun e => (Text.lower e.1, e.2.toRaw)

/-- The values that a file gives to fields.  A file that is missing or void gives none. -/
def ofFile (path : String) (found : Found) : Except Refusal (List (String × Raw)) :=
  match found with
  | .missing => .ok []
  | .folder => .error (.folder path)
  | .text content =>
      match Yaml.Value.ofText content with
      | .error .malformed => .error .malformed
      | .error (.badValue message) => .error (.badValue message)
      | .ok (.mapping entries) => .ok (fieldsOf entries)
      | .ok value => if value.isVoid then .ok [] else .error (.noMapping path)

/-! ### Starting -/

def flags : List CommandLine.Flag :=
  [⟨["--config", "-c"], .text "config"⟩, ⟨["-a"], .text "address"⟩,
   ⟨["-r"], .whole "report_interval"⟩, ⟨["-p"], .whole "poll_interval"⟩, ⟨["-k"], .text "key"⟩]

/-- What the command line of an agent says. -/
structure Flags where
  config : Option String
  /-- The values of fields; of two values of a field, the later one counts. -/
  fields : List (String × Raw)

def Flags.ofWords (words : List String) : Except Refusal Flags :=
  match CommandLine.read flags words with
  | .error stop => .error (.stop stop)
  | .ok given =>
      let config :=
        match given.reverse.lookup "config" with
        | some (.text path) => some path
        | _ => none
      .ok ⟨config, given.filter fun e => e.1 ≠ "config"⟩

/-- The library that builds settings from values by name.  It reserves some names for options of
its own, and what it builds if one of them is given is its own affair. -/
structure Library where
  reserves : String → Bool
  build : Start → List (String × Raw) → Except Refusal Settings

/-- The settings from the sources of a start, where files are found by their paths.  An empty
path names no file. -/
def Flags.settings (library : Library) (flags : Flags) (start : Start) (find : String → Found) :
    Except Refusal Settings :=
  let file : Except Refusal (List (String × Raw)) :=
    match flags.config with
    | none => .ok []
    | some path => if path = "" then .ok [] else ofFile path (find path)
  match file with
  | .error refusal => .error refusal
  | .ok fields =>
      let values := fields ++ flags.fields
      if values.any fun e => library.reserves e.1 then library.build start values
      else (ofSource (start.source values)).mapError .invalid

/-- The settings that an agent is started with. -/
def load (library : Library) (start : Start) (find : String → Found) : Except Refusal Settings :=
  match Flags.ofWords start.words with
  | .error refusal => .error refusal
  | .ok flags => flags.settings library start find

/-- The names of the options that settings may be built with. -/
def options : List String :=
  ["_case_sensitive", "_nested_model_default_partial_update", "_env_prefix", "_env_file",
   "_env_file_encoding", "_env_ignore_empty", "_env_nested_delimiter", "_env_nested_max_split",
   "_env_parse_none_str", "_env_parse_enums", "_cli_prog_name", "_cli_parse_args",
   "_cli_settings_source", "_cli_parse_none_str", "_cli_hide_none_type", "_cli_avoid_json",
   "_cli_enforce_required", "_cli_use_class_docs_for_groups", "_cli_exit_on_error", "_cli_prefix",
   "_cli_flag_prefix_char", "_cli_implicit_flags", "_cli_ignore_unknown_args", "_cli_kebab_case",
   "_cli_shortcuts", "_secrets_dir", "__pydantic_self__"]

/-- A library that takes none of its options from a file of settings. -/
def Library.strict : Library where
  reserves := options.contains
  build _ _ := .error (.badValue "an option of the settings is no setting")

end Settings
end Telemetry.Agent
