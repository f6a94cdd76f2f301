import Telemetry.Ingest
import Telemetry.Settings
import Telemetry.Store.Site

/-!
# Settings of the collector
-/

namespace Telemetry.Collector

def title : String := "Metrics Collector"

def version : String := "1.0.0"

/-- The settings of a collector. -/
structure Settings where
  address : String
  /-- Seconds between saves; zero saves every update. -/
  storeInterval : Int
  filePath : String
  /-- Whether the snapshot is loaded at the start. -/
  restore : Bool
  database : String
  key : String
  policy : BatchPolicy
  logLevel : String
  deriving DecidableEq

namespace Settings

open Telemetry.Settings

/-- A number of seconds that may be zero. -/
def interval : Raw → Except Fault Int := tested Raw.toInt (fun i => 0 ≤ i) .tooSmall

def policies : List (String × BatchPolicy) :=
  [BatchPolicy.continue, .abort].map fun p => (p.word, p)

/-- The settings that a source gives, with defaults for the rest.  All faults are reported, in
the order of the fields. -/
def ofSource (given : Source) : Except (List Issue) Settings :=
  let address := field given Raw.toText "address" "localhost:8080"
  let storeInterval := field given interval "store_interval" 300
  let filePath := field given Raw.toText "file_storage_path" "/tmp/metrics-db.json"
  let restore := field given Raw.toBool "restore" true
  let database := field given Raw.toText "database_dsn" ""
  let key := field given Raw.toText "key" ""
  let policy := field given (choice policies) "batch_apply_policy" .continue
  let logLevel := field given Raw.toText "log_level" "INFO"
  match address, storeInterval, filePath, restore, database, key, policy, logLevel with
  | .ok address, .ok storeInterval, .ok filePath, .ok restore, .ok database, .ok key,
    .ok policy, .ok logLevel =>
      .ok { address, storeInterval, filePath, restore, database, key, policy, logLevel }
  | _, _, _, _, _, _, _, _ =>
      .error (Issue.of address ++ Issue.of storeInterval ++ Issue.of filePath ++ Issue.of restore
        ++ Issue.of database ++ Issue.of key ++ Issue.of policy ++ Issue.of logLevel)

def fields (s : Settings) : List (String × Raw) :=
  [("address", .text s.address), ("store_interval", .int s.storeInterval),
   ("file_storage_path", .text s.filePath), ("restore", .bool s.restore),
   ("database_dsn", .text s.database), ("key", .text s.key),
   ("batch_apply_policy", .text s.policy.word), ("log_level", .text s.logLevel)]

def flags : List CommandLine.Flag :=
  [⟨["-a"], .text "address"⟩, ⟨["-i"], .whole "store_interval"⟩,
   ⟨["-f"], .text "file_storage_path"⟩, ⟨["-r"], .text "restore"⟩,
   ⟨["-d"], .text "database_dsn"⟩, ⟨["-k"], .text "key"⟩]

/-- The settings that a collector is started with. -/
def load (start : Start) : Except Refusal Settings :=
  match CommandLine.read flags start.words with
  | .error stop => .error (.stop stop)
  | .ok given => (ofSource (start.source given)).mapError .invalid

/-- The backend that the settings choose. -/
def backend (s : Settings) : Store.Backend :=
  if s.database ≠ "" then .relational else if s.filePath ≠ "" then .file else .memory

/-- Whether every update is saved at once. -/
def immediate (s : Settings) : Bool := s.storeInterval = 0

/-- The store that the settings ask for; relative paths start at a folder. -/
def store (s : Settings) (folder : Path) : Store.Config :=
  match s.backend with
  | .memory => .memory
  | .file => .file (Path.below folder s.filePath) s.immediate s.restore
  | .relational =>
      .relational (if s.database = ":memory:" then none else some (Path.below folder s.database))

def host (s : Settings) : String :=
  let host := (splitAtLastColon s.address).1
  if host = "" then "0.0.0.0" else host

/-- The port to listen on.  A text of digits that are no decimal digits is a failure. -/
def port (s : Settings) : Except Failure Int :=
  let port := (splitAtLastColon s.address).2
  if port ≠ "" && port.toList.all Text.isDigit then
    match Numeral.anyInt? port with
    | some i => .ok i
    | none =>
        .error (.mishap .badValue
          ("invalid literal for int() with base 10: " ++ Text.quoted port))
  else .ok 8080

/-- The key to sign with, if there is one. -/
def signingKey (s : Settings) : Option String := if s.key = "" then none else some s.key

end Settings
end Telemetry.Collector
