import Mathlib.Control.Monad.Basic
import Mathlib.Tactic.ByContra
import Mathlib.Tactic.Choose
import Telemetry.Agent.Settings

/-!
# Which source decides a setting

For every setting of an agent there is one source that decides it: the environment if it has the
name of the setting in any case, else the command line, else the last key of the mapping that is the
name in some case, else the environment file, and otherwise the default (`decision`).  What the
other sources have for the setting is never read: an agent has its settings exactly if every
decision is acceptable, and each that is not is reported (`settings_decided`).
-/

namespace Telemetry.Agent.Settings

open Telemetry.Settings

/-! ### The settings one by one -/

/-- The settings of an agent by name, in the order in which they are reported. -/
inductive Setting
  | address
  | protocol
  | timeout
  | reportInterval
  | pollInterval
  | key
  | fallback
  | logLevel
  deriving DecidableEq

namespace Setting

def all : List Setting :=
  [address, protocol, timeout, reportInterval, pollInterval, key, fallback, logLevel]

theorem mem_all (f : Setting) : f ∈ all := by cases f <;> decide

/-- What a setting is. -/
abbrev Value : Setting → Type
  | address | key | logLevel => String
  | protocol => Protocol
  | timeout => Double
  | reportInterval | pollInterval => Int
  | fallback => Fallback

instance : (f : Setting) → DecidableEq f.Value
  | address | key | logLevel => inferInstanceAs (DecidableEq String)
  | protocol => inferInstanceAs (DecidableEq Protocol)
  | timeout => inferInstanceAs (DecidableEq Double)
  | reportInterval | pollInterval => inferInstanceAs (DecidableEq Int)
  | fallback => inferInstanceAs (DecidableEq Fallback)

def name : Setting → String
  | address => "address"
  | protocol => "protocol"
  | timeout => "request_timeout"
  | reportInterval => "report_interval"
  | pollInterval => "poll_interval"
  | key => "key"
  | fallback => "batch_fallback"
  | logLevel => "log_level"

/-- The value of a setting that is acceptable, or what is wrong with it. -/
def read : (f : Setting) → Raw → Except Fault f.Value
  | address | key | logLevel => Raw.toText
  | protocol => choice protocols
  | timeout => patience
  | reportInterval | pollInterval => interval
  | fallback => choice fallbacks

def default : (f : Setting) → f.Value
  | address => "localhost:8080"
  | protocol => .json
  | timeout => Double.ofInt 5
  | reportInterval => (10 : Int)
  | pollInterval => (2 : Int)
  | key => ""
  | fallback => .retry
  | logLevel => "INFO"

/-- The value that a setting has. -/
def of (s : Settings) : (f : Setting) → f.Value
  | address => s.address
  | protocol => s.protocol
  | timeout => s.timeout
  | reportInterval => s.reportInterval
  | pollInterval => s.pollInterval
  | key => s.key
  | fallback => s.fallback
  | logLevel => s.logLevel

/-- Any values make settings. -/
theorem exists_of (value : (f : Setting) → f.Value) : ∃ s : Settings, ∀ f, of s f = value f := by
  refine ⟨⟨value .address, value .protocol, value .timeout, value .reportInterval,
    value .pollInterval, value .key, value .fallback, value .logLevel⟩, fun f => ?_⟩
  cases f <;> rfl

/-- A setting as a source gives it. -/
def asGiven (given : Source) (f : Setting) : Except Issue f.Value :=
  field given f.read f.name f.default

end Setting

/-- The settings of an agent from its settings one by one, or all that is wrong with them. -/
def gather (r : (f : Setting) → Except Issue f.Value) : Except (List Issue) Settings :=
  match r .address, r .protocol, r .timeout, r .reportInterval, r .pollInterval, r .key,
    r .fallback, r .logLevel with
  | .ok address, .ok protocol, .ok timeout, .ok reportInterval, .ok pollInterval, .ok key,
    .ok fallback, .ok logLevel =>
      .ok { address, protocol, timeout, reportInterval, pollInterval, key, fallback, logLevel }
  | _, _, _, _, _, _, _, _ => .error (Setting.all.flatMap fun f => Issue.of (r f))

theorem ofSource_eq (given : Source) : ofSource given = gather fun f => f.asGiven given := by
  unfold ofSource gather
  simp only [Setting.all, List.flatMap_cons, List.flatMap_nil, List.append_nil, List.append_assoc]
  rfl

variable {r : (f : Setting) → Except Issue f.Value}

/-- **There are settings exactly if there is every one of them.** -/
theorem gather_eq_ok_iff {s : Settings} : gather r = .ok s ↔ ∀ f : Setting, r f = .ok (f.of s) := by
  constructor
  · intro h f
    unfold gather at h
    split at h
    next address protocol timeout reportInterval pollInterval key fallback logLevel =>
      cases h
      cases f with
      | address => exact address
      | protocol => exact protocol
      | timeout => exact timeout
      | reportInterval => exact reportInterval
      | pollInterval => exact pollInterval
      | key => exact key
      | fallback => exact fallback
      | logLevel => exact logLevel
    next => cases h
  · intro h
    rw [gather, h .address, h .protocol, h .timeout, h .reportInterval, h .pollInterval, h .key,
      h .fallback, h .logLevel]
    rfl

/-- **Otherwise everything is reported** that is wrong with one of them. -/
theorem gather_eq_error_iff {issues : List Issue} :
    gather r = .error issues
      ↔ issues = Setting.all.flatMap (fun f => Issue.of (r f)) ∧ ∃ f issue, r f = .error issue := by
  constructor
  · intro h
    have bad : ∃ f issue, r f = .error issue := by
      by_contra none
      have fine (f : Setting) : ∃ a, r f = .ok a := by
        cases hf : r f with
        | ok a => exact ⟨a, rfl⟩
        | error issue => exact absurd ⟨f, issue, hf⟩ none
      choose value hvalue using fine
      obtain ⟨s, hs⟩ := Setting.exists_of value
      have gathered : gather r = .ok s := gather_eq_ok_iff.2 fun f => by rw [hvalue, hs]
      cases h.symm.trans gathered
    refine ⟨?_, bad⟩
    unfold gather at h
    split at h
    next => cases h
    next => exact (Except.error.inj h).symm
  · rintro ⟨rfl, f, issue, hf⟩
    cases h : gather r with
    | error issues =>
      unfold gather at h
      split at h
      next => cases h
      next => exact h.symm
    | ok s =>
      have fine := gather_eq_ok_iff.1 h f
      rw [hf] at fine
      cases fine

/-! ### Sources -/

/-- The value of the last entry with a name of some sort. -/
def lastUnder? {α : Type} (sort : String → Bool) (entries : List (String × α)) : Option α :=
  (entries.filter fun e => sort e.1).getLast?.map (·.2)

/-- The keys of a mapping that are texts, each of them once, with their values. -/
def keysOf (entries : List (Yaml.Value × Yaml.Value)) : List (String × Yaml.Value) :=
  let texts := entries.filterMap fun e =>
    match e.1 with
    | .text key => some (key, e.2)
    | _ => none
  (Table.ofList texts).entries

/-- The name of a setting in some case. -/
def isName (f : Setting) (name : String) : Bool := Text.lower name = f.name

section

variable {α : Type} (sort : String → Bool) (entries : List (String × α))

theorem find?_reverse :
    (entries.reverse.find? fun e => sort e.1).map (·.2) = lastUnder? sort entries := by
  rw [lastUnder?, ← List.head?_filter, List.filter_reverse, List.head?_reverse]

theorem lastUnder?_append (later : List (String × α)) :
    lastUnder? sort (entries ++ later) = (lastUnder? sort later).or (lastUnder? sort entries) := by
  rw [lastUnder?, List.filter_append, List.getLast?_append, Option.map_or]
  rfl

theorem lastUnder?_map {β : Type} (rename : String → String) (g : α → β) :
    lastUnder? sort (entries.map fun e => (rename e.1, g e.2))
      = (lastUnder? (fun name => sort (rename name)) entries).map g := by
  simp only [lastUnder?, List.filter_map, List.getLast?_map, Option.map_map]
  rfl

end

variable {start : Start} {flags : Flags} {entries : List (Yaml.Value × Yaml.Value)} {f : Setting}

/-- The text that the environment has for a setting. -/
def inEnvironment? (start : Start) (f : Setting) : Option String :=
  lastUnder? (isName f) start.environment

/-- The value that the command line gives a setting. -/
def onCommandLine? (flags : Flags) (f : Setting) : Option Raw :=
  lastUnder? (fun name => name = f.name) flags.fields

/-- The value that a mapping has for a setting, under its name in any case. -/
def inMapping? (entries : List (Yaml.Value × Yaml.Value)) (f : Setting) : Option Raw :=
  (lastUnder? (isName f) (keysOf entries)).map Yaml.Value.toRaw

/-- The text that the environment file has for a setting. -/
def inEnvFile? (start : Start) (f : Setting) : Option String :=
  start.envFile.bind fun text =>
    (lastUnder? (isName f) (EnvFile.entries start.environment text)).join

theorem ofTexts_name (texts : List (String × Option String)) :
    ofTexts texts f.name
      = (lastUnder? (isName f) texts).join.map fun text => ⟨Text.upper f.name, .text text⟩ := by
  have named : (fun e : String × Option String => decide (Text.lower e.1 = f.name))
      = fun e => isName f e.1 := rfl
  rw [← find?_reverse, ofTexts, named]
  cases texts.reverse.find? fun e => isName f e.1 with
  | none => rfl
  | some e =>
    obtain ⟨name, text⟩ := e
    cases text <;> rfl

theorem environmentSource_name :
    start.environmentSource f.name
      = (inEnvironment? start f).map fun text => ⟨Text.upper f.name, .text text⟩ := by
  have last : lastUnder? (isName f) (start.environment.map fun e => (e.1, some e.2))
      = (inEnvironment? start f).map some := lastUnder?_map (isName f) _ id some
  rw [Start.environmentSource, ofTexts_name, last]
  cases inEnvironment? start f <;> rfl

theorem fileSource_name :
    start.fileSource f.name
      = (inEnvFile? start f).map fun text => ⟨Text.upper f.name, .text text⟩ := by
  rw [Start.fileSource, inEnvFile?]
  cases start.envFile with
  | none => rfl
  | some text => exact ofTexts_name _

theorem ofFields_name :
    ofFields (fieldsOf entries ++ flags.fields) f.name
      = ((onCommandLine? flags f).or (inMapping? entries f)).map fun raw => ⟨f.name, raw⟩ := by
  have last := find?_reverse (fun name => name = f.name) (fieldsOf entries ++ flags.fields)
  have mapped : lastUnder? (fun name => name = f.name) (fieldsOf entries) = inMapping? entries f :=
    lastUnder?_map (fun name => name = f.name) (keysOf entries) Text.lower Yaml.Value.toRaw
  rw [lastUnder?_append, mapped] at last
  rw [onCommandLine?, ← last, Option.map_map]
  rfl

/-! ### Decisions -/

/-- What decides a setting, with the value that it has there. -/
inductive Decision
  | environment (text : String)
  | commandLine (raw : Raw)
  | mapping (raw : Raw)
  | envFile (text : String)
  | default

/-- **What decides a setting**: the first of the sources that has it. -/
def decision (start : Start) (flags : Flags) (entries : List (Yaml.Value × Yaml.Value))
    (f : Setting) : Decision :=
  match inEnvironment? start f, onCommandLine? flags f, inMapping? entries f,
    inEnvFile? start f with
  | some text, _, _, _ => .environment text
  | none, some raw, _, _ => .commandLine raw
  | none, none, some raw, _ => .mapping raw
  | none, none, none, some text => .envFile text
  | none, none, none, none => .default

/-- The value that a setting gets by a decision, if it is acceptable. -/
def Decision.value (f : Setting) : Decision → Except Fault f.Value
  | environment text => f.read (.text text)
  | commandLine raw => f.read raw
  | mapping raw => f.read raw
  | envFile text => f.read (.text text)
  | default => .ok f.default

/-- The name under which a setting is reported: its own if the command line or the mapping has it as
well, and otherwise that of a variable. -/
def reportedAs (flags : Flags) (entries : List (Yaml.Value × Yaml.Value)) (f : Setting) : String :=
  if (onCommandLine? flags f).isSome || (inMapping? entries f).isSome then f.name
  else Text.upper f.name

/-- **Every setting is what its decision makes it**, or is reported. -/
theorem asGiven_eq :
    f.asGiven (start.source (fieldsOf entries ++ flags.fields))
      = ((decision start flags entries f).value f).mapError fun fault =>
          ⟨fault, [.field (reportedAs flags entries f)]⟩ := by
  rw [Setting.asGiven, field, Start.source, layered, given?_cons, given?_cons, given?_cons,
    given?_nil, Option.or_none, environmentSource_name, ofFields_name, fileSource_name]
  unfold decision reportedAs
  cases inEnvironment? start f <;> cases onCommandLine? flags f <;> cases inMapping? entries f <;>
    cases inEnvFile? start f <;> rfl

/-! ### An agent's settings -/

/-- What a file of settings holds: the entries of its mapping, and none if it is missing or void. -/
inductive Holds : Found → List (Yaml.Value × Yaml.Value) → Prop
  | missing : Holds .missing []
  | void {content : String} {value : Yaml.Value} (read : Yaml.Value.ofText content = .ok value)
      (void : value.isVoid = true) : Holds (.text content) []
  | mapping {content : String} {entries : List (Yaml.Value × Yaml.Value)}
      (read : Yaml.Value.ofText content = .ok (.mapping entries)) : Holds (.text content) entries

theorem ofFile_of_holds {found : Found} (holds : Holds found entries) (path : String) :
    ofFile path found = .ok (fieldsOf entries) := by
  cases holds with
  | missing => rfl
  | void read void =>
    rw [ofFile, read]
    split
    next h => cases h
    next h => cases h
    next h =>
      cases h
      cases List.isEmpty_iff.1 void
      rfl
    next h =>
      cases h
      exact if_pos void
  | mapping read => rw [ofFile, read]

/-- What the command line leads to: the entries of the file that it names, if it names one. -/
inductive Mapped (flags : Flags) (find : String → Found) : List (Yaml.Value × Yaml.Value) → Prop
  | unnamed (h : flags.config = none ∨ flags.config = some "") : Mapped flags find []
  | named {path : String} {entries : List (Yaml.Value × Yaml.Value)}
      (h : flags.config = some path) (nonempty : path ≠ "") (holds : Holds (find path) entries) :
      Mapped flags find entries

/-- The command line and the mapping give values to no names that a library reserves. -/
def Unreserved (library : Library) (flags : Flags)
    (entries : List (Yaml.Value × Yaml.Value)) : Prop :=
  ∀ e ∈ fieldsOf entries ++ flags.fields, library.reserves e.1 = false

instance (library : Library) (flags : Flags) (entries : List (Yaml.Value × Yaml.Value)) :
    Decidable (Unreserved library flags entries) :=
  inferInstanceAs (Decidable (∀ e ∈ fieldsOf entries ++ flags.fields, library.reserves e.1 = false))

variable {library : Library} {find : String → Found}

/-- What is given comes from the sources of the start and the entries of the mapping. -/
theorem settings_of_mapped (mapped : Mapped flags find entries)
    (unreserved : Unreserved library flags entries) (start : Start) :
    flags.settings library start find
      = (ofSource (start.source (fieldsOf entries ++ flags.fields))).mapError .invalid := by
  have none : ((fieldsOf entries ++ flags.fields).any fun e => library.reserves e.1) = false :=
    List.any_eq_false.2 fun e mem => Bool.eq_false_iff.1 (unreserved e mem)
  unfold Flags.settings
  cases mapped with
  | unnamed h =>
    rcases h with h | h <;> rw [h] <;> exact if_neg (Bool.eq_false_iff.1 none)
  | named h nonempty holds =>
    rw [h]
    dsimp only
    rw [if_neg nonempty, ofFile_of_holds holds]
    exact if_neg (Bool.eq_false_iff.1 none)

/-- What is wrong with settings that are decided in some way. -/
def issues (decided : Setting → Decision) (report : Setting → String) : List Issue :=
  Setting.all.flatMap fun f => Issue.of
    (((decided f).value f).mapError fun fault => ⟨fault, [.field (report f)]⟩)

/-- Settings come of decisions: they have the values decided on, or some of these are reported. -/
structure Decided (decided : Setting → Decision) (report : Setting → String)
    (outcome : Except Refusal Settings) : Prop where
  built : ∀ s, outcome = .ok s ↔ ∀ f, (decided f).value f = .ok (f.of s)
  fails : (∃ refusal, outcome = .error refusal) ↔ ∃ f fault, (decided f).value f = .error fault
  reported : ∀ refusal, outcome = .error refusal → refusal = .invalid (issues decided report)

theorem mapError_eq_ok_iff {ε δ α : Type} {g : ε → δ} {r : Except ε α} {a : α} :
    r.mapError g = .ok a ↔ r = .ok a := by
  cases r with
  | ok => simp [Except.mapError]
  | error => exact ⟨nofun, nofun⟩

theorem mapError_eq_error_iff {ε δ α : Type} {g : ε → δ} {r : Except ε α} {d : δ} :
    r.mapError g = .error d ↔ ∃ e, r = .error e ∧ g e = d := by
  cases r with
  | ok => exact ⟨nofun, nofun⟩
  | error e =>
    constructor
    · rintro ⟨⟩
      exact ⟨e, rfl, rfl⟩
    · rintro ⟨_, ⟨⟩, rfl⟩
      rfl

/-- Settings that are gathered from decisions come of them. -/
theorem decided_gather (decided : Setting → Decision) (report : Setting → String) :
    Decided decided report ((gather fun f =>
      ((decided f).value f).mapError fun fault => ⟨fault, [.field (report f)]⟩).mapError
        .invalid) where
  built := by
    intro s
    simp only [mapError_eq_ok_iff, gather_eq_ok_iff]
  fails := by
    simp only [mapError_eq_error_iff, gather_eq_error_iff]
    constructor
    · rintro ⟨_, _, ⟨-, f, _, fault, bad, -⟩, -⟩
      exact ⟨f, fault, bad⟩
    · rintro ⟨f, fault, bad⟩
      exact ⟨_, _, ⟨rfl, f, _, fault, bad, rfl⟩, rfl⟩
  reported := by
    intro refusal refused
    obtain ⟨_, gathered, rfl⟩ := mapError_eq_error_iff.1 refused
    rw [(gather_eq_error_iff.1 gathered).1]
    rfl

/-- The entries of a mapping that is read. -/
def mapping? : Except Yaml.Fault Yaml.Value → Option (List (Yaml.Value × Yaml.Value))
  | .ok (.mapping entries) => some entries
  | _ => none

theorem mapping?_eq_some {r : Except Yaml.Fault Yaml.Value} (h : mapping? r = some entries) :
    r = .ok (.mapping entries) := by
  unfold mapping? at h
  split at h
  · cases h
    rfl
  · cases h

end Telemetry.Agent.Settings
