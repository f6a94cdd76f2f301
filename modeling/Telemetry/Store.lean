import Telemetry.Contents
import Telemetry.Disk
import Telemetry.Lock
import Telemetry.Retry

/-!
# Stores

A store is known by its calls.  `Store.Call` lists them, `Store.Error` says how one can fail,
and every backend is a function that answers each call by a dialogue over `Store.Question`:
it enters and leaves a lock, looks at its contents and changes them, and takes the steps of
its own medium.
-/

namespace Telemetry.Store

/-! ### Calls -/

/-- Where a store keeps its metrics. -/
inductive Backend
  | memory
  | file
  | relational
  deriving DecidableEq

def Backend.word : Backend → String
  | memory => "memory"
  | file => "file"
  | relational => "relational"

/-- What a store is asked to do. -/
inductive Call
  | updateGauge (name : String) (value : Double)
  | updateCounter (name : String) (delta : Int)
  | setCounter (name : String) (value : Int)
  | getGauge (name : String)
  | getCounter (name : String)
  | getAll
  | save
  /-- See whether the medium answers. -/
  | ping
  deriving DecidableEq

def Call.Result : Call → Type
  | updateGauge .. => Unit
  | updateCounter .. => Unit
  | setCounter .. => Unit
  | getGauge _ => Option Double
  | getCounter _ => Option Int
  | getAll => List Reading
  | save => Unit
  | ping => Unit

/-! ### Errors -/

/-- Why something could not be stored or loaded. -/
inductive Fault
  /-- The snapshot file could not be read. -/
  | unreadable (path : Path) (cause : Disk.Fault)
  /-- The snapshot file holds no snapshot; so many things are wrong with it. -/
  | malformed (path : Path) (issues : Nat)
  /-- The snapshot file could not be written. -/
  | unwritten (path : Path) (cause : Disk.Fault)
  | databaseNotOpened (name : String) (cause : Failure)
  | tablesNotLoaded (cause : Failure)
  /-- The row of one metric could not be written. -/
  | rowNotWritten (kind : Kind) (name : String) (cause : Retry.GivenUp Failure)
  /-- Some of all rows could not be written. -/
  | incomplete (failed total : Nat) (first : Retry.GivenUp Failure)
  | notCommitted (cause : Retry.GivenUp Failure)
  | noAnswer (cause : Failure)
  /-- There is no database to ask. -/
  | noDatabase (backend : Backend)
  /-- The store does not take this name. -/
  | refused (name : String)
  deriving DecidableEq

def validationText (issues : Nat) : String :=
  toString issues ++ " validation error" ++ (if issues = 1 then "" else "s") ++ " for list[Metric]"

def Fault.message : Fault → String
  | unreadable path cause =>
      "failed to load metrics from " ++ path.toText ++ ": " ++ cause.message
  | malformed path issues =>
      "failed to load metrics from " ++ path.toText ++ ": " ++ validationText issues
  | unwritten path cause =>
      "failed to save metrics to " ++ path.toText ++ ": " ++ cause.message
  | databaseNotOpened name cause => "failed to open database " ++ name ++ ": " ++ cause.message
  | tablesNotLoaded cause => "failed to load metrics from database: " ++ cause.message
  | rowNotWritten kind name cause =>
      "failed to save " ++ kind.word ++ " " ++ name ++ ": " ++ cause.message Failure.message
  | incomplete failed total first =>
      toString failed ++ " of " ++ toString total ++ " metrics failed to save: "
        ++ first.message Failure.message
  | notCommitted cause =>
      "failed to commit metrics snapshot: " ++ cause.message Failure.message
  | noAnswer cause => "database ping failed: " ++ cause.message
  | noDatabase backend => backend.word ++ " backend has no database to ping"
  | refused name => "cannot persist " ++ name

inductive Error
  /-- The counter would leave its range. -/
  | overflow (name : String)
  | storage (fault : Fault)
  /-- A failure that no store expects. -/
  | unexpected (failure : Failure)
  deriving DecidableEq

def Error.message : Error → String
  | overflow name => (Invalid.overflow name).message
  | storage fault => fault.message
  | unexpected failure => failure.message

abbrev Call.Answer (call : Call) : Type := Outcome Error call.Result

/-! ### What a store asks -/

/-- What a backend with the steps `S` asks. -/
inductive Question (S : Type)
  /-- Wait for the lock; the answer is false if the wait is cancelled. -/
  | enter (mode : Lock.Mode)
  | leave
  /-- Wait for the turn to write; the answer is false if the wait is cancelled. -/
  | takeTurn
  | endTurn
  | contents
  | setContents (contents : Contents)
  | step (s : S)

def Answer {S : Type} (A : S → Type) : Question S → Type
  | .enter _ => Bool
  | .leave => Unit
  | .takeTurn => Bool
  | .endTurn => Unit
  | .contents => Contents
  | .setContents _ => Unit
  | .step s => A s

abbrev Doing {S : Type} (A : S → Type) (α : Type) : Type := Dialogue (Question S) (Answer A) α

section

variable {S : Type} {A : S → Type} {ε α : Type}

def contents : Doing A Contents := Dialogue.say Question.contents

def setContents (c : Contents) : Doing A Unit := Dialogue.say (Question.setContents c)

def step (s : S) : Doing A (A s) := Dialogue.say (Question.step s)

def locked (mode : Lock.Mode) (body : Doing A (Outcome ε α)) : Doing A (Outcome ε α) := do
  match ← (Dialogue.say (Question.enter mode) : Doing A Bool) with
  | true => do
      let outcome ← body
      (Dialogue.say Question.leave : Doing A Unit)
      pure outcome
  | false => pure .cancelled

def inTurn (body : Doing A (Outcome ε α)) : Doing A (Outcome ε α) := do
  match ← (Dialogue.say Question.takeTurn : Doing A Bool) with
  | true => do
      let outcome ← body
      (Dialogue.say Question.endTurn : Doing A Unit)
      pure outcome
  | false => pure .cancelled

def lookUp (f : Contents → α) : Doing A (Outcome ε α) :=
  locked .read do
    let c ← contents
    pure (.value (f c))

/-- A counter's new sum, if it is within range. -/
def checked (name : String) (sum : Int) : Except Error Int :=
  if InRange sum then .ok sum else .error (.overflow name)

end

/-! ### Alone -/

/-- A store with its contents, and the medium that it works on. -/
structure World (ω : Type) where
  contents : Contents
  medium : ω

/-- Answer the questions of a store that nothing else uses, given what the steps do. -/
def alone {S ω : Type} {A : S → Type} (perform : (s : S) → ω → A s × ω) :
    (q : Question S) → World ω → Answer A q × World ω
  | .enter _, w => (true, w)
  | .leave, w => ((), w)
  | .takeTurn, w => (true, w)
  | .endTurn, w => ((), w)
  | .contents, w => (w.contents, w)
  | .setContents c, w => ((), { w with contents := c })
  | .step s, w => ((perform s w.medium).1, { w with medium := (perform s w.medium).2 })

end Telemetry.Store
