import Telemetry.Metric.Wire
import Telemetry.Store
import Telemetry.Text.Blank

/-!
# The file store

The file store keeps its contents and a snapshot of them in a file.  It writes after every
change if it writes at once, and otherwise only when it is told to save.

A snapshot is written to a temporary file next to its target, which is synced and then renamed
over the target; so the file holds a whole snapshot at any moment.  If a write fails after a
change, the contents go back to what they were before it.
-/

namespace Telemetry.Store.File

/-! ### Steps -/

/-- The steps of a file store on its disk. -/
inductive Step
  /-- A new word for the name of a temporary file. -/
  | token
  /-- Whether anything is at a path. -/
  | occupied (path : Path)
  | read (path : Path)
  | makeFolders (path : Path)
  | create (path : Path)
  | fill (path : Path) (content : Bytes)
  | flush (path : Path)
  | sync (path : Path)
  | close (path : Path)
  | rename (source target : Path)
  | remove (path : Path)

def Step.Answer : Step → Type
  | token => String
  | occupied _ => Bool
  | read _ => Outcome Disk.Fault Bytes
  | makeFolders _ => Outcome Disk.Fault Unit
  | create _ => Outcome Disk.Fault Unit
  | fill .. => Outcome Disk.Fault Unit
  | flush _ => Outcome Disk.Fault Unit
  | sync _ => Outcome Disk.Fault Unit
  | close _ => Outcome Disk.Fault Unit
  | rename .. => Outcome Disk.Fault Unit
  | remove _ => Outcome Disk.Fault Unit

def take (s : Step) : Doing Step.Answer s.Answer := step s

/-- The disk after something that may have failed. -/
def settled (disk : Disk) : Except Disk.Fault Disk → Outcome Disk.Fault Unit × Disk
  | .ok disk => (.value (), disk)
  | .error fault => (.failure fault, disk)

def perform (token : String) : (s : Step) → Disk → s.Answer × Disk
  | .token, disk => (token, disk)
  | .occupied path, disk => (disk.occupied path, disk)
  | .read path, disk => (Outcome.ofExcept (disk.read path), disk)
  | .makeFolders path, disk => settled disk (disk.makeFolders path)
  | .create path, disk => settled disk (disk.create path)
  | .fill path content, disk => settled disk (disk.fill path content)
  | .flush _, disk => (.value (), disk)
  | .sync _, disk => (.value (), disk)
  | .close _, disk => (.value (), disk)
  | .rename source target, disk => settled disk (disk.rename source target)
  | .remove path, disk => settled disk (disk.remove path)

/-! ### Writing -/

/-- How a file store works. -/
structure Config where
  path : Path
  /-- Write after every change. -/
  immediate : Bool

def temporary (path : Path) (token : String) : Path :=
  path.sibling ("." ++ path.name ++ "." ++ token ++ ".tmp")

def document (c : Contents) : Bytes := Snapshot.toBytes (some 2) c.records

/-- Do something with an open file, and close it whatever comes of it.  A failure to close
counts before any other outcome. -/
def closing (path : Path) (body : Doing Step.Answer (Outcome Disk.Fault Unit)) :
    Doing Step.Answer (Outcome Disk.Fault Unit) := do
  let outcome ← body
  match ← take (.close path) with
  | .value () => pure outcome
  | other => pure other

/-- Write a temporary file and rename it over the target. -/
def install (target temporary : Path) (content : Bytes) :
    Doing Step.Answer (Outcome Disk.Fault Unit) :=
  (take (.makeFolders target.parent)).andThen fun _ =>
  (take (.create temporary)).andThen fun _ =>
  (closing temporary
    ((take (.fill temporary content)).andThen fun _ =>
    (take (.flush temporary)).andThen fun _ =>
    take (.sync temporary))).andThen fun _ =>
  take (.rename temporary target)

/-- Write a file.  After a failure the temporary file is removed, if it is there. -/
def place (path : Path) (token : String) (content : Bytes) :
    Doing Step.Answer (Outcome Error Unit) := do
  match ← install path (temporary path token) content with
  | .value () => pure (.value ())
  | .cancelled => pure .cancelled
  | .failure fault =>
      match ← take (.remove (temporary path token)) with
      | .cancelled => pure .cancelled
      | _ => pure (.failure (.storage (.unwritten path fault)))

/-- Write a snapshot when it is its turn. -/
def write (path : Path) (c : Contents) : Doing Step.Answer (Outcome Error Unit) := do
  let token ← take .token
  inTurn (place path token (document c))

/-- Change the contents inside the lock, unless the change is refused, and write them at once
if the store does so.  A failed write takes the change back. -/
def change (config : Config) (f : Contents → Except Error Contents) :
    Doing Step.Answer (Outcome Error Unit) :=
  locked .write do
    let before ← contents
    match f before with
    | .error e => pure (.failure e)
    | .ok after => do
        setContents after
        if config.immediate then
          match ← write config.path after with
          | .failure e => do
              setContents before
              pure (.failure e)
          | outcome => pure outcome
        else pure (.value ())

def serve (config : Config) : (call : Call) → Doing Step.Answer call.Answer
  | .updateGauge name value => change config fun c => .ok (c.setGauge name value)
  | .updateCounter name delta =>
      change config fun c => c.setCounter name <$> checked name (c.total name + delta)
  | .setCounter name value => change config fun c => c.setCounter name <$> checked name value
  | .getGauge name => lookUp fun c => c.gauges.get? name
  | .getCounter name => lookUp fun c => c.counters.get? name
  | .getAll => lookUp Contents.snapshot
  | .save => locked .read do
      let c ← contents
      write config.path c
  | .ping => pure (.failure (.storage (.noDatabase .file)))

/-! ### Paths that no file can have -/

/-- Whether a file or folder can have a name: there is no null byte in it. -/
def nameable (name : String) : Bool := !name.toList.contains '\x00'

/-- The failure of a write to a path that no file can have; it is no failure of the disk. -/
abbrev nowhere : Error := .unexpected (.mishap .badValue "embedded null byte")

/-- Make the folders that a file would be in, and fail at the first name that nothing can have. -/
def writeNowhere (path : Path) : Doing Step.Answer (Outcome Error Unit) :=
  inTurn do
    match ← take (.makeFolders (path.parent.takeWhile nameable)) with
    | .cancelled => pure .cancelled
    | _ => pure (.failure nowhere)

/-- Change the contents of a store whose file cannot be there.  Only failures of the disk take a
change back, so this one stays. -/
def changeNowhere (config : Config) (f : Contents → Except Error Contents) :
    Doing Step.Answer (Outcome Error Unit) :=
  locked .write do
    let before ← contents
    match f before with
    | .error e => pure (.failure e)
    | .ok after => do
        setContents after
        if config.immediate then writeNowhere config.path else pure (.value ())

def serveNowhere (config : Config) : (call : Call) → Doing Step.Answer call.Answer
  | .updateGauge name value => changeNowhere config fun c => .ok (c.setGauge name value)
  | .updateCounter name delta =>
      changeNowhere config fun c => c.setCounter name <$> checked name (c.total name + delta)
  | .setCounter name value =>
      changeNowhere config fun c => c.setCounter name <$> checked name value
  | .save => locked .read (writeNowhere config.path)
  | call => serve config call

/-- Serve calls on a path, which may be one that no file can have. -/
def serveAt (config : Config) : (call : Call) → Doing Step.Answer call.Answer :=
  if config.path.all nameable then serve config else serveNowhere config

/-! ### Opening -/

/-- The contents of a snapshot document; a blank one holds nothing. -/
def ofDocument (path : Path) (content : Bytes) : Except Error Contents :=
  if content.all Text.isBlankByte then .ok .empty
  else
    match Snapshot.ofBytes content with
    | .ok records => .ok (Contents.empty.restore records)
    | .error issues => .error (.storage (.malformed path issues.length))

/-- The contents to start with: those of the snapshot file if they are restored and it is
there, and nothing otherwise. -/
def load (path : Path) (restore : Bool) : Doing Step.Answer (Outcome Error Contents) := do
  if restore then
    match ← take (.occupied path) with
    | false => pure (.value .empty)
    | true =>
        match ← take (.read path) with
        | .value content => pure (Outcome.ofExcept (ofDocument path content))
        | .failure fault => pure (.failure (.storage (.unreadable path fault)))
        | .cancelled => pure .cancelled
  else pure (.value .empty)

end Telemetry.Store.File
