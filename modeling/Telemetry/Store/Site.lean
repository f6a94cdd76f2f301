import Telemetry.Store.Concurrent
import Telemetry.Store.File
import Telemetry.Store.Memory
import Telemetry.Store.Refusing
import Telemetry.Store.Relational

/-!
# A store at work on a disk

A site is a disk with at most one open store on it.  Calls are answered by the store's backend
from the disk, and other programs may change the disk between calls.
-/

namespace Telemetry.Store

inductive Config
  | memory
  /-- A memory store that does not take updates of some names. -/
  | refusing (names : List String)
  /-- A memory store that cannot be listed. -/
  | broken
  | file (path : Path) (immediate restore : Bool)
  /-- A database at a path, or in memory if there is none. -/
  | relational (path : Option Path)

inductive Opened
  | memory (serve : (call : Call) → Doing Memory.Step.Answer call.Answer) (contents : Contents)
  | file (config : File.Config) (contents : Contents)
  | relational (path : Option Path) (contents : Contents) (connection : Connection)

def Opened.backend : Opened → Backend
  | memory .. => .memory
  | file .. => .file
  | relational .. => .relational

/-- A disk with at most one open store on it. -/
structure Site where
  disk : Disk
  store : Option Opened := none
  token : String
  /-- The faults of the attempts to come on a database. -/
  faults : List (Option Failure) := []
  attempts : Nat := 0
  pauses : List Double := []

namespace Site

/-! ### Databases on the disk -/

def cannotOpen : Failure := .database (some 14) "unable to open database file"

/-- The failure to read a file that is no database. -/
def notADatabase : Failure := .database (some 26) "file is not a database"

/-- The database at a path.  A file of at most one byte counts as a new database. -/
def databaseAt (disk : Disk) (path : Path) : Except Failure Database :=
  match disk.node? path with
  | some (.database d) => .ok d
  | some (.file content) => if content.length ≤ 1 then .ok .empty else .error notADatabase
  | some .folder => .error cannotOpen
  | none =>
      match disk.node? path.parent with
      | some .folder => .ok .empty
      | _ => .error cannotOpen

/-- The paths of the files that stand beside an open database. -/
def companions (path : Path) : List Path :=
  [path.sibling (path.name ++ "-shm"), path.sibling (path.name ++ "-wal")]

/-- The connection of an open store, which sees what others have changed on the disk. -/
def connectionAt (disk : Disk) (path : Option Path) (connection : Connection) : Connection :=
  match path with
  | none => connection
  | some path =>
      match disk.node? path with
      | some (.database d) => { connection with committed := d }
      | _ => connection

/-- Leave what is committed on the disk, unless the file has been taken away. -/
def keep (disk : Disk) (path : Option Path) (connection : Connection) : Disk :=
  match path with
  | none => disk
  | some path =>
      match disk.node? path with
      | some (.database _) => disk.set path (.database connection.committed)
      | _ => disk

/-! ### Working with the open store -/

/-- The most rounds that tasks at the same time may take. -/
def rounds : Nat := 1000000

/-- Let tasks work on an open store together; there is no result without one. -/
def gather {α : Type} (tasks : List (Dialogue Call Call.Answer α)) (s : Site) : List α × Site :=
  match s.store with
  | none => ([], s)
  | some (.memory serve contents) =>
      let (results, w) := Crowd.gather (fun (step : Memory.Step) (_ : World Unit) => nomatch step) rounds
        (tasks.map (Dialogue.answerWith serve)) ⟨contents, ()⟩
      (results, { s with store := some (.memory serve w.contents) })
  | some (.file config contents) =>
      let (results, w) := Crowd.gather (fun step w => File.perform s.token step w.medium) rounds
        (tasks.map (Dialogue.answerWith (File.serveAt config))) ⟨contents, s.disk⟩
      (results, { s with store := some (.file config w.contents), disk := w.medium })
  | some (.relational path contents connection) =>
      let medium : Relational.Medium :=
        { connection := connectionAt s.disk path connection, script := s.faults }
      let (results, w) := Crowd.gather (fun step w => Relational.perform step w.medium) rounds
        (tasks.map (Dialogue.answerWith Relational.serve)) ⟨contents, medium⟩
      (results,
        { s with
          store := some (.relational path w.contents w.medium.connection)
          disk := keep s.disk path w.medium.connection
          faults := w.medium.script
          attempts := s.attempts + w.medium.attempts
          pauses := s.pauses ++ w.medium.pauses })

def work {α : Type} (task : Dialogue Call Call.Answer α) (s : Site) : Option α × Site :=
  let (results, s) := s.gather [task]
  (results.head?, s)

/-! ### Opening and closing -/

def openRelational (path : Option Path) (s : Site) : Outcome Error Unit × Site :=
  let name := (path.map Path.toText).getD ":memory:"
  let found : Except Failure Database :=
    match path with
    | none => .ok .empty
    | some path => databaseAt s.disk path
  match found with
  | .error failure => (.failure (.storage (.databaseNotOpened name failure)), s)
  | .ok database =>
      let medium : Relational.Medium := { connection := { committed := database } }
      let (outcome, w) := Dialogue.run (alone Relational.perform) (Relational.openAs name)
        ⟨.empty, medium⟩
      let disk :=
        match path with
        | none => s.disk
        | some path => s.disk.set path (.database w.medium.connection.committed)
      match outcome with
      | .value contents =>
          let disk := (path.elim [] companions).foldl (fun (d : Disk) p => d.set p (.file [])) disk
          (.value (),
            { s with disk, store := some (.relational path contents w.medium.connection) })
      | .failure e => (.failure e, { s with disk })
      | .cancelled => (.cancelled, { s with disk })

/-- Open a store on a site where none is open. -/
def openStore (config : Config) (s : Site) : Outcome Error Unit × Site :=
  match config with
  | .memory => (.value (), { s with store := some (.memory Memory.serve .empty) })
  | .refusing names =>
      (.value (), { s with store := some (.memory (refusing names Memory.serve) .empty) })
  | .broken => (.value (), { s with store := some (.memory (broken Memory.serve) .empty) })
  | .file path immediate restore =>
      let (outcome, w) := Dialogue.run (alone (File.perform s.token)) (File.load path restore)
        ⟨.empty, s.disk⟩
      match outcome with
      | .value contents =>
          (.value (), { s with disk := w.medium, store := some (.file ⟨path, immediate⟩ contents) })
      | .failure e => (.failure e, { s with disk := w.medium })
      | .cancelled => (.cancelled, { s with disk := w.medium })
  | .relational path => openRelational path s

/-- Close the open store without saving. -/
def close (s : Site) : Site :=
  match s.store with
  | some (.relational (some path) _ _) =>
      { s with store := none, disk := (companions path).foldl Disk.unset s.disk }
  | _ => { s with store := none }

end Site
end Telemetry.Store
