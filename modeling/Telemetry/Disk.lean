import Telemetry.Database
import Telemetry.Text.Quoted
import Telemetry.Text.Utf8

/-!
# The disk

A disk holds folders, files and databases under paths.  Each operation either does what it
says or fails with a `Disk.Fault` and changes nothing; renaming replaces its target in one
step.  Those two facts are all that durable stores rely on.
-/

namespace Telemetry

/-- The way from the root to a file or folder. -/
abbrev Path := List String

namespace Path

def toText (path : Path) : String := String.intercalate "/" path

/-- The folder that holds the target of a path. -/
def parent (path : Path) : Path := path.dropLast

/-- The last name on a path. -/
def name (path : Path) : String := path.getLastD ""

def sibling (path : Path) (name : String) : Path := path.parent ++ [name]

/-- The path below another one, from its text. -/
def below (root : Path) (s : String) : Path :=
  root ++ (s.splitOn "/").filter fun part => part ≠ "" ∧ part ≠ "."

end Path

/-- What a path leads to. -/
inductive Node
  | folder
  | file (content : Bytes)
  | database (content : Database)
  deriving DecidableEq

/-- The folders, files and databases on a disk. -/
structure Disk where
  nodes : Table Path Node
  deriving DecidableEq

namespace Disk

inductive Fault
  | missing (path : Path)
  | alreadyThere (path : Path)
  | notAFolder (path : Path)
  | isFolder (path : Path)
  /-- A file cannot take the place of a folder. -/
  | folderInTheWay (source target : Path)
  /-- Any other failure of the system. -/
  | system (message : String)
  deriving DecidableEq

def Fault.message : Fault → String
  | missing path => "[Errno 2] No such file or directory: " ++ Text.quoted path.toText
  | alreadyThere path => "[Errno 17] File exists: " ++ Text.quoted path.toText
  | notAFolder path => "[Errno 20] Not a directory: " ++ Text.quoted path.toText
  | isFolder path => "[Errno 21] Is a directory: " ++ Text.quoted path.toText
  | folderInTheWay source target =>
      "[Errno 21] Is a directory: " ++ Text.quoted source.toText ++ " -> "
        ++ Text.quoted target.toText
  | system message => message

def withFolder (root : Path) : Disk := ⟨Table.empty.put root .folder⟩

def node? (disk : Disk) (path : Path) : Option Node := disk.nodes.get? path

/-- Put a node at a path, whatever was there. -/
def set (disk : Disk) (path : Path) (node : Node) : Disk := ⟨disk.nodes.put path node⟩

def unset (disk : Disk) (path : Path) : Disk := ⟨disk.nodes.erase path⟩

@[simp] theorem node?_set (disk : Disk) (path other : Path) (node : Node) :
    (disk.set path node).node? other = if path = other then some node else disk.node? other :=
  Table.get?_put _ _ _ _

@[simp] theorem node?_unset (disk : Disk) (path other : Path) :
    (disk.unset path).node? other = if path = other then none else disk.node? other :=
  Table.get?_erase _ _ _

/-- Whether anything is at a path. -/
def occupied (disk : Disk) (path : Path) : Bool := (disk.node? path).isSome

/-- The bytes that a database file starts with. -/
def databaseHeader : Bytes := Utf8.encode "SQLite format 3\x00"

def read (disk : Disk) (path : Path) : Except Fault Bytes :=
  match disk.node? path with
  | some (.file content) => .ok content
  | some (.database _) => .ok databaseHeader
  | some .folder => .error (.isFolder path)
  | none =>
      match disk.node? path.parent with
      | some .folder => .error (.missing path)
      | some _ => .error (.notAFolder path)
      | none => .error (.missing path)

/-- Create a folder in one that is there, unless it is there itself. -/
def makeFolder (disk : Disk) (path : Path) : Except Fault Disk :=
  match disk.node? path with
  | some .folder => .ok disk
  | some _ => .error (.alreadyThere path)
  | none =>
      match disk.node? path.parent with
      | some .folder => .ok (disk.set path .folder)
      | some _ => .error (.notAFolder path)
      | none => .error (.missing path)

/-- Create the folders with some names one in another, below a path. -/
def makeFoldersFrom (disk : Disk) (above : Path) : List String → Except Fault Disk
  | [] => .ok disk
  | [name] => makeFolder disk (above ++ [name])
  | name :: next :: later =>
      match disk.node? (above ++ [name]) with
      | some .folder => makeFoldersFrom disk (above ++ [name]) (next :: later)
      | some _ => .error (.notAFolder (above ++ [name, next]))
      | none => makeFoldersFrom (disk.set (above ++ [name]) .folder) (above ++ [name]) (next :: later)

/-- Create the folder of a path and those that it is in, unless they are there. -/
def makeFolders (disk : Disk) (path : Path) : Except Fault Disk :=
  match path with
  | [] => .ok disk
  | root :: names => makeFoldersFrom disk [root] names

/-- The disk with the folder of a path and those that it is in, where they can be created. -/
def withFolders (disk : Disk) (path : Path) : Disk :=
  match disk.makeFolders path with
  | .ok disk => disk
  | .error _ => disk

/-- Change the database at a path, if there is one. -/
def changeDatabase (disk : Disk) (path : Path) (change : Database → Database) : Disk :=
  match disk.node? path with
  | some (.database d) => disk.set path (.database (change d))
  | _ => disk

/-- Create an empty file, or empty the one that is there. -/
def create (disk : Disk) (path : Path) : Except Fault Disk :=
  match disk.node? path with
  | some .folder => .error (.isFolder path)
  | some _ => .ok (disk.set path (.file []))
  | none =>
      match disk.node? path.parent with
      | some .folder => .ok (disk.set path (.file []))
      | some _ => .error (.notAFolder path)
      | none => .error (.missing path)

def fill (disk : Disk) (path : Path) (content : Bytes) : Except Fault Disk :=
  match disk.node? path with
  | some (.file _) => .ok (disk.set path (.file content))
  | _ => .error (.missing path)

/-- Move a file to a path in one step; a file that is there is replaced. -/
def rename (disk : Disk) (source target : Path) : Except Fault Disk :=
  match disk.node? source with
  | none => .error (.missing source)
  | some node =>
      match disk.node? target with
      | some .folder => .error (.folderInTheWay source target)
      | _ => .ok ((disk.unset source).set target node)

def remove (disk : Disk) (path : Path) : Except Fault Disk :=
  match disk.node? path with
  | none => .error (.missing path)
  | some .folder => .error (.isFolder path)
  | some _ => .ok (disk.unset path)

def removeAll (disk : Disk) (path : Path) : Disk :=
  disk.nodes.entries.foldl (fun disk e => if path.isPrefixOf e.1 then disk.unset e.1 else disk) disk

/-- The names in a folder, in increasing order. -/
def list (disk : Disk) (path : Path) : List String :=
  (disk.nodes.keys.filterMap fun (other : Path) =>
    if other ≠ [] ∧ Path.parent other = path then some (Path.name other) else none).mergeSort
    fun a b => a ≤ b

end Disk
end Telemetry
