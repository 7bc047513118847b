import SmartCollections.Disk
import SmartCollections.Path

/-!
A disk in memory: folders and files by the names that lead to them. It grants every request that
makes sense.
-/
namespace SmartCollections

inductive DiskEntry where
  | folder
  | file (contents : ByteArray)

/-- The entries of a disk, each with the names that lead to it. The folder where all paths start is
not listed. -/
structure DiskTree where
  entries : List (List String × DiskEntry)

namespace DiskTree

/-- The longest name that a file or folder can have, in bytes. -/
def maxNameLength : Nat := 255

def entry? (tree : DiskTree) (place : List String) : Option DiskEntry :=
  if place.isEmpty then some .folder else tree.entries.lookup place

def put (tree : DiskTree) (place : List String) (entry : DiskEntry) : DiskTree :=
  ⟨(place, entry) :: tree.entries.filter (·.1 ≠ place)⟩

def erase (tree : DiskTree) (place : List String) : DiskTree :=
  ⟨tree.entries.filter (·.1 ≠ place)⟩

/-- Goes a number of steps from a place. The last step may lead to a place without an entry. -/
def walk (tree : DiskTree) (place : List String) : List String → Except DiskFault (List String)
  | [] => .ok place
  | step :: steps =>
    match tree.entry? place with
    | none => .error .notFound
    | some (.file _) => .error .notDirectory
    | some .folder =>
      if step = "." then tree.walk place steps
      else if step = ".." then tree.walk place.dropLast steps
      else if maxNameLength < step.utf8ByteSize then .error .nameTooLong
      else tree.walk (place ++ [step]) steps

/-- The place that a path leads to. -/
def locate (tree : DiskTree) (path : String) : Except DiskFault (List String) :=
  if '\x00' ∈ path.toList then .error (.other "file name contained an unexpected NUL byte")
  else if path.isEmpty then .error .notFound
  else tree.walk (if Path.isAbsolute path then ["/"] else []) (Path.steps path)

def read (tree : DiskTree) (path : String) : Except DiskFault ByteArray := do
  match tree.entry? (← tree.locate path) with
  | some (.file contents) => if Path.namesFolder path then throw .notDirectory else return contents
  | some .folder => throw .isDirectory
  | none => throw .notFound

def write (tree : DiskTree) (path : String) (contents : ByteArray) : Except DiskFault DiskTree := do
  let place ← tree.locate path
  match tree.entry? place with
  | some .folder => throw .isDirectory
  | some (.file _) =>
    if Path.namesFolder path then throw .notDirectory else return tree.put place (.file contents)
  | none =>
    if Path.namesFolder path then throw .isDirectory else return tree.put place (.file contents)

def rename (tree : DiskTree) (source target : String) : Except DiskFault DiskTree := do
  let contents ← tree.read source
  let place ← tree.locate source
  let goal ← tree.locate target
  match tree.entry? goal with
  | some .folder => throw .isDirectory
  | _ =>
    if Path.namesFolder target then throw .notDirectory
    else return (tree.erase place).put goal (.file contents)

/-- Makes the folders that a path leads through, unless they are there. -/
def makeFolders (tree : DiskTree) (path : String) : DiskTree :=
  let place := Path.steps path
  (List.range place.length).foldl (fun tree depth =>
    let place := place.take (depth + 1)
    if (tree.entry? place).isNone then tree.put place .folder else tree) tree

/-- The calls as steps from one state of the disk to the next. A call that fails changes nothing. -/
def disk : Disk (StateM DiskTree) where
  read path := do return (← get).read path
  write path contents := do
    match (← get).write path contents with
    | .ok next => set next; return .ok ()
    | .error fault => return .error fault
  rename source target := do
    match (← get).rename source target with
    | .ok next => set next; return .ok ()
    | .error fault => return .error fault

end DiskTree

end SmartCollections
