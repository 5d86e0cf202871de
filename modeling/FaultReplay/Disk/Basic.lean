import FaultReplay.Disk.Path

/-!
# The disk

Directories, files and a device that takes no bytes, as a value. Reading and writing a path are
functions of the disk. A file can be made only in a directory that exists, and an operation that
fails leaves the disk as it was.
-/

namespace FaultReplay

/-- What is at a place of the disk. -/
inductive Disk.Node where
  | directory
  | file (bytes : ByteArray)
  /-- A device that can be opened for writing and refuses every byte. -/
  | fullDevice

/-- Everything that is on the disk. -/
structure Disk where
  nodes : List (Disk.Place × Disk.Node)

namespace Disk

instance instDecidableEqNode : DecidableEq Node
  | .directory, .directory => isTrue rfl
  | .fullDevice, .fullDevice => isTrue rfl
  | .file a, .file b =>
    -- The instance is named because a larger library brings another one for bytes.
    @decidable_of_iff _ (a = b) ⟨congrArg Node.file, Node.file.inj⟩ (ByteArray.instDecidableEq a b)
  | .directory, .file _ | .directory, .fullDevice => isFalse nofun
  | .file _, .directory | .file _, .fullDevice => isFalse nofun
  | .fullDevice, .directory | .fullDevice, .file _ => isFalse nofun

/-- The disk with nothing on it. -/
def empty : Disk :=
  ⟨[]⟩

/-- What is at a place. The two starting places are directories. -/
def node? (disk : Disk) (place : Place) : Option Node :=
  if place.names = [] then some .directory else disk.nodes.lookup place

/-- Puts a node at a place in place of what is there. -/
def put (disk : Disk) (place : Place) (node : Node) : Disk :=
  ⟨(place, node) :: disk.nodes.filter fun entry => entry.1 != place⟩

/-- Takes away what is at a place. -/
def remove (disk : Disk) (place : Place) : Disk :=
  ⟨disk.nodes.filter fun entry => entry.1 != place⟩

private theorem lookup_filter_ne {place other : Place} (h : other ≠ place)
    (nodes : List (Place × Node)) :
    (nodes.filter fun entry => entry.1 != place).lookup other = nodes.lookup other := by
  induction nodes with
  | nil => rfl
  | cons entry nodes ih =>
    obtain ⟨first, node⟩ := entry
    by_cases same : first = place
    · subst same
      simp [List.lookup_cons, beq_false_of_ne h, ih]
    · simp [List.lookup_cons, same, ih]

theorem node?_put_same (disk : Disk) {place : Place} (inner : place.names ≠ []) (node : Node) :
    (disk.put place node).node? place = some node := by
  simp [node?, put, inner]

theorem node?_put_other (disk : Disk) {place other : Place} (h : other ≠ place) (node : Node) :
    (disk.put place node).node? other = disk.node? other := by
  simp [node?, put, List.lookup_cons, beq_false_of_ne h, lookup_filter_ne h]

/-- Follows components from a directory. All but the last have to lead to directories, and the last
one has to be a name. -/
def follow (disk : Disk) (place : Place) : List String → Option Place
  | [] => none
  | [name] =>
    if name = "" ∨ name = "." ∨ name = ".." ∨ maxNameBytes < name.utf8ByteSize then none
    else some (place.child name)
  | name :: rest =>
    if name = "" ∨ name = "." then disk.follow place rest
    else if name = ".." then
      if place.names = [] ∧ place.absolute = false then none else disk.follow place.parent rest
    else if disk.node? (place.child name) = some .directory then
      disk.follow (place.child name) rest
    else none

/-- The place of the file that a path names, if its directory exists. -/
def locate (disk : Disk) (path : String) : Option Place :=
  if isLookedUp path then
    let route := Route.ofPath path
    disk.follow route.start route.components
  else none

/-- The bytes of the file that a path names. -/
def read? (disk : Disk) (path : String) : Option ByteArray :=
  match (disk.locate path).bind disk.node? with
  | some (.file bytes) => some bytes
  | _ => none

/-- The text of the file that a path names. -/
def readText? (disk : Disk) (path : String) : Option String :=
  (disk.read? path).bind String.fromUTF8?

/-- Replaces the contents of the file that a path names, which is made if needed. -/
def write? (disk : Disk) (path : String) (bytes : ByteArray) : Option Disk :=
  (disk.locate path).bind fun place =>
    match disk.node? place with
    | some .directory => none
    | some .fullDevice => if bytes.isEmpty then some disk else none
    | _ => some (disk.put place (.file bytes))

/-- Where an append failed. -/
inductive AppendFailure where
  /-- The file could not be opened. -/
  | unopened
  /-- The file was opened and took no bytes. -/
  | unwritten
  deriving DecidableEq, Repr

/-- Adds bytes to the end of the file that a path names, which is made if needed. -/
def append (disk : Disk) (path : String) (bytes : ByteArray) : Except AppendFailure Disk :=
  match disk.locate path with
  | none => .error .unopened
  | some place =>
    match disk.node? place with
    | some .directory => .error .unopened
    | some .fullDevice => if bytes.isEmpty then .ok disk else .error .unwritten
    | some (.file before) => .ok (disk.put place (.file (before ++ bytes)))
    | none => .ok (disk.put place (.file bytes))

/-- Deletes the file that a path names. Directories and what does not exist stay. -/
def delete (disk : Disk) (path : String) : Disk :=
  match disk.locate path with
  | none => disk
  | some place =>
    match disk.node? place with
    | some (.file _) => disk.remove place
    | _ => disk

/-- Makes the directory at a place, with all directories above it. -/
def makeDirectoryAt (disk : Disk) (place : Place) : Disk :=
  (List.range place.names.length).foldl
    (fun disk n =>
      let above : Place := { place with names := place.names.take (n + 1) }
      if (disk.node? above).isSome then disk else disk.put above .directory)
    disk

/-- Makes the directory that a path names, with all directories above it. -/
def makeDirectory (disk : Disk) (path : String) : Disk :=
  let route := Route.ofPath path
  disk.makeDirectoryAt
    { route.start with names := route.components.filter fun name => name != "" && name != "." }

end Disk

end FaultReplay
