/-!
# Paths

A path is a text; a place is where it leads. Empty components and single dots lead nowhere else, two
dots lead to the directory above. A place is relative to the working directory or to the root, and
the two are never the same: no path leads above the working directory, and no file has two places.
-/

namespace FaultReplay.Disk

/-- A place on the disk, by the names from its root down. -/
structure Place where
  /-- Whether the names start at the root and not at the working directory. -/
  absolute : Bool
  names : List String
  deriving DecidableEq, Repr

namespace Place

/-- The directory a place lies in. -/
def parent (place : Place) : Place :=
  { place with names := place.names.dropLast }

/-- The place one name below. -/
def child (place : Place) (name : String) : Place :=
  { place with names := place.names ++ [name] }

end Place

/-- A path as components, with the place it starts from. -/
structure Route where
  start : Place
  components : List String
  deriving DecidableEq, Repr

/-- The longest name of a file, in bytes. -/
def maxNameBytes : Nat := 255

/-- The longest path that is looked up, in bytes. -/
def maxPathBytes : Nat := 4095

/-- Whether a path can lead anywhere. -/
def isLookedUp (path : String) : Bool :=
  path != "" && !path.toList.contains '\x00' && path.utf8ByteSize ≤ maxPathBytes

/-- The route a path describes. -/
def Route.ofPath (path : String) : Route :=
  { start := ⟨path.toList.head? == some '/', []⟩
    components := (path.toList.splitOn '/').map String.ofList }

end FaultReplay.Disk
