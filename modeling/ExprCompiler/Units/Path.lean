/-!
# Paths

A path leads from the root or from the working directory to a place, one component after the other.
It is shown as it was given, apart from components that say nothing, while the place that it leads
to has one path only, in which no component takes another one back.
-/

namespace ExprCompiler

/-- A path. -/
structure Path where
  /-- Whether it starts at the root and not in the working directory. -/
  isAbsolute : Bool := false
  /-- The names of the directories on the way, and the name of the place itself. -/
  components : List String := []
  deriving DecidableEq, Repr

namespace Path

/-- The pieces of a text between slashes. -/
def pieces : List Char → List (List Char)
  | [] => [[]]
  | c :: rest =>
    if c = '/' then [] :: pieces rest
    else
      match pieces rest with
      | piece :: others => (c :: piece) :: others
      | [] => [[c]]

/-- The path that a text describes; empty pieces and `.` say nothing and are dropped. -/
def ofString (text : String) : Path where
  isAbsolute := text.toList.head? = some '/'
  components :=
    ((pieces text.toList).filter fun piece => piece != [] && piece != ['.']).map .ofList

/-- A path as text. -/
def text (path : Path) : String :=
  if path.isAbsolute then "/" ++ "/".intercalate path.components
  else if path.components.isEmpty then "."
  else "/".intercalate path.components

/-- The path of something in the directory that a path leads to. -/
def child (path : Path) (name : String) : Path :=
  { path with components := path.components ++ [name] }

/-- The path of the directory that a place is in. -/
def parent (path : Path) : Path :=
  { path with components := path.components.dropLast }

/-- The component that leads to the directory above. -/
def upward : String := ".."

/-- Goes on by one component from a place whose components are given from the last to the first. The
directory above the root is the root itself. -/
def follow (isAbsolute : Bool) (place : List String) (component : String) : List String :=
  if component = upward then
    match place with
    | [] => if isAbsolute then [] else [upward]
    | last :: others => if last = upward then component :: place else others
  else component :: place

/-- The one path of the place that a path leads to. -/
def resolved (path : Path) : Path :=
  { path with components := (path.components.foldl (follow path.isAbsolute) []).reverse }

/-- The place of a name in a directory is that name at the place of the directory. -/
theorem resolved_child (path : Path) {name : String} (h : name ≠ upward) :
    (path.child name).resolved = path.resolved.child name := by
  simp [resolved, child, follow, h]

/-- Whether a path leads to a place in the working directory or below it. -/
def isInside (path : Path) : Bool :=
  !path.isAbsolute && path.resolved.components.head? != some upward

end Path

/-- The path of a unit's file in a directory. -/
def unitPath (directory name : String) : Path :=
  (Path.ofString directory).child (name ++ ".py")

end ExprCompiler
