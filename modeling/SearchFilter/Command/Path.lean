import SearchFilter.OrderedMap
import SearchFilter.Text.Basic

/-!
# Paths

Paths, and a small tree of files to look them up in. A path is shown without its empty and `.`
steps, but its `..` steps stay: what they lead to depends on the tree.
-/

namespace SearchFilter

/-- What stands in a tree of files. -/
inductive Node where
  | file (content : Text)
  | directory
  deriving DecidableEq

/-- What looking a path up comes to. -/
inductive Lookup where
  | absent
  | found (node : Node)
  /-- A step of the path, or the whole of it, is longer than names may be. -/
  | nameTooLong
  deriving DecidableEq

/-- What every path leads to. -/
abbrev Files := Text → Lookup

namespace Path

/-- The steps of a path that go somewhere. -/
def steps (path : Text) : List Text :=
  (Text.pieces '/' path).filter fun step => !step.isEmpty && step != ['.']

/-- The root that a path starts from: none, one slash, or two slashes kept apart from
    one. Three slashes or more are one. -/
def root : Text → Text
  | '/' :: '/' :: '/' :: _ => ['/']
  | '/' :: '/' :: _ => ['/', '/']
  | '/' :: _ => ['/']
  | _ => []

/-- The bytes of a path, in UTF-8. -/
def size (path : Text) : Nat := (path.map Char.utf8Size).foldl (· + ·) 0

/-- The most bytes that a step may have. -/
def stepLimit : Nat := 255

/-- The most bytes that a path may have. -/
def sizeLimit : Nat := 4095

/-- A path as it is shown. -/
def normalize (path : Text) : Text :=
  let shown := root path ++ List.intercalate ['/'] (steps path)
  if shown.isEmpty then ['.'] else shown

end Path

/-- The files below a working directory, by their path from there. Directories that hold
    a file need no entry of their own. -/
structure FileTree where
  entries : OrderedMap Text Node := []

namespace FileTree

/-- Where a walk through the tree stands. -/
inductive Place where
  /-- In the tree, at the steps from its root. -/
  | inside (steps : List Text)
  /-- Above the tree, where nothing is known but that it is a directory. -/
  | outside

/-- What stands at the end of steps from the root. -/
def nodeAt (tree : FileTree) (steps : List Text) : Option Node :=
  let path := List.intercalate ['/'] steps
  match steps, tree.entries.get? path with
  | [], _ => some .directory
  | _, some node => some node
  | _, none =>
    if tree.entries.keys.any fun key => (Text.dropStart? (path ++ ['/']) key).isSome then
      some .directory
    else none

/-- What stands at a place. -/
def nodeOf (tree : FileTree) : Place → Option Node
  | .inside steps => tree.nodeAt steps
  | .outside => some .directory

/-- Why a walk ends before its last step. -/
inductive Obstacle where
  | absent
  | nameTooLong

/-- One step of a walk. It starts from a directory; an empty step, as behind a slash at
    the end of a path, stays there. -/
def walkStep (tree : FileTree) (place : Place) (step : Text) : Except Obstacle Place :=
  if tree.nodeOf place ≠ some .directory then .error .absent
  else if step.isEmpty || step = ['.'] then .ok place
  else if step = ['.', '.'] then
    match place with
    | .outside => .ok .outside
    | .inside steps => .ok (if steps.isEmpty then .outside else .inside steps.dropLast)
  else if Path.stepLimit < Path.size step then .error .nameTooLong
  else
    match place with
    | .outside => .error .absent
    | .inside steps =>
      let next := steps ++ [step]
      if (tree.nodeAt next).isSome then .ok (.inside next) else .error .absent

/-- What a path leads to. No path has the character zero in it. -/
def lookUp (tree : FileTree) (path : Text) : Lookup :=
  if path.isEmpty || path.contains '\x00' then .absent
  else if Path.sizeLimit < Path.size path then .nameTooLong
  else
    let start := if path.head? = some '/' then Place.outside else .inside []
    match (Text.pieces '/' path).foldlM tree.walkStep start with
    | .error .absent => .absent
    | .error .nameTooLong => .nameTooLong
    | .ok place => (tree.nodeOf place).elim .absent .found

/-- The steps from the root to the entry that a path names, be it there or not. -/
def entrySteps (tree : FileTree) (path : Text) : List Text :=
  let steps := Path.steps path
  match steps.dropLast.foldlM tree.walkStep (.inside []) with
  | .ok (.inside parent) => parent ++ steps.getLast?.toList
  | _ => steps

/-- A tree with a node at a path. -/
def put (tree : FileTree) (path : Text) (node : Node) : FileTree :=
  ⟨tree.entries.put (List.intercalate ['/'] (tree.entrySteps path)) node⟩

/-- A tree without the node at a path. -/
def remove (tree : FileTree) (path : Text) : FileTree :=
  ⟨tree.entries.remove (List.intercalate ['/'] (tree.entrySteps path))⟩

end FileTree

end SearchFilter
