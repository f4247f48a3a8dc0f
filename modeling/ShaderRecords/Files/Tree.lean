/-
ShaderRecords.Files.Tree — a file system in memory.

A tree holds what is at each location. Paths are followed part by part: every part but the last has to
lead to a directory that may be searched, and two points lead to the directory above. Whoever works on
the tree owns everything in it but the root, so the rights of the owner count. The view of a tree is
`FileTree.find?`; `find?_put` and `find?_erase` say that other locations stay as they are.
-/
import ShaderRecords.Files.Program

namespace ShaderRecords

/-- A directory or a file, with its permissions. -/
inductive FileNode where
  | directory (mode : Nat)
  | file (bytes : ByteArray) (mode : Nat)

namespace FileNode

/-- The permissions of directories unless they are changed. -/
def directoryMode : Nat := 0o755

/-- The permissions of files unless they are changed. -/
def fileMode : Nat := 0o644

/-- The permissions of the root: nothing can be put into it. -/
def rootMode : Nat := 0o555

/-- The permissions. -/
def mode : FileNode → Nat
  | directory m | file _ m => m

/-- The node with other permissions. -/
def withMode (m : Nat) : FileNode → FileNode
  | directory _ => directory m
  | file bytes _ => file bytes m

/-- Whether the node is a directory. -/
def isDirectory : FileNode → Bool
  | directory _ => true
  | file .. => false

/-- Whether the owner may read a file or list a directory. -/
def mayRead (n : FileNode) : Bool :=
  n.mode.testBit 8

/-- Whether the owner may change a file or the entries of a directory. -/
def mayWrite (n : FileNode) : Bool :=
  n.mode.testBit 7

/-- Whether the owner may reach what is in a directory. -/
def maySearch (n : FileNode) : Bool :=
  n.mode.testBit 6

/-- What is seen of a node. -/
def status (n : FileNode) : FileStatus :=
  ⟨n.isDirectory, n.mayWrite⟩

end FileNode

/-- The names from the root to a directory or file. -/
abbrev Location := List String

/-- A file system. -/
structure FileTree where
  /-- What is at each location but the root. -/
  nodes : List (Location × FileNode) := []
  /-- The working directory. -/
  here : Location := []

namespace FileTree

/-- What is at a location; the root is a directory. -/
def find? (t : FileTree) : Location → Option FileNode
  | [] => some (.directory FileNode.rootMode)
  | loc => t.nodes.lookup loc

/-- The tree without what is at a location. -/
def erase (t : FileTree) (loc : Location) : FileTree :=
  { t with nodes := t.nodes.filter fun entry => entry.1 ≠ loc }

/-- The tree with something at a location. -/
def put (t : FileTree) (loc : Location) (n : FileNode) : FileTree :=
  { t with nodes := (loc, n) :: (t.erase loc).nodes }

theorem find?_of_ne_nil (t : FileTree) {loc : Location} (h : loc ≠ []) :
    t.find? loc = t.nodes.lookup loc := by
  cases loc with
  | nil => exact absurd rfl h
  | cons => rfl

theorem lookup_filter_ne (nodes : List (Location × FileNode)) (loc other : Location) :
    (nodes.filter fun entry => entry.1 ≠ loc).lookup other =
      if other = loc then none else nodes.lookup other := by
  induction nodes with
  | nil => simp
  | cons entry nodes ih =>
    obtain ⟨k, n⟩ := entry
    by_cases hk : k = loc
    · subst hk
      by_cases ho : other = k
      · simpa [ho] using ih
      · simpa [ho, List.lookup_cons, beq_false_of_ne ho] using ih
    · by_cases ho : other = k
      · subst ho
        simp [hk]
      · simpa [hk, List.lookup_cons, beq_false_of_ne ho] using ih

/-- Nothing is found at a location that has been cleared, and nothing else has changed. -/
theorem find?_erase (t : FileTree) (loc : Location) {other : Location} (h : other ≠ []) :
    (t.erase loc).find? other = if other = loc then none else t.find? other := by
  rw [find?_of_ne_nil _ h, find?_of_ne_nil _ h]
  exact lookup_filter_ne t.nodes loc other

/-- What has been put at a location is found there, and nothing else has changed. -/
theorem find?_put (t : FileTree) (loc : Location) (n : FileNode) {other : Location} (h : other ≠ []) :
    (t.put loc n).find? other = if other = loc then some n else t.find? other := by
  rw [find?_of_ne_nil _ h]
  by_cases ho : other = loc
  · subst ho
    simp [put]
  · have hf := find?_erase t loc h
    rw [find?_of_ne_nil _ h] at hf
    simp [put, List.lookup_cons, beq_false_of_ne ho, ho, hf]

/-- The number of bytes that a name may have. -/
def maxNameBytes : Nat := 255

/-- The number of bytes that a path may have. -/
def maxPathBytes : Nat := 4095

/-- Follows parts from a location; the last one need not lead to anything. -/
def follow (t : FileTree) (start : Location) : List String → Except FileCause Location
  | [] => .ok start
  | part :: rest =>
    match t.find? start with
    | none => .error .notFound
    | some (.file ..) => .error .notDirectory
    | some (.directory mode) =>
      if !(FileNode.directory mode).maySearch then .error .accessDenied
      else if part = ".." then follow t start.dropLast rest
      else if part.utf8ByteSize > maxNameBytes then .error .nameTooLong
      else follow t (start ++ [part]) rest

/-- The location that a path leads to. -/
def locate (t : FileTree) (p : Path) : Except FileCause Location :=
  if p.display.utf8ByteSize > maxPathBytes then .error .nameTooLong
  else t.follow (if p.root = "" then t.here else []) p.parts

/-- What a path leads to. -/
def node (t : FileTree) (p : Path) : Except FileCause (Location × FileNode) := do
  let loc ← t.locate p
  match t.find? loc with
  | some n => return (loc, n)
  | none => throw .notFound

/-- The file that a path leads to. -/
def file (t : FileTree) (p : Path) : Except FileCause (Location × ByteArray × Nat) := do
  match ← t.node p with
  | (_, .directory _) => throw .isDirectory
  | (loc, .file bytes mode) => return (loc, bytes, mode)

/-- Fails unless a node gives a right. -/
def grant (may : Bool) : Except FileCause Unit :=
  if may then .ok () else .error .accessDenied

/-- Fails unless the directory that a location is in may be changed. -/
def grantChange (t : FileTree) (loc : Location) : Except FileCause Unit :=
  grant ((t.find? loc.dropLast).all fun n => n.mayWrite && n.maySearch)

/-- Whether every directory on the way from one location to another, which lies below it, may be listed. -/
def isListed (t : FileTree) (top loc : Location) : Bool :=
  (List.range loc.length).all fun n =>
    n < top.length || (t.find? (loc.take n)).all FileNode.mayRead

/-- All that is below a location, as far as directories may be listed. It must be possible to reach it, and
to read the files among it that are asked for. -/
def listing (t : FileTree) (top : Location) (wanted : Location → Bool) :
    Except FileCause (List (Location × FileNode)) :=
  (t.nodes.filter fun (loc, _) => top.isPrefixOf loc && loc ≠ top && t.isListed top loc).mapM
    fun (loc, n) => do
      grant ((t.find? loc.dropLast).all FileNode.maySearch)
      grant (n.isDirectory || !wanted loc || n.mayRead)
      return (loc, n)

/-- What a command brings, and the tree after it. -/
def execute (t : FileTree) : (c : FileCommand) → Except FileCause (c.Result × FileTree)
  | .status p => do return ((← t.node p).2.status, t)
  | .read p => do
    let (_, n) ← t.node p
    grant n.mayRead
    return ((← t.file p).2.1, t)
  | .makeDirectory p => do
    let loc ← t.locate p
    match t.find? loc with
    | some _ => throw .alreadyExists
    | none =>
      t.grantChange loc
      return ((), t.put loc (.directory FileNode.directoryMode))
  | .clear p => do
    let loc ← t.locate p
    match t.find? loc with
    | some (.directory _) => throw .isDirectory
    | some (.file bytes mode) =>
      grant (FileNode.file bytes mode).mayWrite
      return ((), t.put loc (.file .empty mode))
    | none =>
      t.grantChange loc
      return ((), t.put loc (.file .empty FileNode.fileMode))
  | .append p bytes => do
    let (loc, old, mode) ← t.file p
    return ((), t.put loc (.file (old ++ bytes) mode))
  | .rename source target => do
    let (loc, bytes, mode) ← t.file source
    let place ← t.locate target
    t.grantChange loc
    t.grantChange place
    match t.find? place with
    | some (.directory _) => throw .isDirectory
    | _ => return ((), (t.erase loc).put place (.file bytes mode))
  | .remove p => do
    let (loc, _) ← t.node p
    t.grantChange loc
    let _ ← t.file p
    return ((), t.erase loc)

/-- Answers a command; a command that fails leaves the tree as it is. -/
def handle (c : FileCommand) : StateM FileTree c.Answer := fun t =>
  match t.execute c with
  | .ok (x, t') => (.ok x, t')
  | .error cause => (.error cause, t)

end FileTree

/-- Runs a program on a file system in memory. -/
def FileProgram.runOn {α : Type} (x : FileProgram α) (t : FileTree) : α × FileTree :=
  (x.runWith FileTree.handle).run t

/-- Runs a program that can break down on a file system in memory. -/
def Filing.runOn {α : Type} (x : Filing α) (t : FileTree) : Except Breakdown α × FileTree :=
  (ExceptT.run x).runOn t

end ShaderRecords
