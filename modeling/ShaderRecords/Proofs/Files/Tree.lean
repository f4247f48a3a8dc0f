/-
ShaderRecords.Proofs.Files.Tree — following paths, and trees that hang together.

A path is followed part by part (`FileTree.enter`). Where it leads, if it leads anywhere, is told by its parts
alone (`Location.after`); the tree only decides whether it gets there. In a well-formed tree whatever there is
lies in a directory, so nothing is found behind what is missing, and the place that a path leads to is always
in a directory. An edit changes what is at one location, and keeps a tree well-formed unless it takes away a
directory or puts something where there is none.
-/
import ShaderRecords.Files.Tree
import ShaderRecords.Proofs.Failure

namespace ShaderRecords

/-! ## Names beside each other -/

/-- A name with something longer than two points behind it does not lead up. -/
theorem append_ne_ups {name suffix : String} (h : 2 < suffix.length) : name ++ suffix ≠ ".." := by
  intro heq
  have hlength := congrArg String.length heq
  rw [String.length_append] at hlength
  have hups : (".." : String).length = 2 := rfl
  omega

namespace Path

variable {p q : Path} {name other : String}

theorem sibling_eq_iff : p.sibling name = q.sibling other ↔ p.parent = q.parent ∧ name = other := by
  constructor
  · intro h
    obtain ⟨hroot, hparts⟩ := Path.mk.inj h
    obtain ⟨hinit, hlast⟩ := List.append_inj' hparts rfl
    exact ⟨by rw [parent, parent, hroot, hinit], List.singleton_inj.mp hlast⟩
  · rintro ⟨hparent, rfl⟩
    obtain ⟨hroot, hinit⟩ := Path.mk.inj hparent
    rw [sibling, sibling, hroot, hinit]

@[simp] theorem name_sibling (p : Path) (name : String) : (p.sibling name).name = name := by
  simp [Path.name, sibling]

@[simp] theorem sibling_sibling (p : Path) (name other : String) :
    (p.sibling name).sibling other = p.sibling other := by
  simp [sibling]

/-- A path in a directory. -/
def below (d : Path) (name : String) : Path :=
  ⟨d.root, d.parts ++ [name]⟩

theorem sibling_eq_below (p : Path) (name : String) : p.sibling name = p.parent.below name := rfl

@[simp] theorem parent_below (d : Path) (name : String) : (d.below name).parent = d := by
  simp [parent, below]

@[simp] theorem name_below (d : Path) (name : String) : (d.below name).name = name := by
  simp [Path.name, below]

/-- A path with parts is a path in its directory. -/
theorem below_parent (hparts : p.parts ≠ []) : p.parent.below p.name = p := by
  rw [below, parent, Path.name, List.getLastD_eq_getLast?, List.getLast?_eq_some_getLast hparts,
    Option.getD_some, List.dropLast_concat_getLast]

/-- A directory is spelled by the front of what a path in it is spelled by, unless it is spelled by a point. -/
theorem display_below (d : Path) (name : String) :
    d.display = "." ∨ ∃ rest, (d.below name).display = d.display ++ rest := by
  have hfront : ∀ parts : List String, ∃ rest,
      "/".intercalate (parts ++ [name]) = "/".intercalate parts ++ rest := by
    intro parts
    induction parts with
    | nil => exact ⟨name, by simp⟩
    | cons part parts ih =>
      cases parts with
      | nil => exact ⟨"/" ++ name, by simp [String.append_assoc]⟩
      | cons next parts =>
        obtain ⟨rest, hrest⟩ := ih
        refine ⟨rest, ?_⟩
        rw [List.cons_append, List.cons_append, String.intercalate_cons_cons, String.intercalate_cons_cons,
          ← List.cons_append, hrest]
        simp only [String.append_assoc]
  unfold display
  by_cases hpoint : d.root = "" ∧ d.parts = []
  · exact .inl (if_pos hpoint)
  · obtain ⟨rest, hrest⟩ := hfront d.parts
    refine .inr ⟨rest, ?_⟩
    rw [if_neg hpoint, if_neg (by simp [below]), String.append_assoc, ← hrest]
    rfl

/-- The path that a file is written to before it takes its place. -/
def draft (p : Path) : Path :=
  p.sibling (p.name ++ ".tmp")

end Path

/-! ## Where parts lead -/

/-- Where parts lead from a location, if there are directories all the way. -/
def Location.after (start : Location) (parts : List String) : Location :=
  parts.foldl (fun loc part => if part = ".." then loc.dropLast else loc ++ [part]) start

namespace Location

variable {start : Location} {part : String} {parts : List String}

theorem after_cons (start : Location) (part : String) (parts : List String) :
    start.after (part :: parts) = (start.after [part]).after parts := rfl

theorem after_append (start : Location) (before rest : List String) :
    start.after (before ++ rest) = (start.after before).after rest :=
  List.foldl_append

theorem after_singleton (h : part ≠ "..") : start.after [part] = start ++ [part] :=
  if_neg h

end Location

namespace FileTree

variable {t t' : FileTree} {p d : Path} {loc next start : Location} {part name : String}
  {parts : List String} {n : FileNode} {n? : Option FileNode}

/-- Where a path starts. -/
def startOf (t : FileTree) (p : Path) : Location :=
  if p.root = "" then t.here else []

/-- Where a path leads after its first parts. -/
def waypoint (t : FileTree) (p : Path) (k : Nat) : Location :=
  (t.startOf p).after (p.parts.take k)

/-- Where a path leads. -/
def locationOf (t : FileTree) (p : Path) : Location :=
  (t.startOf p).after p.parts

/-- One part of a path followed. -/
def enter (t : FileTree) (loc : Location) (part : String) : Except FileCause Location :=
  match t.find? loc with
  | none => .error .notFound
  | some (.file ..) => .error .notDirectory
  | some (.directory mode) =>
    if !(FileNode.directory mode).maySearch then .error .accessDenied
    else if part = ".." then .ok loc.dropLast
    else if part.utf8ByteSize > maxNameBytes then .error .nameTooLong
    else .ok (loc ++ [part])

theorem follow_cons : t.follow loc (part :: parts) = t.enter loc part >>= fun next => t.follow next parts := by
  rw [follow, enter]
  cases t.find? loc with
  | none => rfl
  | some n =>
    cases n with
    | file bytes mode => rfl
    | directory mode =>
      dsimp only
      split
      · rfl
      · split
        · rfl
        · split <;> rfl

theorem follow_append (before rest : List String) :
    t.follow loc (before ++ rest) = t.follow loc before >>= fun next => t.follow next rest := by
  induction before generalizing loc with
  | nil => rfl
  | cons part before ih =>
    rw [List.cons_append, follow_cons, follow_cons]
    cases t.enter loc part with
    | error e => rfl
    | ok next => exact ih

theorem follow_concat : t.follow loc (parts ++ [name]) = t.follow loc parts >>= fun next => t.enter next name := by
  have hlast : ∀ next, t.follow next [name] = t.enter next name := by
    intro next
    rw [follow_cons]
    cases t.enter next name <;> rfl
  simp only [follow_append, hlast]

theorem enter_of_none (h : t.find? loc = none) : t.enter loc part = .error .notFound := by
  rw [enter, h]

/-- Whether there is a directory at a location. -/
def HasDirectory (t : FileTree) (loc : Location) : Prop :=
  ∃ mode, t.find? loc = some (.directory mode)

theorem not_hasDirectory_of_none (h : t.find? loc = none) : ¬t.HasDirectory loc := by
  rintro ⟨mode, hmode⟩
  rw [h] at hmode
  cases hmode

theorem not_hasDirectory_of_file {bytes : ByteArray} {mode : Nat} (h : t.find? loc = some (.file bytes mode)) :
    ¬t.HasDirectory loc := by
  rintro ⟨mode', hmode⟩
  rw [h] at hmode
  cases hmode

/-- Only a directory is entered. -/
theorem enter_eq_ok (h : t.enter loc part = .ok next) : next = loc.after [part] ∧ t.HasDirectory loc := by
  unfold enter at h
  split at h
  · cases h
  · cases h
  · next mode hmode =>
    refine ⟨?_, mode, hmode⟩
    split at h
    · cases h
    · split at h
      · next hups => simpa [Location.after, hups] using h.symm
      · next hups =>
        split at h
        · cases h
        · simpa [Location.after, hups] using h.symm

theorem follow_eq_ok (h : t.follow loc parts = .ok next) : next = loc.after parts := by
  induction parts generalizing loc with
  | nil => exact (Except.ok.inj h).symm
  | cons part parts ih =>
    rw [follow_cons, bind_eq_ok_iff] at h
    obtain ⟨between, hpart, hparts⟩ := h
    rw [Location.after_cons, ← (enter_eq_ok hpart).1]
    exact ih hparts

theorem locate_eq (t : FileTree) (p : Path) : t.locate p =
    if p.display.utf8ByteSize > maxPathBytes then .error .nameTooLong else t.follow (t.startOf p) p.parts := rfl

/-- The directory of a path that can be spelled can be spelled. -/
theorem display_le_of_below (h : (d.below name).display.utf8ByteSize ≤ maxPathBytes) :
    d.display.utf8ByteSize ≤ maxPathBytes := by
  rcases d.display_below name with hpoint | ⟨rest, hrest⟩
  · rw [hpoint]
    decide
  · rw [hrest, String.utf8ByteSize_append] at h
    omega

theorem startOf_congr (h : t.here = t'.here) (p : Path) : t.startOf p = t'.startOf p := by
  rw [startOf, startOf, h]

theorem locationOf_congr (h : t.here = t'.here) (p : Path) : t.locationOf p = t'.locationOf p := by
  rw [locationOf, locationOf, startOf_congr h]

theorem locate_eq_ok (h : t.locate p = .ok loc) : loc = t.locationOf p := by
  rw [locate_eq] at h
  split at h
  · cases h
  · exact follow_eq_ok h

/-- What is found is at the place of its path. -/
theorem node_eq_ok (h : t.node p = .ok (loc, n)) : t.locate p = .ok loc ∧ t.find? loc = some n := by
  unfold node at h
  obtain ⟨place, hlocate, hfind⟩ := bind_eq_ok_iff.mp h
  split at hfind
  next n' hn =>
    obtain ⟨rfl, rfl⟩ := Prod.mk.inj (Except.ok.inj hfind)
    exact ⟨hlocate, hn⟩
  next => cases hfind

theorem file_eq_ok {bytes : ByteArray} {mode : Nat} (h : t.file p = .ok (loc, bytes, mode)) :
    t.node p = .ok (loc, .file bytes mode) := by
  unfold file at h
  obtain ⟨⟨place, n⟩, hnode, h⟩ := bind_eq_ok_iff.mp h
  cases n with
  | directory mode => cases h
  | file bytes mode =>
    obtain ⟨rfl, hfile⟩ := Prod.mk.inj (Except.ok.inj h)
    obtain ⟨rfl, rfl⟩ := Prod.mk.inj hfile
    exact hnode

/-- A file is at the place of its path. -/
theorem locate_of_file {bytes : ByteArray} {mode : Nat} (h : t.file p = .ok (loc, bytes, mode)) :
    t.locate p = .ok loc ∧ ¬t.HasDirectory loc := by
  obtain ⟨hlocate, hfind⟩ := node_eq_ok (file_eq_ok h)
  exact ⟨hlocate, not_hasDirectory_of_file hfind⟩

/-! ## Well-formed trees -/

/-- A tree in which everything lies in a directory, and in which there is a working directory. -/
structure WellFormed (t : FileTree) : Prop where
  parent : ∀ loc n, t.find? loc = some n → t.HasDirectory loc.dropLast
  here : t.HasDirectory t.here

/-- A tree is well-formed if each of its entries lies in a directory, and there is a working directory. -/
theorem wellFormed_of_nodes (hnodes : ∀ entry ∈ t.nodes, t.HasDirectory entry.1.dropLast)
    (hhere : t.HasDirectory t.here) : t.WellFormed where
  parent loc n h := by
    cases loc with
    | nil => exact ⟨_, rfl⟩
    | cons first rest =>
      obtain ⟨before, after, hentries, -⟩ := List.lookup_eq_some_iff.mp h
      exact hnodes _ (hentries ▸ List.mem_append_right _ List.mem_cons_self)
  here := hhere

/-- Nothing is found behind what is missing. -/
theorem WellFormed.find?_append_eq_none (h : t.WellFormed) (hnone : t.find? loc = none) (parts : List String) :
    t.find? (loc ++ parts) = none := by
  induction parts generalizing loc with
  | nil => rwa [List.append_nil]
  | cons part parts ih =>
    rw [List.append_cons]
    refine ih ?_
    by_contra hfound
    obtain ⟨n, hn⟩ := Option.ne_none_iff_exists'.mp hfound
    obtain ⟨mode, hmode⟩ := h.parent _ n hn
    rw [List.dropLast_concat, hnone] at hmode
    cases hmode

/-- Whether a path leads to a directory. -/
def Reaches (t : FileTree) (d : Path) : Prop :=
  ∃ loc, t.locate d = .ok loc ∧ t.HasDirectory loc

theorem WellFormed.hasDirectory_start (h : t.WellFormed) (p : Path) : t.HasDirectory (t.startOf p) := by
  unfold startOf
  split
  · exact h.here
  · exact ⟨_, rfl⟩

/-- The place that a path leads to is in a directory. -/
theorem WellFormed.hasDirectory_parent (h : t.WellFormed) (hlocate : t.locate p = .ok loc) :
    t.HasDirectory loc.dropLast := by
  have hup : ∀ {loc}, t.HasDirectory loc → t.HasDirectory loc.dropLast := fun ⟨_, hmode⟩ => h.parent _ _ hmode
  rw [locate_eq] at hlocate
  split at hlocate
  · cases hlocate
  · rcases List.eq_nil_or_concat' p.parts with hparts | ⟨before, last, hparts⟩
    · rw [hparts] at hlocate
      obtain rfl := follow_eq_ok hlocate
      exact hup (h.hasDirectory_start p)
    · rw [hparts, follow_concat, bind_eq_ok_iff] at hlocate
      obtain ⟨between, -, hlast⟩ := hlocate
      obtain ⟨rfl, hdirectory⟩ := enter_eq_ok hlast
      by_cases hups : last = ".."
      · rw [hups]
        exact hup (hup hdirectory)
      · rw [Location.after_singleton hups, List.dropLast_concat]
        exact hdirectory

/-! ## Edits -/

/-- Whether one tree is another with something else, or nothing, at a location. -/
structure Edits (t : FileTree) (loc : Location) (n? : Option FileNode) (t' : FileTree) : Prop where
  here_eq : t'.here = t.here
  find?_eq : ∀ other, t'.find? other = if other = loc then n? else t.find? other

theorem edits_put (t : FileTree) (n : FileNode) (h : loc ≠ []) : t.Edits loc (some n) (t.put loc n) where
  here_eq := rfl
  find?_eq other := by
    by_cases hother : other = []
    · rw [hother, if_neg (Ne.symm h)]
      rfl
    · exact t.find?_put loc n hother

theorem edits_erase (t : FileTree) (h : loc ≠ []) : t.Edits loc none (t.erase loc) where
  here_eq := rfl
  find?_eq other := by
    by_cases hother : other = []
    · rw [hother, if_neg (Ne.symm h)]
      rfl
    · exact t.find?_erase loc hother

theorem ne_nil_of_not_hasDirectory (h : ¬t.HasDirectory loc) : loc ≠ [] := by
  rintro rfl
  exact h ⟨_, rfl⟩

theorem ne_nil_of_none (h : t.find? loc = none) : loc ≠ [] :=
  ne_nil_of_not_hasDirectory (not_hasDirectory_of_none h)

namespace Edits

/-- Directories elsewhere stay. -/
theorem find?_directory (h : t.Edits loc n? t') (hloc : ¬t.HasDirectory loc) {other : Location} {mode : Nat}
    (hother : t.find? other = some (.directory mode)) : t'.find? other = some (.directory mode) := by
  rw [h.find?_eq, if_neg, hother]
  rintro rfl
  exact hloc ⟨mode, hother⟩

/-- Taking something away makes no directory. -/
theorem not_hasDirectory (h : t.Edits loc none t') {other : Location} (hother : ¬t.HasDirectory other) :
    ¬t'.HasDirectory other := by
  rintro ⟨mode, hmode⟩
  rw [h.find?_eq] at hmode
  split at hmode
  · cases hmode
  · exact hother ⟨mode, hmode⟩

/-- A tree stays well-formed unless a directory is taken away, or something is put where there is none. -/
theorem wellFormed (h : t.Edits loc n? t') (ht : t.WellFormed) (hloc : ¬t.HasDirectory loc)
    (hparent : t.HasDirectory loc.dropLast) : t'.WellFormed where
  parent other n hother := by
    have hstays : ∀ {loc}, t.HasDirectory loc → t'.HasDirectory loc := fun ⟨mode, hmode⟩ =>
      ⟨mode, h.find?_directory hloc hmode⟩
    rw [h.find?_eq] at hother
    split at hother
    next heq => exact heq ▸ hstays hparent
    next => exact hstays (ht.parent _ _ hother)
  here := by
    obtain ⟨mode, hmode⟩ := ht.here
    exact ⟨mode, h.here_eq ▸ h.find?_directory hloc hmode⟩

end Edits

end FileTree

end ShaderRecords
