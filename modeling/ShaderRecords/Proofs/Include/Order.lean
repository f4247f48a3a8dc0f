/-
ShaderRecords.Proofs.Include.Order — pieces stand in a file in one order, whatever order they are collected in.

The order of a file is made by sorting, and sorting leaves pieces of the same place as they come. So the order in which
pieces are collected does not matter only if no two of them have the same place. `Fragment.layout` writes the order down
without places: section by section, in each section owner by owner, and for each owner kind by kind. In it no two pieces
have the same place (`Fragment.pairwise_layout`), because an owner has a kind at most once and another owner has another
number. Every list of the same pieces therefore is sorted into it (`Fragment.inOrder_eq_layout`).
-/
import Mathlib.Data.Multiset.Bind
import ShaderRecords.Proofs.Include.Record

namespace ShaderRecords

namespace FragmentKind

/-- The kinds of the pieces of types, by the sections of a file. -/
def sections : List (List FragmentKind) :=
  [[defines], [declaration], [accessors, setters, initializers], [debug],
    [packedInclude, packedGetters, packedSetters, packedInitializers, packedDebug]]

/-- Kinds of one section before kinds of another have the lower number. -/
theorem pairwise_sections :
    sections.Pairwise fun kinds kinds' => ∀ k ∈ kinds, ∀ k' ∈ kinds', k.sectionIndex < k'.sectionIndex := by
  decide

/-- The kinds of a section have its number and stand in their order. -/
theorem pairwise_of_mem_sections :
    ∀ kinds ∈ sections, kinds.Pairwise fun k k' => k.sectionIndex = k'.sectionIndex ∧ k.rank < k'.rank := by
  decide

theorem sectionIndex_eq_of_mem_sections :
    ∀ kinds ∈ sections, ∀ k ∈ kinds, ∀ k' ∈ kinds, k.sectionIndex = k'.sectionIndex := by
  decide

theorem sectionIndex_lt_binding : ∀ k ∈ sections.flatten, k.sectionIndex < binding.sectionIndex := by
  decide

end FragmentKind

namespace Fragment

variable {f g : Fragment} {fs gs : List Fragment}

/-! ## Places -/

/-- Whether the place of a piece is before that of another. -/
def Precedes (f g : Fragment) : Prop :=
  f.kind.sectionIndex < g.kind.sectionIndex
    ∨ f.kind.sectionIndex = g.kind.sectionIndex
      ∧ (f.owner < g.owner ∨ f.owner = g.owner ∧ f.kind.rank < g.kind.rank)

theorem before_iff : before f g = true
    ↔ f.kind.sectionIndex < g.kind.sectionIndex
      ∨ f.kind.sectionIndex = g.kind.sectionIndex
        ∧ (f.owner < g.owner ∨ f.owner = g.owner ∧ f.kind.rank ≤ g.kind.rank) := by
  unfold before key
  dsimp only
  split
  · rw [decide_eq_true_iff]
    omega
  · split <;> rw [decide_eq_true_iff] <;> omega

theorem Precedes.before (h : f.Precedes g) : Fragment.before f g = true := by
  unfold Precedes at h
  rw [before_iff]
  omega

theorem Precedes.key_ne (h : f.Precedes g) : f.key ≠ g.key := by
  intro heq
  simp only [key, Prod.mk.injEq] at heq
  unfold Precedes at h
  omega

theorem before_trans (f g k : Fragment) (h : before f g = true) (h' : before g k = true) : before f k = true := by
  rw [before_iff] at h h' ⊢
  omega

theorem before_total (f g : Fragment) : (before f g || before g f) = true := by
  rw [Bool.or_eq_true, before_iff, before_iff]
  omega

theorem key_eq_of_before (h : before f g = true) (h' : before g f = true) : f.key = g.key := by
  rw [before_iff] at h h'
  simp only [key, Prod.mk.injEq]
  omega

/-- Pieces of different places have an order of their own, which every list of them is sorted into. -/
theorem inOrder_eq_of_perm (hperm : fs.Perm gs) (h : gs.Pairwise Precedes) : inOrder fs = gs := by
  have hkeys : (gs.map key).Nodup := List.pairwise_map.mpr (h.imp Precedes.key_ne)
  have hsorted : (inOrder fs).Perm gs := (List.mergeSort_perm fs before).trans hperm
  have hbefore : (inOrder fs).Pairwise fun f g => before f g = true :=
    List.pairwise_mergeSort before_trans before_total fs
  have hbefore' : gs.Pairwise fun f g => before f g = true := h.imp Precedes.before
  refine hsorted.eq_of_pairwise (fun f g hf hg hfg hgf => ?_) hbefore hbefore'
  exact List.inj_on_of_nodup_map hkeys (hsorted.mem_iff.mp hf) hg (key_eq_of_before hfg hgf)

/-! ## Pieces of owners -/

/-- Whether pieces are those of one owner, with some of the kinds in their order. -/
structure AreOf (owner : Int) (kinds : List FragmentKind) (fs : List Fragment) : Prop where
  owner_eq : ∀ f ∈ fs, f.owner = owner
  sublist : (fs.map (·.kind)).Sublist kinds

namespace AreOf

variable {owner : Int} {kinds kinds' : List FragmentKind}

theorem nil : AreOf owner kinds [] :=
  ⟨by simp, List.nil_sublist _⟩

theorem append (h : AreOf owner kinds fs) (h' : AreOf owner kinds' gs) : AreOf owner (kinds ++ kinds') (fs ++ gs) where
  owner_eq f hf := (List.mem_append.mp hf).elim (h.owner_eq f) (h'.owner_eq f)
  sublist := by
    rw [List.map_append]
    exact h.sublist.append h'.sublist

theorem mono (h : AreOf owner kinds fs) (hkinds : kinds.Sublist kinds') : AreOf owner kinds' fs :=
  ⟨h.owner_eq, h.sublist.trans hkinds⟩

theorem nodup (h : AreOf owner kinds fs) (hkinds : kinds.Nodup) : (fs.map (·.kind)).Nodup :=
  hkinds.sublist h.sublist

end AreOf

/-- Whether pieces are those of several types, one behind the other, the first of them with a number of `owner` or
more. -/
structure AreCollected (owner : Int) (groups : List (List Fragment)) : Prop where
  areOf : ∀ fs ∈ groups, ∃ number, owner ≤ number ∧ AreOf number FragmentKind.sections.flatten fs
  lt : groups.Pairwise fun fs gs => ∀ f ∈ fs, ∀ g ∈ gs, f.owner < g.owner

/-- The pieces of types in the order of a file: section by section, in a section type by type, and for a type kind by
kind. -/
def layout (groups : List (List Fragment)) : List Fragment :=
  FragmentKind.sections.flatMap fun kinds => groups.flatMap fun fs => kinds.flatMap fun kind =>
    fs.filter (·.kind = kind)

theorem flatMap_comm_perm {α β γ : Type} (xs : List α) (ys : List β) (f : α → β → List γ) :
    (xs.flatMap fun x => ys.flatMap (f x)).Perm (ys.flatMap fun y => xs.flatMap (f · y)) := by
  rw [← Multiset.coe_eq_coe]
  simp only [← Multiset.coe_bind]
  exact Multiset.bind_bind _ _

/-- Pieces that stand in the order of their kinds are gone through kind by kind. -/
theorem flatMap_filter_kind {kinds : List FragmentKind} (hkinds : kinds.Nodup)
    (h : (fs.map (·.kind)).Sublist kinds) : (kinds.flatMap fun kind => fs.filter (·.kind = kind)) = fs := by
  induction kinds generalizing fs with
  | nil =>
    rw [List.map_eq_nil_iff.mp (List.sublist_nil.mp h)]
    rfl
  | cons kind kinds ih =>
    obtain ⟨hnew, hbehind⟩ := List.nodup_cons.mp hkinds
    rw [List.flatMap_cons]
    obtain hrest | ⟨rest, hfirst, hrest⟩ := List.sublist_cons_iff.mp h
    · have hnone : ∀ f ∈ fs, f.kind ≠ kind := by
        rintro f hf rfl
        exact hnew (hrest.subset (List.mem_map.mpr ⟨f, hf, rfl⟩))
      rw [List.filter_eq_nil_iff.mpr (by simpa using hnone), List.nil_append, ih hbehind hrest]
    · obtain ⟨f, fs, rfl, rfl, rfl⟩ := List.map_eq_cons_iff.mp hfirst
      have hnone : ∀ g ∈ fs, g.kind ≠ f.kind := by
        intro g hg heq
        exact hnew (heq ▸ hrest.subset (List.mem_map.mpr ⟨g, hg, rfl⟩))
      have hothers : (kinds.flatMap fun kind => (f :: fs).filter (·.kind = kind))
          = kinds.flatMap fun kind => fs.filter (·.kind = kind) := by
        refine List.flatMap_congr fun kind hkind => List.filter_cons_of_neg ?_
        have hne : f.kind ≠ kind := fun heq => hnew (heq ▸ hkind)
        simpa using hne
      rw [List.filter_cons_of_pos (by simp), List.filter_eq_nil_iff.mpr (by simpa using hnone), hothers,
        ih hbehind hrest]
      rfl

/-- In the order of a file there are all pieces, each once. -/
theorem layout_perm {owner : Int} {groups : List (List Fragment)} (h : AreCollected owner groups) :
    (layout groups).Perm groups.flatten := by
  have hgroup : ∀ fs ∈ groups, (FragmentKind.sections.flatMap fun kinds => kinds.flatMap fun kind =>
      fs.filter (·.kind = kind)) = fs := by
    intro fs hfs
    obtain ⟨number, -, hof⟩ := h.areOf fs hfs
    have hkinds := flatMap_filter_kind (by decide) hof.sublist
    rwa [List.flatten_eq_flatMap, List.flatMap_assoc] at hkinds
  have hcomm := flatMap_comm_perm FragmentKind.sections groups fun kinds fs =>
    kinds.flatMap fun kind => fs.filter (·.kind = kind)
  rw [List.flatMap_congr hgroup] at hcomm
  exact hcomm.trans (List.Perm.of_eq List.flatten_eq_flatMap.symm)

/-- Of one kind an owner has one piece at most. -/
theorem pairwise_filter_kind (h : (fs.map (·.kind)).Nodup) (kind : FragmentKind) :
    (fs.filter (·.kind = kind)).Pairwise Precedes := by
  refine List.pairwise_filter.mpr ((List.pairwise_map.mp h).imp fun hne hf hg => ?_)
  simp only [decide_eq_true_eq] at hf hg
  exact absurd (hf.trans hg.symm) hne

/-- No two pieces in the order of a file have the same place, and each stands behind those of earlier places. -/
theorem pairwise_layout {owner : Int} {groups : List (List Fragment)} (h : AreCollected owner groups) :
    (layout groups).Pairwise Precedes := by
  refine List.pairwise_flatMap.mpr ⟨fun kinds hkinds => ?sectionwise, ?sections⟩
  case sections =>
    refine FragmentKind.pairwise_sections.imp fun hlt f hf g hg => .inl ?_
    simp only [List.mem_flatMap, List.mem_filter, decide_eq_true_eq] at hf hg
    obtain ⟨_, -, k, hk, -, rfl⟩ := hf
    obtain ⟨_, -, k', hk', -, rfl⟩ := hg
    exact hlt _ hk _ hk'
  case sectionwise =>
    refine List.pairwise_flatMap.mpr ⟨fun fs hfs => ?owner, ?owners⟩
    case owners =>
      refine h.lt.imp fun hlt f hf g hg => .inr ⟨?_, .inl ?_⟩
      · simp only [List.mem_flatMap, List.mem_filter, decide_eq_true_eq] at hf hg
        obtain ⟨k, hk, -, rfl⟩ := hf
        obtain ⟨k', hk', -, rfl⟩ := hg
        exact FragmentKind.sectionIndex_eq_of_mem_sections kinds hkinds _ hk _ hk'
      · obtain ⟨_, -, hf⟩ := List.mem_flatMap.mp hf
        obtain ⟨_, -, hg⟩ := List.mem_flatMap.mp hg
        exact hlt f (List.mem_of_mem_filter hf) g (List.mem_of_mem_filter hg)
    case owner =>
      obtain ⟨number, -, hof⟩ := h.areOf fs hfs
      have hkinds' := hof.nodup (by decide)
      refine List.pairwise_flatMap.mpr ⟨fun kind _ => pairwise_filter_kind hkinds' kind, ?_⟩
      refine (FragmentKind.pairwise_of_mem_sections kinds hkinds).imp fun hlt f hf g hg => ?_
      simp only [List.mem_filter, decide_eq_true_eq] at hf hg
      obtain ⟨hf, rfl⟩ := hf
      obtain ⟨hg, rfl⟩ := hg
      exact .inr ⟨hlt.1, .inr ⟨(hof.owner_eq f hf).trans (hof.owner_eq g hg).symm, hlt.2⟩⟩

/-! ## Pieces of bindings -/

/-- Whether pieces are those of bindings, one for each, the first of them with a number of `owner` or more. -/
structure AreBindings (owner : Int) (fs : List Fragment) : Prop where
  kind_eq : ∀ f ∈ fs, f.kind = .binding
  le_owner : ∀ f ∈ fs, owner ≤ f.owner
  lt : fs.Pairwise fun f g => f.owner < g.owner

theorem pairwise_layout_append {owner number : Int} {groups : List (List Fragment)} {bindings : List Fragment}
    (h : AreCollected owner groups) (hbindings : AreBindings number bindings) :
    (layout groups ++ bindings).Pairwise Precedes := by
  refine List.pairwise_append.mpr ⟨pairwise_layout h, ?_, fun f hf g hg => .inl ?_⟩
  · refine hbindings.lt.imp_of_mem fun {f g} hf hg hlt => .inr ⟨?_, .inl hlt⟩
    rw [hbindings.kind_eq f hf, hbindings.kind_eq g hg]
  · obtain ⟨fs, hfs, hf⟩ := List.mem_flatten.mp ((layout_perm h).mem_iff.mp hf)
    obtain ⟨_, -, hof⟩ := h.areOf fs hfs
    rw [hbindings.kind_eq g hg]
    exact FragmentKind.sectionIndex_lt_binding _ (hof.sublist.subset (List.mem_map.mpr ⟨f, hf, rfl⟩))

/-- Pieces of types and bindings are sorted into one order, however they are listed. -/
theorem inOrder_eq_layout {owner number : Int} {groups : List (List Fragment)} {bindings : List Fragment}
    (h : AreCollected owner groups) (hbindings : AreBindings number bindings)
    (hperm : fs.Perm (groups.flatten ++ bindings)) : inOrder fs = layout groups ++ bindings :=
  inOrder_eq_of_perm (hperm.trans ((layout_perm h).symm.append_right bindings)) (pairwise_layout_append h hbindings)

end Fragment

end ShaderRecords
