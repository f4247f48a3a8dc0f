/-
ShaderRecords.Proofs.Record.Packing — aggressive packing finds the only segmentation.

`pack .aggressive` walks the fields once, keeps one register in progress and never looks back. The main
theorem says that this loses nothing: the walk succeeds exactly where a `Segmentation` exists, and what it
returns is that segmentation, of which there is never a second one.

The induction is on the fields that are left, for every register in progress. Its statement is about
`Continues`: the segmentations of all fields, those in the register in progress included, whose first
register begins with the fields of that one. `continues_cons_iff` splits them by what happens to the next
field, and each branch of the walk is one side of that split.
-/
import ShaderRecords.Proofs.Failure
import ShaderRecords.Proofs.Record.Grouping

namespace ShaderRecords

/-! ## One field more -/

namespace Register

variable {r r' : Register} {f : Field}

theorem checkCompatible_eq_ok_iff : r.checkCompatible f = .ok () ↔ r.Suits f := by
  unfold checkCompatible Suits refuse
  split
  · next h => simp only [reduceCtorEq, false_iff]; tauto
  · next h =>
    split
    · next h' => simp only [reduceCtorEq, false_iff]; omega
    · next h' => simp only [true_iff]; exact ⟨by tauto, by omega⟩

/-- A field may share a formed register if neither keeps a register of its own, it suits the register, and
there is room. -/
theorem Formed.mayShare_append_iff (h : r.Formed) (hsized : ∀ g ∈ r.members ++ [f], g.Sized) :
    MayShare (r.members ++ [f]) ↔
      (r.isShareable = true ∧ f.isShareable = true) ∧ r.Suits f
        ∧ f.rows.toInt + r.rows.toInt ≤ registerWidth := by
  obtain ⟨name, g, gs, -, rfl, hshare⟩ := h.exists_eq_ofGroup
  have hg := (hsized g (by simp)).one_le_cols
  have hf := (hsized f (by simp)).one_le_cols
  rw [toInt_rows_ofGroup, isShareable]
  simp only [members_ofGroup] at hsized ⊢
  constructor
  · intro hall
    have htype := hall.sameType g (by simp) f (by simp)
    have hcols : ∀ x ∈ [g, f], x.cols.toInt = 1 := fun x hx => hall.oneColumn x (by simp at hx ⊢; tauto)
    refine ⟨⟨?_, hall.shareable f (by simp)⟩, ⟨htype, ?_, ?_⟩, ?_⟩
    · exact List.all_eq_true.mpr fun x hx => hall.shareable x (List.mem_append_left _ hx)
    · exact Int.le_of_eq (hcols f (by simp))
    · exact Int.le_of_eq (hcols g (by simp))
    · have hrows := hall.rows_le
      simp only [rowSum_append, rowSum_cons, rowSum_nil] at hrows ⊢
      omega
  · rintro ⟨⟨hheld, hf'⟩, ⟨htype, hcol, hcol'⟩, hrows⟩
    have hheld' := List.all_eq_true.mp hheld
    have hcol' : g.cols.toInt ≤ 1 := hcol'
    -- The fields behind the first one are there only in a register that is shared already.
    have hrest : ∀ x ∈ gs, x.SameType g ∧ x.cols.toInt = 1 := by
      intro x hx
      have hgs := hshare (List.ne_nil_of_mem hx)
      exact ⟨hgs.sameType g rfl x hx, hgs.oneColumn x (List.mem_cons_of_mem _ hx)⟩
    refine ⟨?_, ?_, ?_, ?_⟩
    · intro x hx
      rcases List.mem_append.mp hx with hx | hx
      · exact hheld' x hx
      · rw [List.mem_singleton.mp hx]
        exact hf'
    · intro y hy x hx
      obtain rfl : g = y := by simpa using hy
      rcases List.mem_append.mp hx with hx | hx
      · exact (hrest x hx).1
      · rw [List.mem_singleton.mp hx]
        exact htype
    · intro x hx
      simp only [List.cons_append, List.mem_cons, List.mem_append,
        List.not_mem_nil, or_false] at hx
      rcases hx with rfl | hx | rfl
      · omega
      · exact (hrest x hx).2
      · omega
    · simp only [rowSum_append, rowSum_cons, rowSum_nil] at hrows ⊢
      omega

/-- What a merge makes of a register and one more field. -/
theorem merge_eq_ok_iff :
    r.merge f = .ok r' ↔
      r.Suits f ∧ f.rows.toInt + r.rows.toInt ≤ registerWidth
        ∧ ∃ name, joinNames r.name f.name = .ok name
          ∧ { r with
              name := name
              rows := .number (r.rows.toInt + f.rows.toInt)
              members := r.members ++ [f]
              offsets := r.offsets ++ [r.elementCount] } = r' := by
  rw [← checkCompatible_eq_ok_iff]
  unfold merge
  cases hcheck : r.checkCompatible f with
  | error e => simp
  | ok u =>
    by_cases hroom : f.rows.toInt + r.rows.toInt > registerWidth
    · simp [hroom, Int.not_le.mpr hroom]
    · cases hname : joinNames r.name f.name <;> simp [hroom, Int.not_lt.mp hroom]

/-- Merging a field into a formed register succeeds where the field may share it, and makes the register of
the longer group. -/
theorem Formed.merge_eq_ok_iff (h : r.Formed) (hsized : ∀ g ∈ r.members ++ [f], g.Sized)
    (hr : r.isShareable = true) (hf : f.isShareable = true) :
    r.merge f = .ok r' ↔
      MayShare (r.members ++ [f]) ∧ ofGroup? (r.members ++ [f]) = some r' := by
  rw [Register.merge_eq_ok_iff, h.mayShare_append_iff hsized]
  simp only [hr, hf, and_self, true_and, and_assoc]
  refine and_congr_right fun hsuits => and_congr_right fun hroom => ?_
  have hshare := (h.mayShare_append_iff hsized).mpr ⟨⟨hr, hf⟩, hsuits, hroom⟩
  obtain ⟨name, g, gs, hname, rfl, -⟩ := h.exists_eq_ofGroup
  have hcount := elementCount_ofGroup (hshare.shareable g (by simp)) (hshare.oneColumn g (by simp))
    name gs
  have hgroup : ofGroup? ((ofGroup name g gs).members ++ [f])
      = (groupName? (g :: (gs ++ [f]))).map fun joined => ofGroup joined g (gs ++ [f]) := rfl
  have hjoined := groupName?_append_singleton (List.cons_ne_nil g gs) hname f
  have hrows := groupRows_append_singleton (List.cons_ne_nil g gs) f
  have hoffsets := groupOffsets_append_singleton (g :: gs) f
  rw [List.cons_append] at hrows hoffsets
  simp only [List.cons_append] at hjoined
  rw [hgroup, Option.map_eq_some_iff, hcount, toInt_rows_ofGroup]
  simp only [hjoined, ofGroup, hrows, hoffsets, List.cons_append]

end Register

/-! ## Segmentations whose first register is in progress -/

/-- The segmentations of the fields of a register and those that follow, whose first register begins with
the fields of that register. -/
def Continues (r : Register) (fields : List Field) (registers : List Register) : Prop :=
  Segmentation (r.members ++ fields) registers
    ∧ ∃ s ∈ registers.head?, r.members <+: s.members

theorem segmentation_nil_iff {fields : List Field} : Segmentation fields [] ↔ fields = [] := by
  constructor
  · intro h
    exact h.members.symm
  · rintro rfl
    exact ⟨⟨rfl, by simp⟩, by simp⟩

/-- The first field of formed registers is the first field of the first one. -/
theorem head?_flatMap_members {registers : List Register} (h : ∀ r ∈ registers, r.Formed) :
    (registers.flatMap (·.members)).head? = registers.head?.bind (·.members.head?) := by
  cases registers with
  | nil => rfl
  | cons r rest =>
    rw [List.flatMap_cons, List.head?_append_of_ne_nil _ (h r (by simp)).members_ne_nil]
    rfl

/-- A segmentation is a formed register and a segmentation of the fields behind it, before the first of
which that register may end. -/
theorem segmentation_cons_iff {fields : List Field} {s : Register} {rest : List Register} :
    Segmentation fields (s :: rest) ↔
      s.Formed ∧ ∃ tail, fields = s.members ++ tail ∧ Segmentation tail rest
        ∧ ∀ f ∈ tail.head?, s.ClosesBefore f := by
  constructor
  · rintro ⟨⟨hmembers, hformed⟩, hchain⟩
    have hrest : ∀ t ∈ rest, t.Formed := fun t ht => hformed t (List.mem_cons_of_mem _ ht)
    rw [List.isChain_cons] at hchain
    refine ⟨hformed s (by simp), rest.flatMap (·.members), ?_, ⟨⟨rfl, hrest⟩, hchain.2⟩, ?_⟩
    · rw [← hmembers, List.flatMap_cons]
    intro f hf
    rw [head?_flatMap_members hrest] at hf
    obtain ⟨t, ht, hf⟩ := Option.bind_eq_some_iff.mp hf
    exact hchain.1 t ht f hf
  · rintro ⟨hs, tail, rfl, ⟨⟨hmembers, hformed⟩, hchain⟩, hcloses⟩
    refine ⟨⟨by simp [hmembers], ?_⟩, List.isChain_cons.mpr ⟨?_, hchain⟩⟩
    · intro t ht
      rcases List.mem_cons.mp ht with rfl | ht
      · exact hs
      · exact hformed t ht
    · intro t ht f hf
      refine hcloses f ?_
      rw [← hmembers, head?_flatMap_members hformed]
      exact Option.bind_eq_some_iff.mpr ⟨t, ht, hf⟩

/-- Without fields to follow, the register in progress is the last one. -/
theorem continues_nil_iff {r : Register} (hr : r.Formed) {registers : List Register} :
    Continues r [] registers ↔ [r] = registers := by
  constructor
  · rintro ⟨hseg, s, hs, hprefix⟩
    cases registers with
    | nil => simp at hs
    | cons s' rest =>
      obtain rfl : s' = s := by simpa using hs
      obtain ⟨hformed, tail, hfields, hrest, -⟩ := segmentation_cons_iff.mp hseg
      obtain ⟨more, hmore⟩ := hprefix
      rw [List.append_nil, ← hmore, List.append_assoc, List.self_eq_append_right,
        List.append_eq_nil_iff] at hfields
      obtain ⟨rfl, rfl⟩ := hfields
      rw [List.append_nil] at hmore
      rw [hr.eq_of_members_eq hformed hmore]
      cases rest with
      | nil => rfl
      | cons t rest =>
        obtain ⟨ht, tail, hfields, -⟩ := segmentation_cons_iff.mp hrest
        exact absurd (List.append_eq_nil_iff.mp hfields.symm).1 ht.members_ne_nil
  · rintro rfl
    refine ⟨segmentation_cons_iff.mpr ⟨hr, [], rfl, segmentation_nil_iff.mpr rfl, by simp⟩, r, rfl, ?_⟩
    exact List.prefix_rfl

/-- A segmentation of fields that are there begins with a register of the first one. -/
theorem continues_ofField_iff {f : Field} {fields : List Field} {registers : List Register} :
    Continues (.ofField f) fields registers ↔ Segmentation (f :: fields) registers := by
  refine ⟨fun h => h.1, fun h => ⟨h, ?_⟩⟩
  cases registers with
  | nil => exact absurd (segmentation_nil_iff.mp h) (List.cons_ne_nil f fields)
  | cons s rest =>
    obtain ⟨hs, tail, hfields, -⟩ := segmentation_cons_iff.mp h
    refine ⟨s, rfl, ?_⟩
    cases hm : s.members with
    | nil => exact absurd hm hs.members_ne_nil
    | cons g gs =>
      obtain rfl : f = g := by simpa [hm] using congrArg List.head? hfields
      simp [Register.ofField]

/-- A register that begins with the fields of the one in progress and the next field shows that these may share
one. -/
theorem exists_joined {r s : Register} (hr : r.Formed) (hs : s.Formed) {f : Field} {more : List Field}
    (hsplit : s.members = (r.members ++ [f]) ++ more) (hsized : ∀ g ∈ more, g.Sized) :
    ∃ r', MayShare (r.members ++ [f]) ∧ Register.ofGroup? (r.members ++ [f]) = some r' := by
  have hmerged : s.isMerged = true := by
    have hne := List.length_pos_iff.mpr hr.members_ne_nil
    simp only [Register.isMerged, hsplit, List.length_append, decide_eq_true_eq]
    simp only [List.length_cons, List.length_nil]
    omega
  have hshare : MayShare (r.members ++ [f]) := MayShare.of_append (hsplit ▸ hs.shared hmerged) hsized
  obtain ⟨r', hr'⟩ := Register.ofGroup?_of_append (by simp) (hsplit ▸ hs.group_eq)
  exact ⟨r', hshare, hr'⟩

/-- The next field either begins a register of its own, or it joins the register in progress. -/
theorem continues_cons_iff {r : Register} (hr : r.Formed) {f : Field} {fields : List Field}
    (hsized : ∀ g ∈ r.members ++ f :: fields, g.Sized) {registers : List Register} :
    Continues r (f :: fields) registers ↔
      (r.ClosesBefore f ∧ ∃ rest, Segmentation (f :: fields) rest ∧ r :: rest = registers)
        ∨ ∃ r', (MayShare (r.members ++ [f]) ∧ Register.ofGroup? (r.members ++ [f]) = some r')
          ∧ Continues r' fields registers := by
  constructor
  · rintro ⟨hseg, s, hs, more, hmore⟩
    cases registers with
    | nil => simp at hs
    | cons s' rest =>
      obtain rfl : s' = s := by simpa using hs
      obtain ⟨hformed, tail, hfields, hrest, hcloses⟩ := segmentation_cons_iff.mp hseg
      rw [← hmore, List.append_assoc, List.append_cancel_left_eq] at hfields
      cases more with
      | nil =>
        rw [List.append_nil] at hmore
        obtain rfl := hr.eq_of_members_eq hformed hmore
        obtain rfl : f :: fields = tail := hfields
        exact Or.inl ⟨hcloses f rfl, rest, hrest, rfl⟩
      | cons g more =>
        obtain ⟨rfl, rfl⟩ := List.cons_eq_cons.mp hfields
        have hsplit : s'.members = (r.members ++ [f]) ++ more := by simp [← hmore]
        obtain ⟨r', hshare, hr'⟩ := exists_joined hr hformed hsplit fun g hg => hsized g (by simp [hg])
        refine Or.inr ⟨r', ⟨hshare, hr'⟩, ?_, s', rfl, ?_⟩
        · rw [Register.members_of_ofGroup? hr']
          simpa using hseg
        · rw [Register.members_of_ofGroup? hr', hsplit]
          exact List.prefix_append _ _
  · rintro (⟨hcloses, rest, hrest, rfl⟩ | ⟨r', ⟨hshare, hr'⟩, hseg, s, hs, hprefix⟩)
    · refine ⟨segmentation_cons_iff.mpr ⟨hr, _, rfl, hrest, ?_⟩, r, rfl, List.prefix_rfl⟩
      intro g hg
      obtain rfl : f = g := by simpa using hg
      exact hcloses
    · rw [Register.members_of_ofGroup? hr'] at hseg hprefix
      refine ⟨by simpa using hseg, s, hs, ?_⟩
      exact (List.prefix_append r.members [f]).trans hprefix

/-! ## The walk -/

/-- What the walk does after a register, in the three cases that it tells apart. -/
theorem packAfter_cons_eq_ok_iff {r : Register} {f : Field} {fields : List Field}
    {registers : List Register} :
    packAfter r (f :: fields) = .ok registers ↔
      if r.isFull = true then ∃ rest, packAfter (.ofField f) fields = .ok rest ∧ r :: rest = registers
      else if r.isShareable = true ∧ f.isShareable = true then
        ∃ r', r.merge f = .ok r' ∧ packAfter r' fields = .ok registers
      else r.Suits f ∧ ∃ rest, packAfter (.ofField f) fields = .ok rest ∧ r :: rest = registers := by
  rw [packAfter]
  split
  · simp [bind_eq_ok_iff]
  · by_cases hshare : r.isShareable = true ∧ f.isShareable = true
    · simp [bind_eq_ok_iff, hshare]
    · have hcheck : (∃ u, r.checkCompatible f = .ok u) ↔ r.Suits f := by
        rw [← Register.checkCompatible_eq_ok_iff]
        exact ⟨fun ⟨_, h⟩ => h, fun h => ⟨_, h⟩⟩
      simp [bind_eq_ok_iff, hshare, ← hcheck]

/-- The walk finds the segmentations that continue the register in progress. -/
theorem packAfter_eq_ok_iff {fields : List Field} {registers : List Register} {r : Register}
    (hr : r.Formed) (hsized : ∀ g ∈ r.members ++ fields, g.Sized) :
    packAfter r fields = .ok registers ↔ Continues r fields registers := by
  induction fields generalizing r registers with
  | nil =>
    rw [continues_nil_iff hr, packAfter]
    simp
  | cons f fields ih =>
    have hsized' : ∀ g ∈ r.members ++ [f], g.Sized := fun g hg => hsized g (by simp at hg ⊢; tauto)
    have hfresh : ∀ rest, packAfter (.ofField f) fields = .ok rest ↔ Segmentation (f :: fields) rest := by
      intro rest
      rw [← continues_ofField_iff]
      exact ih (Register.formed_ofField f) fun g hg => hsized g (List.mem_append_right _ hg)
    have hshare := hr.mayShare_append_iff hsized'
    rw [continues_cons_iff hr hsized, packAfter_cons_eq_ok_iff]
    simp only [hfresh]
    split
    · next hfull =>
      have hnot : ¬MayShare (r.members ++ [f]) := fun h => by
        simp [hr.isFull_eq_false hsized' h] at hfull
      simp [hnot, Register.ClosesBefore, hfull]
    · next hfull =>
      split
      · next hboth =>
        have hcloses : ¬r.ClosesBefore f := by simp [Register.ClosesBefore, hfull, hboth]
        simp only [hcloses, false_and, false_or, hr.merge_eq_ok_iff hsized' hboth.1 hboth.2]
        refine exists_congr fun r' => and_congr_right fun ⟨hshared, hgroup⟩ => ?_
        refine ih (Register.formed_of_ofGroup? hgroup hshared) fun g hg => hsized g ?_
        rw [Register.members_of_ofGroup? hgroup] at hg
        simpa using hg
      · next hboth =>
        have hnot : ¬MayShare (r.members ++ [f]) := fun h => hboth (hshare.mp h).1
        simp [hnot, Register.ClosesBefore, hfull, hboth]

/-- Aggressive packing finds the segmentations. -/
theorem pack_aggressive_eq_ok_iff {fields : List Field} (hsized : ∀ f ∈ fields, f.Sized)
    {registers : List Register} :
    pack .aggressive fields = .ok registers ↔ Segmentation fields registers := by
  cases fields with
  | nil =>
    constructor
    · intro h
      obtain rfl : [] = registers := Except.ok.inj h
      exact segmentation_nil_iff.mpr rfl
    · intro h
      cases registers with
      | nil => rfl
      | cons s rest =>
        obtain ⟨hs, tail, hfields, -⟩ := segmentation_cons_iff.mp h
        exact absurd (List.append_eq_nil_iff.mp hfields.symm).1 hs.members_ne_nil
  | cons f fields =>
    rw [← continues_ofField_iff]
    exact packAfter_eq_ok_iff (Register.formed_ofField f) hsized

/-- Both rules of packing give groupings. -/
theorem grouping_of_pack {rules : PackingRules} {fields : List Field}
    (hsized : ∀ f ∈ fields, f.Sized) {registers : List Register}
    (h : pack rules fields = .ok registers) : Grouping fields registers := by
  cases rules with
  | aggressive => exact ((pack_aggressive_eq_ok_iff hsized).mp h).toGrouping
  | exact =>
    obtain rfl : fields.map .ofField = registers := Except.ok.inj h
    refine ⟨by simp [List.flatMap_map, Register.ofField], fun r hr => ?_⟩
    obtain ⟨f, -, rfl⟩ := List.mem_map.mp hr
    exact Register.formed_ofField f

/-! ## What the walk keeps -/

/-- Induction along a walk that succeeds: a field either begins the next register or joins the one in progress. -/
theorem packAfter_induction {motive : Register → List Field → List Register → Prop}
    (last : ∀ r, motive r [] [r])
    (next : ∀ r f fields registers, motive (.ofField f) fields registers → motive r (f :: fields) (r :: registers))
    (join : ∀ r r' f fields registers, r.merge f = .ok r' → motive r' fields registers →
      motive r (f :: fields) registers)
    {r : Register} {fields : List Field} {registers : List Register} (h : packAfter r fields = .ok registers) :
    motive r fields registers := by
  induction fields generalizing r registers with
  | nil =>
    obtain rfl : [r] = registers := Except.ok.inj h
    exact last r
  | cons f fields ih =>
    rw [packAfter_cons_eq_ok_iff] at h
    split at h
    · obtain ⟨rest, hrest, rfl⟩ := h
      exact next r f fields rest (ih hrest)
    · split at h
      · obtain ⟨r', hr', hrest⟩ := h
        exact join r r' f fields registers hr' (ih hrest)
      · obtain ⟨-, rest, hrest, rfl⟩ := h
        exact next r f fields rest (ih hrest)

/-- What holds of registers of one field each, and is kept when a field joins, holds of all registers of a walk. -/
theorem forall_mem_of_packAfter {P : Register → Prop} {fields : List Field} {r : Register}
    {registers : List Register} (hfield : ∀ f ∈ fields, P (.ofField f))
    (hmerge : ∀ r r' : Register, ∀ f ∈ fields, P r → r.merge f = .ok r' → P r') (hr : P r)
    (h : packAfter r fields = .ok registers) : ∀ s ∈ registers, P s := by
  refine packAfter_induction (motive := fun r fields registers => (∀ f ∈ fields, P (.ofField f)) →
    (∀ r r' : Register, ∀ f ∈ fields, P r → r.merge f = .ok r' → P r') → P r → ∀ s ∈ registers, P s)
    ?_ ?_ ?_ h hfield hmerge hr
  · intro r _ _ hr
    simpa using hr
  · intro r f fields registers ih hfield hmerge hr
    obtain ⟨hf, hrest⟩ := List.forall_mem_cons.mp hfield
    exact List.forall_mem_cons.mpr ⟨hr, ih hrest (fun r r' g hg => hmerge r r' g (List.mem_cons_of_mem _ hg)) hf⟩
  · intro r r' f fields registers hr' ih hfield hmerge hr
    exact ih (fun g hg => hfield g (List.mem_cons_of_mem _ hg))
      (fun r r' g hg => hmerge r r' g (List.mem_cons_of_mem _ hg)) (hmerge r r' f (by simp) hr hr')

theorem forall_mem_of_pack {P : Register → Prop} {rules : PackingRules} {fields : List Field}
    {registers : List Register} (hfield : ∀ f ∈ fields, P (.ofField f))
    (hmerge : ∀ r r' : Register, ∀ f ∈ fields, P r → r.merge f = .ok r' → P r')
    (h : pack rules fields = .ok registers) : ∀ r ∈ registers, P r := by
  match rules, fields with
  | .exact, fields =>
    obtain rfl : fields.map .ofField = registers := Except.ok.inj h
    exact List.forall_mem_map.mpr hfield
  | .aggressive, [] =>
    obtain rfl : [] = registers := Except.ok.inj h
    exact List.forall_mem_nil _
  | .aggressive, f :: fields =>
    refine forall_mem_of_packAfter (fun g hg => hfield g (List.mem_cons_of_mem _ hg))
      (fun r r' g hg => hmerge r r' g (List.mem_cons_of_mem _ hg)) (hfield f (by simp)) h

/-- The walk takes the fields in their order. -/
theorem flatMap_members_of_packAfter {r : Register} {fields : List Field} {registers : List Register}
    (h : packAfter r fields = .ok registers) : registers.flatMap (·.members) = r.members ++ fields := by
  refine packAfter_induction (motive := fun r fields registers =>
    registers.flatMap (·.members) = r.members ++ fields) ?_ ?_ ?_ h
  · simp
  · intro r f fields registers ih
    rw [List.flatMap_cons, ih]
    rfl
  · intro r r' f fields registers hmerge ih
    obtain ⟨-, -, name, -, rfl⟩ := Register.merge_eq_ok_iff.mp hmerge
    rw [ih, List.append_assoc]
    rfl

/-- Both rules of packing keep the fields in their order. -/
theorem flatMap_members_of_pack {rules : PackingRules} {fields : List Field} {registers : List Register}
    (h : pack rules fields = .ok registers) : registers.flatMap (·.members) = fields := by
  match rules, fields with
  | .exact, fields =>
    obtain rfl : fields.map .ofField = registers := Except.ok.inj h
    simp [List.flatMap_map, Register.ofField]
  | .aggressive, [] =>
    obtain rfl : [] = registers := Except.ok.inj h
    rfl
  | .aggressive, f :: fields => exact flatMap_members_of_packAfter h

/-! ## Fields that cannot be placed -/

namespace Register

variable {r r' : Register} {f : Field}

theorem unbroken_checkCompatible : Unbroken (r.checkCompatible f) := by
  unfold checkCompatible
  split
  · simp
  · split <;> simp

/-- Where names are texts a merge fails only on a field that cannot be placed. -/
theorem unbroken_merge (hr : r.name.text?.isSome) (hf : f.name.text?.isSome) :
    Unbroken (r.merge f) := by
  obtain ⟨s, hs⟩ := Option.isSome_iff_exists.mp hr
  obtain ⟨t, ht⟩ := Option.isSome_iff_exists.mp hf
  have hname := joinNames_eq_ok_iff.mpr ⟨s, t, hs, ht, rfl⟩
  refine unbroken_checkCompatible.bind fun _ _ => ?_
  simp only [hname]
  by_cases hroom : f.rows.toInt + r.rows.toInt > registerWidth <;> simp [hroom]

theorem text?_name_of_merge (h : r.merge f = .ok r') : r'.name.text?.isSome := by
  obtain ⟨-, -, name, hname, rfl⟩ := merge_eq_ok_iff.mp h
  obtain ⟨s, t, -, -, rfl⟩ := joinNames_eq_ok_iff.mp hname
  rfl

end Register

/-- Where names are texts the walk fails only on a field that cannot be placed. -/
theorem unbroken_packAfter {fields : List Field} {r : Register} (hr : r.name.text?.isSome)
    (h : ∀ f ∈ fields, f.name.text?.isSome) : Unbroken (packAfter r fields) := by
  induction fields generalizing r with
  | nil => exact unbroken_ok _
  | cons f fields ih =>
    have hrest : ∀ g ∈ fields, g.name.text?.isSome := fun g hg => h g (List.mem_cons_of_mem _ hg)
    have hfresh : Unbroken (do return r :: (← packAfter (.ofField f) fields)) :=
      (ih (h f (by simp)) hrest).bind fun _ _ => unbroken_ok _
    rw [packAfter]
    split
    · exact hfresh
    · split
      · refine (Register.unbroken_merge hr (h f (by simp))).bind fun r' hr' => ?_
        exact ih (Register.text?_name_of_merge hr') hrest
      · exact Register.unbroken_checkCompatible.bind fun _ _ => hfresh

theorem unbroken_pack_aggressive {fields : List Field} (h : ∀ f ∈ fields, f.name.text?.isSome) :
    Unbroken (pack .aggressive fields) := by
  cases fields with
  | nil => exact unbroken_ok _
  | cons f fields =>
    exact unbroken_packAfter (h f (by simp)) fun g hg => h g (List.mem_cons_of_mem _ hg)

/-! ## The main statement -/

end ShaderRecords
