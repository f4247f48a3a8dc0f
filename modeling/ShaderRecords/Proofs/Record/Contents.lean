/-
ShaderRecords.Proofs.Record.Contents — reading and writing the fields of a record.

A record holds a vector of components for every element of every register (`Contents`). `Contents.read` and
`Contents.assign` say what the expression of an accessor means as a value and as the target of an
assignment: the letters of the accessor choose components, an accessor without letters means the whole
vector, and only an accessor of an array chooses an element.

The main theorem is that the accessors of a record are lenses on disjoint parts of it: what is assigned
through one is read back through it, and no other field notices.
-/
import ShaderRecords.Proofs.Record.Placement

namespace ShaderRecords

variable {α : Type}

/-! ## Components of a vector -/

/-- The components of a vector at some places, in the order of the places. -/
def gather (places : List Nat) (v : List α) : List α :=
  places.filterMap fun k => v[k]?

/-- A vector with the components at some places replaced, one after another. -/
def scatter : List Nat → List α → List α → List α
  | k :: places, x :: values, v => scatter places values (v.set k x)
  | _, _, v => v

theorem length_scatter (places : List Nat) (values v : List α) :
    (scatter places values v).length = v.length := by
  induction places generalizing values v with
  | nil => rfl
  | cons k places ih =>
    cases values with
    | nil => rfl
    | cons x values => rw [scatter, ih, List.length_set]

theorem getElem?_scatter_of_notMem {places : List Nat} {i : Nat} (h : i ∉ places)
    (values v : List α) : (scatter places values v)[i]? = v[i]? := by
  induction places generalizing values v with
  | nil => rfl
  | cons k places ih =>
    rw [List.mem_cons, not_or] at h
    cases values with
    | nil => rfl
    | cons x values => rw [scatter, ih h.2, List.getElem?_set_ne (Ne.symm h.1)]

/-- What is put at places of a vector is found there. -/
theorem gather_scatter {places : List Nat} (hnodup : places.Nodup) {values v : List α}
    (hlen : places.length = values.length) (hv : ∀ k ∈ places, k < v.length) :
    gather places (scatter places values v) = values := by
  induction places generalizing values v with
  | nil => exact (List.length_eq_zero_iff.mp hlen.symm).symm
  | cons k places ih =>
    cases values with
    | nil => simp at hlen
    | cons x values =>
      rw [List.nodup_cons] at hnodup
      have hk : (scatter places values (v.set k x))[k]? = some x := by
        rw [getElem?_scatter_of_notMem hnodup.1]
        exact List.getElem?_set_self (hv k (by simp))
      have hrest : gather places (scatter places values (v.set k x)) = values := by
        refine ih hnodup.2 (Nat.succ.inj hlen) fun j hj => ?_
        rw [List.length_set]
        exact hv j (List.mem_cons_of_mem _ hj)
      rw [scatter, gather, List.filterMap_cons_some hk, ← gather, hrest]

/-- Components at other places are not changed. -/
theorem gather_scatter_of_disjoint {places others : List Nat} (h : places.Disjoint others)
    (values v : List α) : gather others (scatter places values v) = gather others v := by
  refine List.filterMap_congr fun k hk => ?_
  exact getElem?_scatter_of_notMem (fun hk' => h hk' hk) values v

/-! ## Contents of a record -/

/-- What a record holds: by the position of a register and the index of an element, the components of that
element. A register that is no array has its only element at zero. -/
abbrev Contents (α : Type) := Nat → Int → List α

/-- The element that an expression of the accessor with an index means. -/
def Accessor.element (a : Accessor) (index : Int) : Int :=
  if a.arraySize.toInt > 0 then index else 0

namespace Contents

/-- Whether every element has as many components as its register has rows and columns. -/
def Fits (c : Contents α) (registers : List Register) : Prop :=
  ∀ (i : Nat) (r : Register), registers[i]? = some r →
    ∀ e, ((c i e).length : Int) = r.rows.toInt * r.cols.toInt

/-- The value of the expression for a field. -/
def read (c : Contents α) (p : LocatedField) (index : Int) : List α :=
  let element := c p.position (p.accessor.element index)
  if p.accessor.shares then gather p.accessor.selection element else element

/-- The record after an assignment to the expression for a field. -/
def assign (c : Contents α) (p : LocatedField) (index : Int) (values : List α) : Contents α :=
  fun i e =>
    if i = p.position ∧ e = p.accessor.element index then
      if p.accessor.shares then scatter p.accessor.selection values (c i e) else values
    else c i e

theorem assign_self (c : Contents α) (p : LocatedField) (index : Int) (values : List α) :
    c.assign p index values p.position (p.accessor.element index) =
      if p.accessor.shares then
        scatter p.accessor.selection values (c p.position (p.accessor.element index))
      else values := by
  simp [assign]

theorem assign_of_ne (c : Contents α) {p : LocatedField} {index : Int} {i : Nat} {e : Int}
    (h : ¬(i = p.position ∧ e = p.accessor.element index)) (values : List α) :
    c.assign p index values i e = c i e := by
  simp [assign, h]

end Contents

/-! ## Accessors as lenses -/

/-- A register with one field has the shape of that field. -/
theorem Register.Formed.shape_of_single {r : Register} (h : r.Formed) (hsingle : r.isMerged = false)
    {k : Nat} {f : Field} (hk : r.members[k]? = some f) :
    k = 0 ∧ r.rows.toInt * r.cols.toInt = f.components := by
  obtain ⟨name, g, gs, -, rfl, -⟩ := h.exists_eq_ofGroup
  cases gs with
  | cons g' gs => simp [Register.isMerged] at hsingle
  | nil =>
    cases k with
    | succ k => simp at hk
    | zero =>
      obtain rfl : g = f := by simpa using hk
      exact ⟨rfl, rfl⟩

/-- A shared register has one column. -/
theorem Register.Formed.cols_of_isMerged {r : Register} (h : r.Formed) (hmerged : r.isMerged = true) :
    r.cols.toInt = 1 := by
  have hshare := h.shared hmerged
  obtain ⟨name, f, fs, -, rfl, -⟩ := h.exists_eq_ofGroup
  exact hshare.oneColumn f (by simp)

namespace Grouping

variable {fields : List Field} {registers : List Register} {p q : LocatedField} {c : Contents α}
  {index : Int} {values : List α}

/-- Assigning a vector of the field's length keeps the lengths of all elements. -/
theorem fits_assign (h : Grouping fields registers) (hp : p ∈ locatedFields registers)
    (hc : c.Fits registers) (hlen : (values.length : Int) = p.field.components) :
    (c.assign p index values).Fits registers := by
  intro i r hr e
  obtain ⟨r', k, hr', hformed, hk, ha⟩ := h.exists_index hp
  by_cases htarget : i = p.position ∧ e = p.accessor.element index
  · obtain ⟨rfl, rfl⟩ := htarget
    obtain rfl : r' = r := Option.some.inj (hr'.symm.trans hr)
    have hshares : p.accessor.shares = r'.isMerged := by rw [ha]; rfl
    rw [Contents.assign_self, hshares]
    cases hmerged : r'.isMerged with
    | true =>
      rw [if_pos rfl, length_scatter]
      exact hc _ r' hr _
    | false =>
      rw [if_neg (by simp), hlen]
      exact (hformed.shape_of_single hmerged hk).2.symm
  · rw [Contents.assign_of_ne c htarget]
    exact hc i r hr e

/-- What is assigned through an accessor is read through it. -/
theorem read_assign_self (h : Grouping fields registers) (hsized : ∀ f ∈ fields, f.Sized)
    (hp : p ∈ locatedFields registers) (hc : c.Fits registers)
    (hlen : (values.length : Int) = p.field.components) :
    (c.assign p index values).read p index = values := by
  obtain ⟨r, k, hr, hformed, hk, ha⟩ := h.exists_index hp
  have hshares : p.accessor.shares = r.isMerged := by rw [ha]; rfl
  simp only [Contents.read, Contents.assign_self]
  cases hmerged : p.accessor.shares with
  | false => simp
  | true =>
    rw [hshares] at hmerged
    have hmembers := h.sized_members hsized (List.mem_of_getElem? hr)
    obtain ⟨o, n, -, hn, hle, hsel⟩ := hformed.selection_of_isMerged hmembers hmerged hk
    have hvector := hc p.position r hr (p.accessor.element index)
    rw [hformed.cols_of_isMerged hmerged, Int.mul_one] at hvector
    rw [← ha] at hsel
    rw [if_pos rfl, if_pos rfl, hsel]
    refine gather_scatter List.nodup_range' ?_ fun j hj => ?_
    · rw [List.length_range']
      omega
    · rw [List.mem_range'_1] at hj
      omega

/-- Two fields of one register that have no component in common name different components of it. -/
theorem disjoint_selection (h : Grouping fields registers) (hsized : ∀ f ∈ fields, f.Sized)
    (hp : p ∈ locatedFields registers) (hq : q ∈ locatedFields registers)
    (hposition : p.position = q.position) (hapart : p.Apart q) :
    (p.accessor.shares = true ∧ q.accessor.shares = true)
      ∧ p.accessor.selection.Disjoint q.accessor.selection := by
  obtain ⟨r, k, hr, hformed, hk, ha⟩ := h.exists_index hp
  obtain ⟨r', l, hr', -, hl, hb⟩ := h.exists_index hq
  obtain rfl : r' = r := Option.some.inj (hr'.symm.trans (hposition ▸ hr))
  have hmembers := h.sized_members hsized (List.mem_of_getElem? hr)
  have hcommon := hapart.resolve_left (not_not_intro hposition)
  have hp' : p.accessor.shares = r'.isMerged := by rw [ha]; rfl
  have hq' : q.accessor.shares = r'.isMerged := by rw [hb]; rfl
  cases hmerged : r'.isMerged with
  | false =>
    -- The only field of a register would have its first component in common with itself.
    exfalso
    obtain ⟨rfl, -⟩ := hformed.shape_of_single hmerged hk
    obtain ⟨rfl, -⟩ := hformed.shape_of_single hmerged hl
    have hfirst : ∀ f ∈ r'.members, 0 < f.components := fun f hf =>
      Int.mul_pos (hmembers f hf).one_le_rows (hmembers f hf).one_le_cols
    refine hcommon 0 ⟨⟨?_, ?_⟩, ⟨?_, ?_⟩⟩ <;> simp only [ha, hb, Register.accessor, List.take_zero, rowSum_nil]
    · exact Int.le_refl 0
    · simpa using hfirst _ (List.mem_of_getElem? hk)
    · exact Int.le_refl 0
    · simpa using hfirst _ (List.mem_of_getElem? hl)
  | true =>
    refine ⟨⟨hp'.trans hmerged, hq'.trans hmerged⟩, fun x hx hy => ?_⟩
    obtain ⟨o, n, ho, hn, -, hsel⟩ := hformed.selection_of_isMerged hmembers hmerged hk
    obtain ⟨o', n', ho', hn', -, hsel'⟩ := hformed.selection_of_isMerged hmembers hmerged hl
    rw [ha, hsel, List.mem_range'_1] at hx
    rw [hb, hsel', List.mem_range'_1] at hy
    refine hcommon x ⟨⟨?_, ?_⟩, ⟨?_, ?_⟩⟩ <;> simp only [ha, hb, Register.accessor] <;> omega

/-- No other field notices an assignment. -/
theorem read_assign_of_apart (h : Grouping fields registers) (hsized : ∀ f ∈ fields, f.Sized)
    (hp : p ∈ locatedFields registers) (hq : q ∈ locatedFields registers) (hapart : p.Apart q)
    (c : Contents α) (index index' : Int) (values : List α) :
    (c.assign p index values).read q index' = c.read q index' := by
  by_cases htarget : q.position = p.position ∧ q.accessor.element index' = p.accessor.element index
  · obtain ⟨hposition, helement⟩ := htarget
    obtain ⟨⟨hps, hqs⟩, hdisjoint⟩ := h.disjoint_selection hsized hp hq hposition.symm hapart
    simp only [Contents.read, hposition, helement, Contents.assign_self, hps, hqs, if_true]
    exact gather_scatter_of_disjoint hdisjoint _ _
  · simp only [Contents.read, Contents.assign_of_ne c htarget]

end Grouping

/-- The accessors of a packed record never alias. They belong to the packed fields in their order; each fits
its register; two different fields lie in different registers or in different components of one; the fields
of a shared register take all of its components; and so what is assigned to one field of a record is read
from that field afterwards, and every other field reads as before. -/
theorem accessors_never_alias {rules : PackingRules} {fields : List Field} {registers : List Register}
    (hsized : ∀ f ∈ fields, f.Sized) (hpack : pack rules fields = .ok registers) :
    ((locatedFields registers).map (·.field) = fields
        ∧ (locatedFields registers).map (fun p => (p.field, p.accessor)) = placedFields registers)
      ∧ (∀ p ∈ locatedFields registers, ∃ r, registers[p.position]? = some r ∧ p.WellPlaced r)
      ∧ (locatedFields registers).Pairwise LocatedField.Apart
      ∧ (∀ (i : Nat) (r : Register), registers[i]? = some r → r.isMerged = true → ∀ x,
          (∃ p ∈ locatedFields registers, p.position = i ∧ p.Covers x) ↔ 0 ≤ x ∧ x < r.rows.toInt)
      ∧ ∀ (α : Type) (c : Contents α), c.Fits registers →
          ∀ (k : Nat) (p : LocatedField), (locatedFields registers)[k]? = some p →
          ∀ (index : Int) (values : List α), (values.length : Int) = p.field.components →
            (c.assign p index values).Fits registers
              ∧ (c.assign p index values).read p index = values
              ∧ ∀ (l : Nat) (q : LocatedField), (locatedFields registers)[l]? = some q → l ≠ k →
                  ∀ index', (c.assign p index values).read q index' = c.read q index' := by
  have h := grouping_of_pack hsized hpack
  refine ⟨⟨h.map_field_locatedFields, map_locatedFields registers⟩, fun p hp => ?_,
    h.pairwise_apart hsized, fun i r hr hmerged x => h.exists_covers_iff hsized hr hmerged x, ?_⟩
  · obtain ⟨r, k, hr, -⟩ := h.exists_index hp
    exact ⟨r, hr, h.wellPlaced hsized hp hr⟩
  · intro α c hc k p hk index values hlen
    have hp := List.mem_of_getElem? hk
    refine ⟨h.fits_assign hp hc hlen, h.read_assign_self hsized hp hc hlen, ?_⟩
    intro l q hl hne index'
    exact h.read_assign_of_apart hsized hp (List.mem_of_getElem? hl) (h.apart_of_ne hsized hk hl hne) c
      index index' values

/-- The third component of a shared register is assigned to, and its first two stay. -/
theorem accessors_never_alias_in_shared_register :
    let uv : Field := { name := "uv", kind := .float, rows := 2 }
    let depth : Field := { name := "depth", kind := .float }
    let r : Register :=
      { name := "uv_depth", kind := .float, rows := .number 3, members := [uv, depth], offsets := [0, 2] }
    let c : Contents Nat := fun _ _ => [5, 6, 7]
    let p : LocatedField := ⟨0, depth, r.accessor depth 2⟩
    let q : LocatedField := ⟨0, uv, r.accessor uv 0⟩
    (c.assign p 0 [9]).read p 0 = [9] ∧ (c.assign p 0 [9]).read q 0 = [5, 6] := by
  intro uv depth r c p q
  have hsized : ∀ f ∈ [uv, depth], f.Sized := by decide
  have hpack : pack .aggressive [uv, depth] = .ok [r] := rfl
  have hfits : c.Fits [r] := by
    intro i r' hr e
    obtain rfl : r' = r := by simpa using List.mem_of_getElem? hr
    rfl
  obtain ⟨-, -, -, -, hlens⟩ := accessors_never_alias hsized hpack
  obtain ⟨-, hself, hothers⟩ := hlens Nat c hfits 1 p rfl 0 [9] rfl
  exact ⟨hself, hothers 0 q rfl (by decide) 0⟩

end ShaderRecords
