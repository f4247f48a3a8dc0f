/-
ShaderRecords.Proofs.Record.Economy — aggressive packing takes as few registers as there can be.

A `Cut` of the fields is any way of putting a register's end behind some of them: consecutive groups, each of
which a register could hold. Packing never looks for a cut, it only fills the register in progress as far as it
goes. That this gives the shortest cut is the main statement (`isLeast_length_of_pack_aggressive`).

The induction is on the registers. Its statement is about fields that packing has already placed while the
other cut still has to (`behind`): no group of that cut reaches over the end of the first register
(`not_mayShare_of_closesBefore`), so behind its first group it is behind the registers still, and has used up
one group where packing has used up one register.
-/
import Mathlib.Order.Bounds.Defs
import ShaderRecords.Proofs.Record.Packing

namespace ShaderRecords

/-- A way of cutting fields into consecutive groups: none is empty, and the fields of a group of several may
share a register. -/
structure Cut (fields : List Field) (groups : List (List Field)) : Prop where
  flatten : groups.flatten = fields
  ne_nil : ∀ g ∈ groups, g ≠ []
  mayShare : ∀ g ∈ groups, 2 ≤ g.length → MayShare g

/-! ## Registers as a cut -/

/-- The members of registers that packing makes are a cut of the fields. -/
theorem Grouping.cut {fields : List Field} {registers : List Register} (h : Grouping fields registers) :
    Cut fields (registers.map (·.members)) where
  flatten := by rw [← List.flatMap_def, h.members]
  ne_nil := by
    intro g hg
    obtain ⟨r, hr, rfl⟩ := List.mem_map.mp hg
    exact (h.formed r hr).members_ne_nil
  mayShare := by
    intro g hg hlength
    obtain ⟨r, hr, rfl⟩ := List.mem_map.mp hg
    exact (h.formed r hr).shared (decide_eq_true hlength)

/-! ## No cut is shorter -/

/-- A group that reaches over the end of a register is none that a register could hold. -/
theorem not_mayShare_of_closesBefore {r : Register} (hr : r.Formed) {behind more : List Field} {f : Field}
    (hsized : ∀ g ∈ behind ++ (r.members ++ f :: more), g.Sized) (hcloses : r.ClosesBefore f) :
    ¬MayShare (behind ++ (r.members ++ f :: more)) := by
  intro hshare
  have hheld : r.isShareable = true := List.all_eq_true.mpr fun g hg => hshare.shareable g (by simp [hg])
  have hroom : r.isFull = false := by
    have hrows := hshare.rows_le
    have hbefore := length_le_rowSum fun g hg => hsized g (List.mem_append_left _ hg)
    have hafter : (more.length : Int) ≤ rowSum more := length_le_rowSum fun g hg => hsized g (by simp [hg])
    have hfirst := (hsized f (by simp)).one_le_rows
    simp only [rowSum_append, rowSum_cons] at hrows
    refine hr.isFull_eq_false_of_rows (fun g hg => hsized g (by simp [hg])) hheld ?_ (by omega)
    exact fun g hg => hshare.oneColumn g (by simp [hg])
  rcases hcloses with hfull | ⟨-, hown⟩
  · simp [hroom] at hfull
  · exact hown ⟨hheld, hshare.shareable f (by simp)⟩

/-- The first group of a cut ends no later than the first register, wherever the cut begins before it. -/
theorem exists_behind_of_cut {r : Register} (hr : r.Formed) {behind tail g : List Field}
    {groups : List (List Field)} (hsized : ∀ f ∈ behind ++ (r.members ++ tail), f.Sized)
    (hcloses : ∀ f ∈ tail.head?, r.ClosesBefore f) (hcut : Cut (behind ++ (r.members ++ tail)) (g :: groups)) :
    ∃ behind', behind' <:+ behind ++ r.members ∧ Cut (behind' ++ tail) groups := by
  have hrest : ∀ fields, groups.flatten = fields → Cut fields groups := fun fields h =>
    ⟨h, fun g hg => hcut.ne_nil g (by simp [hg]), fun g hg => hcut.mayShare g (by simp [hg])⟩
  have hflatten : g ++ groups.flatten = (behind ++ r.members) ++ tail := by
    rw [← List.flatten_cons, hcut.flatten, List.append_assoc]
  rcases List.append_eq_append_iff.mp hflatten with ⟨behind', hbefore, hgroups⟩ | ⟨beyond, hg, htail⟩
  · exact ⟨behind', ⟨g, hbefore.symm⟩, hrest _ hgroups⟩
  · cases beyond with
    | nil => exact ⟨[], List.nil_suffix, hrest _ htail.symm⟩
    | cons f more =>
      rw [List.append_assoc] at hg
      have hlength : 2 ≤ g.length := by
        have hmembers := List.length_pos_iff.mpr hr.members_ne_nil
        simp only [hg, List.length_append, List.length_cons]
        omega
      have hshare := hcut.mayShare g (by simp) hlength
      rw [hg] at hshare
      refine absurd hshare (not_mayShare_of_closesBefore hr (fun x hx => hsized x ?_) (hcloses f ?_))
      · simp only [htail, List.mem_append, List.mem_cons] at hx ⊢
        tauto
      · simp [htail]

/-- Wherever a cut begins before the fields of some registers, it has a group for each of them. -/
theorem length_le_of_cut {registers : List Register} {fields behind : List Field} {groups : List (List Field)}
    (hseg : Segmentation fields registers) (hsized : ∀ f ∈ behind ++ fields, f.Sized)
    (hcut : Cut (behind ++ fields) groups) : registers.length ≤ groups.length := by
  induction registers generalizing fields behind groups with
  | nil => exact Nat.zero_le _
  | cons r rest ih =>
    obtain ⟨hr, tail, rfl, hrest, hcloses⟩ := segmentation_cons_iff.mp hseg
    cases groups with
    | nil =>
      have hnone : behind ++ (r.members ++ tail) = [] := hcut.flatten.symm
      exact absurd (List.append_eq_nil_iff.mp (List.append_eq_nil_iff.mp hnone).2).1 hr.members_ne_nil
    | cons g groups =>
      obtain ⟨behind', hbehind, hcut'⟩ := exists_behind_of_cut hr hsized hcloses hcut
      have hsized' : ∀ f ∈ behind' ++ tail, f.Sized := by
        intro f hf
        refine hsized f ?_
        rw [← List.append_assoc]
        rcases List.mem_append.mp hf with hf | hf
        · exact List.mem_append_left _ (hbehind.mem hf)
        · exact List.mem_append_right _ hf
      exact Nat.succ_le_succ (ih hrest hsized' hcut')

/-! ## Packing -/

/-- Between two registers that others might join, the first one has no component left. -/
theorem Segmentation.isChain_dvd {fields : List Field} {registers : List Register}
    (h : Segmentation fields registers) :
    registers.IsChain fun l r =>
      l.isShareable = true → r.isShareable = true → registerWidth ∣ l.elementCount := by
  refine h.boundaries.imp_of_mem_imp fun l r _ hr hcloses hl hshare => ?_
  obtain ⟨f, hf⟩ := Option.isSome_iff_exists.mp (List.isSome_head?.mpr (h.formed r hr).members_ne_nil)
  have hfield : f.isShareable = true := List.all_eq_true.mp hshare f (List.mem_of_mem_head? hf)
  rcases hcloses f hf with hfull | ⟨-, hown⟩
  · exact Int.dvd_of_emod_eq_zero (by simpa [Register.isFull] using hfull)
  · exact absurd ⟨hl, hfield⟩ hown

/-- Aggressive packing never wastes a register: where it succeeds, no cut of the fields has fewer groups than
there are registers, and the registers are a cut themselves. A register that others might join is followed by
another such one only if its components fill whole rows of four. -/
theorem isLeast_length_of_pack_aggressive {fields : List Field} (hsized : ∀ f ∈ fields, f.Sized)
    {registers : List Register} (h : pack .aggressive fields = .ok registers) :
    IsLeast {n | ∃ groups, Cut fields groups ∧ groups.length = n} registers.length
      ∧ registers.IsChain fun l r =>
          l.isShareable = true → r.isShareable = true → registerWidth ∣ l.elementCount := by
  have hseg := (pack_aggressive_eq_ok_iff hsized).mp h
  refine ⟨⟨⟨_, hseg.cut, List.length_map _⟩, ?_⟩, hseg.isChain_dvd⟩
  rintro n ⟨groups, hcut, rfl⟩
  exact @length_le_of_cut registers fields [] groups hseg hsized hcut

/-- Two fields of two rows, one of three rows and an array fill a register, leave one open and close it: of these
four fields no cut has fewer than three groups. -/
theorem isLeast_length_of_pack_aggressive_before_array :
    let field (name : String) (rows size : Whole) : Field :=
      { name := name, kind := .float, rows := rows, arraySize := size }
    let fields := [field "uv" 2 0, field "size" 2 0, field "normal" 3 0, field "weights" 1 8]
    (∀ f ∈ fields, f.Sized) ∧ ∃ registers, pack .aggressive fields = .ok registers
      ∧ registers.map (·.members.length) = [2, 1, 1]
      ∧ IsLeast {n | ∃ groups, Cut fields groups ∧ groups.length = n} 3 := by
  intro field fields
  have hsized : ∀ f ∈ fields, f.Sized := by decide
  have hpack : ∃ registers, pack .aggressive fields = .ok registers
      ∧ registers.map (·.members.length) = [2, 1, 1] := ⟨_, rfl, rfl⟩
  obtain ⟨registers, hpack, hmembers⟩ := hpack
  have hlength : registers.length = 3 := by simpa using congrArg List.length hmembers
  exact ⟨hsized, registers, hpack, hmembers, hlength ▸ (isLeast_length_of_pack_aggressive hsized hpack).1⟩

end ShaderRecords
