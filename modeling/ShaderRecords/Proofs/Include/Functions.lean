/-
ShaderRecords.Proofs.Include.Functions — every layout with a value type gets its functions.

In the pieces for packed values a layout without a value type would leave the marker. `HasFunctions` says of a
piece that behind its banner stands one function for each layout and nothing else, so that no line of it is a
marker that has been added (`functionText_ne_marker`). The pieces of a type whose layouts have value types are
of this form (`RecordView.hasFunctions_of_mem_fragments`).
-/
import ShaderRecords.Proofs.Include.Record

namespace ShaderRecords

/-- A function is no marker: it has a body in braces. -/
theorem functionText_ne_marker (signature statement : String) :
    functionText signature statement ≠ unknownSchemeMarker ++ "\n" := by
  intro h
  have hbrace : '\x7b' ∈ (functionText signature statement).toList := by
    simp [functionText]
  rw [h] at hbrace
  revert hbrace
  decide

/-- Whether a text is a function and not the marker. -/
def IsFunction (text : String) : Prop :=
  text ≠ unknownSchemeMarker ++ "\n" ∧ ∃ signature statement, text = functionText signature statement

theorem isFunction_functionText (signature statement : String) :
    IsFunction (functionText signature statement) :=
  ⟨functionText_ne_marker signature statement, signature, statement, rfl⟩

/-- Whether there is one function for each layout between a banner and an ending, and nothing else. -/
def FunctionsBetween (layouts : List (Layout Number)) (front ending text : String) : Prop :=
  ∃ functions, text = front ++ String.join functions ++ ending
    ∧ List.Forall₂ (fun _ function => IsFunction function) layouts functions

/-- Whether a piece, if it is one of the three that functions for packed values stand in, consists of its
banner and of one function for each layout. -/
def Fragment.HasFunctions (layouts : List (Layout Number)) (f : Fragment) : Prop :=
  match f.kind with
  | .packedGetters => FunctionsBetween layouts (banner ["Accessors for packed fields"]) "" f.text
  | .packedSetters => FunctionsBetween layouts (packedBanner .set) "" f.text
  | .packedInitializers => FunctionsBetween layouts (packedBanner .fill) "\n" f.text
  | _ => True

/-! ## Functions of one layout -/

section Layouts

variable {n : RecordNames} {l : Layout Number} {layouts : List (Layout Number)} {s told : Untyped}
  {text : String}

/-- The function that reads a packed value. -/
theorem exists_of_packedGetter (htype : l.valueType?.isSome = true)
    (h : (packedGetter n l).run.run s = (.ok text, told)) :
    ∃ valueType e body, l.valueType? = some valueType ∧ l.getter? = .ok (some e)
      ∧ e.render (n.stored l) "" = .ok body
      ∧ text = functionText
        (valueType ++ " Get" ++ l.label.display ++ "(in " ++ n.typeName ++ " " ++ n.source ++ ")")
        ("return " ++ body ++ ";") := by
  obtain ⟨valueType, hvalue⟩ := Option.isSome_iff_exists.mp htype
  unfold packedGetter at h
  obtain ⟨e, s', he, h⟩ := run_bind_eq_ok_iff.mp h
  have hgetter := (run_emitted_eq_ok_iff.mp he).1
  obtain ⟨formula, rfl⟩ := Layout.exists_getter? htype hgetter
  rw [hvalue] at h
  obtain ⟨body, s'', hbody, h⟩ := run_bind_eq_ok_iff.mp h
  obtain ⟨rfl, -⟩ := run_pure_eq_ok_iff.mp h
  exact ⟨valueType, formula, body, hvalue, hgetter, (run_emitted_eq_ok_iff.mp hbody).1, rfl⟩

/-- The function that writes a packed value. -/
theorem exists_of_packedSetter {mode : WriteMode} (htype : l.valueType?.isSome = true)
    (h : (packedSetter mode n l).run.run s = (.ok text, told)) :
    ∃ valueType name store statement, l.valueType? = some valueType ∧ l.label.asText = .ok name
      ∧ l.store mode = .ok store ∧ store.render (n.stored l) ("new" ++ name) = .ok statement
      ∧ text = functionText ("void " ++ mode.verb ++ name ++ "(" ++ valueType ++ " " ++ ("new" ++ name)
        ++ ", inout " ++ n.typeName ++ " " ++ n.source ++ ")") statement := by
  obtain ⟨valueType, hvalue⟩ := Option.isSome_iff_exists.mp htype
  unfold packedSetter at h
  rw [hvalue] at h
  obtain ⟨name, s', hname, h⟩ := run_bind_eq_ok_iff.mp h
  obtain ⟨statement, s'', hstatement, h⟩ := run_bind_eq_ok_iff.mp h
  obtain ⟨rfl, -⟩ := run_pure_eq_ok_iff.mp h
  obtain ⟨store, hstore, hrender⟩ := bind_eq_ok_iff.mp (run_emitted_eq_ok_iff.mp hstatement).1
  exact ⟨valueType, name, store, statement, hvalue, (run_emitted_eq_ok_iff.mp hname).1, hstore, hrender, rfl⟩

theorem isFunction_of_packedGetter (htype : l.valueType?.isSome = true)
    (h : (packedGetter n l).run.run s = (.ok text, told)) : IsFunction text := by
  obtain ⟨_, _, _, -, -, -, rfl⟩ := exists_of_packedGetter htype h
  exact isFunction_functionText _ _

theorem isFunction_of_packedSetter {mode : WriteMode} (htype : l.valueType?.isSome = true)
    (h : (packedSetter mode n l).run.run s = (.ok text, told)) : IsFunction text := by
  obtain ⟨_, _, _, _, -, -, -, -, rfl⟩ := exists_of_packedSetter htype h
  exact isFunction_functionText _ _

/-- What is written for several layouts is written for each of them. -/
theorem forall₂_of_run_mapM {α β : Type} {f : α → Emitting β} {P : α → β → Prop} {xs : List α} {ys : List β}
    (hf : ∀ x ∈ xs, ∀ s told y, (f x).run.run s = (.ok y, told) → P x y)
    (h : (xs.mapM f).run.run s = (.ok ys, told)) : List.Forall₂ P xs ys := by
  induction xs generalizing s told ys with
  | nil =>
    rw [List.mapM_nil] at h
    obtain ⟨rfl, -⟩ := run_pure_eq_ok_iff.mp h
    exact .nil
  | cons x xs ih =>
    rw [List.mapM_cons] at h
    obtain ⟨y, s', hy, h⟩ := run_bind_eq_ok_iff.mp h
    obtain ⟨rest, s'', hrest, h⟩ := run_bind_eq_ok_iff.mp h
    obtain ⟨rfl, -⟩ := run_pure_eq_ok_iff.mp h
    exact .cons (hf x (by simp) _ _ _ hy) (ih (fun z hz => hf z (List.mem_cons_of_mem _ hz)) hrest)

section Several

variable (hlayouts : layouts.isEmpty = false)

include hlayouts

/-- The functions that read packed values stand behind a banner. -/
theorem exists_of_packedGetters (h : (packedGetters n layouts).run.run s = (.ok text, told)) :
    ∃ functions, (layouts.mapM (packedGetter n)).run.run s = (.ok functions, told)
      ∧ text = banner ["Accessors for packed fields"] ++ String.join functions := by
  unfold packedGetters at h
  rw [hlayouts, if_neg (by simp)] at h
  obtain ⟨functions, s', hfunctions, h⟩ := run_bind_eq_ok_iff.mp h
  obtain ⟨rfl, rfl⟩ := run_pure_eq_ok_iff.mp h
  exact ⟨functions, hfunctions, rfl⟩

/-- The functions that write packed values stand between a banner and an ending. -/
theorem exists_of_packedSetters {mode : WriteMode}
    (h : (packedSetters mode n layouts).run.run s = (.ok text, told)) :
    ∃ functions, (layouts.mapM (packedSetter mode n)).run.run s = (.ok functions, told)
      ∧ text = packedBanner mode ++ String.join functions ++ if mode = .fill then "\n" else "" := by
  unfold packedSetters at h
  rw [hlayouts, if_neg (by simp)] at h
  obtain ⟨functions, s', hfunctions, h⟩ := run_bind_eq_ok_iff.mp h
  obtain ⟨rfl, rfl⟩ := run_pure_eq_ok_iff.mp h
  exact ⟨functions, hfunctions, rfl⟩

variable (htypes : ∀ l ∈ layouts, l.valueType?.isSome = true)

include htypes

theorem functionsBetween_of_packedGetters
    (h : (packedGetters n layouts).run.run s = (.ok text, told)) :
    FunctionsBetween layouts (banner ["Accessors for packed fields"]) "" text := by
  obtain ⟨functions, hfunctions, rfl⟩ := exists_of_packedGetters hlayouts h
  refine ⟨functions, by rw [String.append_empty], ?_⟩
  exact forall₂_of_run_mapM (fun l hl _ _ _ => isFunction_of_packedGetter (htypes l hl)) hfunctions

theorem functionsBetween_of_packedSetters {mode : WriteMode}
    (h : (packedSetters mode n layouts).run.run s = (.ok text, told)) :
    FunctionsBetween layouts (packedBanner mode) (if mode = .fill then "\n" else "") text := by
  obtain ⟨functions, hfunctions, rfl⟩ := exists_of_packedSetters hlayouts h
  refine ⟨functions, rfl, ?_⟩
  exact forall₂_of_run_mapM (fun l hl _ _ _ => isFunction_of_packedSetter (htypes l hl)) hfunctions

end Several

end Layouts

/-! ## Pieces of a type -/

namespace RecordView

variable {v : RecordView} {owner : Int} {s told : Untyped} {fs : List Fragment} {f : Fragment}

theorem eq_of_mem_piece {kind : FragmentKind} {text : String} (h : f ∈ piece owner kind text) :
    f = ⟨kind, text, owner⟩ := by
  unfold piece at h
  split at h
  · simp at h
  · exact List.mem_singleton.mp h

/-- What holds of the text of a piece holds of the piece. -/
theorem hasFunctions_of_mem_piece {layouts : List (Layout Number)} {kind : FragmentKind} {text : String}
    (h : f ∈ piece owner kind text) (htext : (⟨kind, text, owner⟩ : Fragment).HasFunctions layouts) :
    f.HasFunctions layouts :=
  eq_of_mem_piece h ▸ htext

theorem hasFunctions_of_mem_packedPieces (htypes : ∀ l ∈ v.layouts, l.valueType?.isSome = true)
    (h : (v.packedPieces owner).run.run s = (.ok fs, told)) (hf : f ∈ fs) : f.HasFunctions v.layouts := by
  cases hlayouts : v.layouts.isEmpty with
  | true =>
    obtain ⟨text, -, rfl⟩ := exists_of_packedPieces_of_isEmpty hlayouts h
    exact hasFunctions_of_mem_piece hf trivial
  | false =>
    obtain ⟨_, _, _, _, _, _, _, hgetters, hsetters, hinitializers, -, rfl⟩ := exists_of_packedPieces hlayouts h
    simp only [List.mem_append] at hf
    rcases hf with (((hf | hf) | hf) | hf) | hf
    · exact hasFunctions_of_mem_piece hf trivial
    · exact hasFunctions_of_mem_piece hf (functionsBetween_of_packedGetters hlayouts htypes hgetters)
    · exact hasFunctions_of_mem_piece hf (functionsBetween_of_packedSetters hlayouts htypes hsetters)
    · exact hasFunctions_of_mem_piece hf (functionsBetween_of_packedSetters hlayouts htypes hinitializers)
    · exact hasFunctions_of_mem_piece hf trivial

/-- The pieces of a type whose layouts have value types have a function for each layout. -/
theorem hasFunctions_of_mem_fragments (htypes : ∀ l ∈ v.layouts, l.valueType?.isSome = true)
    (h : (v.fragments owner).run.run s = (.ok fs, told)) (hf : f ∈ fs) : f.HasFunctions v.layouts := by
  obtain ⟨_, _, _, _, _, -, -, -, -, hpacked, rfl⟩ := exists_of_fragments h
  simp only [List.mem_append] at hf
  rcases hf with ((((hf | hf) | hf) | hf) | hf) | hf
  · exact hasFunctions_of_mem_piece hf trivial
  · exact hasFunctions_of_mem_piece hf trivial
  · exact hasFunctions_of_mem_piece hf trivial
  · exact hasFunctions_of_mem_piece hf trivial
  · exact hasFunctions_of_mem_piece hf trivial
  · exact hasFunctions_of_mem_packedPieces htypes hpacked hf

end RecordView

end ShaderRecords
