/-
ShaderRecords.Proofs.Include.Record — what the pieces of a type depend on.

The pieces of a type hold nothing of its number but the number itself, and none of them is a binding
(`RecordView.fragments_eq`). If all layouts have value types then writing the pieces tells no problem, and if
all names and comments are texts it does not break down (`RecordView.exists_fragments`).
-/
import ShaderRecords.Include.Record
import ShaderRecords.Proofs.Include.Fragment
import ShaderRecords.Proofs.Include.PackedFunctions

namespace ShaderRecords

/-! ## Places of fields -/

theorem mem_members_of_mem_placedFields {registers : List Register} {p : Field × Accessor}
    (hp : p ∈ placedFields registers) :
    ∃ r ∈ registers, p.1 ∈ r.members ∧ ∃ f ∈ r.members, p.2.field = f.name := by
  obtain ⟨r, hr, hp⟩ := List.mem_flatMap.mp hp
  obtain ⟨hfield, haccessor⟩ := List.of_mem_zip (a := p.1) (b := p.2) hp
  refine ⟨r, hr, hfield, ?_⟩
  rw [Register.accessors, ← List.map_uncurry_zip_eq_zipWith] at haccessor
  obtain ⟨⟨f, offset⟩, hmem, heq⟩ := List.mem_map.mp haccessor
  exact ⟨f, (List.of_mem_zip hmem).1, heq ▸ rfl⟩

namespace RecordView

variable {v : RecordView}

/-- A view whose names and comments are texts and whose layouts have all that their functions need. -/
structure Usable (v : RecordView) : Prop where
  comments : ∀ r ∈ v.registers, r.comment.IsText
  members : ∀ r ∈ v.registers, ∀ f ∈ r.members, f.name.IsText
  packedMembers : ∀ m ∈ v.extracted.packedMembers, m.name.IsText
  layouts : ∀ l ∈ v.layouts, l.Usable

namespace Usable

theorem gives_memberLines {f : Field} (h : f.comment.IsText) : Gives (memberLines f) fun _ => True := by
  obtain ⟨comment, hcomment⟩ := h
  unfold memberLines
  rw [hcomment]
  dsimp only
  split <;> simp only [Value.asText, map_ok, ok_bind] <;> split <;> exact gives_ok trivial

theorem gives_declaration (h : v.Usable) : Gives v.declaration fun _ => True := by
  unfold declaration
  split
  · have hlines : Gives (v.registers.mapM fun r => memberLines r.toField) fun _ => True :=
      (Gives.mapM fun r hr => gives_memberLines (f := r.toField) (h.comments r hr)).imp fun _ _ => trivial
    have hbody : Gives (bodyLines v.registers) fun _ => True := hlines.bind fun _ _ => gives_ok trivial
    exact (hbody.bind fun _ _ => gives_ok trivial).map (P := fun _ => True) fun _ _ => trivial
  · exact gives_ok trivial

theorem gives_ordinaryFields (h : v.Usable) :
    Gives (ordinaryFields v.registers v.packedNames) fun placed => ∀ p ∈ placed, p.1.name.IsText := by
  have hplaced : ∀ p ∈ placedFields v.registers, p.1.name.IsText := by
    intro p hp
    obtain ⟨r, hr, hf, -⟩ := mem_members_of_mem_placedFields hp
    exact h.members r hr p.1 hf
  have hpacked : ∀ name ∈ v.packedNames, name.IsText := by
    intro name hname
    rcases List.mem_append.mp hname with hname | hname
    · obtain ⟨m, hm, rfl⟩ := List.mem_map.mp hname
      exact h.packedMembers m hm
    · obtain ⟨l, hl, rfl⟩ := List.mem_map.mp hname
      exact (h.layouts l hl).field
  unfold ordinaryFields
  refine (Gives.forall₂ fun name hname => (hpacked name hname).gives_asKey).bind fun _ _ => ?_
  refine (Gives.forall₂ fun p hp => (hplaced p hp).gives_asKey).bind fun _ _ => gives_ok ?_
  exact fun p hp => hplaced p (List.mem_of_mem_filter hp)

theorem gives_getters (h : v.Usable) : Gives v.getters fun _ => True := by
  unfold getters gettersText
  split
  · exact gives_ok trivial
  · refine h.gives_ordinaryFields.bind fun fields hfields => ?_
    split
    · exact gives_ok trivial
    · refine (Gives.forall₂ (P := fun _ _ => True) fun p hp => ?_).bind fun _ _ => gives_ok trivial
      refine (hfields p hp).gives_asText.bind fun name _ => ?_
      dsimp only
      split <;> exact gives_ok trivial

theorem gives_setters (h : v.Usable) (mode : WriteMode) : Gives (v.setters mode) fun _ => True := by
  unfold setters settersText
  split
  · exact gives_ok trivial
  · refine h.gives_ordinaryFields.bind fun fields hfields => ?_
    split
    · exact gives_ok trivial
    · refine (Gives.forall₂ (P := fun _ _ => True) fun p hp => ?_).bind fun _ _ => gives_ok trivial
      exact (hfields p hp).gives_asText.bind fun name _ => gives_ok trivial

theorem gives_debug (h : v.Usable) : Gives v.debug fun _ => True := by
  unfold debug
  split
  · exact gives_ok trivial
  · refine (Gives.forall₂ (P := fun _ _ => True) fun a ha => ?_).bind fun _ _ => gives_ok trivial
    obtain ⟨p, hp, rfl⟩ := List.mem_map.mp ha
    obtain ⟨r, hr, -, f, hf, hname⟩ := mem_members_of_mem_placedFields hp
    rw [hname]
    exact (h.members r hr f hf).gives_asKey.imp fun _ _ => trivial

end Usable

/-! ## Pieces -/

/-- The pieces that are no bindings, as pieces of an owner. -/
def own (owner : Int) (fs : List Fragment) : List Fragment :=
  (fs.filter fun f => f.kind ≠ .binding).map (Fragment.ownedBy owner)

@[simp] theorem own_append (owner : Int) (fs gs : List Fragment) :
    own owner (fs ++ gs) = own owner fs ++ own owner gs := by
  simp [own]

theorem piece_eq (owner : Int) (kind : FragmentKind) (h : kind ≠ .binding) (text : String) :
    piece owner kind text = own owner (piece 0 kind text) := by
  unfold piece own
  split
  · rfl
  · simp [h, Fragment.ownedBy]

theorem packedPieces_eq (owner : Int) : v.packedPieces owner = own owner <$> v.packedPieces 0 := by
  unfold packedPieces
  split
  · simp [piece_eq owner .debug]
  · simp [piece_eq owner .packedInclude, piece_eq owner .packedGetters,
      piece_eq owner .packedSetters, piece_eq owner .packedInitializers,
      piece_eq owner .packedDebug]

/-- The pieces of a type are the same whatever its number is, and none of them is a binding. -/
theorem fragments_eq (owner : Int) : v.fragments owner = own owner <$> v.fragments 0 := by
  unfold fragments
  rw [packedPieces_eq owner]
  simp [piece_eq owner .defines, piece_eq owner .declaration,
    piece_eq owner .accessors, piece_eq owner .setters,
    piece_eq owner .initializers]

theorem emits_packedPieces (htypes : ∀ l ∈ v.layouts, l.valueType?.isSome = true) (owner : Int) :
    Emits (v.packedPieces owner) v.Usable := by
  unfold packedPieces
  split
  · exact (Emits.emitted fun h => h.gives_debug).bind fun _ => Emits.pure _
  · refine ((emits_packedGetters htypes).imp Usable.layouts).bind fun getters => ?_
    refine ((emits_packedSetters .set htypes).imp Usable.layouts).bind fun setters => ?_
    refine ((emits_packedSetters .fill htypes).imp Usable.layouts).bind fun initializers => ?_
    exact (Emits.emitted fun h => h.gives_debug).bind fun debug => Emits.pure _

theorem emits_fragments (htypes : ∀ l ∈ v.layouts, l.valueType?.isSome = true) (owner : Int) :
    Emits (v.fragments owner) v.Usable := by
  unfold fragments
  refine (Emits.emitted fun h => h.gives_declaration).bind fun declaration => ?_
  refine (Emits.emitted fun h => h.gives_getters).bind fun getters => ?_
  refine (Emits.emitted fun h => h.gives_setters .set).bind fun setters => ?_
  refine (Emits.emitted fun h => h.gives_setters .fill).bind fun initializers => ?_
  exact (emits_packedPieces htypes owner).bind fun packed => Emits.pure _

section Parts

variable {owner : Int} {s told : Untyped} {fs : List Fragment}

/-- The pieces of a type are those of its parts, one behind the other. -/
theorem exists_of_fragments (h : (v.fragments owner).run.run s = (.ok fs, told)) :
    ∃ declaration getters setters initializers packed,
      v.declaration = .ok declaration ∧ v.getters = .ok getters ∧ v.setters .set = .ok setters
      ∧ v.setters .fill = .ok initializers ∧ (v.packedPieces owner).run.run s = (.ok packed, told)
      ∧ fs = piece owner .defines v.defines ++ piece owner .declaration declaration
        ++ piece owner .accessors getters ++ piece owner .setters setters
        ++ piece owner .initializers initializers ++ packed := by
  unfold fragments at h
  obtain ⟨declaration, s₁, hrun₁, h⟩ := run_bind_eq_ok_iff.mp h
  obtain ⟨hdeclaration, hs₁⟩ := run_emitted_eq_ok_iff.mp hrun₁
  obtain ⟨getters, s₂, hrun₂, h⟩ := run_bind_eq_ok_iff.mp h
  obtain ⟨hgetters, hs₂⟩ := run_emitted_eq_ok_iff.mp hrun₂
  obtain ⟨setters, s₃, hrun₃, h⟩ := run_bind_eq_ok_iff.mp h
  obtain ⟨hsetters, hs₃⟩ := run_emitted_eq_ok_iff.mp hrun₃
  obtain ⟨initializers, s₄, hrun₄, h⟩ := run_bind_eq_ok_iff.mp h
  obtain ⟨hinitializers, hs₄⟩ := run_emitted_eq_ok_iff.mp hrun₄
  obtain ⟨packed, s₅, hpacked, h⟩ := run_bind_eq_ok_iff.mp h
  obtain ⟨hfs, htold⟩ := run_pure_eq_ok_iff.mp h
  -- Only the pieces for packed values note anything.
  have hs : s₄ = s := hs₄.trans (hs₃.trans (hs₂.trans hs₁))
  exact ⟨declaration, getters, setters, initializers, packed, hdeclaration, hgetters, hsetters, hinitializers,
    htold ▸ hs ▸ hpacked, hfs.symm⟩

/-- Without layouts there is the debug function at most. -/
theorem exists_of_packedPieces_of_isEmpty (hlayouts : v.layouts.isEmpty = true)
    (h : (v.packedPieces owner).run.run s = (.ok fs, told)) :
    ∃ debug, v.debug = .ok debug ∧ fs = piece owner .debug debug := by
  unfold packedPieces at h
  rw [hlayouts, if_pos rfl] at h
  obtain ⟨debug, s, hdebug, h⟩ := run_bind_eq_ok_iff.mp h
  obtain ⟨rfl, -⟩ := run_pure_eq_ok_iff.mp h
  exact ⟨debug, (run_emitted_eq_ok_iff.mp hdebug).1, rfl⟩

/-- The pieces for packed values are those of the layouts, and the debug function. -/
theorem exists_of_packedPieces (hlayouts : v.layouts.isEmpty = false)
    (h : (v.packedPieces owner).run.run s = (.ok fs, told)) :
    ∃ getters setters initializers debug s₁ s₂ s₃,
      (packedGetters v.names v.layouts).run.run s = (.ok getters, s₁)
      ∧ (packedSetters .set v.names v.layouts).run.run s₁ = (.ok setters, s₂)
      ∧ (packedSetters .fill v.names v.layouts).run.run s₂ = (.ok initializers, s₃)
      ∧ v.debug = .ok debug
      ∧ fs = piece owner .packedInclude (packedInclude v.packingInclude v.layouts)
        ++ piece owner .packedGetters getters ++ piece owner .packedSetters setters
        ++ piece owner .packedInitializers initializers ++ piece owner .packedDebug debug := by
  unfold packedPieces at h
  rw [hlayouts, if_neg (by simp)] at h
  obtain ⟨getters, s₁, hgetters, h⟩ := run_bind_eq_ok_iff.mp h
  obtain ⟨setters, s₂, hsetters, h⟩ := run_bind_eq_ok_iff.mp h
  obtain ⟨initializers, s₃, hinitializers, h⟩ := run_bind_eq_ok_iff.mp h
  obtain ⟨debug, s₄, hdebug, h⟩ := run_bind_eq_ok_iff.mp h
  obtain ⟨rfl, -⟩ := run_pure_eq_ok_iff.mp h
  exact ⟨getters, setters, initializers, debug, s₁, s₂, s₃, hgetters, hsetters, hinitializers,
    (run_emitted_eq_ok_iff.mp hdebug).1, rfl⟩

end Parts

/-- The declaration is among the pieces of a type, unless there is nothing in it. -/
theorem declaration_mem_fragments {owner : Int} {s told : Untyped} {fs : List Fragment}
    (h : (v.fragments owner).run.run s = (.ok fs, told)) :
    ∃ text, v.declaration = .ok text ∧ (text ≠ "" → ⟨.declaration, text, owner⟩ ∈ fs) := by
  obtain ⟨text, _, _, _, _, htext, -, -, -, -, rfl⟩ := exists_of_fragments h
  refine ⟨text, htext, fun hpresent => ?_⟩
  simp [piece, hpresent]

/-- The pieces of a type whose layouts have value types, for all numbers that it may have. -/
theorem exists_fragments (htypes : ∀ l ∈ v.layouts, l.valueType?.isSome = true) :
    ∃ r : Except Breakdown (List Fragment), (v.Usable → Gives r fun _ => True)
      ∧ (∀ fs, r = .ok fs → ∀ f ∈ fs, f.kind ≠ .binding)
      ∧ ∀ owner, v.fragments owner = emitted (List.map (Fragment.ownedBy owner) <$> r) := by
  obtain ⟨r, hr, hgives⟩ := emits_fragments htypes 0
  refine ⟨List.filter (fun f => f.kind ≠ .binding) <$> r, fun h => (hgives h).map fun _ _ => trivial, ?_, ?_⟩
  · intro fs hfs f hf
    obtain ⟨all, -, rfl⟩ := exists_of_map_eq_ok hfs
    simpa using (List.mem_filter.mp hf).2
  · intro owner
    rw [fragments_eq, hr]
    cases r <;> rfl

end RecordView

end ShaderRecords
