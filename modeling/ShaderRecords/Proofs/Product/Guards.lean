/-
ShaderRecords.Proofs.Product.Guards — which fields are declared where their guards hold.

A field with a guard is there where the guard holds. In a declaration the line of a register stands under
the guard of the register, and that is the guard of its first field. So a register is declared exactly where
its first field is there (`declares_iff`). For the other fields that is right only if they have the same
guard: all fields are declared as their guards say, whatever holds, exactly if no register is shared by fields
of different guards (`forall_declaresFields_iff`). Exact packing shares no registers
(`declaresFields_of_exact`). Aggressive packing looks at the types of fields and not at their guards, and does
share such registers.
-/
import ShaderRecords.Proofs.Include.Conditions
import ShaderRecords.Proofs.Product.TypeProduct
import ShaderRecords.Proofs.Record.Packing

namespace ShaderRecords

/-! ## Fields -/

theorem Field.isThere_iff {f : Field} {guard : String} (h : f.guard = .text guard) (holds : String → Bool) :
    f.IsThere holds ↔ guard = "" ∨ holds guard = true := by
  have hpresent : f.guard.isPresent = true ↔ guard ≠ "" := by
    simp [h, Value.isPresent]
  have hdisplay : f.guard.display = guard := by
    rw [h]
    rfl
  rw [IsThere, hpresent, hdisplay]
  tauto

/-- Fields that are there together, whatever holds, have the same guard. -/
theorem Field.guard_eq_of_isThere_iff {f g : Field} {guard other : String} (hf : f.guard = .text guard)
    (hg : g.guard = .text other) (h : ∀ holds, f.IsThere holds ↔ g.IsThere holds) : f.guard = g.guard := by
  have hall : ∀ holds : String → Bool,
      (guard = "" ∨ holds guard = true) ↔ (other = "" ∨ holds other = true) := by
    intro holds
    rw [← isThere_iff hf, ← isThere_iff hg]
    exact h holds
  -- Where nothing holds only fields without guards are there; where one guard holds, those and its own.
  have hnone : guard = "" ↔ other = "" := by simpa using hall fun _ => false
  have hone := hall (· == guard)
  suffices guard = other by rw [hf, hg, this]
  by_cases hguard : guard = ""
  · rw [hguard, hnone.mp hguard]
  · rcases hone.mp (Or.inr (beq_self_eq_true guard)) with hother | hother
    · exact absurd (hnone.mpr hother) hguard
    · exact (eq_of_beq hother).symm

namespace TypeProduct

/-! ## Registers -/

/-- Whether the declaration among the pieces of a type declares the register with a number: a line of that
register is left when the guards are resolved. -/
def Declares (p : TypeProduct) (holds : String → Bool) (k : Nat) : Prop :=
  ∃ f ∈ p.fragments, f.kind = .declaration
    ∧ ∃ lines, numberedLines p.typeDef p.registers = .ok lines ∧ textLines f.text = lines.map (·.1) ++ [""]
      ∧ some k ∈ (Condition.resolve holds (·.1) [] lines).map (·.2)

/-- Whether each field is declared, as a part of its register, exactly where its own guard is empty or
holds. -/
def DeclaresFields (p : TypeProduct) (holds : String → Bool) : Prop :=
  ∀ (k : Nat) r, p.registers[k]? = some r → ∀ f ∈ r.members, p.Declares holds k ↔ f.IsThere holds

section Fine

variable {registry : Registry} {settings : Settings} {owner : Int} {t : TypeDef} {s s' : Resolver}
  {p : TypeProduct} {r : Register}

/-- The guards of all fields are texts without line ends if those of the members are. -/
theorem exists_guard_of_mem_members (h : (build registry settings owner true t).run s = .ok (p, s'))
    (hfine : p.isFine = true) (hguards : ∀ m ∈ t.members, '\n' ∉ (m.surface.getD {}).guard.toList)
    (hr : r ∈ p.registers) {f : Field} (hf : f ∈ r.members) :
    ∃ guard : String, f.guard = .text guard ∧ '\n' ∉ guard.toList := by
  obtain ⟨hgrouping, hof⟩ := (isAccepted_of_run_build h hfine).grouping
  obtain ⟨m, hm, hfm⟩ := hof f (by
    rw [← hgrouping.members]
    exact List.mem_flatMap.mpr ⟨r, hr, hf⟩)
  exact ⟨_, hfm.guard, hguards m hm⟩

/-- The first field of a register. -/
theorem exists_first (h : (build registry settings owner true t).run s = .ok (p, s'))
    (hfine : p.isFine = true) (hr : r ∈ p.registers) :
    ∃ f ∈ r.members.head?, f ∈ r.members ∧ r.guard = f.guard := by
  obtain ⟨name, f, fs, -, rfl, -⟩ := ((isAccepted_of_run_build h hfine).grouping.1.formed r hr).exists_eq_ofGroup
  exact ⟨f, rfl, by simp, rfl⟩

theorem lineEnd_notMem_guard (h : (build registry settings owner true t).run s = .ok (p, s'))
    (hfine : p.isFine = true) (hguards : ∀ m ∈ t.members, '\n' ∉ (m.surface.getD {}).guard.toList) :
    ∀ r ∈ p.registers, '\n' ∉ r.guard.display.toList := by
  intro r hr
  obtain ⟨f, -, hf, heq⟩ := exists_first h hfine hr
  obtain ⟨guard, htext, hline⟩ := exists_guard_of_mem_members h hfine hguards hr hf
  rw [heq, htext]
  exact hline

/-- A type without a problem that has a register has a declaration among its pieces, and the lines of the
declaration are known. -/
theorem exists_declaration (h : (build registry settings owner true t).run s = .ok (p, s'))
    (hfine : p.isFine = true) (hguards : ∀ m ∈ t.members, '\n' ∉ (m.surface.getD {}).guard.toList)
    (hplain : DeclaresPlainly t p.registers) (hr : r ∈ p.registers) :
    ∃ f ∈ p.fragments, f.kind = .declaration ∧ ∃ lines, numberedLines p.typeDef p.registers = .ok lines
      ∧ textLines f.text = lines.map (·.1) ++ [""] := by
  have hwhole := lineEnd_notMem_guard h hfine hguards
  have hfields : p.extracted.hasFields = true := by
    obtain ⟨f, -, hf, -⟩ := exists_first h hfine hr
    have hmem : f ∈ p.extracted.fields := by
      rw [← (isAccepted_of_run_build h hfine).grouping.1.members]
      exact List.mem_flatMap.mpr ⟨r, hr, hf⟩
    simpa [TypeFields.hasFields] using List.ne_nil_of_mem hmem
  obtain ⟨rfl, -, -, name, told, hfragments⟩ := exists_of_run_build h hfine
  obtain ⟨text, htext, hmem⟩ := RecordView.declaration_mem_fragments hfragments
  simp only [RecordView.declaration, view, hfields, if_true] at htext
  exact ⟨_, hmem (ne_empty_of_declarationText htext), rfl, textLines_of_declarationText hplain hwhole htext⟩

/-- A register of a type without a problem is declared exactly where its first field is there. -/
theorem declares_iff (h : (build registry settings owner true t).run s = .ok (p, s'))
    (hfine : p.isFine = true) (hguards : ∀ m ∈ t.members, '\n' ∉ (m.surface.getD {}).guard.toList)
    (hplain : DeclaresPlainly t p.registers) (holds : String → Bool) {k : Nat} (hk : p.registers[k]? = some r)
    {f : Field} (hf : f ∈ r.members.head?) : p.Declares holds k ↔ f.IsThere holds := by
  have hr := List.mem_of_getElem? hk
  have hthere : r.toField.IsThere holds ↔ f.IsThere holds := by
    obtain ⟨first, hfirst, -, hguard⟩ := exists_first h hfine hr
    obtain rfl : first = f := Option.some.inj (hfirst.symm.trans hf)
    unfold Field.IsThere
    rw [← hguard]
    rfl
  obtain ⟨piece, hpiece, hkind, lines, hlines, htexts⟩ := exists_declaration h hfine hguards hplain hr
  obtain ⟨rfl, -⟩ := exists_of_run_build h hfine
  rw [← hthere]
  constructor
  · rintro ⟨_, -, -, lines', hlines', -, hleft⟩
    obtain ⟨q, hq, hthere⟩ := (mem_resolve_numberedLines_iff holds hplain hlines' k).mp hleft
    rw [hk] at hq
    exact Option.some.inj hq ▸ hthere
  · intro hthere
    exact ⟨piece, hpiece, hkind, lines, hlines, htexts,
      (mem_resolve_numberedLines_iff holds hplain hlines k).mpr ⟨r, hk, hthere⟩⟩

/-- All fields are declared as their guards say, whatever holds, exactly if no register is shared by fields of
different guards. -/
theorem forall_declaresFields_iff (h : (build registry settings owner true t).run s = .ok (p, s'))
    (hfine : p.isFine = true) (hguards : ∀ m ∈ t.members, '\n' ∉ (m.surface.getD {}).guard.toList)
    (hplain : DeclaresPlainly t p.registers) :
    (∀ holds, p.DeclaresFields holds)
      ↔ ∀ r ∈ p.registers, ∀ f ∈ r.members, ∀ g ∈ r.members, f.guard = g.guard := by
  constructor
  · intro hall r hr f hf g hg
    obtain ⟨k, hk⟩ := List.mem_iff_getElem?.mp hr
    obtain ⟨guard, hguard, -⟩ := exists_guard_of_mem_members h hfine hguards hr hf
    obtain ⟨other, hother, -⟩ := exists_guard_of_mem_members h hfine hguards hr hg
    exact Field.guard_eq_of_isThere_iff hguard hother fun holds =>
      (hall holds k r hk f hf).symm.trans (hall holds k r hk g hg)
  · intro hsame holds k r hk f hf
    have hr := List.mem_of_getElem? hk
    obtain ⟨first, hhead, hfirst, -⟩ := exists_first h hfine hr
    rw [declares_iff h hfine hguards hplain holds hk hhead]
    unfold Field.IsThere
    rw [hsame r hr first hfirst f hf]

/-- Exactly packed fields are declared as their guards say. -/
theorem declaresFields_of_exact (h : (build registry settings owner true t).run s = .ok (p, s'))
    (hfine : p.isFine = true) (hguards : ∀ m ∈ t.members, '\n' ∉ (m.surface.getD {}).guard.toList)
    (hplain : DeclaresPlainly t p.registers) (hexact : t.rules = .exact) (holds : String → Bool) :
    p.DeclaresFields holds := by
  refine (forall_declaresFields_iff h hfine hguards hplain).mpr (fun r hr f hf g hg => ?_) holds
  obtain ⟨-, -, hpack, -⟩ := exists_of_run_build h hfine
  rw [hexact] at hpack
  have hregisters : p.extracted.fields.map .ofField = p.registers := Except.ok.inj hpack
  rw [← hregisters] at hr
  obtain ⟨only, -, rfl⟩ := List.mem_map.mp hr
  rw [List.mem_singleton.mp hf, List.mem_singleton.mp hg]

/-- A type without a problem has the fields of its members in its registers, with their guards, and declares
each register exactly where its first field is there. All fields are declared as their own guards say,
whatever holds, exactly if no register is shared by fields of different guards. -/
theorem declares_by_first_guard (h : (build registry settings owner true t).run s = .ok (p, s'))
    (hfine : p.isFine = true) (hguards : ∀ m ∈ t.members, '\n' ∉ (m.surface.getD {}).guard.toList)
    (hplain : DeclaresPlainly t p.registers) :
    p.registers.flatMap (·.members) = p.extracted.fields
      ∧ (∀ f ∈ p.extracted.fields, ∃ m ∈ t.members,
        f.name = m.name ∧ f.guard = .text (m.surface.getD {}).guard)
      ∧ (∀ holds (k : Nat) r, p.registers[k]? = some r → ∀ f ∈ r.members.head?,
        p.Declares holds k ↔ f.IsThere holds)
      ∧ ((∀ holds, p.DeclaresFields holds)
        ↔ ∀ r ∈ p.registers, ∀ f ∈ r.members, ∀ g ∈ r.members, f.guard = g.guard) := by
  obtain ⟨hgrouping, hof⟩ := (isAccepted_of_run_build h hfine).grouping
  refine ⟨hgrouping.members, fun f hf => ?_, fun holds k r hk f hf => ?_, ?_⟩
  · obtain ⟨m, hm, hfm⟩ := hof f hf
    exact ⟨m, hm, hfm.name, hfm.guard⟩
  · exact declares_iff h hfine hguards hplain holds hk hf
  · exact forall_declaresFields_iff h hfine hguards hplain

end Fine

/-- Two numbers with guards, which share a register. -/
def guardedPair (guard other : String) : TypeDef where
  name := "Probe"
  fullName := "Probe"
  packingRules := "aggressive"
  members := [{ name := "a", type := "float", surface := some { guard := guard } },
    { name := "b", type := "float", surface := some { guard := other } }]

/-- Settings that say nothing of files. -/
def plainSettings : Settings where
  outDir := ⟨"", []⟩
  sourceLabel := "types.yaml"
  packingInclude := .null
  debugStart := .int 1
  command := "generate"
  emitManifest := false

/-- The product of a pair whose fields keep their guards in one register. -/
theorem exists_build_guardedPair (guard other : String)
    (h : (fun q => (q.1.isFine, decide (DeclaresPlainly (guardedPair guard other) q.1.registers),
        q.1.registers.map fun r => r.members.map fun f => f.guard.text?))
      <$> (build ⟨[], []⟩ plainSettings 0 true (guardedPair guard other)).run {}
      = .ok (true, true, [[some guard, some other]])) :
    ∃ p s' r f g, (build ⟨[], []⟩ plainSettings 0 true (guardedPair guard other)).run {} = .ok (p, s')
      ∧ p.isFine = true ∧ DeclaresPlainly (guardedPair guard other) p.registers
      ∧ p.registers = [r] ∧ r.members = [f, g] ∧ f.guard = .text guard ∧ g.guard = .text other := by
  obtain ⟨⟨p, s'⟩, hbuild, hgiven⟩ := exists_of_map_eq_ok h
  simp only [Prod.mk.injEq, decide_eq_true_eq, List.map_eq_cons_iff, List.map_eq_nil_iff] at hgiven
  obtain ⟨hfine, hplain, r, _, hregisters, ⟨f, _, hmembers, hguard, g, _, rfl, hother, rfl⟩, rfl⟩ := hgiven
  exact ⟨p, s', r, f, g, hbuild, hfine, hplain, hregisters, hmembers, Value.eq_text_of_text? hguard,
    Value.eq_text_of_text? hother⟩

/-- Fields of one guard that share a register are declared as their guard says. -/
theorem declares_by_first_guard_of_sameGuards :
    ∃ p s', (build ⟨[], []⟩ plainSettings 0 true (guardedPair "USE_A" "USE_A")).run {} = .ok (p, s')
      ∧ p.isFine = true ∧ p.registers.map (·.members.length) = [2] ∧ ∀ holds, p.DeclaresFields holds := by
  obtain ⟨p, s', r, f, g, hbuild, hfine, hplain, hregisters, hmembers, hguard, hother⟩ :=
    exists_build_guardedPair "USE_A" "USE_A" (by decide)
  have hguards : ∀ m ∈ (guardedPair "USE_A" "USE_A").members, '\n' ∉ (m.surface.getD {}).guard.toList := by
    decide
  refine ⟨p, s', hbuild, hfine, by simp [hregisters, hmembers], ?_⟩
  refine (declares_by_first_guard hbuild hfine hguards hplain).2.2.2.mpr fun q hq => ?_
  rw [hregisters, List.mem_singleton] at hq
  subst hq
  simp [hmembers, hguard, hother]

/-- A field without a guard that joins the register of a field with one is not declared where that guard does
not hold. -/
theorem declares_otherwise_of_differentGuards :
    ∃ p s' r g, (build ⟨[], []⟩ plainSettings 0 true (guardedPair "USE_A" "")).run {} = .ok (p, s')
      ∧ p.isFine = true ∧ DeclaresPlainly (guardedPair "USE_A" "") p.registers
      ∧ (∀ m ∈ (guardedPair "USE_A" "").members, '\n' ∉ (m.surface.getD {}).guard.toList)
      ∧ p.registers[0]? = some r ∧ g ∈ r.members ∧ g.guard = .text ""
      ∧ ¬p.Declares (fun _ => false) 0 ∧ ¬p.DeclaresFields fun _ => false := by
  obtain ⟨p, s', r, f, g, hbuild, hfine, hplain, hregisters, hmembers, hguard, hother⟩ :=
    exists_build_guardedPair "USE_A" "" (by decide)
  have hguards : ∀ m ∈ (guardedPair "USE_A" "").members, '\n' ∉ (m.surface.getD {}).guard.toList := by
    decide
  have hfirst : p.registers[0]? = some r := by rw [hregisters]; rfl
  have hmem : g ∈ r.members := by simp [hmembers]
  have hhidden : ¬p.Declares (fun _ => false) 0 := by
    rw [declares_iff hbuild hfine hguards hplain (fun _ => false) hfirst (f := f) (by simp [hmembers]),
      Field.isThere_iff hguard]
    decide
  refine ⟨p, s', r, g, hbuild, hfine, hplain, hguards, hfirst, hmem, hother, hhidden, fun hall => ?_⟩
  exact hhidden ((hall 0 r hfirst g hmem).mpr ((Field.isThere_iff hother _).mpr (Or.inl rfl)))

end TypeProduct

end ShaderRecords
