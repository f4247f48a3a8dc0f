/-
ShaderRecords.Proofs.Product.Accesses — whether what functions and the debug view read and write is declared.

A register is declared under the guard of its first field. The functions of a type stand under no guard, and the
entries of the debug view under the guard of their own member or request. So what is left of the pieces of a
type when the guards are resolved can name a member that is not left in the declaration. Whether that can happen
is seen from the type without resolving anything: it does not, whatever holds, exactly if each place that names a
member finds a register of that name without a guard or with the guard of the place
(`accesses_declared_iff`).
-/
import ShaderRecords.Proofs.Extraction.DebugEntries
import ShaderRecords.Proofs.Include.Branches
import ShaderRecords.Proofs.Product.FunctionNames

namespace ShaderRecords

/-- A place at which a function or the debug view reads or writes a member of the record. -/
structure Access where
  member : String
  /-- The guard that the place stands under; empty for none. -/
  guard : String := ""
deriving Repr, DecidableEq

namespace TypeProduct

/-! ## Definitions -/

/-- The places of the fields in their registers. -/
def accessors (p : TypeProduct) : List Accessor :=
  (placedFields p.registers).map (·.2)

/-- The lines of the debug view, none if there is nothing to show. -/
def debugLines (p : TypeProduct) : MarkedLines :=
  if p.typeDef.needsDebug && !p.extracted.debugFields.isEmpty then
    markedDebug p.typeDef.name.display p.extracted.debugFields p.accessors
  else []

/-- Whether marked lines are those of the pieces of a kind that read or write members. -/
inductive HasLines (p : TypeProduct) : FragmentKind → MarkedLines → Prop
  | ordinary {purpose : Purpose} {ordinary packed : List ShaderFunction}
      (h : p.record.Writes p.fragments purpose ordinary packed) :
      HasLines p purpose.ordinaryKind (markedFunctions (purpose.ordinaryRemarks p.typeDef) ordinary [])
  | packed {purpose : Purpose} {ordinary packed : List ShaderFunction}
      (h : p.record.Writes p.fragments purpose ordinary packed) :
      HasLines p purpose.packedKind (markedFunctions purpose.packedRemarks packed purpose.packedEnding)
  | debug : HasLines p p.record.debugKind p.debugLines

/-- Whether functions or the debug view read or write a member: a line that names it is left of the pieces of
some kind when the guards are resolved. -/
def Accesses (p : TypeProduct) (holds : String → Bool) (name : String) : Prop :=
  ∃ kind lines, p.HasLines kind lines
    ∧ textLines (Fragment.textOf kind p.fragments) = lines.map (·.1) ++ [""]
    ∧ ∃ line, (line, some name) ∈ Branch.resolve holds (·.1) [] lines ∧ NamesMember line name

/-- Whether a member of a name is declared: a line of the declaration that declares a register of that name is
left when the guards are resolved. -/
def DeclaresMember (p : TypeProduct) (holds : String → Bool) (name : String) : Prop :=
  ∃ f ∈ p.fragments, f.kind = .declaration
    ∧ ∃ lines, numberedLines p.typeDef p.registers = .ok lines ∧ textLines f.text = lines.map (·.1) ++ [""]
      ∧ ∃ k r, p.registers[k]? = some r ∧ r.name.display = name
        ∧ some k ∈ (Branch.resolve holds (·.1) [] lines).map (·.2)

/-- The places at which functions and the debug view read and write members. -/
def accesses (p : TypeProduct) : List Access :=
  ((Purpose.all.flatMap p.ordinaryPlaces).map fun q => { member := q.2.register.display })
    ++ p.layouts.map (fun l => { member := l.field.display })
    ++ if p.typeDef.needsDebug then
      p.extracted.debugFields.filterMap fun e =>
        (e.member? p.accessors).map fun member => { member := member, guard := e.guard }
    else []

/-- Whether the guards are the only thing in the functions and in the debug view that the preprocessor has to do
with: all other lines are plain. -/
structure AccessesPlainly (p : TypeProduct) : Prop where
  ordinary : ∀ purpose ∈ Purpose.all, ∀ functions ∈ (p.record.ordinaryFunctions purpose).toOption,
    ∀ line ∈ functionsLines (purpose.ordinaryRemarks p.typeDef) functions [], IsPlain line
  packed : ∀ purpose ∈ Purpose.all, ∀ l ∈ p.layouts,
    ∀ f ∈ (packedFunction p.record.names l purpose).toOption.join, ∀ line ∈ f.lines, IsPlain line
  debug : p.typeDef.needsDebug = true →
    ShowsPlainly p.typeDef.name.display p.extracted.debugFields p.accessors

instance (p : TypeProduct) : Decidable p.AccessesPlainly :=
  decidable_of_iff (_ ∧ _ ∧ _) ⟨fun ⟨h, h', h''⟩ => ⟨h, h', h''⟩, fun h => ⟨h.ordinary, h.packed, h.debug⟩⟩

/-! ## Functions -/

section Written

variable {p : TypeProduct} {purpose : Purpose} {ordinary packed : List ShaderFunction}

theorem AccessesPlainly.isPlain_ordinary (hplain : p.AccessesPlainly)
    (h : p.record.Writes p.fragments purpose ordinary packed) :
    ∀ line ∈ functionsLines (purpose.ordinaryRemarks p.typeDef) ordinary [], IsPlain line :=
  hplain.ordinary purpose purpose.mem_all ordinary (by simp [h.ordinary_eq, Except.toOption])

theorem AccessesPlainly.isPlain_packed (hplain : p.AccessesPlainly)
    (h : p.record.Writes p.fragments purpose ordinary packed) :
    ∀ line ∈ functionsLines purpose.packedRemarks packed purpose.packedEnding, IsPlain line := by
  intro line hline
  unfold functionsLines at hline
  split at hline
  · simp at hline
  · rcases List.mem_append.mp hline with hline | hending
    · rcases List.mem_append.mp hline with hremark | hfunction
      · exact (show ∀ purpose ∈ Purpose.all, ∀ line ∈ bannerLines purpose.packedRemarks, IsPlain line by
          decide) purpose purpose.mem_all line hremark
      · obtain ⟨f, hf, hline⟩ := List.mem_flatMap.mp hfunction
        obtain ⟨l, hl, hwritten⟩ := exists_mem_of_forall₂ h.arePacked hf
        exact hplain.packed purpose purpose.mem_all l hl f (by simp [hwritten, Except.toOption]) line hline
    · exact (show ∀ purpose ∈ Purpose.all, ∀ line ∈ purpose.packedEnding, IsPlain line by
        decide) purpose purpose.mem_all line hending

/-- The members that the functions of ordinary fields name. -/
theorem exists_ordinary_member_iff (h : p.record.Writes p.fragments purpose ordinary packed) (name : String) :
    (∃ f ∈ ordinary, f.member = name) ↔ ∃ q ∈ p.ordinaryPlaces purpose, q.2.register.display = name := by
  have hall := (forall₂_of_ordinaryFunctions h.ordinary_eq).imp fun _ _ => spec_of_ordinaryFunction
  have hmembers : (p.ordinaryPlaces purpose).map (·.2.register.display) = ordinary.map (·.member) :=
    map_eq_map_of_forall₂ (hall.imp fun _ _ hspec => hspec.2.2.1.symm)
  simpa using congrArg (name ∈ ·) hmembers.symm

/-- The members that the functions of packed values name. -/
theorem exists_packed_member_iff (h : p.record.Writes p.fragments purpose ordinary packed) (name : String) :
    (∃ f ∈ packed, f.member = name) ↔ ∃ l ∈ p.layouts, l.field.display = name := by
  have hmembers : p.layouts.map (·.field.display) = packed.map (·.member) :=
    map_eq_map_of_forall₂ (h.arePacked.imp fun _ _ hl => (spec_of_packedFunction hl).2.1.symm)
  simpa using congrArg (name ∈ ·) hmembers.symm

/-- The members with which lines are marked stand in these lines. -/
theorem namesMember_of_hasLines {kind : FragmentKind} {lines : MarkedLines} (hlines : p.HasLines kind lines)
    {line name : String} (h : (line, some name) ∈ lines) : NamesMember line name := by
  cases hlines with
  | ordinary hwrites =>
    refine namesMember_of_mem_markedFunctions (fun f hf => ?_) h
    obtain ⟨q, -, hwritten⟩ := exists_mem_of_forall₂ (forall₂_of_ordinaryFunctions hwrites.ordinary_eq) hf
    exact (spec_of_ordinaryFunction hwritten).2.2.2
  | packed hwrites =>
    refine namesMember_of_mem_markedFunctions (fun f hf => ?_) h
    obtain ⟨l, -, hwritten⟩ := exists_mem_of_forall₂ hwrites.arePacked hf
    exact (spec_of_packedFunction hwritten).2.2
  | debug =>
    unfold debugLines at h
    split at h
    · exact namesMember_of_mem_markedDebug h
    · simp at h

/-- Lines that have a mark left name the member. -/
theorem accesses_of_hasLines {holds : String → Bool} {kind : FragmentKind} {lines : MarkedLines}
    (hlines : p.HasLines kind lines)
    (htext : textLines (Fragment.textOf kind p.fragments) = lines.map (·.1) ++ [""]) {name : String}
    (hmem : some name ∈ (Branch.resolve holds (·.1) [] lines).map (·.2)) : p.Accesses holds name := by
  obtain ⟨⟨line, mark⟩, hline, rfl⟩ := List.mem_map.mp hmem
  exact ⟨kind, lines, hlines, htext, line, hline,
    namesMember_of_hasLines hlines (Branch.mem_of_mem_resolve holds hline)⟩

end Written

/-! ## Accesses -/

section Accesses

variable {p : TypeProduct} {a : Access}

theorem mem_accesses_iff : a ∈ p.accesses
    ↔ (∃ purpose, ∃ q ∈ p.ordinaryPlaces purpose, a = { member := q.2.register.display })
      ∨ (∃ l ∈ p.layouts, a = { member := l.field.display })
      ∨ p.typeDef.needsDebug = true ∧ ∃ e ∈ p.extracted.debugFields, ∃ member,
        e.member? p.accessors = some member ∧ a = { member := member, guard := e.guard } := by
  have hordinary : a ∈ (Purpose.all.flatMap p.ordinaryPlaces).map (fun q => { member := q.2.register.display })
      ↔ ∃ purpose, ∃ q ∈ p.ordinaryPlaces purpose, a = { member := q.2.register.display } := by
    simp only [List.mem_map, List.mem_flatMap]
    constructor
    · rintro ⟨q, ⟨purpose, -, hq⟩, rfl⟩
      exact ⟨purpose, q, hq, rfl⟩
    · rintro ⟨purpose, q, hq, rfl⟩
      exact ⟨q, ⟨purpose, purpose.mem_all, hq⟩, rfl⟩
  rw [accesses, List.mem_append, List.mem_append, hordinary, or_assoc]
  refine or_congr_right (or_congr (by simp [eq_comm]) ?_)
  cases p.typeDef.needsDebug with
  | false => simp
  | true => simp [eq_comm]

variable (hwritten : p.record.IsWritten p.fragments) (hplain : p.AccessesPlainly)
  (hguards : p.typeDef.needsDebug = true → ∀ e ∈ p.extracted.debugFields, '\n' ∉ e.guard.toList)

include hwritten in
/-- The text of the debug view. -/
theorem textOf_debugKind : Fragment.textOf p.record.debugKind p.fragments = unlines (p.debugLines.map (·.1)) := by
  have hdebug := hwritten.debug
  unfold RecordView.debug at hdebug
  unfold debugLines
  have hshown : (p.record.typeDef.needsDebug && !p.record.extracted.debugFields.isEmpty)
      = (p.typeDef.needsDebug && !p.extracted.debugFields.isEmpty) := rfl
  rw [hshown] at hdebug
  cases hcase : p.typeDef.needsDebug && !p.extracted.debugFields.isEmpty with
  | false =>
    rw [hcase] at hdebug
    exact (Except.ok.inj hdebug).symm
  | true =>
    rw [hcase] at hdebug
    obtain ⟨_, -, hdebug⟩ := bind_eq_ok_iff.mp hdebug
    rw [if_pos rfl, map_fst_markedDebug, unlines_append, ← Except.ok.inj hdebug]
    rfl

include hplain in
/-- What the lines of a kind of pieces name when the guards are resolved is named at some place without a guard
or with one that holds. -/
theorem exists_access_of_hasLines {holds : String → Bool} {kind : FragmentKind} {lines : MarkedLines}
    (hlines : p.HasLines kind lines) {name : String}
    (hmem : some name ∈ (Branch.resolve holds (·.1) [] lines).map (·.2)) :
    ∃ a ∈ p.accesses, a.member = name ∧ (a.guard = "" ∨ holds a.guard = true) := by
  cases hlines with
  | @ordinary purpose _ _ h =>
    rw [some_mem_resolve_markedFunctions_iff holds (hplain.isPlain_ordinary h),
      exists_ordinary_member_iff h] at hmem
    obtain ⟨q, hq, rfl⟩ := hmem
    exact ⟨_, mem_accesses_iff.mpr (.inl ⟨purpose, q, hq, rfl⟩), rfl, .inl rfl⟩
  | packed h =>
    rw [some_mem_resolve_markedFunctions_iff holds (hplain.isPlain_packed h),
      exists_packed_member_iff h] at hmem
    obtain ⟨l, hl, rfl⟩ := hmem
    exact ⟨_, mem_accesses_iff.mpr (.inr (.inl ⟨l, hl, rfl⟩)), rfl, .inl rfl⟩
  | debug =>
    unfold debugLines at hmem
    split at hmem
    next hshown =>
      have hdebug := (Bool.and_eq_true_iff.mp hshown).1
      rw [some_mem_resolve_markedDebug_iff holds (hplain.debug hdebug)] at hmem
      obtain ⟨e, he, hmember, hguard⟩ := hmem
      exact ⟨⟨name, e.guard⟩, mem_accesses_iff.mpr (.inr (.inr ⟨hdebug, e, he, name, hmember, rfl⟩)), rfl, hguard⟩
    · simp [Branch.resolve] at hmem

include hwritten hplain hguards in
/-- A type without a problem reads or writes a member exactly if some place names it that has no guard or one
that holds. -/
theorem accesses_iff (holds : String → Bool) (name : String) :
    p.Accesses holds name ↔ ∃ a ∈ p.accesses, a.member = name ∧ (a.guard = "" ∨ holds a.guard = true) := by
  constructor
  · rintro ⟨kind, lines, hlines, -, line, hline, -⟩
    exact exists_access_of_hasLines hplain hlines (List.mem_map.mpr ⟨_, hline, rfl⟩)
  · rintro ⟨a, ha, rfl, hguard⟩
    rcases mem_accesses_iff.mp ha with ⟨purpose, q, hq, rfl⟩ | ⟨l, hl, rfl⟩ | ⟨hdebug, e, he, name, hmember, rfl⟩
    · obtain ⟨ordinary, packed, h⟩ := hwritten.functions purpose
      have hlines := hplain.isPlain_ordinary h
      refine accesses_of_hasLines (.ordinary h) ?_ ?_
      · rw [h.ordinaryText_eq, map_fst_markedFunctions]
        exact textLines_unlines fun line hline => (hlines line hline).whole
      · rw [some_mem_resolve_markedFunctions_iff holds hlines, exists_ordinary_member_iff h]
        exact ⟨q, hq, rfl⟩
    · obtain ⟨ordinary, packed, h⟩ := hwritten.functions .read
      have hlines := hplain.isPlain_packed h
      refine accesses_of_hasLines (.packed h) ?_ ?_
      · rw [h.packedText_eq, map_fst_markedFunctions]
        exact textLines_unlines fun line hline => (hlines line hline).whole
      · rw [some_mem_resolve_markedFunctions_iff holds hlines, exists_packed_member_iff h]
        exact ⟨l, hl, rfl⟩
    · have hsome : p.extracted.debugFields.isEmpty = false := by
        simpa using List.ne_nil_of_mem he
      have hshown : p.debugLines = markedDebug p.typeDef.name.display p.extracted.debugFields p.accessors := by
        simp [debugLines, hdebug, hsome]
      refine accesses_of_hasLines .debug ?_ ?_
      · rw [textOf_debugKind hwritten, hshown]
        exact textLines_unlines (lineEnd_notMem_markedDebug (hplain.debug hdebug) (hguards hdebug))
      · rw [hshown, some_mem_resolve_markedDebug_iff holds (hplain.debug hdebug)]
        exact ⟨e, he, hmember, hguard⟩

end Accesses

/-! ## Declared members -/

section Fine

variable {registry : Registry} {settings : Settings} {owner : Int} {t : TypeDef} {r r' : Resolver}
  {p : TypeProduct}

/-- The guards of the debug view are those of members and of their requests. -/
theorem IsAccepted.lineEnd_notMem_guard_of_debugField {render : Bool}
    (h : IsAccepted registry settings owner render t r r' p) (hdebug : t.needsDebug = true)
    (hguards : ∀ m ∈ t.members, '\n' ∉ (m.surface.getD {}).guard.toList)
    (hrequests : ∀ m ∈ t.members, ∀ d ∈ m.packing, '\n' ∉ d.guard.toList) :
    ∀ e ∈ p.extracted.debugFields, '\n' ∉ e.guard.toList := by
  intro e he
  obtain ⟨m, field, es, hm, he⟩ := exists_ordinaryIn_of_debugField h.extract_eq h.errors_eq_nil he
  obtain ⟨next, last, hentries⟩ := hm.debug_eq
  have hshows := shows_of_memberDebug hdebug hentries
  generalize m.noted field = noted at hshows
  cases hshows with
  | packed _ hall =>
    obtain ⟨⟨d, label⟩, hlabel, scheme, -, full, shown, id, -, -, rfl⟩ := exists_mem_of_forall₂ hall he
    obtain ⟨d', hd, hlabel⟩ := List.mem_flatMap.mp hlabel
    obtain ⟨_, -, heq⟩ := List.mem_map.mp hlabel
    obtain ⟨rfl, -⟩ := Prod.mk.inj heq
    exact hrequests m hm.member d' hd
  | ordinary _ hall =>
    obtain ⟨label, -, full, shown, id, -, -, rfl⟩ := exists_mem_of_forall₂ hall he
    exact hguards m hm.member
  | nothing => simp at he

/-- A member is declared if one of the registers of its name is. -/
theorem declaresMember_iff_exists_declares (hplain : DeclaresPlainly p.typeDef p.registers)
    (holds : String → Bool) (name : String) :
    p.DeclaresMember holds name
      ↔ ∃ (k : Nat) (q : Register), p.registers[k]? = some q ∧ q.name.display = name ∧ p.Declares holds k := by
  constructor
  · rintro ⟨f, hf, hkind, lines, hlines, htext, k, q, hk, hname, hleft⟩
    rw [Branch.resolve_numberedLines hplain hlines] at hleft
    exact ⟨k, q, hk, hname, f, hf, hkind, lines, hlines, htext, hleft⟩
  · rintro ⟨k, q, hk, hname, f, hf, hkind, lines, hlines, htext, hleft⟩
    rw [← Branch.resolve_numberedLines hplain hlines] at hleft
    exact ⟨f, hf, hkind, lines, hlines, htext, k, q, hk, hname, hleft⟩

/-- A member is declared exactly if there is a register of its name without a guard or with one that holds. -/
theorem declaresMember_iff (h : (build registry settings owner true t).run r = .ok (p, r'))
    (hfine : p.isFine = true) (hguards : ∀ m ∈ t.members, '\n' ∉ (m.surface.getD {}).guard.toList)
    (hplain : DeclaresPlainly t p.registers) (holds : String → Bool) (name : String) :
    p.DeclaresMember holds name ↔ ∃ q ∈ p.registers, q.name.display = name
      ∧ (q.guard.display = "" ∨ holds q.guard.display = true) := by
  have hdeclared : ∀ (k : Nat) q, p.registers[k]? = some q →
      (p.Declares holds k ↔ q.guard.display = "" ∨ holds q.guard.display = true) := by
    intro k q hk
    obtain ⟨f, hhead, hf, hguard⟩ := exists_first h hfine (List.mem_of_getElem? hk)
    obtain ⟨guard, htext, -⟩ := exists_guard_of_mem_members h hfine hguards (List.mem_of_getElem? hk) hf
    rw [declares_iff h hfine hguards hplain holds hk hhead, Field.isThere_iff htext, hguard, htext]
    rfl
  obtain ⟨rfl, -⟩ := exists_of_run_build h hfine
  rw [declaresMember_iff_exists_declares hplain]
  constructor
  · rintro ⟨k, q, hk, hname, hq⟩
    exact ⟨q, List.mem_of_getElem? hk, hname, (hdeclared k q hk).mp hq⟩
  · rintro ⟨q, hq, hname, hguard⟩
    obtain ⟨k, hk⟩ := List.mem_iff_getElem?.mp hq
    exact ⟨k, q, hk, hname, (hdeclared k q hk).mpr hguard⟩

/-- In a type without a problem, whatever guards hold, what is read or written is what some place without a guard
or with one that holds names, and what is declared is what some register without a guard or with one that holds
is called. All that is read or written is declared, whatever guards hold, exactly if for every place there is a
register of the name that it names, without a guard or with the guard of the place. -/
theorem accesses_declared_iff (h : (build registry settings owner true t).run r = .ok (p, r'))
    (hfine : p.isFine = true) (hr : r.IsMade)
    (hguards : ∀ m ∈ t.members, '\n' ∉ (m.surface.getD {}).guard.toList)
    (hrequests : ∀ m ∈ t.members, ∀ d ∈ m.packing, '\n' ∉ d.guard.toList)
    (hdeclares : DeclaresPlainly t p.registers) (haccesses : p.AccessesPlainly) :
    (∀ holds name, p.Accesses holds name
        ↔ ∃ a ∈ p.accesses, a.member = name ∧ (a.guard = "" ∨ holds a.guard = true))
      ∧ (∀ holds name, p.DeclaresMember holds name
        ↔ ∃ q ∈ p.registers, q.name.display = name ∧ (q.guard.display = "" ∨ holds q.guard.display = true))
      ∧ ((∀ holds name, p.Accesses holds name → p.DeclaresMember holds name)
        ↔ ∀ a ∈ p.accesses, ∃ q ∈ p.registers, q.name.display = a.member
          ∧ (q.guard.display = "" ∨ q.guard.display = a.guard)) := by
  have haccepted := isAccepted_of_run_build h hfine
  have hwritten := haccepted.isWritten hr
  have hread := accesses_iff hwritten haccesses fun hdebug =>
    haccepted.lineEnd_notMem_guard_of_debugField (haccepted.typeDef_eq ▸ hdebug) hguards hrequests
  have hdeclared := declaresMember_iff h hfine hguards hdeclares
  refine ⟨hread, hdeclared, fun hall a ha => ?_, fun hall holds name haccess => ?_⟩
  · -- Where the guard of the place is the only one that holds, no other register has to be declared.
    have haccess := (hread (· == a.guard) a.member).mpr ⟨a, ha, rfl, .inr (beq_self_eq_true a.guard)⟩
    obtain ⟨q, hq, hname, hguard⟩ := (hdeclared _ _).mp (hall _ _ haccess)
    exact ⟨q, hq, hname, hguard.imp_right eq_of_beq⟩
  · obtain ⟨a, ha, rfl, hguard⟩ := (hread holds name).mp haccess
    obtain ⟨q, hq, hname, hsame⟩ := hall a ha
    refine (hdeclared holds a.member).mpr ⟨q, hq, hname, ?_⟩
    rcases hsame with hnone | hsame
    · exact .inl hnone
    · rw [hsame]
      exact hguard

end Fine

/-- A number under a guard, in a type that asks for ordinary functions or for a debug view. -/
def guardedNumber (needsAccessors needsDebug : Bool) : TypeDef where
  name := "Probe"
  fullName := "Probe"
  needsAccessors := needsAccessors
  needsDebug := needsDebug
  members := [{ name := "a", type := "float", surface := some { guard := "USE_A" } }]

/-- The product of a number under a guard. -/
theorem exists_build_guardedNumber (needsAccessors needsDebug : Bool) (accesses : List Access)
    (h : (fun q => (q.1.isFine && decide (DeclaresPlainly (guardedNumber needsAccessors needsDebug) q.1.registers)
        && decide q.1.AccessesPlainly, q.1.accesses, q.1.registers.map fun r => (r.name.display, r.guard.display)))
      <$> (build ⟨[], []⟩ plainSettings 0 true (guardedNumber needsAccessors needsDebug)).run {}
      = .ok (true, accesses, [("a", "USE_A")])) :
    ∃ p s', (build ⟨[], []⟩ plainSettings 0 true (guardedNumber needsAccessors needsDebug)).run {} = .ok (p, s')
      ∧ p.isFine = true ∧ DeclaresPlainly (guardedNumber needsAccessors needsDebug) p.registers
      ∧ p.AccessesPlainly ∧ p.accesses = accesses
      ∧ ∃ q, p.registers = [q] ∧ q.name.display = "a" ∧ q.guard.display = "USE_A" := by
  obtain ⟨⟨p, s'⟩, hbuild, hgiven⟩ := exists_of_map_eq_ok h
  simp only [Prod.mk.injEq, Bool.and_eq_true, decide_eq_true_eq, List.map_eq_cons_iff, List.map_eq_nil_iff]
    at hgiven
  obtain ⟨⟨⟨hfine, hdeclares⟩, hplain⟩, haccesses, q, _, hregisters, ⟨hname, hguard⟩, rfl⟩ := hgiven
  exact ⟨p, s', hbuild, hfine, hdeclares, hplain, haccesses, q, hregisters, hname, hguard⟩

theorem lineEnd_notMem_guards_of_guardedNumber (needsAccessors needsDebug : Bool) :
    (∀ m ∈ (guardedNumber needsAccessors needsDebug).members, '\n' ∉ (m.surface.getD {}).guard.toList)
      ∧ ∀ m ∈ (guardedNumber needsAccessors needsDebug).members, ∀ d ∈ m.packing, '\n' ∉ d.guard.toList := by
  simp [guardedNumber]

/-- The debug view reads a number under a guard where the number is declared. -/
theorem accesses_declared_of_debugView :
    ∃ p s', (build ⟨[], []⟩ plainSettings 0 true (guardedNumber false true)).run {} = .ok (p, s')
      ∧ p.isFine = true ∧ p.accesses = [{ member := "a", guard := "USE_A" }]
      ∧ ∀ holds name, p.Accesses holds name → p.DeclaresMember holds name := by
  obtain ⟨p, s', hbuild, hfine, hdeclares, hplain, haccesses, q, hregisters, hname, hguard⟩ :=
    exists_build_guardedNumber false true [{ member := "a", guard := "USE_A" }] (by decide +kernel)
  obtain ⟨hguards, hrequests⟩ := lineEnd_notMem_guards_of_guardedNumber false true
  refine ⟨p, s', hbuild, hfine, haccesses, ?_⟩
  refine (accesses_declared_iff hbuild hfine Resolver.isMade_empty hguards hrequests hdeclares hplain).2.2.mpr ?_
  intro a ha
  rw [haccesses, List.mem_singleton] at ha
  exact ⟨q, by simp [hregisters], by simp [ha, hname], .inr (by simp [ha, hguard])⟩

/-- Where the guard of a number does not hold the function that reads the number is left, and the number is not
declared. -/
theorem accesses_undeclared_of_function :
    ∃ p s', (build ⟨[], []⟩ plainSettings 0 true (guardedNumber true false)).run {} = .ok (p, s')
      ∧ p.isFine = true ∧ DeclaresPlainly (guardedNumber true false) p.registers ∧ p.AccessesPlainly
      ∧ (∀ m ∈ (guardedNumber true false).members, '\n' ∉ (m.surface.getD {}).guard.toList)
      ∧ p.Accesses (fun _ => false) "a" ∧ ¬p.DeclaresMember (fun _ => false) "a" := by
  obtain ⟨p, s', hbuild, hfine, hdeclares, hplain, haccesses, q, hregisters, hname, hguard⟩ :=
    exists_build_guardedNumber true false [{ member := "a" }] (by decide)
  obtain ⟨hguards, hrequests⟩ := lineEnd_notMem_guards_of_guardedNumber true false
  have haccepted := isAccepted_of_run_build hbuild hfine
  refine ⟨p, s', hbuild, hfine, hdeclares, hplain, hguards, ?_, ?_⟩
  · refine (accesses_iff (haccepted.isWritten Resolver.isMade_empty) hplain ?_ _ _).mpr ?_
    · intro hdebug
      rw [haccepted.typeDef_eq] at hdebug
      exact absurd hdebug (by decide)
    · exact ⟨{ member := "a" }, by simp [haccesses], rfl, .inl rfl⟩
  · rw [declaresMember_iff hbuild hfine hguards hdeclares]
    simp [hregisters, hguard]

end TypeProduct

end ShaderRecords
