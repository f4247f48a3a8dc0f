/-
ShaderRecords.Proofs.Extraction.Parts — first the part of a member, then what it gives.

Two things happen to a member. It is found out what part it has in the record, and here it may have a problem
(`Member.part`); then it gives what a member of that part gives, and here a step may break down but meets no problem
of the member any more (`MemberPart.yield`). `memberYield_eq` says that this is all there is, in this order.
-/
import ShaderRecords.Extraction.Members
import ShaderRecords.Proofs.Failure

namespace ShaderRecords

/-- The field of a member, noted as storing bits if the member does. -/
def Member.noted (m : Member) (field : Option Field) : Option Field :=
  field.map fun f => { f with storesBits := !m.packing.isEmpty }

/-- The part that a member has in a record. -/
inductive MemberPart where
  /-- None: an array of no given size. -/
  | unsized
  /-- That of a static member of a type. -/
  | static (declared : Value)
  /-- That of an ordinary member, which has a field unless its type is a compound without scalars. -/
  | ordinary (field : Option Field)

section Parts

variable (registry : Registry) (t : TypeDef) (next : Value) (m : Member)

/-- The field that an ordinary member of a declared type has. -/
def Member.declaredField (declared : Value) (size : Whole) : Extracting (Option Field) :=
  fieldOf registry t m declared size (floatKind (m.surface.getD {}).precision) (m.surface.getD {}).guard

/-- Finds the part of a member. -/
def Member.part : Extracting MemberPart := do
  match ← elementType t m with
  | none => return .unsized
  | some (declared, size) =>
    if m.isStatic then return .static declared
    else return .ordinary (m.noted (← m.declaredField registry t declared size))

/-- What a member gives that has a part. -/
def MemberPart.yield : MemberPart → Except Breakdown MemberYield
  | unsized => return { next := next }
  | static declared => staticYield next m declared
  | ordinary field => do
    let (debugFields, next) ← memberDebug t next m field
    return {
      field := field
      constants := debugFields.map fun d => (d.define, d.id.display)
      debugFields := debugFields
      packedMember := if m.packing.isEmpty then none else some m
      next := next }

/-- A member gives what its part gives. -/
theorem memberYield_eq :
    memberYield registry t next m = m.part registry t >>= fun part => orBreak (part.yield t next m) := by
  unfold memberYield Member.part Member.declaredField
  cases elementType t m with
  | error e => rfl
  | ok element =>
    match element with
    | none => rfl
    | some (declared, size) =>
      dsimp only [ok_bind]
      split
      · rfl
      · cases fieldOf registry t m declared size (floatKind (m.surface.getD {}).precision)
          (m.surface.getD {}).guard with
        | error e => rfl
        | ok field =>
          show (liftM (memberDebug t next m (m.noted field)) >>= _ : Extracting MemberYield) = _
          rw [ok_bind, pure_eq_ok, ok_bind, MemberPart.yield]
          cases memberDebug t next m (m.noted field) with
          | error b => rfl
          | ok given =>
            obtain ⟨debugFields, last⟩ := given
            rw [Member.noted]
            cases m.packing.isEmpty <;> rfl

end Parts

section Given

variable {registry : Registry} {t : TypeDef} {next : Value} {m : Member} {y : MemberYield}

theorem memberYield_eq_ok_iff :
    memberYield registry t next m = .ok y ↔ ∃ part, m.part registry t = .ok part ∧ part.yield t next m = .ok y := by
  rw [memberYield_eq, bind_eq_ok_iff]
  simp only [orBreak_eq_ok_iff]

/-- A member meets a problem only where its part is found. -/
theorem memberYield_eq_issue_iff {e : ExtractionError} :
    memberYield registry t next m = .error (.issue e) ↔ m.part registry t = .error (.issue e) := by
  rw [memberYield_eq, bind_eq_error_iff]
  constructor
  · rintro (h | ⟨part, -, h⟩)
    · exact h
    · cases hyield : part.yield t next m <;> simp [hyield] at h
  · exact Or.inl

variable (registry t m) in
/-- What is known of a member that has a part. -/
inductive Member.HasPart : MemberPart → Prop
  | unsized (helement : elementType t m = .ok none) : HasPart .unsized
  | static {declared : Value} {size : Whole} (helement : elementType t m = .ok (some (declared, size)))
      (hstatic : m.isStatic = true) : HasPart (.static declared)
  | ordinary {declared : Value} {size : Whole} {plain : Option Field}
      (helement : elementType t m = .ok (some (declared, size))) (hstatic : m.isStatic = false)
      (hfield : m.declaredField registry t declared size = .ok plain) : HasPart (.ordinary (m.noted plain))

theorem hasPart_of_part {part : MemberPart} (h : m.part registry t = .ok part) : m.HasPart registry t part := by
  obtain ⟨element, helement, h⟩ := bind_eq_ok_iff.mp h
  match element with
  | none =>
    obtain rfl := Except.ok.inj h
    exact .unsized helement
  | some (declared, size) =>
    dsimp only at h
    split at h
    next hstatic =>
      obtain rfl := Except.ok.inj h
      exact .static helement hstatic
    next hstatic =>
      obtain ⟨plain, hplain, h⟩ := bind_eq_ok_iff.mp h
      obtain rfl := Except.ok.inj h
      exact .ordinary helement (by simpa using hstatic) hplain

end Given

end ShaderRecords
