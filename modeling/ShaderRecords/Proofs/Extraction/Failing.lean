/-
ShaderRecords.Proofs.Extraction.Failing — a member that has a problem leaves no trace.

A problem is met where the part of a member is found, before the member gives anything (`memberYield_eq_issue_iff`).
Since the number of the next debug entry is not read there, whether a member has a problem, and which, does not depend
on the members before it (`problem?_eq_some_iff`), nor on those behind it. So a type gives the same, apart from the
problems that are told, when the members with a problem are taken away (`extractMembers_filter`).
-/
import ShaderRecords.Proofs.Extraction.Members

namespace ShaderRecords

section Members

variable (registry : Registry) (t : TypeDef)

/-- The problem that a member has, if it has one. It is the same whatever the number of the next debug entry is
(`problem?_eq_some_iff`), so that any number will do here. -/
def Member.problem? (m : Member) : Option ExtractionError :=
  match memberYield registry t (.int 0) m with
  | .error (.issue e) => some e
  | _ => none

/-- A type without its members that have problems. -/
def TypeDef.withoutFailing : TypeDef :=
  { t with members := t.members.filter fun m => (m.problem? registry t).isNone }

end Members

section Problems

variable {registry : Registry} {t : TypeDef} {m : Member} {next : Value} {e : ExtractionError}

theorem problem?_eq_some_iff_part : m.problem? registry t = some e ↔ m.part registry t = .error (.issue e) := by
  rw [← @memberYield_eq_issue_iff registry t (.int 0) m, Member.problem?]
  split
  next e' h => simp [h]
  next h =>
    constructor
    · simp
    · exact fun he => absurd he (h e)

/-- Whether a member has a problem, and which, does not depend on the number of the next debug entry. -/
theorem problem?_eq_some_iff :
    m.problem? registry t = some e ↔ memberYield registry t next m = .error (.issue e) := by
  rw [problem?_eq_some_iff_part, memberYield_eq_issue_iff]

/-! ## Whose problem it is -/

theorem site_of_refuse {α : Type} {cause : ExtractionCause}
    (h : (refuse ⟨t.site m, cause⟩ : Extracting α) = .error (.issue e)) : e.site = t.site m := by
  rw [refuse_eq_error] at h
  obtain rfl := Failure.issue.inj (Except.error.inj h)
  rfl

theorem site_of_compoundScalars {c : Compound} {found : List (Primitive × Value)} {fs : List Member}
    (h : compoundScalars t c m found fs = .error (.issue e)) : e.site = t.site m := by
  induction fs generalizing found with
  | nil => simp [compoundScalars] at h
  | cons f fs ih =>
    unfold compoundScalars at h
    split at h
    · exact ih h
    · split at h
      · exact site_of_refuse h
      · split at h
        · exact site_of_refuse h
        · exact ih h

theorem site_of_flatten {c : Compound} {size : Whole} {guard : String}
    (h : flatten t c m size guard = .error (.issue e)) : e.site = t.site m := by
  unfold flatten at h
  rcases bind_eq_error_iff.mp h with h | ⟨scalars, -, h⟩
  · exact site_of_compoundScalars h
  · match scalars with
    | [] => simp at h
    | (kind, name) :: rest =>
      dsimp only at h
      split at h
      · exact site_of_refuse h
      · simp at h

theorem site_of_fieldOf {declared : Value} {size : Whole} {floats : Primitive} {guard : String}
    (h : fieldOf registry t m declared size floats guard = .error (.issue e)) : e.site = t.site m := by
  unfold fieldOf at h
  rcases bind_eq_error_iff.mp h with h | ⟨key, -, h⟩
  · cases hkey : declared.asKey <;> simp [hkey] at h
  · dsimp only at h
    split at h
    · simp at h
    · split at h
      · split at h <;> simp at h
      · split at h
        · exact site_of_flatten h
        · exact site_of_refuse h

theorem site_of_elementType (h : elementType t m = .error (.issue e)) : e.site = t.site m := by
  unfold elementType at h
  split at h
  · simp at h
  · exact site_of_refuse h
  · exact site_of_refuse h
  · split at h
    · exact site_of_refuse h
    · simp at h

/-- A problem of a member is told as one of this member. -/
theorem site_of_part (h : m.part registry t = .error (.issue e)) : e.site = t.site m := by
  unfold Member.part at h
  rcases bind_eq_error_iff.mp h with h | ⟨element, -, h⟩
  · exact site_of_elementType h
  · match element with
    | none => simp at h
    | some (declared, size) =>
      dsimp only at h
      split at h
      · simp at h
      · rcases bind_eq_error_iff.mp h with h | ⟨field, -, h⟩
        · exact site_of_fieldOf h
        · simp at h

/-! ## The walk -/

section OtherMembers

variable (ms : List Member)

theorem compoundScalars_withMembers {c : Compound} {found : List (Primitive × Value)} {fs : List Member} :
    compoundScalars { t with members := ms } c m found fs = compoundScalars t c m found fs := by
  induction fs generalizing found with
  | nil => rfl
  | cons f fs ih =>
    unfold compoundScalars
    simp only [ih]
    rfl

theorem fieldOf_withMembers {declared : Value} {size : Whole} {floats : Primitive} {guard : String} :
    fieldOf registry { t with members := ms } m declared size floats guard
      = fieldOf registry t m declared size floats guard := by
  have hflatten : ∀ c, flatten { t with members := ms } c m size guard = flatten t c m size guard := by
    intro c
    unfold flatten
    rw [compoundScalars_withMembers]
    rfl
  unfold fieldOf
  simp only [hflatten]
  rfl

theorem debugEntries_withMembers {make : String → Value → DebugField} {labels : List Value} :
    debugEntries { t with members := ms } next make labels = debugEntries t next make labels := by
  induction labels generalizing next with
  | nil => rfl
  | cons label labels ih =>
    unfold debugEntries
    simp only [ih]

theorem memberDebug_withMembers {f : Option Field} :
    memberDebug { t with members := ms } next m f = memberDebug t next m f := by
  have hpacked : ∀ ds next, packedDebug { t with members := ms } m f next ds = packedDebug t m f next ds := by
    intro ds
    induction ds with
    | nil => exact fun _ => rfl
    | cons d ds ih =>
      intro next
      unfold packedDebug
      simp only [ih, debugEntries_withMembers]
  unfold memberDebug
  simp only [hpacked, ordinaryDebug, debugEntries_withMembers]

end OtherMembers

/-- What a member gives does not depend on the other members of its type. -/
theorem memberYield_withMembers (ms : List Member) :
    memberYield registry { t with members := ms } next m = memberYield registry t next m := by
  unfold memberYield
  simp only [fieldOf_withMembers, memberDebug_withMembers]
  rfl

theorem extractMembers_withMembers (ms : List Member) {members : List Member} {out : TypeFields} :
    extractMembers registry { t with members := ms } next out members
      = extractMembers registry t next out members := by
  induction members generalizing next out with
  | nil => rfl
  | cons m members ih =>
    unfold extractMembers
    simp only [memberYield_withMembers, ih]

/-- The walk through the members that have no problem gives what the walk through all of them gives, apart from the
problems; these are those of the other members, in their order. -/
theorem extractMembers_filter {members : List Member} {out res : TypeFields}
    (h : extractMembers registry t next out members = .ok res) :
    extractMembers registry t next { out with errors := [] }
        (members.filter fun m => (m.problem? registry t).isNone) = .ok { res with errors := [] }
      ∧ res.errors = out.errors ++ members.filterMap (·.problem? registry t) := by
  induction members generalizing next out with
  | nil =>
    obtain rfl := Except.ok.inj h
    exact ⟨rfl, (List.append_nil _).symm⟩
  | cons m ms ih =>
    rw [extractMembers] at h
    split at h
    next y hy =>
      have hnone : m.problem? registry t = none := by
        refine Option.eq_none_iff_forall_ne_some.mpr fun e he => ?_
        rw [problem?_eq_some_iff, hy] at he
        simp at he
      obtain ⟨hrest, herrors⟩ := ih h
      rw [List.filter_cons_of_pos (by simp [hnone]), List.filterMap_cons_none hnone, extractMembers, hy]
      exact ⟨hrest, herrors⟩
    next e he =>
      -- The walk goes on with the number that it had, so both walks go on alike.
      have hsome : m.problem? registry t = some e := problem?_eq_some_iff.mpr he
      obtain ⟨hrest, herrors⟩ := ih h
      rw [List.filter_cons_of_neg (by simp [hsome]), List.filterMap_cons_some hsome]
      exact ⟨hrest, by rw [herrors, List.append_assoc]; rfl⟩
    next => simp at h

theorem forall₂_filterMap_problem? (members : List Member) :
    List.Forall₂ (fun m e => m.problem? registry t = some e)
      (members.filter fun m => (m.problem? registry t).isSome) (members.filterMap (·.problem? registry t)) := by
  induction members with
  | nil => exact .nil
  | cons m ms ih =>
    cases hproblem : m.problem? registry t with
    | none => simpa [List.filter_cons, List.filterMap_cons, hproblem] using ih
    | some e =>
      rw [List.filter_cons_of_pos (by simp [hproblem]), List.filterMap_cons_some hproblem]
      exact .cons hproblem ih

end Problems

/-- Members that have a problem leave no trace but the problem. Without them a record that is extracted has the same
fields, constants, debug entries and packed members, in the same order and with the same numbers. The problems that
are told are theirs, one for each in the order of the members, and each of them names its member. -/
theorem extract_withoutFailing {registry : Registry} {t : TypeDef} {start : Value} {out : TypeFields}
    (hrecord : t.isEnum = false) (h : t.extract registry start = .ok out) :
    (t.withoutFailing registry).extract registry start = .ok { out with errors := [] }
      ∧ List.Forall₂ (fun m e => m.problem? registry t = some e
            ∧ e.report.context = some [("type", t.name), ("field", m.name)])
          (t.members.filter fun m => (m.problem? registry t).isSome) out.errors := by
  have hrecord' : (t.withoutFailing registry).isEnum = false := hrecord
  rw [TypeDef.extract_of_record hrecord] at h
  obtain ⟨hrest, herrors⟩ := extractMembers_filter h
  constructor
  · rw [TypeDef.extract_of_record hrecord']
    exact (extractMembers_withMembers _).trans hrest
  · rw [herrors, List.nil_append]
    refine (forall₂_filterMap_problem? t.members).imp fun m e hproblem => ⟨hproblem, ?_⟩
    have hsite : e.site = t.site m := site_of_part (problem?_eq_some_iff_part.mp hproblem)
    exact congrArg (fun site : Site => some site.context) hsite

/-- A surface with a texture, which cannot be a member, between a number and a color. -/
def texturedSurface : TypeDef where
  name := "Surface"
  fullName := "Surface"
  needsDebug := true
  members := [
    { name := "metallic", type := "float" },
    { name := "ramp", type := "Texture2D" },
    { name := "albedo", type := "Vector3" }]

/-- The debug entries before the texture and behind it have numbers that follow one another, and the surface without
the texture has the same ones. -/
theorem extract_withoutFailing_of_texturedSurface :
    ∃ out, texturedSurface.isEnum = false ∧ texturedSurface.extract {} (.int 7) = .ok out
      ∧ out.debugFields.map (·.id.display) = ["7", "8"] ∧ out.errors.length = 1
      ∧ (texturedSurface.withoutFailing {}).members.map (·.type) = ["float", "Vector3"]
      ∧ (texturedSurface.withoutFailing {}).extract {} (.int 7) = .ok { out with errors := [] }
      ∧ List.Forall₂ (fun m e => m.problem? {} texturedSurface = some e
            ∧ e.report.context = some [("type", texturedSurface.name), ("field", m.name)])
          (texturedSurface.members.filter fun m => (m.problem? {} texturedSurface).isSome) out.errors := by
  have hrecord : texturedSurface.isEnum = false := by decide
  have hcomputed : (fun out => (out.debugFields.map (·.id.display), out.errors.length))
      <$> texturedSurface.extract {} (.int 7) = .ok (["7", "8"], 1) := by
    decide +kernel
  obtain ⟨out, hextract, hgiven⟩ := exists_of_map_eq_ok hcomputed
  obtain ⟨hids, herrors⟩ := Prod.mk.inj hgiven
  have hleft : (texturedSurface.withoutFailing {}).members.map (·.type) = ["float", "Vector3"] := by decide +kernel
  obtain ⟨hsame, htold⟩ := extract_withoutFailing hrecord hextract
  exact ⟨out, hrecord, hextract, hids, herrors, hleft, hsame, htold⟩

end ShaderRecords
