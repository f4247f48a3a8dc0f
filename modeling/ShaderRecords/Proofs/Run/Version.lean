/-
ShaderRecords.Proofs.Run.Version — which versions documents are loaded with.

`Version.IsTriple` says of a text that it is three numbers with points between them, of given digits and in front
of one of given endings. The check of versions accepts the texts that are so with the digits of any script and, if
there is one, a line break at the end (`isVersion_iff`), which are more than those of ASCII digits with nothing
behind them (`isTriple_ascii_iff`).

The version of a document decides about nothing else. `Value.withVersion` puts another one in its place; the normal
form, the schema and what is described are the same for both. So if a document is described with one version, then
whether it is loaded with another one is up to that text alone (`Running.load_with_version_iff`).
-/
import Mathlib.Data.List.TakeWhile
import ShaderRecords.Proofs.Description.NormalForm
import ShaderRecords.Proofs.Run.Loading

namespace ShaderRecords

/-! ## Versions -/

namespace Version

/-- Whether a text is three numbers with points between them and one of the endings behind them. -/
def IsTriple (digit : Char → Bool) (endings : List (List Char)) (v : String) : Prop :=
  ∃ major minor patch ending : List Char, v.toList = major ++ ['.'] ++ minor ++ ['.'] ++ patch ++ ending
    ∧ (∀ part ∈ [major, minor, patch], part ≠ [] ∧ ∀ c ∈ part, digit c = true) ∧ ending ∈ endings

theorem exists_digits_of_afterDigits? {s rest : List Char} (h : afterDigits? s = some rest) :
    ∃ digits, s = digits ++ rest ∧ digits ≠ [] ∧ ∀ c ∈ digits, Text.isDigit c = true := by
  unfold afterDigits? at h
  split at h
  · cases h
  next hsome =>
    obtain rfl := Option.some.inj h
    exact ⟨s.takeWhile Text.isDigit, List.takeWhile_append_dropWhile.symm, by simpa using hsome,
      fun c hc => List.mem_takeWhile_imp hc⟩

/-- A run of digits ends where something else stands. -/
theorem afterDigits?_append {digits rest : List Char} (hne : digits ≠ [])
    (hdigits : ∀ c ∈ digits, Text.isDigit c = true) (hrest : ∀ c ∈ rest.head?, Text.isDigit c = false) :
    afterDigits? (digits ++ rest) = some rest := by
  have hstop : rest.takeWhile Text.isDigit = [] ∧ rest.dropWhile Text.isDigit = rest := by
    cases rest with
    | nil => exact ⟨rfl, rfl⟩
    | cons c rest => simp [hrest c rfl]
  rw [afterDigits?, List.takeWhile_append_of_pos hdigits, List.dropWhile_append_of_pos hdigits, hstop.1, hstop.2,
    List.append_nil, if_neg (by simpa using hne)]

theorem afterPoint?_eq_some_iff {s rest : List Char} : afterPoint? s = some rest ↔ s = '.' :: rest := by
  unfold afterPoint?
  split <;> simp_all

theorem isDigit_point : Text.isDigit '.' = false := by
  decide

theorem isDigit_lineBreak : Text.isDigit '\n' = false := by
  decide

theorem isVersion_eq_true_iff {v : String} :
    isVersion v = true ↔ ∃ ending ∈ [[], ['\n']], ∃ s₁ s₂ s₃ s₄ : List Char, afterDigits? v.toList = some s₁
      ∧ afterPoint? s₁ = some s₂ ∧ afterDigits? s₂ = some s₃ ∧ afterPoint? s₃ = some s₄
      ∧ afterDigits? s₄ = some ending := by
  simp only [isVersion, Option.bind_eq_bind, Bool.or_eq_true, decide_eq_true_eq, Option.bind_eq_some_iff,
    List.mem_cons, List.not_mem_nil, or_false, exists_eq_or_imp, exists_eq_left, exists_and_left]

/-- Versions have digits of any script, and one line break may follow. -/
theorem isVersion_iff {v : String} : isVersion v = true ↔ IsTriple Text.isDigit [[], ['\n']] v := by
  rw [isVersion_eq_true_iff]
  constructor
  · rintro ⟨ending, hending, s₁, s₂, s₃, s₄, hmajor, hfirst, hminor, hsecond, hpatch⟩
    obtain ⟨major, hv, hmajor⟩ := exists_digits_of_afterDigits? hmajor
    obtain ⟨minor, hs₂, hminor⟩ := exists_digits_of_afterDigits? hminor
    obtain ⟨patch, hs₄, hpatch⟩ := exists_digits_of_afterDigits? hpatch
    rw [afterPoint?_eq_some_iff] at hfirst hsecond
    refine ⟨major, minor, patch, ending, ?_, ?_, hending⟩
    · simp [hv, hfirst, hs₂, hsecond, hs₄]
    · simpa using ⟨hmajor, hminor, hpatch⟩
  · rintro ⟨major, minor, patch, ending, hv, hparts, hending⟩
    obtain ⟨hmajor, hminor, hpatch, -⟩ := by simpa only [List.forall_mem_cons] using hparts
    have hpoint : ∀ rest : List Char, ∀ c ∈ ('.' :: rest).head?, Text.isDigit c = false := by
      rintro rest c ⟨⟩
      exact isDigit_point
    have hstop : ∀ c ∈ ending.head?, Text.isDigit c = false := by
      obtain rfl | rfl : ending = [] ∨ ending = ['\n'] := by simpa using hending
      · exact nofun
      · rintro c ⟨⟩
        exact isDigit_lineBreak
    have hv' : v.toList = major ++ '.' :: (minor ++ '.' :: (patch ++ ending)) := by
      simp [hv]
    refine ⟨ending, hending, _, _, _, _, ?_, afterPoint?_eq_some_iff.mpr rfl,
      afterDigits?_append hminor.1 hminor.2 (hpoint _), afterPoint?_eq_some_iff.mpr rfl,
      afterDigits?_append hpatch.1 hpatch.2 hstop⟩
    rw [hv']
    exact afterDigits?_append hmajor.1 hmajor.2 (hpoint _)

/-- An Arabic digit counts as well. -/
example : isVersion "\u0661.0.0" = true := by
  decide

theorem isDigit_eq_of_ascii {c : Char} (h : c.toNat < 128) : Text.isDigit c = c.isDigit := by
  have hzeros : ∀ first ∈ Text.decimalZeros.toList, first = 48 ∨ 128 ≤ first := by decide
  unfold Text.isDigit Text.digitValue?
  split
  next hdigit => exact (Char.isDigit_iff_toNat.mpr hdigit).symm
  next hother =>
    have hnone : Text.decimalZeros.find? (fun first => first ≤ c.toNat && c.toNat ≤ first + 9) = none := by
      refine Array.find?_eq_none.mpr fun first hfirst hin => ?_
      have hzero := hzeros first (Array.mem_toList_iff.mpr hfirst)
      obtain ⟨hfrom, hto⟩ : first ≤ c.toNat ∧ c.toNat ≤ first + 9 := by simpa using hin
      rcases hzero with rfl | hlarge
      · exact hother ⟨hfrom, hto⟩
      · omega
    rw [hnone]
    exact (Bool.eq_false_iff.mpr fun hdigit => hother (Char.isDigit_iff_toNat.mp hdigit)).symm

theorem toNat_lt_of_isDigit {c : Char} (h : c.isDigit = true) : c.toNat < 128 := by
  have hnine : c.toNat ≤ 57 := by simpa using (Char.isDigit_iff_toNat.mp h).2
  omega

theorem isDigit_of_ascii {c : Char} (h : c.isDigit = true) : Text.isDigit c = true := by
  rwa [isDigit_eq_of_ascii (toNat_lt_of_isDigit h)]

section

variable {digit digit' : Char → Bool} {endings endings' : List (List Char)} {v : String}

/-- Other digits and endings do as well for a text if its own digits and its ending are among them. -/
theorem IsTriple.imp (h : IsTriple digit endings v)
    (hdigit : ∀ c ∈ v.toList, digit c = true → digit' c = true)
    (hending : ∀ ending ∈ endings, ending <:+ v.toList → ending ∈ endings') : IsTriple digit' endings' v := by
  obtain ⟨major, minor, patch, ending, hv, hparts, hin⟩ := h
  refine ⟨major, minor, patch, ending, hv, fun part hpart => ⟨(hparts part hpart).1, fun c hc => ?_⟩,
    hending ending hin (hv ▸ List.suffix_append _ _)⟩
  have hmem : c ∈ v.toList := by
    simp only [List.mem_cons, List.not_mem_nil, or_false] at hpart
    rw [hv]
    rcases hpart with rfl | rfl | rfl <;> simp [hc]
  exact hdigit c hmem ((hparts part hpart).2 c hc)

theorem IsTriple.isDigit_or_point (h : IsTriple digit [[]] v) {c : Char} (hc : c ∈ v.toList) :
    digit c = true ∨ c = '.' := by
  obtain ⟨major, minor, patch, ending, hv, hparts, hending⟩ := h
  obtain rfl := List.mem_singleton.mp hending
  simp only [List.forall_mem_cons] at hparts
  obtain ⟨⟨-, hmajor⟩, ⟨-, hminor⟩, ⟨-, hpatch⟩, -⟩ := hparts
  simp only [hv, List.mem_append, List.mem_singleton, List.not_mem_nil, or_false] at hc
  rcases hc with (((hc | hc) | hc) | hc) | hc
  · exact .inl (hmajor c hc)
  · exact .inr hc
  · exact .inl (hminor c hc)
  · exact .inr hc
  · exact .inl (hpatch c hc)

end

/-- Versions of ASCII digits with nothing behind them are those versions of the check that have ASCII characters
only and no line break at the end. -/
theorem isTriple_ascii_iff {v : String} :
    IsTriple Char.isDigit [[]] v
      ↔ IsTriple Text.isDigit [[], ['\n']] v ∧ v.toList.getLast? ≠ some '\n' ∧ ∀ c ∈ v.toList, c.toNat < 128 := by
  constructor
  · intro h
    refine ⟨h.imp (fun c _ => isDigit_of_ascii) fun ending hending _ => List.mem_cons.mpr (.inl ?_),
      fun hlast => ?_, fun c hc => ?_⟩
    · exact List.mem_singleton.mp hending
    · exact absurd (h.isDigit_or_point (List.mem_of_getLast? hlast)) (by decide)
    · obtain hdigit | rfl := h.isDigit_or_point hc
      · exact toNat_lt_of_isDigit hdigit
      · decide
  · rintro ⟨h, hlast, hascii⟩
    refine h.imp (fun c hc hdigit => ?_) fun ending hending hsuffix => ?_
    · rwa [← isDigit_eq_of_ascii (hascii c hc)]
    · obtain rfl | rfl : ending = [] ∨ ending = ['\n'] := by simpa using hending
      · exact List.mem_singleton_self _
      · obtain ⟨front, hfront⟩ := hsuffix
        exact absurd (hfront ▸ List.getLast?_concat) hlast

end Version

/-! ## Documents with another version -/

/-- Facts about a document with another text in the place of the version. -/
def Entries.withVersion (facts : Entries) (v : String) : Entries :=
  facts.modify "version" fun _ => .text v

/-- The document with another text in the place of its version. -/
def Value.withVersion (doc : Value) (v : String) : Value :=
  doc.mapEntries fun es => es.modify "meta" (Value.mapEntries fun facts => facts.withVersion v)

/-- The description with another text in the place of its version. -/
def Description.withVersion (d : Description) (v : String) : Description :=
  { d with info := { d.info with version := .text v } }

namespace Entries

theorem modify_comm (es : Entries) {key other : String} (h : key ≠ other) (f g : Value → Value) :
    (es.modify key f).modify other g = (es.modify other g).modify key f := by
  simp only [modify_eq_mapValues, mapValues_mapValues]
  congr 1
  funext k v
  split <;> split <;> simp_all

theorem modify_modify (es : Entries) (key : String) (f g : Value → Value) :
    (es.modify key f).modify key g = es.modify key fun v => g (f v) := by
  simp only [modify_eq_mapValues, mapValues_mapValues]
  congr 1
  funext k v
  split <;> rfl

end Entries

/-- The last version counts. -/
theorem Value.withVersion_withVersion (doc : Value) (v w : String) :
    (doc.withVersion v).withVersion w = doc.withVersion w := by
  cases doc with
  | map es =>
    refine congrArg Value.map ((Entries.modify_modify es "meta" _ _).trans ?_)
    congr 1
    funext info
    cases info with
    | map info => exact congrArg Value.map (Entries.modify_modify info "version" _ _)
    | _ => rfl
  | _ => rfl

namespace Normalization

theorem under_modify {key other : String} (h : other ≠ key) (f : Value → Except Breakdown Value)
    (g : Value → Value) (es : Entries) :
    under key f (es.modify other g) = (fun es => Entries.modify es other g) <$> under key f es := by
  have hget : (es.modify other g).find? key = es.find? key := by
    rw [Ordered.find?_modify, if_neg h.symm]
  rw [under, under, hget]
  cases f ((es.find? key).getD .null) with
  | error => rfl
  | ok v => exact congrArg Except.ok (Entries.modify_comm es h g _)

end Normalization

/-- Normalization takes a version over. -/
theorem normalize_withVersion (doc : Value) (v : String) :
    normalize (doc.withVersion v) = (fun doc => doc.withVersion v) <$> normalize doc := by
  cases doc with
  | map es =>
    simp only [normalize, Value.withVersion, Value.mapEntries, Value.entries, ok_bind]
    rw [Normalization.under_modify (by decide)]
    cases Normalization.under "compounds" (Normalization.each Normalization.compound) es with
    | error => rfl
    | ok es' =>
      simp only [map_ok, ok_bind]
      rw [Normalization.under_modify (by decide)]
      cases Normalization.under "sources" (Normalization.each Normalization.source) es' <;> rfl
  | _ => rfl

namespace Schema

/-- What stands under a key may be changed to something that follows the schema of the key. -/
theorem Fits.modify {required : List String} {known : List (String × Schema)} {es : Entries} {key : String}
    {f : Value → Value} (h : Fits required known es)
    (hf : ∀ s, (key, s) ∈ known → ∀ w, s.accepts w = true → accepts s (f w) = true) :
    Fits required known (es.modify key f) where
  required k hk := by
    obtain ⟨w, hw⟩ := h.required k hk
    have hfound := Ordered.find?_modify es key k f
    rw [show Ordered.find? es k = some w from hw] at hfound
    split at hfound
    · exact ⟨f w, hfound⟩
    · exact ⟨w, hfound⟩
  closed e he := by
    obtain ⟨e', he', rfl⟩ := List.mem_map.mp he
    have hname : (if e'.1 = key then (e'.1, f e'.2) else (e'.1, e'.2)).1 = e'.1 := by
      split <;> rfl
    rw [hname]
    exact h.closed e' he'
  known e he w hw := by
    have hfound := (Ordered.find?_modify es key e.1 f).symm.trans hw
    split at hfound
    next hkey =>
      obtain ⟨w', hw', rfl⟩ := Option.map_eq_some_iff.mp hfound
      exact hf e.2 (hkey ▸ he) w' (h.known e he w' hw')
    next => exact h.known e he w hfound

/-- The schema asks for some text as the version. -/
theorem accepts_info_withVersion {facts : Entries} (h : info.accepts (.map facts) = true) (v : String) :
    info.accepts (.map (facts.withVersion v)) = true := by
  obtain ⟨_, hes, hfits⟩ := accepts_record.mp h
  obtain rfl := Value.map.inj hes
  refine accepts_record.mpr ⟨_, rfl, hfits.modify fun s hs _ _ => ?_⟩
  obtain rfl : s = text := by simpa using hs
  exact accepts_text.mpr ⟨v, rfl⟩

/-- A document that follows the schema has facts with a version under `meta`. -/
theorem exists_facts_of_accepts {doc : Value} (h : document.accepts doc = true) :
    ∃ es facts : Entries, doc = .map es ∧ es.get "meta" = .map facts ∧ info.accepts (.map facts) = true := by
  obtain ⟨es, rfl, hfits⟩ := accepts_record.mp h
  have hinfo := hfits.get "meta" (s := info) (by simp) (by simp)
  obtain ⟨facts, hfacts, -⟩ := accepts_record.mp hinfo
  exact ⟨es, facts, rfl, hfacts, hfacts ▸ hinfo⟩

theorem accepts_withVersion {doc : Value} (h : document.accepts doc = true) (v : String) :
    document.accepts (doc.withVersion v) = true := by
  obtain ⟨es, rfl, hfits⟩ := accepts_record.mp h
  refine accepts_record.mpr ⟨_, rfl, hfits.modify fun s hs w hw => ?_⟩
  obtain rfl : s = info := by simpa using hs
  obtain ⟨facts, rfl, -⟩ := accepts_record.mp hw
  exact accepts_info_withVersion hw v

end Schema

namespace Entries

variable {es facts : Entries}

theorem get_version_withVersion (h : Schema.info.accepts (.map facts) = true) (v : String) :
    (facts.withVersion v).get "version" = .text v := by
  obtain ⟨_, hes, hfits⟩ := Schema.accepts_record.mp h
  obtain rfl := Value.map.inj hes
  obtain ⟨w, hw⟩ := hfits.required "version" (by simp)
  rw [get, withVersion, Ordered.find?_modify, if_pos rfl, show Ordered.find? facts "version" = some w from hw]
  rfl

theorem get_meta_withVersion (hmeta : es.get "meta" = .map facts) (v : String) :
    (es.modify "meta" (Value.mapEntries fun facts => facts.withVersion v)).get "meta"
      = .map (facts.withVersion v) := by
  rw [get_modify_self _ _ rfl, hmeta]
  rfl

end Entries

/-- The version of a document that follows the schema is the one that was put in. -/
theorem documentVersion_withVersion {doc : Value} (h : Schema.document.accepts doc = true) (v : String) :
    documentVersion (doc.withVersion v) = .ok (.text v) := by
  obtain ⟨es, facts, rfl, hmeta, hfacts⟩ := Schema.exists_facts_of_accepts h
  have hversion := Entries.get_version_withVersion hfacts v
  have hpresent : (Value.map (facts.withVersion v)).isPresent = true := by
    cases facts with
    | nil => cases hversion
    | cons => rfl
  simp only [documentVersion, Value.withVersion, Value.mapEntries, Value.entries, ok_bind,
    Entries.get_meta_withVersion hmeta, Value.orElse, hpresent, if_true, hversion]
  rfl

/-- Facts that follow the schema are read one by one. -/
theorem Meta.ofValue_of_accepts {facts : Entries} (h : Schema.info.accepts (.map facts) = true) :
    Meta.ofValue (.map facts) = .ok {
      version := facts.get "version", schemaVersion := facts.get "schema_version",
      description := facts.get "description", source := facts.get "source" } := by
  obtain ⟨_, hes, hfits⟩ := Schema.accepts_record.mp h
  obtain rfl := Value.map.inj hes
  have hsame : (Value.map facts).orElse (.map []) = .map facts := by
    cases facts <;> rfl
  have hknown : facts.all (fun e => ["version", "schema_version", "description", "source"].contains e.1) = true :=
    List.all_eq_true.mpr fun e he => List.contains_iff_mem.mpr (hfits.closed e he)
  rw [ofValue, entriesAmong, hsame]
  simp only [hknown, if_true]
  rfl

/-- What else is described does not depend on the version. -/
theorem Description.ofValue_withVersion {doc : Value} {d : Description}
    (haccepts : Schema.document.accepts doc = true) (h : Description.ofValue doc = .ok d) (v : String) :
    Description.ofValue (doc.withVersion v) = .ok (d.withVersion v) := by
  obtain ⟨es, facts, rfl, hmeta, hfacts⟩ := Schema.exists_facts_of_accepts haccepts
  have hinfo : Meta.ofValue (.map (facts.withVersion v)) = .ok {
      version := .text v, schemaVersion := facts.get "schema_version",
      description := facts.get "description", source := facts.get "source" } := by
    rw [Meta.ofValue_of_accepts (Schema.accepts_info_withVersion hfacts v),
      Entries.get_version_withVersion hfacts, Entries.withVersion, Entries.get_modify_of_ne _ (by decide),
      Entries.get_modify_of_ne _ (by decide), Entries.get_modify_of_ne _ (by decide)]
  obtain ⟨_, items, ⟨⟩, hinfo₀, hdefaults, hcompounds, hitems, hsources, hnames⟩ := ofValue_eq_ok_iff.mp h
  rw [hmeta, Meta.ofValue_of_accepts hfacts] at hinfo₀
  refine ofValue_eq_ok_iff.mpr ⟨_, items, rfl, ?_, ?_, ?_, ?_, hsources, hnames⟩
  · rw [Entries.get_meta_withVersion hmeta, hinfo, Description.withVersion, ← Except.ok.inj hinfo₀]
  · rw [Entries.get_modify_of_ne _ (by decide)]
    exact hdefaults
  · rw [Entries.readItems, Entries.get_modify_of_ne _ (by decide)]
    exact hcompounds
  · rw [Entries.get_modify_of_ne _ (by decide)]
    exact hitems

/-! ## Loading -/

/-- Whether the parts of a document other than the version are valid: with some text as the version it is
described, apart from the check of versions. -/
def Value.IsDescribedWithSome (doc : Value) : Prop :=
  ∃ w doc' d, normalize (doc.withVersion w) = .ok doc' ∧ Schema.document.accepts doc' = true
    ∧ Description.ofValue doc' = .ok d

/-- With valid other parts only the check of the version is left. -/
theorem Value.IsDescribedWithSome.describe {doc : Value} (h : doc.IsDescribedWithSome) (v : String) :
    ∃ doc' d, normalize (doc.withVersion v) = .ok doc' ∧ d.info.version = .text v
      ∧ describe Schema.document doc' = if Version.isVersion v then .ok d else .error (.issue .badVersion) := by
  obtain ⟨w, doc', d, hnormal, haccepts, hd⟩ := h
  obtain ⟨doc₀, hdoc₀, rfl⟩ := exists_of_map_eq_ok ((normalize_withVersion doc w).symm.trans hnormal)
  have haccepts' := Schema.accepts_withVersion haccepts v
  have hversion := documentVersion_withVersion haccepts v
  have hd' := Description.ofValue_withVersion haccepts hd v
  rw [Value.withVersion_withVersion] at haccepts' hversion hd'
  refine ⟨doc₀.withVersion v, d.withVersion v, ?_, rfl, ?_⟩
  · rw [normalize_withVersion, hdoc₀, map_ok]
  · rw [ShaderRecords.describe, Schema.check_eq_ok_iff.mpr haccepts', ok_bind, checkVersion, hversion, orBreak_ok,
      ok_bind, hd']
    dsimp only
    split <;> rfl

namespace Running

variable {files : (c : FileCommand) → c.Answer} {env : Environment} {input : Path} {schema : Option String}
  {doc : Value}

/-- **A version decides about a document.** A document with valid other parts is loaded with a version, which is
described as it is, exactly if that is three numbers with points between them, of digits of any script and with one
line break behind them or none. With any other text it is refused as a document without a version. Three numbers
of ASCII digits with nothing behind them are those of its versions that have ASCII characters only and do not end
with a line break. -/
theorem load_with_version_iff (hvalid : doc.IsDescribedWithSome) (v : String)
    (hread : ∀ console, result files (readDocument input) console = (.ok (.ok (doc.withVersion v)), console))
    (hschema : Filing.result files (SchemaOrigin.find schema (some input.display)) = .ok .standard)
    (console : Console) :
    ((∃ d, (result files (load env input schema) console).1 = .ok (.ok d) ∧ d.info.version = .text v)
        ↔ Version.IsTriple Text.isDigit [[], ['\n']] v)
      ∧ (¬Version.IsTriple Text.isDigit [[], ['\n']] v →
        ∃ e, (result files (load env input schema) console).1 = .ok (.error e)
          ∧ e.report = {
            category := .specification, code := "E_SPEC_INVALID",
            message := "meta.version must be a semantic version string 'major.minor.patch'", context := none })
      ∧ (Version.IsTriple Char.isDigit [[]] v ↔
        (∃ d, (result files (load env input schema) console).1 = .ok (.ok d) ∧ d.info.version = .text v)
          ∧ v.toList.getLast? ≠ some '\n' ∧ ∀ c ∈ v.toList, c.toNat < 128) := by
  obtain ⟨doc', d, hnormal, hversion, hdescribe⟩ := hvalid.describe v
  have hloaded : (result files (load env input schema) console).1
      = .ok (if Version.isVersion v then .ok d else .error .badVersion) := by
    rw [result_load hread hschema, hnormal, ok_bind, hdescribe]
    cases Version.isVersion v <;> rfl
  have haccepted : (∃ d, (result files (load env input schema) console).1 = .ok (.ok d) ∧ d.info.version = .text v)
      ↔ Version.IsTriple Text.isDigit [[], ['\n']] v := by
    rw [hloaded, ← Version.isVersion_iff]
    cases Version.isVersion v
    · simp
    · exact iff_of_true ⟨d, rfl, hversion⟩ rfl
  refine ⟨haccepted, fun h => ⟨.badVersion, ?_, rfl⟩, by rw [haccepted, Version.isTriple_ascii_iff]⟩
  rw [hloaded, if_neg (mt Version.isVersion_iff.mp h)]

/-! ## Runs on documents without sources -/

/-- The characters of a document with a version and no sources. -/
def versionChars (v : List Char) : List Char :=
  ['\x7b', '"', 'm', 'e', 't', 'a', '"', ':', '\x7b', '"', 'v', 'e', 'r', 's', 'i', 'o', 'n', '"', ':', '"'] ++ v
    ++ ['"', '\x7d', ',', '"', 's', 'o', 'u', 'r', 'c', 'e', 's', '"', ':', '[', ']', '\x7d']

/-- The document that they stand for. -/
def versionDocument (v : String) : Value :=
  .map [("meta", .map [("version", v)]), ("sources", .list [])]

theorem isDescribedWithSome_versionDocument (v : String) : (versionDocument v).IsDescribedWithSome :=
  ⟨"1.0.0", versionDocument "1.0.0", _, rfl, by decide, rfl⟩

/-- A run on a file with such a document, as far as it depends on how the version is written. -/
theorem result_readDocument_versionChars (chars : List Char) (v : String)
    (hlines : Filing.lineFeeds (versionChars chars) = versionChars chars)
    (hplain : Yaml.isTooDeep (versionChars chars) = false ∧ Yaml.hasSeparator (versionChars chars) = false
      ∧ Yaml.jsonChars? (versionChars chars) = some (versionChars chars))
    (hdoc : Json.read? (String.ofList (versionChars chars)) = some (versionDocument v))
    (hwritable : (versionDocument v).isWritable = true) (console : Console) :
    result (onlyFile documentPath (String.ofList (versionChars chars))) (readDocument documentPath) console
      = (.ok (.ok ((versionDocument "").withVersion v)), console) := by
  have hmark : Yaml.dropByteOrderMark (versionChars chars) = versionChars chars := rfl
  have hblank : ((versionChars chars).all fun c => c = ' ' ∨ Yaml.isLineBreak c) = false := rfl
  refine result_readDocument_onlyFile _ (by decide) hlines ?_ rfl console
  simp only [Yaml.read, String.toList_ofList, hmark, hblank, hplain, Option.bind, hdoc, hwritable]
  rfl

/-- A document is loaded with the version 1.0.0. -/
theorem load_with_version_of_numbers :
    ∃ d, (result (onlyFile documentPath (String.ofList (versionChars ['1', '.', '0', '.', '0'])))
      (load { home := "/tool", here := [] } documentPath none) { style := .silent }).1 = .ok (.ok d)
      ∧ d.info.version = .text "1.0.0" := by
  have hread := result_readDocument_versionChars ['1', '.', '0', '.', '0'] "1.0.0" (by decide) (by decide) rfl
    (by decide)
  have hvalid := isDescribedWithSome_versionDocument ""
  refine ((load_with_version_iff hvalid _ hread (result_find_onlyFile _) _).2.2.mp ?_).1
  exact ⟨['1'], ['0'], ['0'], [], rfl, by simp, by simp⟩

/-- It is loaded with a line break behind that version as well. -/
theorem load_with_version_and_line_break :
    (∃ d, (result (onlyFile documentPath (String.ofList (versionChars ['1', '.', '0', '.', '0', '\\', 'n'])))
      (load { home := "/tool", here := [] } documentPath none) { style := .silent }).1 = .ok (.ok d)
      ∧ d.info.version = .text "1.0.0\n")
    ∧ ¬Version.IsTriple Char.isDigit [[]] "1.0.0\n" := by
  have hread := result_readDocument_versionChars ['1', '.', '0', '.', '0', '\\', 'n'] "1.0.0\n" (by decide)
    (by decide) rfl (by decide)
  refine ⟨⟨?described, ?loaded, ?version⟩, fun h => ?triple⟩
  case loaded =>
    rw [result_load hread (result_find_onlyFile _)]
    rfl
  case version => rfl
  case triple => exact (Version.isTriple_ascii_iff.mp h).2.1 (by decide)

end Running

end ShaderRecords
