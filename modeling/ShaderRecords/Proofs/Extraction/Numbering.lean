/-
ShaderRecords.Proofs.Extraction.Numbering — the debug entries of a record are numbered one after another.

Two things are said of the debug entries that a record gets. They are those of its members, in their order: those
of an ordinary member for the labels of its surface, those of a member that stores packed values for the labels of
each of its requests, and none for any other member (`Member.showings`). And their numbers count up from the first
one (`Numbered`), whatever members that are static, of no given size or have a problem stand between them.
Both are said of each step first, then of the walk (`numbered_of_extractMembers`).
-/
import ShaderRecords.Proofs.Extraction.DebugEntries
import ShaderRecords.Proofs.Extraction.Failing

namespace ShaderRecords

/-! ## Numbers that count up -/

/-- The number some steps after a whole number. A number that no step is taken from keeps its spelling. -/
def Whole.plus (w : Whole) : Nat → Whole
  | 0 => w
  | k + 1 => .number (w.toInt + (k + 1 : Nat))

@[simp] theorem Whole.toInt_plus (w : Whole) (k : Nat) : (w.plus k).toInt = w.toInt + k := by
  cases k with
  | zero => exact (Int.add_zero _).symm
  | succ k => rfl

theorem nextId_plus (w : Whole) (k : Nat) : nextId (w.plus k).toValue = .ok (w.plus (k + 1)).toValue := by
  cases k with
  | zero =>
    cases w with
    | number n => rfl
    | flag b => cases b <;> rfl
  | succ k =>
    show Except.ok (Value.int (w.toInt + (k + 1 : Nat) + 1)) = _
    rw [Int.add_assoc]
    rfl

/-- Whether entries are numbered one after another, from the number some steps after a whole number up to that
before another number. -/
structure Numbered (w : Whole) (k : Nat) (es : List DebugField) (last : Value) : Prop where
  ids : es.map (·.id) = (List.range' k es.length).map fun i => (w.plus i).toValue
  last : last = (w.plus (k + es.length)).toValue

namespace Numbered

variable {w : Whole} {k : Nat} {e : DebugField} {es es' : List DebugField} {last : Value}

theorem nil (w : Whole) (k : Nat) : Numbered w k [] (w.plus k).toValue :=
  ⟨rfl, rfl⟩

theorem cons (he : e.id = (w.plus k).toValue) (h : Numbered w (k + 1) es last) :
    Numbered w k (e :: es) last where
  ids := by rw [List.map_cons, List.length_cons, List.range'_succ, List.map_cons, he, h.ids]
  last := by rw [h.last, List.length_cons, Nat.add_assoc, Nat.add_comm 1]

theorem append (h : es.map (·.id) = (List.range' k es.length).map fun i => (w.plus i).toValue)
    (h' : Numbered w (k + es.length) es' last) : Numbered w k (es ++ es') last where
  ids := by rw [List.map_append, h, h'.ids, ← List.map_append, List.range'_append_1, List.length_append]
  last := by rw [h'.last, List.length_append, Nat.add_assoc]

end Numbered

section Entries

variable {t : TypeDef} {m : Member} {w : Whole} {k : Nat} {es : List DebugField} {last : Value}

theorem numbered_of_debugEntries {make : String → Value → DebugField} {labels : List Value}
    (hmake : ∀ define id, (make define id).id = id)
    (h : debugEntries t (w.plus k).toValue make labels = .ok (es, last)) : Numbered w k es last := by
  induction labels generalizing k es with
  | nil =>
    obtain ⟨rfl, rfl⟩ := Prod.mk.inj (Except.ok.inj h)
    exact .nil w k
  | cons label labels ih =>
    obtain ⟨full, shown, following, rest, -, -, hfollowing, hrest, rfl⟩ := exists_of_debugEntries_cons h
    obtain rfl := Except.ok.inj ((nextId_plus w k).symm.trans hfollowing)
    exact .cons (hmake _ _) (ih hrest)

theorem numbered_of_packedDebug {f : Option Field} {ds : List Directive}
    (h : packedDebug t m f (w.plus k).toValue ds = .ok (es, last)) : Numbered w k es last := by
  induction ds generalizing k es with
  | nil =>
    obtain ⟨rfl, rfl⟩ := Prod.mk.inj (Except.ok.inj h)
    exact .nil w k
  | cons d ds ih =>
    obtain ⟨scheme, entries, following, rest, -, hentries, hrest, rfl⟩ := exists_of_packedDebug_cons h
    obtain ⟨hids, rfl⟩ := numbered_of_debugEntries (fun _ _ => rfl) hentries
    exact .append hids (ih hrest)

/-- The entries of a member are numbered one after another, and the number behind them is the next one. -/
theorem numbered_of_memberDebug {f : Option Field}
    (h : memberDebug t (w.plus k).toValue m f = .ok (es, last)) : Numbered w k es last := by
  obtain ⟨-, -, hentries⟩ | ⟨-, -, field, -, hentries⟩ | ⟨-, rfl, rfl⟩ := memberDebug_cases h
  · exact numbered_of_packedDebug hentries
  · exact numbered_of_debugEntries (fun _ _ => rfl) hentries
  · exact .nil w k

end Entries

/-! ## What is shown -/

/-- What an entry of the debug view shows: a member under a label, or one of its packed values. -/
structure Showing where
  member : Member
  /-- The request for the value; none if it is the member itself. -/
  request : Option Directive
  label : Value

/-- The function that gets what is shown, none in particular for a member itself. -/
def Showing.getter (s : Showing) : String :=
  match s.request with
  | some d => "Get" ++ ((d.names s.member.name).headD s.member.name).display
  | none => ""

/-- Whether an entry of a type is one for a member or a value under a label. -/
structure TypeDef.ShowsBy (t : TypeDef) (s : Showing) (e : DebugField) : Prop where
  define : ∃ full label, t.fullName.textParts = .ok full ∧ s.label.textParts = .ok label
    ∧ e.define = Identifier.ofDebugEntry full label
  field : e.field = s.member.name
  getter : e.getter = s.getter

/-- What is shown of a member that has a part: an ordinary member under each of its labels, or in its place the
values that it stores, under the labels of each request. -/
def MemberPart.showings (m : Member) : MemberPart → List Showing
  | ordinary field =>
    if !m.packing.isEmpty then (m.packedLabels m.packing).map fun p => ⟨m, some p.1, p.2⟩
    else if field.isSome then m.debugLabels.map fun label => ⟨m, none, label⟩
    else []
  | unsized | static _ => []

section Members

variable (registry : Registry) (t : TypeDef)

/-- What is shown of a member. -/
def Member.showings (m : Member) : List Showing :=
  match m.part registry t with
  | .ok part => part.showings m
  | .error _ => []

/-- What is shown of the members of a type, nothing unless it has a debug view. -/
def TypeDef.showings : List Showing :=
  if t.needsDebug then t.members.flatMap (·.showings registry t) else []

end Members

section Walk

variable {registry : Registry} {t : TypeDef} {m : Member} {w : Whole} {k : Nat} {next : Value}

theorem showings_of_part {part : MemberPart} (h : m.part registry t = .ok part) :
    m.showings registry t = part.showings m := by
  rw [Member.showings, h]

/-- An ordinary member is not static, has a size and has no problem. -/
theorem of_part_eq_ordinary {field : Option Field} (h : m.part registry t = .ok (.ordinary field)) :
    m.isStatic = false ∧ elementType t m ≠ .ok none ∧ m.problem? registry t = none := by
  have hproblem : m.problem? registry t = none := by
    refine Option.eq_none_iff_forall_ne_some.mpr fun e he => ?_
    rw [problem?_eq_some_iff_part, h] at he
    simp at he
  cases hasPart_of_part h with
  | ordinary helement hstatic _ => exact ⟨hstatic, by simp [helement], hproblem⟩

/-- Nothing is shown of a member that is static, that is an array of no given size or that has a problem. -/
theorem showings_eq_nil
    (h : m.isStatic = true ∨ elementType t m = .ok none ∨ (m.problem? registry t).isSome) :
    m.showings registry t = [] := by
  unfold Member.showings
  cases hpart : m.part registry t with
  | error e => rfl
  | ok part =>
    cases part with
    | unsized => rfl
    | static declared => rfl
    | ordinary field =>
      obtain ⟨hstatic, helement, hproblem⟩ := of_part_eq_ordinary hpart
      rcases h with h | h | h
      · simp [hstatic] at h
      · exact absurd h helement
      · simp [hproblem] at h

theorem Member.Shows.forall₂ {f : Option Field} {es : List DebugField} (h : m.Shows t f es) :
    List.Forall₂ t.ShowsBy ((MemberPart.ordinary f).showings m) es := by
  unfold MemberPart.showings
  dsimp only
  cases h with
  | packed hpacking hentries =>
    rw [if_pos (by simpa using hpacking)]
    refine List.forall₂_map_left_iff.mpr (hentries.imp fun p e hentry => ?_)
    obtain ⟨scheme, -, full, label, id, hfull, hlabel, rfl⟩ := hentry
    exact ⟨⟨full, label, hfull, hlabel, rfl⟩, rfl, rfl⟩
  | ordinary hpacking hentries =>
    rw [if_neg (by simp [hpacking]), if_pos (by simp)]
    refine List.forall₂_map_left_iff.mpr (hentries.imp fun label e hentry => ?_)
    obtain ⟨full, label, id, hfull, hlabel, rfl⟩ := hentry
    exact ⟨⟨full, label, hfull, hlabel, rfl⟩, rfl, rfl⟩
  | nothing hpacking =>
    rw [if_neg (by simp [hpacking]), if_neg (by simp)]
    exact .nil

/-- A member gives entries for what is shown of it, and they are numbered one after another. -/
theorem numbered_of_memberYield {y : MemberYield} (hdebug : t.needsDebug = true)
    (h : memberYield registry t (w.plus k).toValue m = .ok y) :
    Numbered w k y.debugFields y.next ∧ List.Forall₂ t.ShowsBy (m.showings registry t) y.debugFields := by
  obtain ⟨part, hpart, h⟩ := memberYield_eq_ok_iff.mp h
  rw [showings_of_part hpart]
  cases part with
  | unsized =>
    obtain rfl := Except.ok.inj h
    exact ⟨.nil w k, .nil⟩
  | static declared =>
    obtain ⟨_, rfl⟩ := exists_constants_of_staticYield h
    exact ⟨.nil w k, .nil⟩
  | ordinary field =>
    obtain ⟨⟨es, last⟩, hentries, h⟩ := bind_eq_ok_iff.mp h
    obtain rfl := Except.ok.inj h
    exact ⟨numbered_of_memberDebug hentries, (shows_of_memberDebug hdebug hentries).forall₂⟩

/-- Without a debug view a member gives no entries. -/
theorem debugFields_of_memberYield {y : MemberYield} (hdebug : t.needsDebug = false)
    (h : memberYield registry t next m = .ok y) : y.debugFields = [] := by
  obtain ⟨part, -, h⟩ := memberYield_eq_ok_iff.mp h
  cases part with
  | unsized =>
    obtain rfl := Except.ok.inj h
    rfl
  | static declared =>
    obtain ⟨_, rfl⟩ := exists_constants_of_staticYield h
    rfl
  | ordinary field =>
    obtain ⟨⟨es, last⟩, hentries, h⟩ := bind_eq_ok_iff.mp h
    obtain rfl := Except.ok.inj h
    refine List.eq_nil_iff_forall_not_mem.mpr fun e he => ?_
    cases hdebug.symm.trans (needsDebug_of_memberDebug hentries he)

/-- The walk adds entries for what is shown of the members, and they are numbered one after another. -/
theorem numbered_of_extractMembers {members : List Member} {out res : TypeFields} (hdebug : t.needsDebug = true)
    (h : extractMembers registry t (w.plus k).toValue out members = .ok res) :
    ∃ es last, res.debugFields = out.debugFields ++ es ∧ Numbered w k es last
      ∧ List.Forall₂ t.ShowsBy (members.flatMap (·.showings registry t)) es := by
  -- Each member begins with the number behind the entries of the members before it, so `k` grows along the walk.
  induction members generalizing k out with
  | nil =>
    obtain rfl := Except.ok.inj h
    exact ⟨[], _, (List.append_nil _).symm, .nil w k, .nil⟩
  | cons m ms ih =>
    rw [extractMembers] at h
    split at h
    next y hy =>
      obtain ⟨⟨hids, hnext⟩, hshows⟩ := numbered_of_memberYield hdebug hy
      rw [hnext] at h
      obtain ⟨es, last, hadded, hnumbered, hrest⟩ := ih h
      refine ⟨y.debugFields ++ es, last, ?_, .append hids hnumbered, List.rel_append hshows hrest⟩
      rw [hadded, ← List.append_assoc]
      rfl
    next e he =>
      obtain ⟨es, last, hadded, hnumbered, hrest⟩ := ih h
      have hproblem : (m.problem? registry t).isSome := by simp [problem?_eq_some_iff.mpr he]
      rw [List.flatMap_cons, showings_eq_nil (Or.inr (Or.inr hproblem)), List.nil_append]
      exact ⟨es, last, hadded, hnumbered, hrest⟩
    next => simp at h

/-- The entries of a type begin with its own number, or else with the given one. -/
theorem firstId_toValue (t : TypeDef) (start : Whole) :
    t.firstId start.toValue = (t.debugStart.getD start).toValue := by
  unfold TypeDef.firstId
  cases t.debugStart <;> rfl

/-- The entries of a type are those for what is shown of its members, and they are numbered one after another. -/
theorem numbered_of_extract {start : Whole} {out : TypeFields} (hrecord : t.isEnum = false)
    (h : t.extract registry start.toValue = .ok out) :
    List.Forall₂ t.ShowsBy (t.showings registry) out.debugFields
      ∧ ∃ last, Numbered (t.debugStart.getD start) 0 out.debugFields last := by
  rw [TypeDef.extract_of_record hrecord] at h
  unfold TypeDef.showings
  split
  next hdebug =>
    rw [firstId_toValue] at h
    obtain ⟨es, last, hadded, hnumbered, hshows⟩ :=
      @numbered_of_extractMembers registry t (t.debugStart.getD start) 0 t.members {} out hdebug h
    obtain rfl : out.debugFields = es := hadded.trans (List.nil_append es)
    exact ⟨hshows, last, hnumbered⟩
  next hdebug =>
    have hnone : out.debugFields = [] := by
      refine extractMembers_induction (P := fun out => out.debugFields = []) ?_ (fun _ _ h => h) rfl h
      rintro out y m - ⟨next, hy⟩ hout
      show out.debugFields ++ y.debugFields = []
      rw [hout, debugFields_of_memberYield (by simpa using hdebug) hy, List.nil_append]
    rw [hnone]
    exact ⟨.nil, _, .nil _ 0⟩

end Walk

theorem counts_toValue {w : Whole} {count : Nat} (h : ∀ i < count, isWritable (w.toInt + i) = true) :
    w.toValue.Counts count := by
  have hnumber : w.toValue.number? = some (.int w.toInt) := by cases w <;> rfl
  exact ⟨_, hnumber, fun n hn => Number.int.inj hn ▸ h⟩

/-- The debug entries of a record are those for what is shown of its members, in the order of the members, then of
their requests and then of the labels, and they are numbered one after another from the record's own first number, or
else from the given one. Static members, arrays of no given size and members that have a problem show nothing, so no
number goes to them; and without a debug view there are no entries. The entries of a checked record are given if
their numbers can be written. -/
theorem debug_entries_numbered {registry : Registry} {t : TypeDef} {start : Whole} (hrecord : t.isEnum = false) :
    (∀ out, t.extract registry start.toValue = .ok out →
        List.Forall₂ t.ShowsBy (t.showings registry) out.debugFields
          ∧ (∀ i e, out.debugFields[i]? = some e → e.id = ((t.debugStart.getD start).plus i).toValue)
          ∧ (t.needsDebug = false → out.debugFields = []))
      ∧ (∀ m ∈ t.members, m.isStatic = true ∨ elementType t m = .ok none ∨ (m.problem? registry t).isSome →
          m.showings registry t = [])
      ∧ (t.Checked →
          (∀ i < (t.members.map t.entryCount).sum, isWritable ((t.debugStart.getD start).toInt + i) = true) →
          ∃ out, t.extract registry start.toValue = .ok out) := by
  refine ⟨fun out h => ?_, fun m _ hm => showings_eq_nil hm, fun hchecked hwritable => ?_⟩
  · obtain ⟨hshows, last, hids, -⟩ := numbered_of_extract hrecord h
    refine ⟨hshows, fun i e he => ?_, fun hdebug => ?_⟩
    · have hid : (out.debugFields.map (·.id))[i]? = some e.id := by rw [List.getElem?_map, he]; rfl
      have hlength : i < out.debugFields.length := (List.getElem?_eq_some_iff.mp he).1
      rw [hids, List.getElem?_map, List.getElem?_range' (by simpa using hlength)] at hid
      simpa using hid.symm
    · rw [TypeDef.showings, hdebug] at hshows
      exact List.forall₂_nil_left_iff.mp hshows
  · have hcounts : (t.firstId start.toValue).Counts (t.members.map t.entryCount).sum :=
      firstId_toValue t start ▸ counts_toValue hwritable
    obtain ⟨out, hout, -⟩ := TypeDef.gives_extract hchecked hcounts
    exact ⟨out, hout⟩

/-- A surface with members of all sorts, whose debug entries begin with a negative number. -/
def mixedSurface : TypeDef where
  name := "Surface"
  fullName := "Surface"
  needsDebug := true
  debugStart := some (.number (-1))
  members := [
    { name := "range", type := "float", surface := some { labels := ["near", "far"] } },
    { name := "limit", type := "int", isStatic := true, value := .int 4 },
    { name := "ramp", type := "Texture2D" },
    { name := "flags", type := "uint", packing := [
        { scheme := "PackedUint", width := some 4 },
        { scheme := "PackedUint", offset := 4, width := some 4, labels := ["low", "", "high"] }] },
    { name := "weights", type := "float[]" },
    { name := "albedo", type := "Vector3" }]

theorem checked_mixedSurface : mixedSurface.Checked where
  name := ⟨_, rfl⟩
  fullName := ⟨_, rfl⟩
  members := by
    have hchecked : ∀ (name : String) (m : Member), m.name = .text name → m.element = .null →
        (∀ d ∈ m.packing, d.scheme = .text "PackedUint") → m.Checked := by
      intro name m hname helement hschemes
      exact ⟨⟨name, hname⟩, Or.inl helement, fun d hd => ⟨Or.inr ⟨_, hschemes d hd⟩⟩⟩
    simp only [mixedSurface, List.forall_mem_cons]
    refine ⟨?_, ?_, ?_, ?_, ?_, ?_, by simp⟩ <;> exact hchecked _ _ rfl rfl (by simp)
  values := by simp [mixedSurface]

/-- The constant, the texture and the array of no given size take no number. -/
theorem debug_entries_numbered_of_mixedSurface :
    mixedSurface.isEnum = false ∧ mixedSurface.Checked
      ∧ (∀ i < (mixedSurface.members.map mixedSurface.entryCount).sum, isWritable (-1 + i) = true)
      ∧ ∃ out, mixedSurface.extract {} (Whole.toValue 9) = .ok out
        ∧ out.debugFields.map (fun e => (e.define, e.id.display)) = [
            ("DEBUGVIEW_SURFACE_NEAR", "-1"), ("DEBUGVIEW_SURFACE_FAR", "0"), ("DEBUGVIEW_SURFACE_FLAGS", "1"),
            ("DEBUGVIEW_SURFACE_LOW", "2"), ("DEBUGVIEW_SURFACE_HIGH", "3"), ("DEBUGVIEW_SURFACE_ALBEDO", "4")]
        ∧ List.Forall₂ mixedSurface.ShowsBy (mixedSurface.showings {}) out.debugFields
        ∧ ∀ i e, out.debugFields[i]? = some e → e.id = ((Whole.number (-1)).plus i).toValue := by
  have hrecord : mixedSurface.isEnum = false := by decide
  have hwritable : ∀ i < (mixedSurface.members.map mixedSurface.entryCount).sum, isWritable (-1 + i) = true := by
    decide +kernel
  obtain ⟨hnumbered, -, hgiven⟩ := @debug_entries_numbered {} mixedSurface 9 hrecord
  obtain ⟨out, hextract⟩ := hgiven checked_mixedSurface hwritable
  obtain ⟨hshows, hids, -⟩ := hnumbered out hextract
  have hcomputed : (fun out => out.debugFields.map fun e => (e.define, e.id.display))
      <$> mixedSurface.extract {} (Whole.toValue 9) = .ok [
          ("DEBUGVIEW_SURFACE_NEAR", "-1"), ("DEBUGVIEW_SURFACE_FAR", "0"), ("DEBUGVIEW_SURFACE_FLAGS", "1"),
          ("DEBUGVIEW_SURFACE_LOW", "2"), ("DEBUGVIEW_SURFACE_HIGH", "3"), ("DEBUGVIEW_SURFACE_ALBEDO", "4")] := by
    decide +kernel
  rw [hextract] at hcomputed
  exact ⟨hrecord, checked_mixedSurface, hwritable, out, hextract, Except.ok.inj hcomputed, hshows, hids⟩

end ShaderRecords
