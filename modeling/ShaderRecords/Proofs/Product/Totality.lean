/-
ShaderRecords.Proofs.Product.Totality — a document that follows the schema gives its products.

Reading is lenient and what comes after it is not: names are joined and capitalized, comments and labels are
appended, divisors come from ranges. `sources_build` says that the schema is strong enough for all of it. A
document that follows it is read, unless two of its types share a name, which is told; and each source of the
description gives its products, whatever is wrong with its types and bindings being told in them.

Four things are left to assume. Ends of ranges are not too large for floating-point numbers, and numbers that
are written have few enough digits (`TypeDef.NumbersWritable`); the names of a binding's type do not lead back
to themselves (`Binding.Ends`); and the companion of the source can be looked for.
-/
import ShaderRecords.Proofs.Binding.Declaration
import ShaderRecords.Proofs.Product.Siblings
import ShaderRecords.Proofs.Record.Packing

namespace ShaderRecords

/-! ## Requests -/

/-- Whether the numbers that are written for a type have few enough digits: the numbers of its debug entries,
counted from its own start or else from `start`, and the last bits that its requests ask for. -/
structure TypeDef.NumbersWritable (start : Value) (t : TypeDef) : Prop where
  ids : ∀ n, (t.firstId start).number? = some (.int n) →
    ∀ i < (t.members.map t.entryCount).sum, isWritable (n + i) = true
  bits : ∀ m ∈ t.members, ∀ d ∈ m.packing,
    isWritable (d.offset.toInt + (d.width.getD 0).toInt - 1) = true

/-- The debug entries of a type can be numbered. -/
theorem TypeDef.NumbersWritable.counts {t : TypeDef} {start : Value} (h : t.NumbersWritable start)
    (hstart : start.IsCount) : (t.firstId start).Counts (t.members.map t.entryCount).sum := by
  have hfirst : (t.firstId start).IsCount := by
    unfold TypeDef.firstId
    split
    next n _ => cases n <;> exact ⟨_, rfl⟩
    next => exact hstart
  obtain ⟨x, hx⟩ := hfirst
  exact ⟨x, hx, fun n hn => h.ids n (hn ▸ hx)⟩

/-- A checked request gets a layout or is told. -/
theorem Layout.unbroken_ofDirective {typeName : Value} {m : Member} {d : Directive} (hd : d.Checked)
    (hbits : isWritable (d.offset.toInt + (d.width.getD 0).toInt - 1) = true) :
    Unbroken (Layout.ofDirective typeName m d) := by
  refine hd.gives_scheme.orBreak.unbroken.bind fun scheme? _ => ?_
  match scheme? with
  | none => simp
  | some scheme =>
    have htaken : Unbroken (d.bits ⟨typeName, m.name⟩ scheme) := by
      unfold Directive.bits
      split
      · dsimp only
        split
        · simp
        · split
          · exact (gives_wholeText hbits).orBreak.unbroken.bind fun _ _ => unbroken_issue _
          · simp
      · simp
    have htype : Unbroken (checkStorageType ⟨typeName, m.name⟩ scheme m.type) := by
      unfold checkStorageType
      split
      · split <;> simp
      · split <;> simp
    have hends : Unbroken (d.ends ⟨typeName, m.name⟩) := by
      unfold Directive.ends
      split
      · split <;> simp
      · simp
    exact htaken.bind fun _ _ => htype.bind fun _ _ => hends.bind fun _ _ => unbroken_ok _

/-! ## Types -/

namespace TypeProduct

variable {registry : Registry} {settings : Settings} {render : Bool} {t : TypeDef} {p : TypeProduct}

/-- What the fields of a type are packed into has names and comments that are texts. -/
theorem usable_registers (ht : t.Checked) (h : IsPrepared registry settings t p false) :
    (∀ r ∈ p.registers, r.comment.IsText) ∧ ∀ r ∈ p.registers, ∀ f ∈ r.members, f.name.IsText := by
  have hof := TypeDef.of_extract h.extract_eq
  have hgrouping := grouping_of_pack (fun f hf => (hof.fields f hf).elim fun m hm => hm.2.sized)
    (h.pack_eq rfl)
  have hmember : ∀ r ∈ p.registers, ∀ f ∈ r.members, ∃ m ∈ t.members, f.IsOf m := by
    intro r hr f hf
    refine hof.fields f ?_
    rw [← hgrouping.members]
    exact List.mem_flatMap.mpr ⟨r, hr, hf⟩
  constructor
  · intro r hr
    obtain ⟨name, f, fs, -, heq, -⟩ := (hgrouping.formed r hr).exists_eq_ofGroup
    obtain ⟨m, hm, hf⟩ := hmember r hr f (by rw [heq]; simp)
    rw [heq]
    exact hf.comment (ht.members m hm).element
  · intro r hr f hf
    obtain ⟨m, hm, hf⟩ := hmember r hr f hf
    rw [hf.name]
    exact (ht.members m hm).name

variable (registry) in
/-- A checked type is prepared if its debug entries can be numbered. -/
theorem gives_prepared (ht : t.Checked)
    (hids : (t.firstId settings.debugStart).Counts (t.members.map t.entryCount).sum) :
    Gives (prepared registry settings t) fun _ => True := by
  unfold prepared
  refine (TypeDef.gives_extract ht hids).bind fun extracted hof => ?_
  dsimp only
  split
  · exact gives_ok trivial
  · have hpack : Unbroken (pack t.rules extracted.fields) := by
      cases t.rules with
      | exact => exact unbroken_ok _
      | aggressive =>
        refine unbroken_pack_aggressive fun f hf => ?_
        obtain ⟨m, hm, hf⟩ := hof.fields f hf
        obtain ⟨name, hname⟩ := (ht.members m hm).name
        rw [hf.name, hname]
        rfl
    rcases hpack.ok_or_issue with ⟨registers, h⟩ | ⟨e, h⟩
    · rw [h]
      exact gives_ok trivial
    · rw [h]
      exact gives_ok trivial

/-- A checked type gives something, if the numbers that are written for it have few enough digits. -/
theorem gives_alone (ht : t.Checked) (hstart : settings.debugStart.IsCount)
    (hnumbers : t.NumbersWritable settings.debugStart) :
    Gives (alone registry settings render t) fun _ => True := by
  rw [alone_eq]
  obtain ⟨⟨p, ended⟩, hprepared, -⟩ := gives_prepared registry ht (hnumbers.counts hstart)
  rw [hprepared, ok_bind]
  cases ended with
  | true => exact gives_ok trivial
  | false =>
    have hp := isPrepared_of_prepared hprepared
    have hpacked : ∀ m ∈ p.extracted.packedMembers, m ∈ t.members :=
      (TypeDef.of_extract hp.extract_eq).packedMembers
    have hname : p.typeDef.name.IsText := hp.typeDef_eq ▸ ht.name
    have hkey : ∀ {v : Value}, v.IsText → v.isKey = true := by
      rintro _ ⟨s, rfl⟩
      rfl
    have hsteady : Unbroken p.ownLayouts := by
      refine steady_resolveAll (hkey hname) (fun m hm => hkey (ht.members m (hpacked m hm)).name)
        (fun m hm d hd => ?_) {}
      exact Layout.unbroken_ofDirective ((ht.members m (hpacked m hm)).packing d hd)
        (hnumbers.bits m (hpacked m hm) d hd)
    have husable : ∀ ls, p.ownLayouts = .ok ls → ∀ l ∈ ls, l.Usable := by
      refine (keeps_resolveAll (fun m hm d _ l hl => ?_) {} (by simp)).2
      exact Layout.usable_of_ofDirective (ht.members m (hpacked m hm)) hl
    obtain ⟨y, -, hgives, hy⟩ := exists_withResolved settings render (p := p)
      hp.fragments_eq_nil fun ls => isSome_valueType?_of_ownLayouts
    obtain ⟨hcomments, hmembers⟩ := usable_registers ht hp
    have hy0 := hy 0
    dsimp only
    rw [if_neg (by simp), hy0]
    refine (hgives hsteady hname fun ls hls name => ⟨hcomments, hmembers, fun m hm => ?_, husable ls hls⟩).map
      fun _ _ => trivial
    exact (ht.members m (hpacked m hm)).name

end TypeProduct

/-! ## Sources -/

/-- The companion of a source. -/
def Source.companion (settings : Settings) (s : Source) : Path :=
  (SourceProduct.base settings s).sibling ((Path.ofText s.path).stem ++ ".custom.hlsl")

/-- What is assumed of a source and the files around it for its products to be made. -/
structure Source.Buildable (files : (c : FileCommand) → c.Answer) (settings : Settings) (s : Source) :
    Prop where
  /-- The products have a name to be named after. -/
  name_ne_empty : (SourceProduct.base settings s).name ≠ ""
  numbers : ∀ t ∈ s.types, t.NumbersWritable settings.debugStart
  bindings : ∀ b ∈ s.bindings, b.Ends
  companion : ∃ isThere, Filing.result files (Filing.isThere (s.companion settings)) = .ok isThere

namespace SourceProduct

variable {registry : Registry} {settings : Settings} {render : Bool} {s : Source}
  {files : (c : FileCommand) → c.Answer}

variable (registry render) in
/-- A checked source gives its products. -/
theorem gives_build (hs : s.Checked) (hdiffer : s.TypesDiffer) (hstart : settings.debugStart.IsCount)
    (h : s.Buildable files settings) :
    Gives (Filing.result files (build registry settings render s)) fun _ => True := by
  have hparts : (base settings s).parts ≠ [] := by
    intro hempty
    exact h.name_ne_empty (by simp [Path.name, hempty])
  obtain ⟨types, htypes, -⟩ :=
    Gives.mapM (f := TypeProduct.alone registry settings render) (P := fun _ => True) fun t ht =>
      TypeProduct.gives_alone (hs.types t ht) hstart (h.numbers t ht)
  obtain ⟨pragmas, hpragmas, -⟩ := gives_pragmaLines hs
  have hbindings : ∀ b ∈ s.bindings, Unbroken (b.text registry.names) := fun b hb =>
    Binding.unbroken_text (hs.bindings b hb) (h.bindings b hb)
  have hplan : plan registry settings render s = .ok (planned registry settings s types pragmas) :=
    (plan_eq_ok_iff_of_typesDiffer hdiffer).mpr ⟨hparts, hbindings, types, pragmas, htypes, hpragmas, rfl⟩
  rw [result_build, hplan, ok_bind]
  cases render with
  | false => exact gives_ok trivial
  | true =>
    have hcompanion : (planned registry settings s types pragmas).companion = s.companion settings := by
      simp [companion, planned, Source.companion, Path.sibling]
    obtain ⟨isThere, hthere⟩ := h.companion
    simp only [Bool.not_true, Bool.false_eq_true, if_false, hcompanion, hthere]
    split <;> exact gives_ok trivial

end SourceProduct

/-! ## Descriptions -/

/-- The names of checked compounds and types can stand as keys. -/
theorem Registry.gives_ofDescription {d : Description} (hd : d.Checked) :
    Gives (Registry.ofDescription d) fun _ => True := by
  refine (Gives.forall₂ fun c hc => (hd.compounds c hc).name.gives_asKey).bind fun _ _ => ?_
  refine (Gives.forall₂ (P := fun t key => key = TypeDef.name t) fun t ht => ?_).bind fun _ _ =>
    gives_ok trivial
  obtain ⟨s, hs, ht⟩ := List.mem_flatMap.mp ht
  exact ((hd.sources s hs).types t ht).name.gives_asKey

/-- A document that follows the schema is described exactly if no two of its types share a name, and that
they do is told; each source of the description gives its products, with texts or without. -/
theorem Description.sources_build {doc : Value} (haccepts : Schema.document.accepts doc = true)
    (hranges : doc.RangesConvert) :
    (doc.typeNames.Nodup ↔ ∃ d, Description.ofValue doc = .ok d)
      ∧ (¬doc.typeNames.Nodup →
        ∃ e, Description.ofValue doc = .error (.issue e) ∧ e.code = "E_DUP_TYPE_NAME")
      ∧ ∀ d, Description.ofValue doc = .ok d →
        ∃ registry, Registry.ofDescription d = .ok registry
          ∧ ∀ s ∈ d.sources, ∀ settings render files, settings.debugStart = d.defaults.debugStart →
            s.Buildable files settings →
            ∃ p, Filing.result files (SourceProduct.build registry settings render s) = .ok p := by
  obtain ⟨hread, htold, hchecked⟩ := Description.ofValue_of_accepts haccepts hranges
  refine ⟨⟨hread, fun ⟨d, hd⟩ => ?_⟩, fun hshared => ?_, fun d hd => ?_⟩
  · by_contra hshared
    obtain ⟨name, first, second, he⟩ := htold hshared
    simp [hd] at he
  · obtain ⟨name, first, second, he⟩ := htold hshared
    exact ⟨_, he, rfl⟩
  · obtain ⟨registry, hregistry, -⟩ := Registry.gives_ofDescription (hchecked d hd)
    refine ⟨registry, hregistry, fun s hs settings render files hstart hbuildable => ?_⟩
    have hcount : settings.debugStart.IsCount := hstart ▸ (hchecked d hd).debugStart
    obtain ⟨p, hp, -⟩ := SourceProduct.gives_build registry render
      ((hchecked d hd).sources s hs) (Description.typesDiffer_of_ofValue hd s hs) hcount hbuildable
    exact ⟨p, hp⟩

/-- A document with a record that is shown in the debug view and stores a fraction in eight bits, and with a
texture. -/
def lightDocument : Value :=
  .map [("meta", .map [("version", "1.0.0")]),
    ("sources", .list [.map [("path", "Lights.cs"),
      ("types", .list [.map [("name", "Light"), ("needs_param_debug", .bool true),
        ("members", .list [.map [("name", "range"), ("type", "float")],
          .map [("name", "flags"), ("type", "uint"), ("packing", .list [.map [("scheme", "PackedFloat"),
            ("offset", .int 8), ("width", .int 8)]])]])]]),
      ("bindings", .list [.map [("name", "shadows"), ("type", "Texture2D"), ("inner_type", "float")]])]])]

/-- The source that it describes. -/
def lightSource : Source where
  path := "Lights.cs"
  types := [
    { name := "Light", fullName := "Light", needsDebug := true,
      members := [{ name := "range", type := "float" },
        { name := "flags", type := "uint",
          packing := [{ scheme := "PackedFloat", offset := 8, width := some 8 }] }] }]
  bindings := [{ name := "shadows", type := "Texture2D", innerType := "float" }]

theorem ofValue_lightDocument :
    Description.ofValue lightDocument = .ok { info := { version := "1.0.0" }, sources := [lightSource] } :=
  rfl

/-- Settings under which its products are made. -/
def lightSettings : Settings where
  outDir := ⟨"", ["out"]⟩
  sourceLabel := "types.yaml"
  packingInclude := "Packing.hlsl"
  debugStart := .int 1
  command := "generate"
  emitManifest := true

theorem buildable_lightSource : lightSource.Buildable noFiles lightSettings where
  name_ne_empty := by decide
  numbers t ht := by
    obtain rfl := List.mem_singleton.mp ht
    constructor
    · intro n hn i hi
      obtain rfl : 1 = n := Number.int.inj (Option.some.inj hn)
      have hcount : i < 2 := hi
      exact isWritable_of_natAbs_lt (by omega)
    · intro m hm d hd
      simp only [List.mem_cons, List.not_mem_nil, or_false] at hm
      rcases hm with rfl | rfl
      · simp at hd
      · obtain rfl := List.mem_singleton.mp hd
        exact isWritable_of_natAbs_lt (by decide)
  bindings b hb := by
    obtain rfl := List.mem_singleton.mp hb
    intro _ _ items hitems hleads
    obtain rfl : "float" = items := Value.text.inj hitems
    rcases hleads with hasks | ⟨buffer, hname, -⟩
    · rcases hasks with htexture | hbuffer
      · exact absurd htexture (by decide)
      · exact absurd hbuffer (by decide)
    · exact absurd (BufferOf.lt_mem_of_ofName? hname).1 (by decide)
  companion := ⟨false, rfl⟩

/-- The document follows the schema, and the products of its source are made, with texts and without. -/
theorem Description.sources_build_of_lightDocument :
    ∃ registry,
      Registry.ofDescription { info := { version := "1.0.0" }, sources := [lightSource] } = .ok registry
      ∧ ∀ render, ∃ p,
        Filing.result noFiles (SourceProduct.build registry lightSettings render lightSource) = .ok p := by
  have haccepts : Schema.document.accepts lightDocument = true := by decide
  have hranges : lightDocument.RangesConvert := by
    have hnone : lightDocument.membersOf.flatMap Value.rangeEnds = [] := rfl
    intro member hmember v hv
    have hend : v ∈ lightDocument.membersOf.flatMap Value.rangeEnds :=
      List.mem_flatMap.mpr ⟨member, hmember, hv⟩
    simp [hnone] at hend
  obtain ⟨-, -, hbuilds⟩ := Description.sources_build haccepts hranges
  obtain ⟨registry, hregistry, hsources⟩ := hbuilds _ ofValue_lightDocument
  exact ⟨registry, hregistry, fun render =>
    hsources lightSource (by simp) lightSettings render noFiles rfl buildable_lightSource⟩

end ShaderRecords
