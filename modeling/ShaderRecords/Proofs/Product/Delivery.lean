/-
ShaderRecords.Proofs.Product.Delivery — what becomes of the files of a product.

Each file of a product meets one fate: it is written, left as it is, or skipped with a problem. `SourceProduct.Sorts`
says that a product has been delivered with the fates noted, file by file and in order. `SourceProduct.deliver_ends`
says that a delivery ends so whatever is answered to its commands, unless a file that is there already holds bytes
that are no text: those stop the delivery, and so they do even where they are about to be replaced. Nothing else
stops it but a path that cannot name a file.
-/
import ShaderRecords.Proofs.Files.Exchanges

namespace ShaderRecords

/-! ## Fates -/

namespace Fate

/-- Whether the file has been written. -/
def isWritten : Fate → Bool
  | written => true
  | _ => false

/-- Whether the file has been left as it is. -/
def isUnchanged : Fate → Bool
  | unchanged => true
  | _ => false

/-- The problem with which the file has been skipped. -/
def problem? : Fate → Option WriteError
  | skipped e => some e
  | _ => none

theorem worksOn_deliver (p : Path) (text : String) : Filing.WorksOn p (deliver p text) := by
  unfold deliver
  refine Filing.WorksOn.catch ?_ (fun e => Filing.worksOn_pure _) fun b hb => ?_
  · refine (Filing.worksOn_mayReplace p).bind fun may => ?_
    split
    · refine (Filing.worksOn_replace p text).bind fun changed => ?_
      split <;> exact Filing.worksOn_pure _
    · exact Filing.worksOn_pure _
  · cases b <;> first | rfl | exact absurd rfl (hb _)

/-- A file is skipped with a problem of its own, and no failure of the file system is passed on. -/
theorem ends_deliver (p : Path) (text : String) : (deliver p text).Ends fun es result =>
    Filing.IsOrderly p es result ∧ (∀ e, result ≠ .error (.file e))
      ∧ ∀ fate, result = .ok fate → ∀ e, fate.problem? = some e → e.target = p := by
  refine (worksOn_deliver p text).and ?_
  have hyields : Filing.Yields (do
      if ← Filing.mayReplace p then
        if ← Filing.replace p text then return written else return unchanged
      else return skipped (.readOnly p)) fun fate => ∀ e, fate.problem? = some e → e.target = p := by
    refine (Filing.yields_any _).bind fun may _ => ?_
    split
    · refine (Filing.yields_any _).bind fun changed _ => ?_
      split <;> exact Filing.yields_pure nofun
    · refine Filing.yields_pure fun e he => ?_
      rw [← Option.some.inj he]
      rfl
  unfold deliver
  refine Filing.ends_tryCatch.mpr (hyields.imp fun es result h => ?_)
  cases result with
  | ok fate => exact ⟨nofun, h⟩
  | error b =>
    cases b with
    | file e =>
      refine ⟨nofun, ?_⟩
      rintro _ ⟨⟩ _ ⟨⟩
      rfl
    | _ => exact ⟨nofun, nofun⟩

end Fate

/-! ## Products -/

namespace SourceProduct

/-- Whether a product has been delivered with the fates that some of its files have met, noted file by file and in the
order of the files. -/
structure Sorts (p : SourceProduct) (paths : List Path) (fates : List (Path × Fate)) (p' : SourceProduct) :
    Prop where
  paths_eq : fates.map (·.1) = paths
  product_eq : p' = { p with
    written := p.written ++ (fates.filter (·.2.isWritten)).map (·.1)
    unchanged := p.unchanged ++ (fates.filter (·.2.isUnchanged)).map (·.1)
    skipped := p.skipped ++ (fates.filter (·.2.problem?.isSome)).map (·.1)
    issues := p.issues ++ (fates.filterMap (·.2.problem?)).map .writing }
  target_eq : ∀ path fate, (path, fate) ∈ fates → ∀ e, fate.problem? = some e → e.target = path

theorem sorts_nil (p : SourceProduct) : p.Sorts [] [] p where
  paths_eq := rfl
  product_eq := by simp
  target_eq := by simp

/-- One fate after another is noted. -/
theorem Sorts.cons {p p' : SourceProduct} {path : Path} {fate : Fate} {paths : List Path} {fates : List (Path × Fate)}
    (h : (p.note path fate).Sorts paths fates p') (htarget : ∀ e, fate.problem? = some e → e.target = path) :
    p.Sorts (path :: paths) ((path, fate) :: fates) p' where
  paths_eq := by rw [List.map_cons, h.paths_eq]
  product_eq := by
    rw [h.product_eq]
    cases fate <;> simp [note, Fate.isWritten, Fate.isUnchanged, Fate.problem?]
  target_eq := by
    intro path' fate' hmem
    rcases List.mem_cons.mp hmem with heq | hmem
    · obtain ⟨rfl, rfl⟩ := Prod.mk.inj heq
      exact htarget
    · exact h.target_eq path' fate' hmem

/-- How a delivery ends. -/
structure EndsDelivery (p : SourceProduct) (paths : List Path) (es : List Exchange)
    (result : Except Breakdown SourceProduct) : Prop where
  sorts : ∀ p', result = .ok p' → ∃ fates, p.Sorts paths fates p'
  undecodable_iff : result = .error .undecodableText ↔ ∃ e ∈ es, Filing.IsUndecodable e
  path_of_read : ∀ q answer, (⟨.read q, answer⟩ : Exchange) ∈ es → q ∈ paths
  breakdown : ∀ b, result = .error b →
    b = .undecodableText ∨ b = .wrongContent ∧ ∃ q ∈ paths, ¬Filing.NamesFile q

theorem ends_deliverAll (p : SourceProduct) (outputs : List (Path × String)) :
    (p.deliverAll outputs).Ends (p.EndsDelivery (outputs.map (·.1))) := by
  induction outputs generalizing p with
  | nil =>
    exact ⟨fun p' hp' => ⟨[], Except.ok.inj hp' ▸ p.sorts_nil⟩, by simp, by simp, by simp⟩
  | cons output rest ih =>
    obtain ⟨path, text⟩ := output
    unfold deliverAll
    refine Filing.ends_bind.mpr ((Fate.ends_deliver path text).imp ?_)
    rintro es result ⟨horderly, hfile, htarget⟩
    cases result with
    | error b =>
      refine ⟨by simp, ?_, fun q answer he => ?_, fun b' hb' => ?_⟩
      · rw [← horderly.undecodable_iff]
        simp
      · rw [horderly.path_of_read q answer he]
        exact List.mem_cons_self
      · obtain rfl := Except.error.inj hb'
        rcases horderly.breakdown _ rfl with ⟨e, rfl⟩ | hbytes | ⟨hcontent, hname⟩
        · exact absurd rfl (hfile e)
        · exact .inl hbytes
        · exact .inr ⟨hcontent, path, List.mem_cons_self, hname⟩
    | ok fate =>
      refine (ih (p.note path fate)).imp fun es' result' h => ?_
      refine ⟨fun p' hp' => ?_, ?_, fun q answer he => ?_, fun b hb => ?_⟩
      · obtain ⟨fates, hfates⟩ := h.sorts p' hp'
        exact ⟨_, hfates.cons (htarget fate rfl)⟩
      · exact h.undecodable_iff.trans horderly.exists_undecodable_append.symm
      · rcases List.mem_append.mp he with he | he
        · rw [horderly.path_of_read q answer he]
          exact List.mem_cons_self
        · exact List.mem_cons_of_mem _ (h.path_of_read q answer he)
      · refine (h.breakdown b hb).imp_right ?_
        rintro ⟨hcontent, q, hq, hname⟩
        exact ⟨hcontent, q, List.mem_cons_of_mem _ hq, hname⟩

/-- A delivery gives every file its fate, whatever is answered to its commands, unless it reads bytes from one of the
files that are no text: it breaks down on them. It breaks down on nothing else but a path that cannot name a file. -/
theorem deliver_ends {σ : Type} (handle : (c : FileCommand) → StateM σ c.Answer) (s : σ) (p : SourceProduct) :
    (∀ p', p.deliver.run.outcome handle s = .ok p' → ∃ fates, p.Sorts (p.outputs.map (·.1)) fates p')
      ∧ (p.deliver.run.outcome handle s = .error .undecodableText ↔
        ∃ path ∈ p.outputs.map (·.1), ∃ bytes,
          (⟨.read path, .ok bytes⟩ : Exchange) ∈ p.deliver.run.exchanges handle s
            ∧ String.fromUTF8? bytes = none)
      ∧ ∀ b, p.deliver.run.outcome handle s = .error b → b = .undecodableText
        ∨ b = .wrongContent ∧ ∃ path ∈ p.outputs.map (·.1), ¬Filing.NamesFile path := by
  have h : p.EndsDelivery (p.outputs.map (·.1)) (p.deliver.run.exchanges handle s) (p.deliver.run.outcome handle s) :=
    (p.ends_deliverAll p.outputs).run handle s
  refine ⟨h.sorts, ?_, h.breakdown⟩
  rw [h.undecodable_iff]
  constructor
  · rintro ⟨_, he, path, bytes, rfl, hbytes⟩
    exact ⟨path, h.path_of_read path _ he, bytes, he, hbytes⟩
  · rintro ⟨path, -, bytes, he, hbytes⟩
    exact ⟨_, he, path, bytes, rfl, hbytes⟩

/-- A tree with a file that does not hold UTF-8. -/
def damagedTree : FileTree where
  nodes := [(["out"], .directory FileNode.directoryMode),
    (["out", "Lights.hlsl"], .file ⟨#[0xff]⟩ FileNode.fileMode)]

/-- A product of which one file is to take the place of that file, and another is to be made. -/
def damagedProduct : SourceProduct where
  source := { path := "Lights" }
  includeTarget := ⟨"", ["out", "Lights.hlsl"]⟩
  pragmaTarget := ⟨"", ["out", "Lights.pragmas.hlsl"]⟩
  manifestTarget := ⟨"", ["out", "Lights.fields.json"]⟩
  outputs := [(⟨"", ["out", "Lights.hlsl"]⟩, "a"), (⟨"", ["out", "Lights.pragmas.hlsl"]⟩, "b")]

theorem deliver_stops_at_bytes :
    damagedProduct.deliver.runOn damagedTree = (.error .undecodableText, damagedTree) := by
  rfl

end SourceProduct

end ShaderRecords
