/-
ShaderRecords.Proofs.Files.Answers — what programs on files give when their commands are answered.

`Filing.result` answers the commands of a program from a table of answers. What a program gives then is found
step by step (`Filing.result_bind`), so a property of results for every table is one of the program whatever
is in the file system. What is read from a file is the text that was written to it (`Filing.textOf_toUTF8`), but
for its line ends.
-/
import ShaderRecords.Files.Program
import ShaderRecords.Proofs.Failure

namespace ShaderRecords

/-! ## Texts of files -/

namespace Filing

theorem fromUTF8?_toUTF8 (s : String) : String.fromUTF8? s.toUTF8 = some s := by
  unfold String.fromUTF8? String.toUTF8
  simp [s.isValidUTF8, String.fromUTF8]

theorem toUTF8_of_fromUTF8? {bytes : ByteArray} {s : String} (h : String.fromUTF8? bytes = some s) :
    s.toUTF8 = bytes := by
  unfold String.fromUTF8? at h
  split at h
  · obtain rfl := Option.some.inj h
    rfl
  · cases h

theorem textOf_toUTF8 (s : String) : textOf s.toUTF8 = .ok (String.ofList (lineFeeds s.toList)) := by
  rw [textOf, fromUTF8?_toUTF8]

theorem cr_not_mem_lineFeeds (cs : List Char) : '\r' ∉ lineFeeds cs := by
  fun_induction lineFeeds cs with
  | case1 rest ih => simpa using ih
  | case2 rest _ ih => simpa using ih
  | case3 c rest _ hc ih =>
    rw [List.mem_cons, not_or]
    exact ⟨fun h => hc h.symm, ih⟩
  | case4 => simp

/-- Reading a text with its line ends as line feeds changes it exactly if it has a carriage return. -/
theorem lineFeeds_eq_self_iff {cs : List Char} : lineFeeds cs = cs ↔ '\r' ∉ cs := by
  refine ⟨fun h => h ▸ cr_not_mem_lineFeeds cs, fun h => ?_⟩
  fun_induction lineFeeds cs with
  | case1 rest => simp at h
  | case2 rest => simp at h
  | case3 c rest _ _ ih => rw [ih fun hrest => h (List.mem_cons_of_mem _ hrest)]
  | case4 => rfl

end Filing

/-! ## Answered programs -/

namespace Filing

variable {α β : Type} (files : (c : FileCommand) → c.Answer)

/-- What a program on files gives, with the answers that files give to its commands. -/
def result (x : Filing α) : Except Breakdown α :=
  x.run.runWith (m := Id) files

@[simp] theorem result_lift (x : Except Breakdown α) : result files (lift x) = x := rfl

theorem result_bind (x : Filing α) (f : α → Filing β) :
    result files (x >>= f) = result files x >>= fun a => result files (f a) := by
  have hrun : (x >>= f).run = x.run.andThen (ExceptT.bindCont f) := rfl
  unfold result
  rw [hrun, FileProgram.runWith_andThen]
  show FileProgram.runWith _ _ = _
  cases FileProgram.runWith (m := Id) files x.run <;> rfl

end Filing

/-- The answers where there are no files at all. -/
def noFiles (c : FileCommand) : c.Answer :=
  .error .notFound

end ShaderRecords
