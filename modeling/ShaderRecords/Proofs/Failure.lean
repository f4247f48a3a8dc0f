/-
ShaderRecords.Proofs.Failure — what steps that can fail do one after another.

A chain of steps succeeds when each of its steps does. With these lemmas a chain is taken apart by `simp`
and `obtain`, so that no proof about a function opens the way in which failures are passed on. `Unbroken`
says of a step that it may fail only by an issue that is told to the user, and `Gives` that it succeeds with
something of a property; both go along chains as well.
-/
import Mathlib.Data.List.Forall2
import ShaderRecords.Failure

namespace ShaderRecords

variable {ε α β : Type}

@[simp] theorem ok_bind (a : α) (f : α → Except ε β) : ((Except.ok a : Except ε α) >>= f) = f a := rfl

@[simp] theorem error_bind (e : ε) (f : α → Except ε β) :
    ((Except.error e : Except ε α) >>= f) = .error e := rfl

@[simp] theorem pure_eq_ok (a : α) : (pure a : Except ε α) = .ok a := rfl

@[simp] theorem map_ok (f : α → β) (a : α) : (f <$> (Except.ok a : Except ε α)) = .ok (f a) := rfl

@[simp] theorem map_error (f : α → β) (e : ε) :
    (f <$> (Except.error e : Except ε α)) = .error e := rfl

/-- A chain succeeds when its first step does and the rest does with what that step gives. -/
theorem bind_eq_ok_iff {x : Except ε α} {f : α → Except ε β} {b : β} :
    (x >>= f) = .ok b ↔ ∃ a, x = .ok a ∧ f a = .ok b := by
  cases x <;> simp

/-- A chain fails when its first step does or the rest does with what that step gives. -/
theorem bind_eq_error_iff {x : Except ε α} {f : α → Except ε β} {e : ε} :
    (x >>= f) = .error e ↔ x = .error e ∨ ∃ a, x = .ok a ∧ f a = .error e := by
  cases x <;> simp

theorem exists_of_map_eq_ok {f : α → β} {x : Except ε α} {b : β} (h : f <$> x = .ok b) :
    ∃ a, x = .ok a ∧ f a = b := by
  cases x with
  | ok a => exact ⟨a, rfl, Except.ok.inj h⟩
  | error e => simp at h

theorem eq_ok_of_toOption {x : Except ε α} {a : α} (h : x.toOption = some a) : x = .ok a := by
  cases x with
  | error b => cases h
  | ok a' => exact congrArg Except.ok (Option.some.inj h)

@[simp] theorem refuse_eq_error (e : ε) :
    (refuse e : Except (Failure ε) α) = .error (.issue e) := rfl

@[simp] theorem orBreak_ok (a : α) : (orBreak (.ok a) : Except (Failure ε) α) = .ok a := rfl

@[simp] theorem orBreak_error (b : Breakdown) :
    (orBreak (.error b) : Except (Failure ε) α) = .error (.breakdown b) := rfl

/-- A step that can only break down is taken over as it is. -/
@[simp] theorem liftM_eq_orBreak (x : Except Breakdown α) :
    (liftM x : Except (Failure ε) α) = orBreak x := rfl

theorem orBreak_eq_ok_iff {x : Except Breakdown α} {a : α} :
    (orBreak x : Except (Failure ε) α) = .ok a ↔ x = .ok a := by
  cases x <;> simp

/-- What holds of steps that do nothing, and of chains of steps that it holds of, holds of steps on several things. -/
theorem mapM_of_bind {m : Type → Type} [Monad m] [LawfulMonad m] {P : {α : Type} → m α → Prop}
    (hpure : ∀ {α : Type} (a : α), P (pure a))
    (hbind : ∀ {α β : Type} {x : m α} {f : α → m β}, P x → (∀ a, P (f a)) → P (x >>= f))
    {f : α → m β} {xs : List α} (h : ∀ x ∈ xs, P (f x)) : P (xs.mapM f) := by
  induction xs with
  | nil => exact hpure []
  | cons x xs ih =>
    rw [List.mapM_cons]
    refine hbind (h x (by simp)) fun y => ?_
    exact hbind (ih fun z hz => h z (List.mem_cons_of_mem _ hz)) fun ys => hpure (y :: ys)

/-! ## Steps that succeed -/

/-- Whether a step succeeds with something that has a property. -/
def Gives (x : Except ε α) (P : α → Prop) : Prop :=
  ∃ a, x = .ok a ∧ P a

theorem gives_ok {P : α → Prop} {a : α} (h : P a) : Gives (.ok a : Except ε α) P :=
  ⟨a, rfl, h⟩

/-- A chain succeeds if its first step does and the rest does with whatever that step may give. -/
theorem Gives.bind {x : Except ε α} {f : α → Except ε β} {P : α → Prop} {Q : β → Prop}
    (hx : Gives x P) (hf : ∀ a, P a → Gives (f a) Q) : Gives (x >>= f) Q := by
  obtain ⟨a, rfl, ha⟩ := hx
  exact hf a ha

theorem Gives.map {x : Except ε α} {f : α → β} {P : α → Prop} {Q : β → Prop} (hx : Gives x P)
    (hf : ∀ a, P a → Q (f a)) : Gives (f <$> x) Q := by
  obtain ⟨a, rfl, ha⟩ := hx
  exact gives_ok (hf a ha)

theorem Gives.imp {x : Except ε α} {P Q : α → Prop} (hx : Gives x P) (h : ∀ a, P a → Q a) : Gives x Q := by
  obtain ⟨a, rfl, ha⟩ := hx
  exact gives_ok (h a ha)

/-- What stands in a list beside another one stands beside something there. -/
theorem exists_mem_of_forall₂ {P : α → β → Prop} {xs : List α} {ys : List β} (h : List.Forall₂ P xs ys)
    {y : β} (hy : y ∈ ys) : ∃ x ∈ xs, P x y := by
  induction h with
  | nil => simp at hy
  | cons hxy _ ih =>
    rcases List.mem_cons.mp hy with rfl | hy
    · exact ⟨_, by simp, hxy⟩
    · obtain ⟨x, hx, hP⟩ := ih hy
      exact ⟨x, List.mem_cons_of_mem _ hx, hP⟩

theorem map_eq_map_of_forall₂ {γ : Type} {f : α → γ} {g : β → γ} {xs : List α} {ys : List β}
    (h : List.Forall₂ (fun x y => f x = g y) xs ys) : xs.map f = ys.map g := by
  induction h with
  | nil => rfl
  | cons hxy _ ih => simp [hxy, ih]

/-- A step that succeeds on each of several things succeeds on all of them. -/
theorem Gives.forall₂ {f : α → Except ε β} {P : α → β → Prop} {xs : List α}
    (h : ∀ x ∈ xs, Gives (f x) (P x)) : Gives (xs.mapM f) (List.Forall₂ P xs) := by
  induction xs with
  | nil => exact gives_ok .nil
  | cons x xs ih =>
    rw [List.mapM_cons]
    refine (h x (by simp)).bind fun y hy => ?_
    exact (ih fun z hz => h z (List.mem_cons_of_mem _ hz)).bind fun ys hys => gives_ok (.cons hy hys)

theorem Gives.mapM {f : α → Except ε β} {P : β → Prop} {xs : List α} (h : ∀ x ∈ xs, Gives (f x) P) :
    Gives (xs.mapM f) fun ys => ∀ y ∈ ys, P y := by
  refine (Gives.forall₂ (P := fun _ => P) h).imp fun ys hys y hy => ?_
  obtain ⟨x, -, hP⟩ := exists_mem_of_forall₂ hys hy
  exact hP

/-- Steps on several things succeed when each of them does, and give one result for each. -/
theorem mapM_eq_ok_iff {f : α → Except ε β} {xs : List α} {ys : List β} :
    xs.mapM f = .ok ys ↔ List.Forall₂ (fun x y => f x = .ok y) xs ys := by
  induction xs generalizing ys with
  | nil => simp [eq_comm]
  | cons x xs ih =>
    rw [List.mapM_cons, bind_eq_ok_iff, List.forall₂_cons_left_iff]
    refine exists_congr fun y => ?_
    simp only [bind_eq_ok_iff, ih, pure_eq_ok, Except.ok.injEq]
    tauto

/-- A step that can only break down, as a part of a step that can fail in both ways. -/
theorem Gives.orBreak {x : Except Breakdown α} {P : α → Prop} (h : Gives x P) :
    Gives (ShaderRecords.orBreak x : Except (Failure ε) α) P := by
  obtain ⟨a, rfl, ha⟩ := h
  exact gives_ok ha

/-! ## Steps that do not break down -/

/-- Whether a step does not break down: it succeeds or meets an issue. -/
def Unbroken (x : Except (Failure ε) α) : Prop :=
  ∀ b, x ≠ .error (.breakdown b)

@[simp] theorem unbroken_ok (a : α) : Unbroken (.ok a : Except (Failure ε) α) := by
  intro b
  simp

@[simp] theorem unbroken_issue (e : ε) : Unbroken (.error (.issue e) : Except (Failure ε) α) := by
  intro b
  simp

theorem Gives.unbroken {x : Except (Failure ε) α} {P : α → Prop} (h : Gives x P) : Unbroken x := by
  obtain ⟨a, rfl, -⟩ := h
  exact unbroken_ok a

/-- A chain does not break down if its first step does not and the rest does not with what that step
gives. -/
theorem Unbroken.bind {x : Except (Failure ε) α} {f : α → Except (Failure ε) β} (hx : Unbroken x)
    (hf : ∀ a, x = .ok a → Unbroken (f a)) : Unbroken (x >>= f) := by
  intro b h
  rcases bind_eq_error_iff.mp h with h | ⟨a, ha, h⟩
  · exact hx b h
  · exact hf a ha b h

/-- A step that does not break down gives something or meets an issue. -/
theorem Unbroken.ok_or_issue {x : Except (Failure ε) α} (h : Unbroken x) :
    (∃ a, x = .ok a) ∨ ∃ e, x = .error (.issue e) := by
  match x with
  | .ok a => exact Or.inl ⟨a, rfl⟩
  | .error (.issue e) => exact Or.inr ⟨e, rfl⟩
  | .error (.breakdown b) => exact absurd rfl (h b)

end ShaderRecords
