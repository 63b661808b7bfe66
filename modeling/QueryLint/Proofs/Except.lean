import Mathlib.Data.List.Forall2

/-!
# Results that may be missing

What it takes for a chain of steps that may fail to give a result, and for steps along a list. A chain
of steps that also ask questions is one of these where the answers are known (`run_bind_id`,
`run_map_id`, `run_mapM_id`).
-/

namespace QueryLint

variable {ε α β : Type}

/-- A step that gives a result hands it on. -/
theorem ok_bind (a : α) (f : α → Except ε β) : (Except.ok a >>= f) = f a := rfl

/-- A chain gives a result only if its first step does, and the rest of it from there on. -/
theorem exists_of_bind_eq_ok {x : Except ε α} {f : α → Except ε β} {b : β}
    (h : (x >>= f) = .ok b) : ∃ a, x = .ok a ∧ f a = .ok b := by
  cases x with
  | error e => cases h
  | ok a => exact ⟨a, rfl, h⟩

/-- Without its failures a result is there if it succeeded. -/
theorem toOption_eq_some_iff {x : Except ε α} {a : α} : x.toOption = some a ↔ x = .ok a := by
  cases x <;> simp [Except.toOption]

/-- Whether a chain gives a result, and which one, does not depend on why its steps fail. -/
theorem toOption_bind (x : Except ε α) (f : α → Except ε β) :
    (x >>= f).toOption = x.toOption.bind fun a => (f a).toOption := by
  cases x <;> rfl

/-- Steps along a list give results if every one of them does. -/
theorem mapM_eq_ok_iff {f : α → Except ε β} {xs : List α} {ys : List β} :
    xs.mapM f = .ok ys ↔ List.Forall₂ (fun x y => f x = .ok y) xs ys := by
  induction xs generalizing ys with
  | nil =>
    rw [List.mapM_nil, List.forall₂_nil_left_iff]
    exact ⟨fun h => (Except.ok.inj h).symm, fun h => h ▸ rfl⟩
  | cons x xs ih =>
    rw [List.mapM_cons]
    constructor
    · intro h
      obtain ⟨y, hy, h⟩ := exists_of_bind_eq_ok h
      obtain ⟨ys, hys, h⟩ := exists_of_bind_eq_ok h
      obtain rfl := Except.ok.inj h
      exact .cons hy (ih.1 hys)
    · rintro ⟨⟩
      next hy hys =>
      rw [hy, ih.2 hys]
      rfl

/-- Where nothing is asked, a program that may stop is its answer. -/
theorem run_bind_id (x : ExceptT ε Id α) (f : α → ExceptT ε Id β) :
    (x >>= f).run = (x.run >>= fun a => (f a).run : Except ε β) := by
  cases h : x.run <;> simp only [ExceptT.run_bind] <;> rw [h] <;> rfl

theorem run_map_id (f : α → β) (x : ExceptT ε Id α) :
    (f <$> x).run = ((x.run : Except ε α).map f : Except ε β) := by
  rw [map_eq_pure_bind, run_bind_id]
  cases x.run <;> rfl

theorem run_mapM_id (f : α → ExceptT ε Id β) (xs : List α) :
    (xs.mapM f).run = (xs.mapM fun x => (f x).run : Except ε (List β)) := by
  induction xs with
  | nil => rfl
  | cons x xs ih =>
    rw [List.mapM_cons, List.mapM_cons, run_bind_id]
    congr
    funext y
    rw [run_bind_id, ih]
    rfl

end QueryLint
