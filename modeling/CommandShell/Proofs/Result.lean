import Mathlib.Data.List.Forall2

/-!
# Results of computations that can fail
-/

namespace CommandShell.Result

variable {ε α β : Type}

theorem bind_eq_ok_iff {x : Except ε α} {f : α → Except ε β} {r : β} :
    x.bind f = .ok r ↔ ∃ a, x = .ok a ∧ f a = .ok r := by
  cases x <;> simp [Except.bind]

theorem map_eq_ok_iff {x : Except ε α} {f : α → β} {r : β} :
    x.map f = .ok r ↔ ∃ a, x = .ok a ∧ f a = r := by
  cases x <;> simp [Except.map]

/-- A row of computations succeeds with the results of all of them. -/
theorem mapM_eq_ok_iff {f : α → Except ε β} {l : List α} {rs : List β} :
    l.mapM f = .ok rs ↔ List.Forall₂ (fun x r => f x = .ok r) l rs := by
  induction l generalizing rs with
  | nil =>
      rw [List.mapM_nil, List.forall₂_nil_left_iff]
      exact ⟨fun h => (Except.ok.inj h).symm, fun h => congrArg Except.ok h.symm⟩
  | cons x l ih =>
      have hcons : (x :: l).mapM f =
          (f x).bind fun r => (l.mapM f).bind fun rs => .ok (r :: rs) := List.mapM_cons
      simp only [hcons, bind_eq_ok_iff, ih, List.forall₂_cons_left_iff, Except.ok.injEq]
      constructor
      · rintro ⟨r, hr, rs, hrs, rfl⟩
        exact ⟨r, rs, hr, hrs, rfl⟩
      · rintro ⟨r, rs, hr, hrs, rfl⟩
        exact ⟨r, hr, rs, hrs, rfl⟩

theorem exists_forall₂_iff {R : α → β → Prop} {l : List α} :
    (∃ rs, List.Forall₂ R l rs) ↔ ∀ x ∈ l, ∃ r, R x r := by
  induction l with
  | nil => simp
  | cons x l ih =>
      simp only [List.forall₂_cons_left_iff, List.forall_mem_cons, ← ih]
      constructor
      · rintro ⟨-, r, rs, hr, hrs, rfl⟩
        exact ⟨⟨r, hr⟩, rs, hrs⟩
      · rintro ⟨⟨r, hr⟩, rs, hrs⟩
        exact ⟨_, r, rs, hr, hrs, rfl⟩

end CommandShell.Result
