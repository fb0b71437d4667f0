import CommandShell.Json.Canonical
import Mathlib.Data.List.Basic
import Mathlib.Data.String.Basic

/-!
# The order of keys

Entries whose keys are names are put in the order of these names, which is one and the same
for all arrangements of the entries (`sorted_eq_of_perm`).
-/

namespace CommandShell.Json

variable {α β : Type}

/-- All keys are names. -/
def Named (es : List (Scalar × α)) : Prop := ∀ e ∈ es, ∃ name, e.1 = .str name

/-- The keys go up. -/
def Ascending (es : List (Scalar × α)) : Prop := es.Pairwise fun a b => keyLess? a.1 b.1 = some true

theorem Named.of_perm {es fs : List (Scalar × α)} (h : Named es) (hperm : es.Perm fs) : Named fs :=
  fun e he => h e (hperm.mem_iff.mpr he)

theorem Named.map {es : List (Scalar × α)} (h : Named es) (f : α → β) :
    Named (es.map fun e => (e.1, f e.2)) := by
  intro e he
  obtain ⟨g, hg, rfl⟩ := List.mem_map.mp he
  exact h g hg

theorem keyLess?_str (s t : String) : keyLess? (.str s) (.str t) = some (decide (s < t)) := rfl

theorem unordered?_of_names {before keys : List Scalar}
    (hbefore : ∀ k ∈ before, ∃ name, k = .str name) (hkeys : ∀ k ∈ keys, ∃ name, k = .str name) :
    unordered? before keys = none := by
  induction keys generalizing before with
  | nil => cases before <;> rfl
  | cons key keys ih =>
      rw [List.forall_mem_cons] at hkeys
      obtain ⟨⟨name, rfl⟩, hrest⟩ := hkeys
      cases before with
      | nil => exact ih (by simp) hrest
      | cons first more =>
          obtain ⟨s, rfl⟩ := hbefore first List.mem_cons_self
          rw [unordered?, keyLess?_str, if_neg (by simp)]
          refine ih (fun k hk => ?_) hrest
          rcases List.mem_append.mp hk with hk | hk
          · exact hbefore k hk
          · exact ⟨name, List.mem_singleton.mp hk⟩

/-- Names have an order. -/
theorem Named.unordered? {es : List (Scalar × α)} (h : Named es) :
    unordered? [] (es.map (·.1)) = none := by
  refine unordered?_of_names (by simp) fun k hk => ?_
  obtain ⟨e, he, rfl⟩ := List.mem_map.mp hk
  exact h e he

/-! ## Sorting -/

theorem insertSorted_perm (e : Scalar × α) (es : List (Scalar × α)) :
    (insertSorted e es).Perm (e :: es) := by
  induction es with
  | nil => exact .refl _
  | cons f es ih =>
      rw [insertSorted]
      split
      · exact .refl _
      · exact (ih.cons f).trans (.swap e f es)

theorem sorted_perm (es : List (Scalar × α)) : (sorted es).Perm es := by
  have h (acc : List (Scalar × α)) :
      (es.foldl (fun acc e => insertSorted e acc) acc).Perm (es ++ acc) := by
    induction es generalizing acc with
    | nil => exact .refl _
    | cons e es ih =>
        exact (ih (insertSorted e acc)).trans
          (((insertSorted_perm e acc).append_left es).trans List.perm_middle)
  simpa [sorted] using h []

theorem ascending_insertSorted {e : Scalar × α} {es : List (Scalar × α)} (hnamed : Named (e :: es))
    (hne : ∀ f ∈ es, e.1 ≠ f.1) (h : Ascending es) : Ascending (insertSorted e es) := by
  obtain ⟨s, hs⟩ := hnamed e List.mem_cons_self
  induction es with
  | nil => exact List.pairwise_singleton _ _
  | cons f es ih =>
      obtain ⟨t, ht⟩ := hnamed f (by simp)
      obtain ⟨hf, hrest⟩ := List.pairwise_cons.mp h
      have hcompare : keyLess? e.1 f.1 = some (decide (s < t)) := by rw [hs, ht, keyLess?_str]
      rw [insertSorted]
      split
      · rename_i hless
        refine List.pairwise_cons.mpr ⟨fun g hg => ?_, h⟩
        rcases List.mem_cons.mp hg with rfl | hg
        · exact hless
        · obtain ⟨u, hu⟩ := hnamed g (by simp [hg])
          have hfg := hf g hg
          rw [hcompare] at hless
          rw [ht, hu, keyLess?_str] at hfg
          rw [hs, hu, keyLess?_str]
          simp only [Option.some.injEq, decide_eq_true_eq] at hless hfg ⊢
          exact hless.trans hfg
      · rename_i hless
        have hte : keyLess? f.1 e.1 = some true := by
          have hst : s ≠ t := fun heq => hne f List.mem_cons_self (by rw [hs, ht, heq])
          rw [hcompare] at hless
          rw [hs, ht, keyLess?_str]
          simp only [Option.some.injEq, decide_eq_true_eq] at hless ⊢
          exact lt_of_le_of_ne (not_lt.mp hless) (Ne.symm hst)
        refine List.pairwise_cons.mpr ⟨fun g hg => ?_, ih ?_ ?_ hrest⟩
        · rcases List.mem_cons.mp ((insertSorted_perm e es).mem_iff.mp hg) with rfl | hg
          · exact hte
          · exact hf g hg
        · exact fun g hg => hnamed g (by rcases List.mem_cons.mp hg with rfl | hg <;> simp [*])
        · exact fun g hg => hne g (List.mem_cons_of_mem _ hg)

theorem ascending_sorted {es : List (Scalar × α)} (hnamed : Named es)
    (hne : es.Pairwise fun a b => a.1 ≠ b.1) : Ascending (sorted es) := by
  have h (acc : List (Scalar × α)) (hacc : Named acc) (hasc : Ascending acc)
      (hboth : ∀ e ∈ es, ∀ f ∈ acc, e.1 ≠ f.1) :
      Ascending (es.foldl (fun acc e => insertSorted e acc) acc) := by
    induction es generalizing acc with
    | nil => exact hasc
    | cons e es ih =>
        obtain ⟨he, hrest⟩ := List.pairwise_cons.mp hne
        have hnamed' : Named (e :: acc) := by
          intro f hf
          rcases List.mem_cons.mp hf with rfl | hf
          · exact hnamed f List.mem_cons_self
          · exact hacc f hf
        have hperm := insertSorted_perm e acc
        refine ih (fun f hf => hnamed f (List.mem_cons_of_mem _ hf)) hrest _
          (hnamed'.of_perm hperm.symm)
          (ascending_insertSorted hnamed' (hboth e List.mem_cons_self) hasc) fun f hf g hg => ?_
        rcases List.mem_cons.mp (hperm.mem_iff.mp hg) with rfl | hg
        · exact (he f hf).symm
        · exact hboth f (List.mem_cons_of_mem _ hf) g hg
  exact h [] (by simp [Named]) .nil (by simp)

/-- **The order of different names does not depend on their arrangement.** -/
theorem sorted_eq_of_perm {es fs : List (Scalar × α)} (hnamed : Named es)
    (hne : es.Pairwise fun a b => a.1 ≠ b.1) (h : es.Perm fs) : sorted es = sorted fs := by
  have hfs : fs.Pairwise fun a b => a.1 ≠ b.1 :=
    (h.pairwise_iff fun hab => hab.symm).mp hne
  refine List.Perm.eq_of_pairwise (fun a b ha hb hab hba => ?_) (ascending_sorted hnamed hne)
    (ascending_sorted (hnamed.of_perm h) hfs)
    ((sorted_perm es).trans (h.trans (sorted_perm fs).symm))
  obtain ⟨s, hs⟩ := hnamed a ((sorted_perm es).mem_iff.mp ha)
  obtain ⟨t, ht⟩ := (hnamed.of_perm h) b ((sorted_perm fs).mem_iff.mp hb)
  rw [hs, ht, keyLess?_str] at hab hba
  simp only [Option.some.injEq, decide_eq_true_eq] at hab hba
  exact absurd hab (lt_asymm hba)

/-- The values do not count for the order. -/
theorem sorted_map (f : α → β) (es : List (Scalar × α)) :
    sorted (es.map fun e => (e.1, f e.2)) = (sorted es).map fun e => (e.1, f e.2) := by
  have hinsert (e : Scalar × α) (acc : List (Scalar × α)) :
      insertSorted (e.1, f e.2) (acc.map fun e => (e.1, f e.2)) =
        (insertSorted e acc).map fun e => (e.1, f e.2) := by
    induction acc with
    | nil => rfl
    | cons g acc ih =>
        rw [List.map_cons, insertSorted, insertSorted]
        split
        · rfl
        · rw [List.map_cons, ih]
  have h (acc : List (Scalar × α)) :
      (es.map fun e => (e.1, f e.2)).foldl (fun acc e => insertSorted e acc)
          (acc.map fun e => (e.1, f e.2)) =
        (es.foldl (fun acc e => insertSorted e acc) acc).map fun e => (e.1, f e.2) := by
    induction es generalizing acc with
    | nil => rfl
    | cons e es ih => rw [List.map_cons, List.foldl_cons, List.foldl_cons, hinsert, ih]
  exact h []

end CommandShell.Json
