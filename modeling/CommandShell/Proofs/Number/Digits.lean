import CommandShell.Proofs.Text.Segment
import Mathlib.Algebra.Group.Nat.Defs

/-!
# Rows of decimal digits

The text of an integer is its digits, perhaps with a minus in front (`toList_toString`), and
tells it (`toString_inj`).
-/

namespace CommandShell

/-- The characters are decimal digits. -/
def Digits (cs : List Char) : Prop := ∀ c ∈ cs, c.isDigit = true

theorem Digits.append {x y : List Char} (hx : Digits x) (hy : Digits y) : Digits (x ++ y) :=
  fun c hc => (List.mem_append.mp hc).elim (hx c) (hy c)

theorem digits_zeros (n : Nat) : Digits (List.replicate n '0') := by
  intro c hc
  rw [List.eq_of_mem_replicate hc]
  rfl

theorem digits_toDigits (n : Nat) : Digits (Nat.toDigits 10 n) :=
  fun _ => Nat.isDigit_of_mem_toDigits (by decide) (by decide)

theorem Digits.notMem {x : List Char} (h : Digits x) {d : Char} (hd : d.isDigit = false) :
    d ∉ x := by
  intro hmem
  rw [h d hmem] at hd
  cases hd

theorem Digits.forall_ne {x : List Char} (h : Digits x) {d : Char} (hd : d.isDigit = false) :
    ∀ c ∈ x, decide (c ≠ d) = true := by
  intro c hc
  refine decide_eq_true ?_
  rintro rfl
  exact h.notMem hd hc

theorem Digits.filter_eq {x : List Char} (h : Digits x) : x.filter Char.isDigit = x :=
  List.filter_eq_self.mpr h

/-- Zeros behind digits multiply their number. -/
theorem ofDigitChars_append_zeros (ds : List Char) (n : Nat) :
    Nat.ofDigitChars 10 (ds ++ List.replicate n '0') 0 = Nat.ofDigitChars 10 ds 0 * 10 ^ n := by
  rw [Nat.ofDigitChars_append, Nat.ofDigitChars_replicate_zero, Nat.mul_comm]

theorem toDigits_inj {n m : Nat} (h : Nat.toDigits 10 n = Nat.toDigits 10 m) : n = m := by
  rw [← Nat.ofDigitChars_ten_toDigits (n := n), h, Nat.ofDigitChars_ten_toDigits]

theorem toList_toString (n : Int) : (toString n).toList =
    if n < 0 then '-' :: Nat.toDigits 10 n.natAbs else Nat.toDigits 10 n.natAbs := by
  rw [Int.toString_eq_repr, Int.repr_eq_if]
  by_cases h : n < 0
  · rw [if_neg (Int.not_le.mpr h), if_pos h, String.toList_append, Nat.toList_repr,
      show (-n).toNat = n.natAbs by omega]
    rfl
  · rw [if_pos (Int.not_lt.mp h), if_neg h, Nat.toList_repr, show n.toNat = n.natAbs by omega]

/-- The characters of an integer are digits and the minus. -/
theorem mem_toString {n : Int} {c : Char} (h : c ∈ (toString n).toList) :
    c.isDigit = true ∨ c = '-' := by
  rw [toList_toString] at h
  split at h
  · exact (List.mem_cons.mp h).symm.imp (digits_toDigits _ c) id
  · exact Or.inl (digits_toDigits _ c h)

theorem toString_inj {n m : Int} (h : toString n = toString m) : n = m := by
  have hlist := congrArg String.toList h
  rw [toList_toString, toList_toString] at hlist
  have hminus (k : Nat) {r : List Char} : Nat.toDigits 10 k ≠ '-' :: r := by
    intro heq
    exact (digits_toDigits k).notMem rfl (heq ▸ List.mem_cons_self)
  split at hlist <;> split at hlist
  · have := toDigits_inj (List.cons.inj hlist).2
    omega
  · exact absurd hlist.symm (hminus _)
  · exact absurd hlist (hminus _)
  · have := toDigits_inj hlist
    omega

end CommandShell
