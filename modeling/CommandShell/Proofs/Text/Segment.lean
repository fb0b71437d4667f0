import Mathlib.Data.List.Basic

/-!
# Where a segment of a text ends

A segment of characters of one kind ends where a character of another kind stands or where the
text does. Two texts that begin with such segments are equal only if the segments are
(`append_inj_of_stops`): a number, say, is read up to its last digit.
-/

namespace CommandShell.Text

/-- No character of the kind stands at the start of the text. -/
def Stops (kind : Char → Bool) (rest : List Char) : Prop := ∀ c ∈ rest.head?, kind c = false

variable {kind : Char → Bool} {xs ys r s : List Char}

theorem stops_nil : Stops kind [] := fun _ hc => nomatch hc

theorem stops_cons {c : Char} (h : kind c = false) : Stops kind (c :: r) := by
  intro d hd
  obtain rfl := Option.some.inj hd
  exact h

theorem takeWhile_append_of_stops (hxs : ∀ c ∈ xs, kind c = true) (hr : Stops kind r) :
    (xs ++ r).takeWhile kind = xs := by
  rw [List.takeWhile_append_of_pos hxs]
  cases r with
  | nil => simp
  | cons c r => simp [hr c rfl]

theorem dropWhile_append_of_stops (hxs : ∀ c ∈ xs, kind c = true) (hr : Stops kind r) :
    (xs ++ r).dropWhile kind = r := by
  rw [List.dropWhile_append_of_pos hxs]
  cases r with
  | nil => rfl
  | cons c r => simp [hr c rfl]

/-- **A segment is told by its text.** -/
theorem append_inj_of_stops (hxs : ∀ c ∈ xs, kind c = true) (hys : ∀ c ∈ ys, kind c = true)
    (hr : Stops kind r) (hs : Stops kind s) (h : xs ++ r = ys ++ s) : xs = ys ∧ r = s := by
  have hsegment := congrArg (List.takeWhile kind) h
  rw [takeWhile_append_of_stops hxs hr, takeWhile_append_of_stops hys hs] at hsegment
  subst hsegment
  exact ⟨rfl, List.append_cancel_left h⟩

end CommandShell.Text
