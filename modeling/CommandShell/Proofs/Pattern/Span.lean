import CommandShell.Pattern.Span

/-!
# Matches stand from left to right

A matcher is handed what is to be matched behind it and comes to nothing that this has not come to
(`answers_matcher`). The end of a match is therefore a place that was looked at last, behind the
start and in the text, whatever the pattern looks at in between. So the matches of a pattern stand
one behind the other, from left to right (`spans_inOrder`).
-/

namespace CommandShell.Pattern

/-! ## Answers of matchers -/

/-- Whatever a matcher comes to, the rest of the match has come to it in some state. -/
def Matcher.Answers (m : Matcher) : Prop :=
  ∀ (k : Rest) (s r : State), m k s = some r → ∃ s', k s' = some r

namespace Matcher

theorem answers_id : Answers id := fun _ s _ h => ⟨s, h⟩

variable {m : Matcher}

theorem answers_atomic (m : Matcher) : m.atomic.Answers := by
  intro k s r h
  obtain ⟨s', -, hk⟩ := Option.bind_eq_some_iff.mp h
  exact ⟨s', hk⟩

theorem answers_most (hm : m.Answers) (least : Nat) (limit : Option Nat) :
    ∀ fuel count last, (most m least limit fuel count last).Answers := by
  intro fuel
  induction fuel with
  | zero => exact fun _ _ _ s _ h => ⟨s, h⟩
  | succ fuel ih =>
      intro count last k s r h
      have hmore (last : Option Nat)
          (h : m (most m least limit fuel (count + 1) last k) s = some r) :
          ∃ s', k s' = some r := by
        obtain ⟨s', h'⟩ := hm _ _ _ h
        exact ih _ _ _ _ _ h'
      simp only [most] at h
      split at h
      · exact hmore _ h
      · rcases Option.or_eq_some_iff.mp h with h | ⟨-, h⟩
        · split at h
          · exact hmore _ h
          · cases h
        · exact ⟨s, h⟩

theorem answers_fewest (hm : m.Answers) (least : Nat) (limit : Option Nat) :
    ∀ fuel count last, (fewest m least limit fuel count last).Answers := by
  intro fuel
  induction fuel with
  | zero => exact fun _ _ _ s _ h => ⟨s, h⟩
  | succ fuel ih =>
      intro count last k s r h
      have hmore (last : Option Nat)
          (h : m (fewest m least limit fuel (count + 1) last k) s = some r) :
          ∃ s', k s' = some r := by
        obtain ⟨s', h'⟩ := hm _ _ _ h
        exact ih _ _ _ _ _ h'
      simp only [fewest] at h
      split at h
      · exact hmore _ h
      · rcases Option.or_eq_some_iff.mp h with h | ⟨-, h⟩
        · exact ⟨s, h⟩
        · split at h
          · exact hmore _ h
          · cases h

theorem answers_repeated (hm : m.Answers) (text : Array Char) (greed : Greed) (least : Nat)
    (limit : Option Nat) : (m.repeated text greed least limit).Answers := by
  intro k s r h
  cases greed with
  | greedy => exact answers_most hm _ _ _ _ _ _ _ _ h
  | lazy => exact answers_fewest hm _ _ _ _ _ _ _ _ h
  | possessive =>
      obtain ⟨s', -, hk⟩ := Option.bind_eq_some_iff.mp h
      exact ⟨s', hk⟩

theorem answers_look (m : Matcher) (negated : Bool) (back : Nat) :
    (m.look negated back).Answers := by
  intro k s r h
  simp only [look] at h
  split at h
  · exact ⟨_, h⟩
  · exact ⟨_, h⟩
  · cases h

end Matcher

namespace Tree

mutual

/-- **A pattern comes to nothing that the rest has not come to.** -/
theorem answers_matcher (text : Array Char) : ∀ t : Tree, (matcher text t).Answers
  | .char _ _ | .notChar _ _ | .any _ | .set _ _ _ | .edge _ => by
      intro k s r h
      simp only [matcher] at h
      split at h
      · exact ⟨_, h⟩
      · cases h
  | .seq parts => by
      simp only [matcher]
      exact answers_allOf text parts
  | .alt branches => by
      simp only [matcher]
      exact answers_oneOf text branches
  | .group none body => by
      simp only [matcher]
      exact answers_matcher text body
  | .group (some g) body => by
      intro k s r h
      simp only [matcher] at h
      obtain ⟨s', h'⟩ := answers_matcher text body _ _ _ h
      exact ⟨_, h'⟩
  | .repeated greed least limit body => by
      simp only [matcher]
      exact Matcher.answers_repeated (answers_matcher text body) text greed least limit
  | .atomic body => by
      simp only [matcher]
      exact Matcher.answers_atomic _
  | .ahead negated body | .behind negated _ body => by
      simp only [matcher]
      exact Matcher.answers_look _ _ _
  | .again _ _ => by
      intro k s r h
      simp only [matcher] at h
      split at h
      · split at h
        · exact ⟨_, h⟩
        · cases h
      · cases h
  | .ifGroup g yes no => by
      intro k s r h
      simp only [matcher] at h
      split at h
      · exact answers_matcher text yes _ _ _ h
      · exact answers_matcher text no _ _ _ h

theorem answers_allOf (text : Array Char) : ∀ ts : List Tree, (allOf text ts).Answers
  | [] => Matcher.answers_id
  | t :: rest => by
      intro k s r h
      obtain ⟨s', h'⟩ := answers_matcher text t _ _ _ h
      exact answers_allOf text rest _ _ _ h'

theorem answers_oneOf (text : Array Char) : ∀ ts : List Tree, (oneOf text ts).Answers
  | [] => fun _ _ _ h => nomatch h
  | t :: rest => by
      intro k s r h
      simp only [oneOf] at h
      rcases Option.or_eq_some_iff.mp h with h | ⟨-, h⟩
      · exact answers_matcher text t _ _ _ h
      · exact answers_oneOf text rest _ _ _ h

end

end Tree

/-! ## Spans in order -/

/-- Spans of a text that stand one behind the other, from left to right. -/
structure InOrder (size : Nat) (spans : List Span) : Prop where
  within : ∀ s ∈ spans, s.start ≤ s.stop ∧ s.stop ≤ size
  apart : spans.Pairwise fun a b => a.stop ≤ b.start

namespace InOrder

variable {size : Nat}

theorem nil : InOrder size [] := ⟨fun _ h => (nomatch h), List.Pairwise.nil⟩

theorem cons_iff {s : Span} {spans : List Span} :
    InOrder size (s :: spans) ↔ s.start ≤ s.stop ∧ s.stop ≤ size ∧
      (∀ b ∈ spans, s.stop ≤ b.start) ∧ InOrder size spans := by
  constructor
  · rintro ⟨hin, hapart⟩
    obtain ⟨hs, hspans⟩ := List.forall_mem_cons.mp hin
    obtain ⟨hbehind, hrest⟩ := List.pairwise_cons.mp hapart
    exact ⟨hs.1, hs.2, hbehind, hspans, hrest⟩
  · rintro ⟨hle, hsize, hbehind, hspans, hrest⟩
    exact ⟨List.forall_mem_cons.mpr ⟨⟨hle, hsize⟩, hspans⟩, List.pairwise_cons.mpr ⟨hbehind, hrest⟩⟩

theorem filter {spans : List Span} (h : InOrder size spans) (p : Span → Bool) :
    InOrder size (spans.filter p) :=
  ⟨fun s hs => h.within s (List.mem_filter.mp hs).1, h.apart.filter p⟩

end InOrder

namespace Tree

variable {t : Tree} {text : Array Char}

/-- A match ends behind its start and in the text. -/
theorem bounds_of_endAt? {start least stop : Nat} (h : t.endAt? text start least = some stop) :
    start + least ≤ stop ∧ stop ≤ text.size := by
  obtain ⟨r, hr, rfl⟩ := Option.map_eq_some_iff.mp h
  obtain ⟨s, hs⟩ := answers_matcher text t _ _ _ hr
  split at hs
  · rename_i hbounds
    cases hs
    exact hbounds
  · cases hs

theorem bounds_of_findFrom? {left start least : Nat} {s : Span}
    (h : t.findFrom? text left start least = some s) :
    start ≤ s.start ∧ s.start ≤ s.stop ∧ s.stop ≤ text.size := by
  induction left generalizing start least with
  | zero =>
      obtain ⟨stop, hstop, rfl⟩ := Option.map_eq_some_iff.mp h
      obtain ⟨hlow, hhigh⟩ := bounds_of_endAt? hstop
      exact ⟨Nat.le_refl start, Nat.le_of_add_right_le hlow, hhigh⟩
  | succ left ih =>
      simp only [findFrom?] at h
      split at h
      · rename_i stop hstop
        cases h
        obtain ⟨hlow, hhigh⟩ := bounds_of_endAt? hstop
        exact ⟨Nat.le_refl start, Nat.le_of_add_right_le hlow, hhigh⟩
      · obtain ⟨hstart, hrest⟩ := ih h
        exact ⟨Nat.le_of_succ_le hstart, hrest⟩

/-- The matches from a place on begin there or behind it, and each one behind the one before. -/
theorem spansFrom_inOrder (t : Tree) (text : Array Char) (fuel start least : Nat) :
    (∀ s ∈ t.spansFrom text fuel start least, start ≤ s.start) ∧
      InOrder text.size (t.spansFrom text fuel start least) := by
  induction fuel generalizing start least with
  | zero => exact ⟨fun _ h => (nomatch h), .nil⟩
  | succ fuel ih =>
      simp only [spansFrom]
      split
      · exact ⟨fun _ h => (nomatch h), .nil⟩
      · rename_i s hs
        obtain ⟨hstart, hle, hsize⟩ := bounds_of_findFrom? hs
        obtain ⟨hbehind, hrest⟩ := ih s.stop (if s.isEmpty then 1 else 0)
        refine ⟨List.forall_mem_cons.mpr ⟨hstart, fun b hb => ?_⟩,
          InOrder.cons_iff.mpr ⟨hle, hsize, hbehind, hrest⟩⟩
        exact Nat.le_trans hstart (Nat.le_trans hle (hbehind b hb))

/-- **The matches of a pattern stand one behind the other.** -/
theorem spans_inOrder (t : Tree) (text : List Char) : InOrder text.length (t.spans text) := by
  have h := (spansFrom_inOrder t text.toArray (2 * text.length + 2) 0 0).2
  rwa [List.size_toArray] at h

end Tree

end CommandShell.Pattern
