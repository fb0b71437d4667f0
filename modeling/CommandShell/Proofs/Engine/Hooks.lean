import CommandShell.Proofs.Engine.Reentry
import Mathlib.Data.List.Induction
import Mathlib.Data.List.Nodup
import Mathlib.Data.List.Perm.Basic

/-!
# Hooks are called once

A token is asked to add hooks, to cancel, and to raise when it is cancelled. What hooks
have done by then is what those do that were added before the end, one after the other, if
the token was cancelled at all (`played_eq`).

To tell hooks apart, each is marked with the place where it is registered. A marked hook
leaves a mark when it registers another one, when it is called, and when it raises, and does
besides what it did without (`plain_callAll`). What becomes of hooks (`CallsOnce`) is said about
these marks, by induction on the programs of the hooks.
-/

namespace CommandShell

variable {ε : Type}

/-! ## Runs -/

namespace Token

/-- What a token is asked for from outside. -/
inductive Op (ε : Type) where
  | add (hook : Hook ε)
  | cancel (reason : Option String)
  | check

namespace Op

/-- The hook that an operation adds. -/
def hook? : Op ε → Option (Hook ε)
  | .add hook => some hook
  | .cancel _ | .check => none

/-- The reason that an operation cancels with. -/
def reason? : Op ε → Option (Option String)
  | .cancel reason => some reason
  | .add _ | .check => none

/-- An operation, in whose course hooks act on the token. -/
def Acts (t : Token ε) (op : Op ε) (t' : Token ε) (c : Calls ε) : Prop :=
  match op with
  | .add hook => Adds t hook t' c
  | .cancel reason => Cancels t reason t' c
  | .check => t' = t ∧ c = {}

end Op

def perform (t : Token ε) : Op ε → Token ε × Calls ε
  | .add hook => t.addHook hook
  | .cancel reason => t.cancel reason
  | .check => (t, {})

/-- What an operation raises. -/
def raised (t : Token ε) : Op ε → Option Failure
  | .check => t.interruption?.map .refusal
  | op => (t.perform op).2.fault.map .fault

/-- The hooks that an operation calls. -/
def due (t : Token ε) : Op ε → List (Hook ε)
  | .add hook => if t.isCancelled then [hook] else []
  | .cancel _ => if t.isCancelled then [] else t.hooks
  | .check => []

/-- A token after operations, and what hooks have done in their course, each time with the
interruption that they were called with. -/
def played (reports : Bool) (ops : List (Op ε)) : Token ε × List (Option Refusal × Deed ε) :=
  ops.foldl
    (fun x op =>
      let (t, c) := x.1.perform op
      (t, x.2 ++ c.deeds.map fun deed => (t.interruption?, deed)))
    ({ reports }, [])

/-- The reason that the token was cancelled with first. -/
def firstReason? (ops : List (Op ε)) : Option (Option String) := (ops.filterMap Op.reason?).head?

/-- The hooks that were added, in order. -/
def added (ops : List (Op ε)) : List (Hook ε) := ops.filterMap Op.hook?

theorem acts_iff (t : Token ε) (op : Op ε) {t' : Token ε} {c : Calls ε} :
    op.Acts t t' c ↔ (t', c) = t.perform op := by
  cases op with
  | add hook => exact adds_iff t hook
  | cancel reason => exact cancels_iff t reason
  | check =>
      unfold perform
      rw [Prod.mk.injEq]
      exact Iff.rfl

theorem calls_perform (t : Token ε) (op : Op ε) :
    (t.perform op).2 = Hook.callAll t.reports (t.due op) := by
  cases op with
  | add hook =>
      unfold perform addHook due
      dsimp only
      split <;> rfl
  | cancel reason =>
      unfold perform cancel due
      dsimp only
      split <;> rfl
  | check => rfl

theorem played_concat (reports : Bool) (ops : List (Op ε)) (op : Op ε) :
    played reports (ops ++ [op]) =
      (((played reports ops).1.perform op).1, (played reports ops).2 ++
        ((played reports ops).1.perform op).2.deeds.map fun deed =>
          (((played reports ops).1.perform op).1.interruption?, deed)) := by
  unfold played
  rw [List.foldl_append]
  rfl

theorem firstReason?_concat (ops : List (Op ε)) (op : Op ε) :
    firstReason? (ops ++ [op]) = (firstReason? ops).or op.reason? := by
  unfold firstReason?
  rw [List.filterMap_append, List.head?_append]
  cases op <;> rfl

/-- Hooks wait until the token is cancelled first. From then on all that were added have been called, in
order and with the interruption that the first cancellation stands for. -/
theorem played_eq (reports : Bool) (ops : List (Op ε)) :
    played reports ops =
      match firstReason? ops with
      | none => ({ reports, hooks := added ops }, [])
      | some reason => ({ reports, reason := some reason },
          (Hook.callAll reports (added ops)).deeds.map fun deed =>
            (some (Refusal.interruption reason), deed)) := by
  induction ops using List.reverseRecOn with
  | nil => rfl
  | append_singleton ops op ih =>
      have hadded : added (ops ++ [op]) = added ops ++ op.hook?.toList := by
        unfold added
        rw [List.filterMap_append]
        cases op <;> rfl
      rw [played_concat, ih, firstReason?_concat, hadded]
      cases firstReason? ops with
      | none =>
          cases op with
          | add hook => rfl
          | cancel reason =>
              show _ = (_, (Hook.callAll reports (added ops ++ [])).deeds.map _)
              rw [List.append_nil]
              rfl
          | check => exact Prod.ext (by simp [perform, Op.hook?, Op.reason?]) rfl
      | some reason =>
          cases op with
          | add hook =>
              show (_, _ ++ _) = (_, (Hook.callAll reports (added ops ++ [hook])).deeds.map _)
              rw [Hook.callAll_append, List.map_append]
              rfl
          | cancel reason' =>
              show (_, _ ++ []) = (_, (Hook.callAll reports (added ops ++ [])).deeds.map _)
              rw [List.append_nil, List.append_nil]
              rfl
          | check =>
              show (_, _ ++ []) = (_, (Hook.callAll reports (added ops ++ [])).deeds.map _)
              rw [List.append_nil, List.append_nil]
              rfl

end Token

/-! ## Marks -/

/-- Where a hook is registered: the place of the hook that registers it, if one does, and the number
that the registration has there. -/
abbrev Place := List Nat

/-- What marked hooks do. -/
inductive Mark (ε : Type) where
  | does (e : ε)
  | registers (p : Place)
  | called (p : Place)
  | raises (fault : Fault)

namespace Deed

def called? : Deed (Mark ε) → Option Place
  | .effect (.called p) => some p
  | _ => none

def registered? : Deed (Mark ε) → Option Place
  | .effect (.registers p) => some p
  | _ => none

def raised? : Deed (Mark ε) → Option Fault
  | .effect (.raises fault) => some fault
  | _ => none

def reported? : Deed (Mark ε) → Option Fault
  | .report fault => some fault
  | _ => none

/-- What is done but for the marks. -/
def plain? : Deed (Mark ε) → Option (Deed ε)
  | .effect (.does e) => some (.effect e)
  | .effect _ => none
  | .report fault => some (.report fault)

end Deed

namespace Hook

/-- What is left of a program that is registered at place `p` and has registered `k` hooks,
with its marks. -/
def marked : Place → Nat → Hook ε → Hook (Mark ε)
  | _, _, .stop => .stop
  | _, _, .fail fault => .effect (.raises fault) (.fail fault)
  | p, k, .effect e rest => .effect (.does e) (rest.marked p k)
  | p, k, .add hook rest =>
    .effect (.registers (p ++ [k]))
      (.add (.effect (.called (p ++ [k])) (hook.marked (p ++ [k]) 0)) (rest.marked p (k + 1)))
  | p, k, .cancel reason rest => .cancel reason (rest.marked p k)

/-- The marked hook that is registered at place `p`. -/
def tracked (p : Place) (hook : Hook ε) : Hook (Mark ε) :=
  .effect (.called p) (hook.marked p 0)

/-- A hook that adds another one ends with the fault of that one. -/
theorem call_add_of_raises {reports : Bool} {hook : Hook ε} (rest : Hook ε)
    (h : ((hook.call reports).reported reports).fault ≠ none) :
    (Hook.add hook rest).call reports = (hook.call reports).reported reports := by
  rw [call]
  dsimp only
  split
  · rfl
  · rename_i hf
    exact absurd hf h

/-- A hook that adds another one goes on when that one is done. -/
theorem call_add_of_done {reports : Bool} {hook : Hook ε} (rest : Hook ε)
    (h : ((hook.call reports).reported reports).fault = none) :
    (Hook.add hook rest).call reports =
      ⟨((hook.call reports).reported reports).deeds ++ (rest.call reports).deeds,
        (rest.call reports).fault⟩ := by
  rw [call, h]

theorem reported_eq (reports : Bool) (c : Calls ε) :
    c.reported reports =
      ⟨c.deeds ++ if reports then c.fault.toList.map .report else [],
        if reports then none else c.fault⟩ := by
  obtain ⟨deeds, fault⟩ := c
  unfold Calls.reported
  cases fault <;> cases reports <;> simp

/-- A hook that is called leaves the mark of that first. -/
theorem head?_tracked (reports : Bool) (hook : Hook ε) (p : Place) :
    (((hook.tracked p).call reports).reported reports).deeds.head? =
      some (.effect (.called p)) := by
  rw [reported_eq]
  rfl

theorem call_marked_add (reports : Bool) (hook rest : Hook ε) (p : Place) (k : Nat) :
    (((Hook.add hook rest).marked p k).call reports).deeds = .effect (.registers (p ++ [k])) ::
      ((Hook.add (hook.tracked (p ++ [k])) (rest.marked p (k + 1))).call reports).deeds :=
  rfl

/-! ### Each registration is a call -/

/-- What hooks that are registered at places `ps` leave: these hooks are called in order, each
hook that is registered meanwhile is called there and then, and no hook besides. -/
structure Follows (ps : List Place) (ds : List (Deed (Mark ε))) : Prop where
  called : (ds.filterMap Deed.called?).Perm (ps ++ ds.filterMap Deed.registered?)
  inOrder : ps.Sublist (ds.filterMap Deed.called?)
  atOnce : ∀ (i : Nat) (p : Place), ds[i]? = some (.effect (.registers p)) →
    ds[i + 1]? = some (.effect (.called p))

namespace Follows

variable {ps qs : List Place} {ds es : List (Deed (Mark ε))}

theorem nil : Follows [] ([] : List (Deed (Mark ε))) :=
  ⟨.nil, .slnil, fun i p h => by simp at h⟩

theorem append (h : Follows ps ds) (h' : Follows qs es) : Follows (ps ++ qs) (ds ++ es) where
  called := by
    rw [List.filterMap_append, List.filterMap_append]
    refine (h.called.append h'.called).trans ?_
    rw [List.append_assoc, List.append_assoc]
    refine List.Perm.append_left _ ?_
    rw [← List.append_assoc, ← List.append_assoc]
    exact List.Perm.append_right _ List.perm_append_comm
  inOrder := by
    rw [List.filterMap_append]
    exact h.inOrder.append h'.inOrder
  atOnce := by
    intro i p hi
    rcases Nat.lt_or_ge i ds.length with hlt | hge
    · rw [List.getElem?_append_left hlt] at hi
      have hnext := h.atOnce i p hi
      have hlt' : i + 1 < ds.length := (List.getElem?_eq_some_iff.mp hnext).1
      rw [List.getElem?_append_left hlt', hnext]
    · rw [List.getElem?_append_right hge] at hi
      rw [List.getElem?_append_right (Nat.le_succ_of_le hge), Nat.succ_sub hge]
      exact h'.atOnce _ p hi

/-- What is neither a registration nor a call may stand anywhere. -/
theorem of_silent {d : Deed (Mark ε)} (hr : d.registered? = none) (hc : d.called? = none) :
    Follows [] [d] := by
  refine ⟨?_, ?_, ?_⟩
  · simp [hr, hc]
  · simp [hc]
  · intro i p hi
    cases i with
    | zero =>
        obtain rfl := Option.some.inj hi
        cases hr
    | succ i => simp at hi

/-- A call stands before what the hook leaves. -/
theorem call (h : Follows [] ds) (p : Place) : Follows [p] (.effect (.called p) :: ds) where
  called := List.Perm.cons p h.called
  inOrder := List.Sublist.cons_cons p (List.nil_sublist _)
  atOnce := by
    intro i q hi
    cases i with
    | zero => cases hi
    | succ i => exact h.atOnce i q hi

/-- A registration stands before the call. -/
theorem register {p : Place} (h : Follows [p] ds) (hd : ds.head? = some (.effect (.called p))) :
    Follows [] (.effect (.registers p) :: ds) where
  called := h.called
  inOrder := List.nil_sublist _
  atOnce := by
    intro i q hi
    cases i with
    | zero =>
        cases hi
        rw [List.getElem?_cons_succ, ← List.head?_eq_getElem?]
        exact hd
    | succ i => exact h.atOnce i q hi

theorem reported {c : Calls (Mark ε)} (h : Follows ps c.deeds) (reports : Bool) :
    Follows ps (c.reported reports).deeds := by
  rw [reported_eq]
  rw [← List.append_nil ps]
  refine h.append ?_
  split
  · cases c.fault with
    | none => exact nil
    | some fault => exact of_silent rfl rfl
  · exact nil

end Follows

theorem follows_tracked {reports : Bool} {hook : Hook ε} {p : Place}
    (h : Follows [] ((hook.marked p 0).call reports).deeds) :
    Follows [p] (((hook.tracked p).call reports).reported reports).deeds :=
  Follows.reported (h.call p) reports

theorem follows_marked (reports : Bool) (hook : Hook ε) (p : Place) (k : Nat) :
    Follows [] ((hook.marked p k).call reports).deeds := by
  induction hook generalizing p k with
  | stop => exact Follows.nil
  | fail fault => exact Follows.of_silent rfl rfl
  | effect e rest ih =>
      exact (Follows.of_silent (d := .effect (.does e)) rfl rfl).append (ih p k)
  | add hook rest ih ihr =>
      have hregistered :=
        (follows_tracked (ih (p ++ [k]) 0)).register (head?_tracked reports hook (p ++ [k]))
      rw [call_marked_add]
      by_cases hf : (((hook.tracked (p ++ [k])).call reports).reported reports).fault = none
      · rw [call_add_of_done _ hf]
        exact hregistered.append (ihr p (k + 1))
      · rw [call_add_of_raises _ hf]
        exact hregistered
  | cancel reason rest ih => exact ih p k

/-! ### Places -/

/-- No two of the places are one, and each lies at or below `p`. -/
def Within (p : Place) (qs : List Place) : Prop := qs.Nodup ∧ ∀ q ∈ qs, p <+: q

/-- No two of the places are one, and each lies below `p`, at number `k` or later. -/
def Below (p : Place) (k : Nat) (qs : List Place) : Prop :=
  qs.Nodup ∧ ∀ q ∈ qs, ∃ j, k ≤ j ∧ p ++ [j] <+: q

theorem within_cons {p : Place} {qs : List Place} (h : Below p 0 qs) : Within p (p :: qs) := by
  obtain ⟨hnodup, hbelow⟩ := h
  refine ⟨List.nodup_cons.mpr ⟨fun hmem => ?_, hnodup⟩, fun q hq => ?_⟩
  · obtain ⟨j, -, hj⟩ := hbelow p hmem
    have hle := hj.length_le
    rw [List.length_append] at hle
    exact absurd hle (Nat.not_succ_le_self _)
  · rcases List.mem_cons.mp hq with rfl | hq
    · exact List.prefix_rfl
    · obtain ⟨j, -, hj⟩ := hbelow q hq
      exact (List.prefix_append p [j]).trans hj

/-- A place lies below one place of each length. -/
theorem eq_of_prefix {p q : Place} {i j : Nat} (hi : p ++ [i] <+: q) (hj : p ++ [j] <+: q) :
    i = j := by
  have hsame := List.prefix_of_prefix_length_le hi hj (by simp)
  simpa using hsame.eq_of_length (by simp)

theorem below_append {p : Place} {k : Nat} {qs qs' : List Place} (h : Within (p ++ [k]) qs)
    (h' : Below p (k + 1) qs') : Below p k (qs ++ qs') := by
  refine ⟨List.nodup_append.mpr ⟨h.1, h'.1, ?_⟩, fun q hq => ?_⟩
  · rintro q hq q' hq' rfl
    obtain ⟨j, hle, hj⟩ := h'.2 q hq'
    obtain rfl := eq_of_prefix (h.2 q hq) hj
    exact Nat.not_succ_le_self _ hle
  · rcases List.mem_append.mp hq with hq | hq
    · exact ⟨k, Nat.le_refl k, h.2 q hq⟩
    · obtain ⟨j, hle, hj⟩ := h'.2 q hq
      exact ⟨j, Nat.le_of_succ_le hle, hj⟩

theorem below_mono {p : Place} {k l : Nat} {qs : List Place} (hkl : k ≤ l) (h : Below p l qs) :
    Below p k qs :=
  ⟨h.1, fun q hq => (h.2 q hq).imp fun _ hj => ⟨Nat.le_trans hkl hj.1, hj.2⟩⟩

theorem called_reported (reports : Bool) (c : Calls (Mark ε)) :
    (c.reported reports).deeds.filterMap Deed.called? = c.deeds.filterMap Deed.called? := by
  rw [reported_eq, List.filterMap_append]
  cases c.fault <;> cases reports <;> simp [Deed.called?]

theorem within_tracked {reports : Bool} {hook : Hook ε} {p : Place}
    (h : Below p 0 (((hook.marked p 0).call reports).deeds.filterMap Deed.called?)) :
    Within p ((((hook.tracked p).call reports).reported reports).deeds.filterMap
      Deed.called?) := by
  rw [called_reported]
  exact within_cons h

theorem below_marked (reports : Bool) (hook : Hook ε) (p : Place) (k : Nat) :
    Below p k (((hook.marked p k).call reports).deeds.filterMap Deed.called?) := by
  induction hook generalizing p k with
  | stop => exact ⟨List.nodup_nil, fun _ hq => nomatch hq⟩
  | fail fault => exact ⟨List.nodup_nil, fun _ hq => nomatch hq⟩
  | effect e rest ih => exact ih p k
  | add hook rest ih ihr =>
      have hhook := within_tracked (ih (p ++ [k]) 0)
      rw [call_marked_add]
      by_cases hf : (((hook.tracked (p ++ [k])).call reports).reported reports).fault = none
      · have hrest := below_append hhook (ihr p (k + 1))
        rw [← List.filterMap_append] at hrest
        rw [call_add_of_done _ hf]
        exact hrest
      · rw [call_add_of_raises _ hf, ← List.append_nil (List.filterMap _ _)]
        exact below_append hhook ⟨List.nodup_nil, fun _ hq => nomatch hq⟩
  | cancel reason rest ih => exact ih p k

/-! ### Faults -/

/-- With reports, each fault is reported but for the one that the calls end with. Without, the
calls end with the first one. -/
def Settles (reports : Bool) (c : Calls (Mark ε)) : Prop :=
  match reports with
  | true => c.deeds.filterMap Deed.reported? ++ c.fault.toList = c.deeds.filterMap Deed.raised?
  | false => c.deeds.filterMap Deed.reported? = [] ∧
      c.fault = (c.deeds.filterMap Deed.raised?).head?

theorem settles_reported {reports : Bool} {c : Calls (Mark ε)} (h : Settles reports c) :
    Settles reports (c.reported reports) := by
  cases reports with
  | true =>
      unfold Settles at h ⊢
      rw [reported_eq]
      dsimp only at h ⊢
      rw [if_pos rfl, if_pos rfl, List.filterMap_append, List.filterMap_append, ← h]
      cases c.fault <;> simp [Deed.reported?, Deed.raised?]
  | false =>
      rw [reported_eq]
      simpa [Settles] using h

/-- Calls that end without a fault may be followed by others. -/
theorem settles_append {reports : Bool} {c c' : Calls (Mark ε)} (h : Settles reports c)
    (h' : Settles reports c') (hf : reports = true → c.fault = none) :
    Settles reports ⟨c.deeds ++ c'.deeds, c.fault.or c'.fault⟩ := by
  cases reports with
  | true =>
      unfold Settles at h h' ⊢
      dsimp only at h h' ⊢
      rw [hf rfl, Option.toList_none, List.append_nil] at h
      rw [hf rfl, Option.none_or, List.filterMap_append, List.filterMap_append, List.append_assoc,
        h, h']
  | false =>
      obtain ⟨hreported, hfault⟩ := h
      obtain ⟨hreported', hfault'⟩ := h'
      unfold Settles
      dsimp only
      rw [List.filterMap_append, List.filterMap_append, List.head?_append, hreported, hreported',
        hfault, hfault']
      exact ⟨rfl, rfl⟩

theorem fault_reported (c : Calls ε) : (c.reported true).fault = none := by
  rw [reported_eq]
  rfl

theorem settles_tracked {reports : Bool} {hook : Hook ε} {p : Place}
    (h : Settles reports ((hook.marked p 0).call reports)) :
    Settles reports (((hook.tracked p).call reports).reported reports) :=
  settles_reported h

theorem settles_marked (reports : Bool) (hook : Hook ε) (p : Place) (k : Nat) :
    Settles reports ((hook.marked p k).call reports) := by
  induction hook generalizing p k with
  | stop => cases reports <;> simp [Settles, marked, Hook.call]
  | fail fault => cases reports <;> simp [Settles, marked, Hook.call, Deed.reported?, Deed.raised?]
  | effect e rest ih => exact ih p k
  | add hook rest ih ihr =>
      have hhook := settles_tracked (ih (p ++ [k]) 0)
      by_cases hf : (((hook.tracked (p ++ [k])).call reports).reported reports).fault = none
      · have hrest := settles_append hhook (ihr p (k + 1)) fun _ => hf
        rw [hf, Option.none_or, ← call_add_of_done _ hf] at hrest
        exact hrest
      · rw [← call_add_of_raises _ hf] at hhook
        exact hhook
  | cancel reason rest ih => exact ih p k

/-! ### What is done besides -/

theorem plain_reported (reports : Bool) {c : Calls (Mark ε)} {c' : Calls ε}
    (hdeeds : c.deeds.filterMap Deed.plain? = c'.deeds) (hfault : c.fault = c'.fault) :
    (c.reported reports).deeds.filterMap Deed.plain? = (c'.reported reports).deeds ∧
      (c.reported reports).fault = (c'.reported reports).fault := by
  rw [reported_eq, reported_eq, List.filterMap_append, hdeeds, hfault]
  cases c'.fault <;> cases reports <;> simp [Deed.plain?]

theorem plain_tracked {reports : Bool} {hook : Hook ε} {p : Place}
    (h : ((hook.marked p 0).call reports).deeds.filterMap Deed.plain? =
        (hook.call reports).deeds ∧
      ((hook.marked p 0).call reports).fault = (hook.call reports).fault) :
    (((hook.tracked p).call reports).reported reports).deeds.filterMap Deed.plain? =
        ((hook.call reports).reported reports).deeds ∧
      (((hook.tracked p).call reports).reported reports).fault =
        ((hook.call reports).reported reports).fault :=
  plain_reported reports h.1 h.2

theorem plain_marked (reports : Bool) (hook : Hook ε) (p : Place) (k : Nat) :
    ((hook.marked p k).call reports).deeds.filterMap Deed.plain? = (hook.call reports).deeds ∧
      ((hook.marked p k).call reports).fault = (hook.call reports).fault := by
  induction hook generalizing p k with
  | stop => exact ⟨rfl, rfl⟩
  | fail fault => exact ⟨rfl, rfl⟩
  | effect e rest ih =>
      obtain ⟨hdeeds, hfault⟩ := ih p k
      refine ⟨?_, hfault⟩
      show .effect e :: List.filterMap _ _ = .effect e :: (rest.call reports).deeds
      rw [hdeeds]
  | add hook rest ih ihr =>
      have hone := plain_tracked (ih (p ++ [k]) 0)
      have hadd : ((((Hook.add hook rest).marked p k).call reports).deeds.filterMap Deed.plain?) =
          ((Hook.add (hook.tracked (p ++ [k])) (rest.marked p (k + 1))).call
            reports).deeds.filterMap Deed.plain? := rfl
      rw [hadd]
      show _ ∧ ((Hook.add (hook.tracked (p ++ [k])) (rest.marked p (k + 1))).call
        reports).fault = _
      by_cases hf : ((hook.call reports).reported reports).fault = none
      · rw [call_add_of_done _ (hone.2.trans hf), call_add_of_done _ hf]
        dsimp only
        rw [List.filterMap_append, hone.1, (ihr p (k + 1)).1, (ihr p (k + 1)).2]
        exact ⟨rfl, rfl⟩
      · have hf' := hf
        rw [← hone.2] at hf'
        rw [call_add_of_raises _ hf', call_add_of_raises _ hf]
        exact hone
  | cancel reason rest ih => exact ih p k

/-! ### Hooks one after the other -/

/-- Marked hooks that are registered from outside, each with its number. -/
def trackedAll (hooks : List (Nat × Hook ε)) : List (Hook (Mark ε)) :=
  hooks.map fun x => x.2.tracked [x.1]

variable (reports : Bool) (hooks : List (Nat × Hook ε))

theorem follows_callAll :
    Follows (hooks.map fun x => [x.1]) (callAll reports (trackedAll hooks)).deeds := by
  induction hooks with
  | nil => exact Follows.nil
  | cons x hooks ih =>
      exact (follows_tracked (follows_marked reports x.2 [x.1] 0)).append ih

variable {hooks} in
theorem below_callAll (hs : (hooks.map Prod.fst).Pairwise (· < ·)) {k : Nat}
    (hk : ∀ x ∈ hooks, k ≤ x.1) :
    Below [] k ((callAll reports (trackedAll hooks)).deeds.filterMap Deed.called?) := by
  induction hooks generalizing k with
  | nil => exact ⟨List.nodup_nil, fun _ hq => nomatch hq⟩
  | cons x hooks ih =>
      obtain ⟨hlt, hs⟩ := List.pairwise_cons.mp hs
      have hone := within_tracked (below_marked reports x.2 ([] ++ [x.1]) 0)
      have hrest := ih hs (k := x.1 + 1) fun y hy => hlt y.1 (List.mem_map_of_mem hy)
      have hall := below_append hone hrest
      rw [← List.filterMap_append] at hall
      exact below_mono (hk x List.mem_cons_self) hall

theorem fault_callAll (hooks : List (Hook ε)) : (callAll true hooks).fault = none := by
  induction hooks with
  | nil => rfl
  | cons hook hooks ih =>
      rw [callAll]
      dsimp only
      rw [fault_reported, ih]
      rfl

theorem settles_callAll : Settles reports (callAll reports (trackedAll hooks)) := by
  induction hooks with
  | nil => cases reports <;> simp [Settles, trackedAll, callAll]
  | cons x hooks ih =>
      have hone := settles_tracked (settles_marked reports x.2 [x.1] 0)
      refine settles_append hone ih ?_
      rintro rfl
      exact fault_reported _

/-- Marked hooks do what the hooks do without their marks, and end as they end. -/
theorem plain_callAll :
    (callAll reports (trackedAll hooks)).deeds.filterMap Deed.plain? =
        (callAll reports (hooks.map Prod.snd)).deeds ∧
      (callAll reports (trackedAll hooks)).fault =
        (callAll reports (hooks.map Prod.snd)).fault := by
  induction hooks with
  | nil => exact ⟨rfl, rfl⟩
  | cons x hooks ih =>
      have hone := plain_tracked (plain_marked reports x.2 [x.1] 0)
      show (_ ++ _ : List _).filterMap _ = _ ++ _ ∧ Option.or _ _ = Option.or _ _
      rw [List.filterMap_append, hone.1, hone.2]
      exact ⟨congrArg _ ih.1, congrArg _ ih.2⟩

end Hook

/-! ## What becomes of hooks -/

namespace Token

/-- The operation with number `i`, whose hook is marked. -/
def Op.marked (i : Nat) : Op ε → Op (Mark ε)
  | .add hook => .add (hook.tracked [i])
  | .cancel reason => .cancel reason
  | .check => .check

def markedAll (ops : List (Op ε)) : List (Op (Mark ε)) := ops.zipIdx.map fun x => x.1.marked x.2

/-- The hooks that were added, each with the number of the operation that added it. -/
def numbered (ops : List (Op ε)) : List (Nat × Hook ε) :=
  ops.zipIdx.filterMap fun x => x.1.hook?.map fun hook => (x.2, hook)

/-- The places of the hooks that were added, in order. -/
def places (ops : List (Op ε)) : List Place := (numbered ops).map fun x => [x.1]

/-- What marked hooks have done in the course of operations. -/
def marks (reports : Bool) (ops : List (Op ε)) : List (Deed (Mark ε)) :=
  (played reports (markedAll ops)).2.map Prod.snd

theorem added_markedAll (ops : List (Op ε)) :
    added (markedAll ops) = Hook.trackedAll (numbered ops) := by
  unfold added markedAll Hook.trackedAll numbered
  rw [List.filterMap_map, List.map_filterMap]
  refine List.filterMap_congr fun x _ => ?_
  obtain ⟨op, i⟩ := x
  cases op <;> rfl

theorem added_eq (ops : List (Op ε)) : added ops = (numbered ops).map Prod.snd := by
  unfold added numbered
  rw [List.map_filterMap]
  conv_lhs => rw [← List.zipIdx_map_fst 0 ops]
  rw [List.filterMap_map]
  refine List.filterMap_congr fun x _ => ?_
  obtain ⟨op, i⟩ := x
  cases op <;> rfl

theorem firstReason?_markedAll (ops : List (Op ε)) :
    firstReason? (markedAll ops) = firstReason? ops := by
  unfold firstReason? markedAll
  conv_rhs => rw [← List.zipIdx_map_fst 0 ops]
  rw [List.filterMap_map, List.filterMap_map]
  congr 1
  refine List.filterMap_congr fun x _ => ?_
  obtain ⟨op, i⟩ := x
  cases op <;> rfl

theorem pairwise_numbered (ops : List (Op ε)) :
    ((numbered ops).map Prod.fst).Pairwise (· < ·) := by
  have hindex : ops.zipIdx.Pairwise fun x y => x.2 < y.2 := by
    rw [← List.pairwise_map (f := Prod.snd) (R := (· < ·)), List.zipIdx_map_snd]
    exact List.pairwise_lt_range'
  rw [List.pairwise_map]
  refine List.pairwise_filterMap.mpr (hindex.imp ?_)
  rintro ⟨op, i⟩ ⟨op', j⟩ hlt y hy z hz
  obtain ⟨-, -, rfl⟩ := Option.map_eq_some_iff.mp hy
  obtain ⟨-, -, rfl⟩ := Option.map_eq_some_iff.mp hz
  exact hlt

theorem markedAll_concat (ops : List (Op ε)) (op : Op ε) :
    markedAll (ops ++ [op]) = markedAll ops ++ [op.marked ops.length] := by
  unfold markedAll
  rw [List.zipIdx_append, List.map_append]
  simp

/-- Whatever an operation calls, the marked one calls with marks. -/
theorem exists_due (reports : Bool) (ops : List (Op ε)) (op : Op ε) :
    ∃ hooks : List (Nat × Hook ε),
      (played reports (markedAll ops)).1.due (op.marked ops.length) = Hook.trackedAll hooks ∧
      (played reports ops).1.due op = hooks.map Prod.snd := by
  rw [played_eq, played_eq, firstReason?_markedAll, added_markedAll, added_eq]
  cases firstReason? ops with
  | none =>
      cases op with
      | add hook => exact ⟨[], rfl, rfl⟩
      | cancel reason => exact ⟨numbered ops, rfl, rfl⟩
      | check => exact ⟨[], rfl, rfl⟩
  | some reason =>
      cases op with
      | add hook => exact ⟨[(ops.length, hook)], rfl, rfl⟩
      | cancel reason' => exact ⟨[], rfl, rfl⟩
      | check => exact ⟨[], rfl, rfl⟩

theorem reports_played (reports : Bool) (ops : List (Op ε)) :
    (played reports ops).1.reports = reports := by
  rw [played_eq]
  split <;> rfl

/-- What becomes of hooks in the course of operations. -/
structure CallsOnce (reports : Bool) (ops : List (Op ε)) : Prop where
  /-- hooks act on the token that calls them, and each operation comes to what it is said to -/
  acts : ∀ (op : Op ε) (t : Token ε) (c : Calls ε),
    op.Acts (played reports ops).1 t c ↔ (t, c) = (played reports ops).1.perform op
  /-- the reason of the first cancellation stays -/
  reason : (played reports ops).1.reason = firstReason? ops
  checked : (played reports ops).1.raised .check =
    (firstReason? ops).map fun reason => .refusal (.interruption reason)
  /-- hooks are called with the interruption that the token stands for -/
  error : ∀ x ∈ (played reports (markedAll ops)).2,
    ∃ reason, firstReason? ops = some reason ∧ x.1 = some (.interruption reason)
  never : firstReason? ops = none → marks reports ops = []
  /-- the hooks that are called are those that were added or that a hook has registered -/
  called : firstReason? ops ≠ none → ((marks reports ops).filterMap Deed.called?).Perm
    (places ops ++ (marks reports ops).filterMap Deed.registered?)
  once : ((marks reports ops).filterMap Deed.called?).Nodup
  inOrder : firstReason? ops ≠ none →
    (places ops).Sublist ((marks reports ops).filterMap Deed.called?)
  /-- what a hook registers is called there and then -/
  atOnce : ∀ (i : Nat) (p : Place), (marks reports ops)[i]? = some (.effect (.registers p)) →
    (marks reports ops)[i + 1]? = some (.effect (.called p))
  reported : (marks reports ops).filterMap Deed.reported? =
    if reports then (marks reports ops).filterMap Deed.raised? else []
  /-- with reports nobody is raised at who adds a hook or cancels, nor a hook that does -/
  quiet : reports = true → ∀ (op : Op ε) (t : Token ε) (c : Calls ε),
    op.Acts (played reports ops).1 t c → c.fault = none
  /-- an operation raises the first fault that comes up in its course and is not reported -/
  raises : ∀ (op : Op ε) (new : List (Deed (Mark ε))), op ≠ .check →
    marks reports (ops ++ [op]) = marks reports ops ++ new →
    (played reports ops).1.raised op =
      if reports then none else (new.filterMap Deed.raised?).head?.map .fault
  /-- without the marks, hooks do the same -/
  plain : (played reports ops).2 =
    (played reports (markedAll ops)).2.filterMap fun x => x.2.plain?.map fun deed => (x.1, deed)

theorem marks_eq (reports : Bool) (ops : List (Op ε)) :
    marks reports ops =
      match firstReason? ops with
      | none => []
      | some _ => (Hook.callAll reports (Hook.trackedAll (numbered ops))).deeds := by
  unfold marks
  rw [played_eq, firstReason?_markedAll, added_markedAll]
  cases firstReason? ops with
  | none => rfl
  | some reason =>
      dsimp only
      rw [List.map_map]
      exact List.map_id _

/-- What is done in the course of one more operation is what the hooks do that it calls. -/
theorem marks_concat {reports : Bool} {ops : List (Op ε)} {op : Op ε}
    {hooks : List (Nat × Hook ε)}
    (h : (played reports (markedAll ops)).1.due (op.marked ops.length) = Hook.trackedAll hooks) :
    marks reports (ops ++ [op]) =
      marks reports ops ++ (Hook.callAll reports (Hook.trackedAll hooks)).deeds := by
  unfold marks
  rw [markedAll_concat, played_concat, List.map_append, List.map_map, calls_perform,
    reports_played, h]
  exact congrArg _ (List.map_id _)

/-- An operation raises what the first of its hooks raises, if it is not reported. -/
theorem raised_of_marks {reports : Bool} {ops : List (Op ε)} {op : Op ε}
    {new : List (Deed (Mark ε))} (hop : op ≠ .check)
    (h : marks reports (ops ++ [op]) = marks reports ops ++ new) :
    (played reports ops).1.raised op =
      if reports then none else (new.filterMap Deed.raised?).head?.map .fault := by
  obtain ⟨hooks, hmarked, hplain⟩ := exists_due reports ops op
  have hraised : (played reports ops).1.raised op =
      (Hook.callAll reports (Hook.trackedAll hooks)).fault.map .fault := by
    have hfault : (played reports ops).1.raised op =
        ((played reports ops).1.perform op).2.fault.map .fault := by
      cases op with
      | check => exact absurd rfl hop
      | _ => rfl
    rw [hfault, calls_perform, reports_played, hplain, ← (Hook.plain_callAll reports hooks).2]
  obtain rfl : new = (Hook.callAll reports (Hook.trackedAll hooks)).deeds := by
    rw [marks_concat hmarked] at h
    exact (List.append_cancel_left h).symm
  rw [hraised]
  have hsettles := Hook.settles_callAll reports hooks
  cases reports with
  | true =>
      rw [Hook.fault_callAll]
      rfl
  | false =>
      rw [hsettles.2]
      rfl

/-- **Hooks are called once**, whatever the token is asked for and whatever the hooks do
meanwhile. -/
theorem calls_once (reports : Bool) (ops : List (Op ε)) : CallsOnce reports ops := by
  have hmarks := marks_eq reports ops
  have hplayed := played_eq reports ops
  have hplayed' := played_eq reports (markedAll ops)
  rw [firstReason?_markedAll, added_markedAll] at hplayed'
  have hacts (op : Op ε) (t : Token ε) (c : Calls ε) :
      op.Acts (played reports ops).1 t c ↔ (t, c) = (played reports ops).1.perform op :=
    acts_iff _ op
  have hquiet (hreports : reports = true) (op : Op ε) (t : Token ε) (c : Calls ε)
      (h : op.Acts (played reports ops).1 t c) : c.fault = none := by
    have hperform : c = ((played reports ops).1.perform op).2 :=
      congrArg Prod.snd ((hacts op t c).mp h)
    rw [hperform, calls_perform, reports_played, hreports]
    exact Hook.fault_callAll _
  cases hfirst : firstReason? ops with
  | none =>
      rw [hfirst] at hmarks hplayed hplayed'
      dsimp only at hmarks hplayed hplayed'
      exact {
        acts := hacts
        reason := by rw [hplayed, hfirst]
        checked := by rw [hplayed, hfirst]; rfl
        error := by rw [hplayed']; exact fun _ hx => nomatch hx
        never := fun _ => hmarks
        called := fun hcancelled => absurd hfirst hcancelled
        once := by rw [hmarks]; exact List.nodup_nil
        inOrder := fun hcancelled => absurd hfirst hcancelled
        atOnce := by rw [hmarks]; exact fun _ _ hi => nomatch hi
        reported := by rw [hmarks]; cases reports <;> rfl
        quiet := hquiet
        raises := fun _ _ hop => raised_of_marks hop
        plain := by rw [hplayed, hplayed']; rfl }
  | some reason =>
      rw [hfirst] at hmarks hplayed hplayed'
      dsimp only at hmarks hplayed hplayed'
      have hfollows := Hook.follows_callAll reports (numbered ops)
      have hbelow := Hook.below_callAll reports (pairwise_numbered ops) fun _ _ => Nat.zero_le _
      have hsettles := Hook.settles_callAll reports (numbered ops)
      have hplain := (Hook.plain_callAll reports (numbered ops)).1
      rw [← hmarks] at hfollows hbelow
      exact {
        acts := hacts
        reason := by rw [hplayed, hfirst]
        checked := by rw [hplayed, hfirst]; rfl
        error := by
          rw [hplayed']
          intro x hx
          obtain ⟨deed, -, rfl⟩ := List.mem_map.mp hx
          exact ⟨reason, hfirst, rfl⟩
        never := fun hnever => by rw [hfirst] at hnever; cases hnever
        called := fun _ => hfollows.called
        once := hbelow.1
        inOrder := fun _ => hfollows.inOrder
        atOnce := hfollows.atOnce
        reported := by
          rw [hmarks]
          cases reports with
          | true =>
              have hall := hsettles
              unfold Hook.Settles at hall
              dsimp only at hall
              rw [Hook.fault_callAll, Option.toList_none, List.append_nil] at hall
              exact hall
          | false => exact hsettles.1
        quiet := hquiet
        raises := fun _ _ hop => raised_of_marks hop
        plain := by
          rw [hplayed, hplayed', added_eq, ← hplain, List.filterMap_map, List.map_filterMap]
          rfl }

/-- A hook that registers another one and raises, of which the other one does something. -/
example (fault : Fault) :
    marks true [.add (.add (.effect 1 .stop) (.fail fault)), .cancel none, .cancel none] =
      [.effect (.called [0]), .effect (.registers [0, 0]), .effect (.called [0, 0]),
        .effect (.does 1), .effect (.raises fault), .report fault] :=
  rfl

end Token

end CommandShell
