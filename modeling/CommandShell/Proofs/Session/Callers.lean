import CommandShell.Proofs.Session.Work
import Mathlib.Data.List.Nodup

/-!
# Callers that wait

Every caller that was woken has one piece of work that is ready, and callers have
labels of their own (`Attended`). So when a caller goes on, it is one that was
woken, and every other one stays (`resumed_of_takes`). Those who interrupted and
have not recovered yet are the ones that matter: `IsPending` says that there is
one, `IsAwaited` that it waits for the running chain to end.
-/

namespace CommandShell

/-- The caller that goes on by a piece of work. -/
def Job.caller? : Job → Option Nat
  | .caller label => some label
  | _ => none

/-- The answer is there that somebody waits for. -/
def Engine.hasAnswered (e : Engine) : Until → Bool
  | .answer id => (e.answer? id).isSome
  | .ending => false
  | .woken => false

namespace Session

variable {s s' t : Session}

/-- The labels of the callers that were woken. -/
def wokenLabels (callers : List Caller) : List Nat :=
  (callers.filter fun c => c.awaits == .woken).map fun c => c.label

structure Attended (s : Session) : Prop where
  distinct : (s.callers.map fun c => c.label).Nodup
  woken : (s.ready.filterMap Job.caller?).Perm (wokenLabels s.callers)
  timers : ∀ t ∈ s.timers, t.job.caller? = none

/-- Somebody who interrupted has not recovered yet. -/
def IsPending (s : Session) : Prop := ∃ c ∈ s.callers, c.errand = .recover

/-- Somebody who interrupted waits for the end of the running chain. -/
def IsAwaited (s : Session) : Prop := ∃ c ∈ s.callers, c.errand = .recover ∧ c.awaits = .ending

theorem isPending_of_isAwaited (h : s.IsAwaited) : s.IsPending := by
  obtain ⟨c, hc, herrand, -⟩ := h
  exact ⟨c, hc, herrand⟩

/-! ## Waking -/

theorem attended_of_eq (h : s.Attended) (hc : s'.callers = s.callers)
    (hr : s'.ready.filterMap Job.caller? = s.ready.filterMap Job.caller?)
    (ht : s'.timers = s.timers) : s'.Attended where
  distinct := by rw [hc]; exact h.distinct
  woken := by rw [hc, hr]; exact h.woken
  timers := by rw [ht]; exact h.timers

/-- A caller that is woken was not woken before. -/
theorem wokenLabels_wake (callers : List Caller) {isOver : Until → Bool}
    (hover : isOver .woken = false) :
    (wokenLabels
      (callers.map fun c => if isOver c.awaits then { c with awaits := .woken } else c)).Perm
      (wokenLabels callers ++ (callers.filter fun c => isOver c.awaits).map fun c => c.label) := by
  induction callers with
  | nil => exact .refl _
  | cons c callers ih =>
      by_cases hw : c.awaits = .woken
      · have hnot : isOver c.awaits = false := by rw [hw, hover]
        simp only [List.map_cons, hnot, Bool.false_eq_true, if_false]
        simpa [wokenLabels, hnot, hw, hover] using ih
      · by_cases ho : isOver c.awaits = true
        · have hone := (ih.cons c.label).trans List.perm_middle.symm
          simpa [wokenLabels, ho, hw] using hone
        · simpa [wokenLabels, ho, hw] using ih

theorem labels_wake (s : Session) (isOver : Until → Bool) :
    ((s.wake isOver).callers.map fun c => c.label) = s.callers.map fun c => c.label := by
  unfold wake
  rw [List.map_map]
  refine List.map_congr_left fun c _ => ?_
  show (if _ then _ else c : Caller).label = c.label
  split <;> rfl

theorem attended_wake (h : s.Attended) {isOver : Until → Bool} (hover : isOver .woken = false) :
    (s.wake isOver).Attended where
  distinct := by
    rw [labels_wake]
    exact h.distinct
  woken := by
    have hready : (s.wake isOver).ready.filterMap Job.caller? =
        s.ready.filterMap Job.caller? ++
          (s.callers.filter fun c => isOver c.awaits).map fun c => c.label := by
      unfold wake
      dsimp only
      rw [List.filterMap_append, List.filterMap_map]
      exact congrArg _ (List.filterMap_eq_map' ▸ rfl)
    rw [hready]
    exact (h.woken.append_right _).trans (wokenLabels_wake s.callers hover).symm
  timers := h.timers

theorem isPending_wake (h : s.IsPending) (isOver : Until → Bool) : (s.wake isOver).IsPending := by
  obtain ⟨c, hc, herrand⟩ := h
  refine ⟨_, List.mem_map_of_mem hc, ?_⟩
  split <;> exact herrand

theorem isAwaited_wake (h : s.IsAwaited) {isOver : Until → Bool} (hover : isOver .ending = false) :
    (s.wake isOver).IsAwaited := by
  obtain ⟨c, hc, herrand, hawaits⟩ := h
  refine ⟨_, List.mem_map_of_mem hc, ?_⟩
  rw [hawaits, hover]
  exact ⟨herrand, hawaits⟩

/-- A move of the engine wakes the callers whose answer has come, and may give the
running chain its turn. -/
theorem onEngine_cases (s : Session) (m : Move) : ∃ isOver : Until → Bool,
    isOver .woken = false ∧ isOver .ending = false ∧
      (s.onEngine m).callers = (s.wake isOver).callers ∧
      (s.onEngine m).timers = s.timers ∧
      (s.onEngine m).ready.filterMap Job.caller? = (s.wake isOver).ready.filterMap Job.caller? := by
  refine ⟨(s.engine.apply m).hasAnswered, rfl, rfl, ?_⟩
  have hover {isOver : Until → Bool} (h : ∀ u, isOver u = (s.engine.apply m).hasAnswered u)
      (t : Session) : t.wake isOver = t.wake (s.engine.apply m).hasAnswered := by
    rw [funext h]
  unfold onEngine
  dsimp only
  rw [hover (by intro u; cases u <;> rfl)]
  split
  · refine ⟨rfl, rfl, ?_⟩
    rw [List.filterMap_append]
    exact List.append_nil _
  · exact ⟨rfl, rfl, rfl⟩

theorem attended_onEngine (h : s.Attended) (m : Move) : (s.onEngine m).Attended := by
  obtain ⟨isOver, hwoken, -, hc, ht, hr⟩ := onEngine_cases s m
  exact attended_of_eq (attended_wake h hwoken) hc hr ht

theorem labels_onEngine (s : Session) (m : Move) :
    ((s.onEngine m).callers.map fun c => c.label) = s.callers.map fun c => c.label := by
  obtain ⟨isOver, -, -, hc, -, -⟩ := onEngine_cases s m
  rw [hc]
  exact labels_wake s isOver

theorem isPending_onEngine (h : s.IsPending) (m : Move) : (s.onEngine m).IsPending := by
  obtain ⟨isOver, -, -, hc, -, -⟩ := onEngine_cases s m
  unfold IsPending
  rw [hc]
  exact isPending_wake h isOver

theorem isAwaited_onEngine (h : s.IsAwaited) (m : Move) : (s.onEngine m).IsAwaited := by
  obtain ⟨isOver, -, hending, hc, -, -⟩ := onEngine_cases s m
  unfold IsAwaited
  rw [hc]
  exact isAwaited_wake h hending

/-! ## Coming and going on -/

theorem isUnused_of_labels {label : Nat} (h : s.IsUnused label)
    (hl : (s'.callers.map fun c => c.label) = s.callers.map fun c => c.label) :
    s'.IsUnused label := by
  intro c hc hlabel
  have hmem : c.label ∈ s.callers.map fun c => c.label := hl ▸ List.mem_map_of_mem hc
  obtain ⟨d, hd, hdl⟩ := List.mem_map.mp hmem
  exact h d hd (hdl.trans hlabel)

/-- A new caller waits. -/
theorem attended_await (h : s.Attended) {label : Nat} (hnew : s.IsUnused label) {awaits : Until}
    (hawaits : awaits ≠ .woken) (errand : Errand) : (s.await label awaits errand).Attended where
  distinct := by
    unfold await
    rw [List.map_append, List.nodup_append]
    refine ⟨h.distinct, List.nodup_singleton _, ?_⟩
    intro a ha b hb hab
    obtain ⟨c, hc, rfl⟩ := List.mem_map.mp ha
    obtain rfl := List.mem_singleton.mp hb
    exact hnew c hc hab
  woken := by
    have hsame : wokenLabels (s.callers ++ [⟨label, awaits, errand⟩]) = wokenLabels s.callers := by
      simp [wokenLabels, hawaits]
    unfold await
    rw [hsame]
    exact h.woken
  timers := h.timers

theorem isPending_await (h : s.IsPending) (label : Nat) (awaits : Until) (errand : Errand) :
    (s.await label awaits errand).IsPending := by
  obtain ⟨c, hc, herrand⟩ := h
  exact ⟨c, List.mem_append_left _ hc, herrand⟩

theorem isAwaited_await (h : s.IsAwaited) (label : Nat) (awaits : Until) (errand : Errand) :
    (s.await label awaits errand).IsAwaited := by
  obtain ⟨c, hc, herrand⟩ := h
  exact ⟨c, List.mem_append_left _ hc, herrand⟩

/-- Work that is no caller's is taken up. -/
theorem attended_takes (h : s.Attended) {job : Job} (ht : Takes s job t)
    (hjob : job.caller? = none) : t.Attended := by
  cases ht with
  | ready hready =>
      refine ⟨h.distinct, ?_, h.timers⟩
      have hperm := (List.perm_cons_erase hready).filterMap Job.caller?
      rw [List.filterMap_cons_none hjob] at hperm
      exact hperm.symm.trans h.woken
  | timer htimer now =>
      exact ⟨h.distinct, h.woken, fun t ht => h.timers t (List.mem_of_mem_erase ht)⟩

/-- Without the callers of a label. -/
def without (s : Session) (label : Nat) : Session :=
  { s with callers := s.callers.filter fun c => c.label ≠ label }

/-- A caller that goes on was woken. The others stay, and its label is free. -/
theorem resumed_of_takes (h : s.Attended) {label : Nat} (ht : Takes s (.caller label) t) :
    (t.without label).Attended ∧ (t.without label).IsUnused label ∧
      ∃ c, (t.callers.find? fun c => c.label == label) = some c ∧
        (s.IsPending → c.errand = .recover ∨ (t.without label).IsPending) ∧
        (s.IsAwaited → (t.without label).IsAwaited) := by
  obtain ⟨hcallers, htimers, hready⟩ : t.callers = s.callers ∧ t.timers = s.timers ∧
      (label :: t.ready.filterMap Job.caller?).Perm (wokenLabels s.callers) := by
    generalize hjob : Job.caller label = job at ht
    cases ht with
    | ready hready =>
        obtain rfl := hjob
        have hperm := (List.perm_cons_erase hready).filterMap Job.caller?
        exact ⟨rfl, rfl, hperm.symm.trans h.woken⟩
    | timer htimer now =>
        have hnone := h.timers _ htimer
        rw [← hjob] at hnone
        cases hnone
  -- the one caller of this label is a woken one
  obtain ⟨c, hc, hlabel⟩ := List.mem_map.mp (hready.subset List.mem_cons_self)
  obtain ⟨hmem, hwoken⟩ := List.mem_filter.mp hc
  have honly {d : Caller} (hd : d ∈ s.callers) (hdl : d.label = label) : d = c :=
    List.inj_on_of_nodup_map h.distinct hd hmem (hdl.trans hlabel.symm)
  have hother {d : Caller} (hd : d ∈ s.callers) (hne : d ≠ c) : d ∈ (t.without label).callers := by
    refine List.mem_filter.mpr ⟨hcallers ▸ hd, ?_⟩
    simpa using fun hdl => hne (honly hd hdl)
  refine ⟨⟨?_, ?_, ?_⟩, ?_, c, ?_, ?_, ?_⟩
  · unfold without
    rw [hcallers]
    exact h.distinct.sublist (List.filter_sublist.map _)
  · have hdistinct : (wokenLabels s.callers).Nodup :=
      h.distinct.sublist (List.filter_sublist.map _)
    have hleft : wokenLabels (t.without label).callers = (wokenLabels s.callers).erase label := by
      rw [hdistinct.erase_eq_filter]
      unfold without wokenLabels
      rw [hcallers, List.filter_map, List.filter_filter, List.filter_filter]
      refine congrArg _ (List.filter_congr fun d _ => ?_)
      by_cases hd : d.label = label <;> simp [hd]
    rw [hleft]
    have hmemLabel : label ∈ wokenLabels s.callers := hready.subset List.mem_cons_self
    exact (hready.trans (List.perm_cons_erase hmemLabel)).cons_inv
  · show ∀ t' ∈ t.timers, _
    rw [htimers]
    exact h.timers
  · intro d hd
    simpa using (List.mem_filter.mp hd).2
  · rw [hcallers]
    cases hfind : s.callers.find? fun c => c.label == label with
    | none => exact absurd (by simpa using hlabel) (List.find?_eq_none.mp hfind c hmem)
    | some d =>
        have hd : d.label = label := by simpa using List.find?_some hfind
        rw [honly (List.mem_of_find?_eq_some hfind) hd]
  · rintro ⟨d, hd, herrand⟩
    by_cases hdc : d = c
    · exact Or.inl (hdc ▸ herrand)
    · exact Or.inr ⟨d, hother hd hdc, herrand⟩
  · rintro ⟨d, hd, herrand, hawaits⟩
    refine ⟨d, hother hd ?_, herrand, hawaits⟩
    rintro rfl
    rw [hawaits] at hwoken
    cases hwoken

end Session

end CommandShell
