import CommandShell.Proofs.Session.Reach

/-!
# The order of work is one of many

A session that is built is a start (`isStart_build`, `isStart_bare`), and what a
shell does with it are calls, the turns of the running chain, and timers that go
off in order (`reaches_settle`, `reaches_pass`). What holds in every session that
can be reached holds for them.
-/

namespace CommandShell.Session

variable {s s' : Session}

theorem reaches_of_calls (h : Calls s s') : Reaches s s' := Relation.ReflTransGen.single (.calls h)

/-! ## Callers -/

theorem around_join (s : Session) (label : Nat) (result : Pipe) :
    Around s (s.join label result) := by
  unfold join
  split <;> exact ⟨rfl, rfl, rfl, rfl⟩

theorem calls_recover (s : Session) : Calls s s.recover :=
  Calls.trans (Calls.trans (Calls.around (around_flush s)) (calls_make _ .resume))
    (Calls.around (around_requestPrompt _))

theorem calls_attend (s : Session) (label : Nat) (errand : Errand) :
    Calls s (s.attend label errand) := by
  cases errand with
  | collect id =>
      unfold attend
      dsimp only
      split <;> exact Calls.around ⟨rfl, rfl, rfl, rfl⟩
  | execute id =>
      unfold attend
      dsimp only
      split
      · exact Calls.around (around_join s label _)
      · exact Calls.around ⟨rfl, rfl, rfl, rfl⟩
  | join result => exact Calls.around (around_join s label result)
  | recover => exact Calls.trans (calls_recover s) (Calls.around ⟨rfl, rfl, rfl, rfl⟩)

theorem calls_resumeCaller (s : Session) (label : Nat) : Calls s (s.resumeCaller label) := by
  have ha : Around s { s with callers := s.callers.filter fun c => c.label ≠ label } :=
    ⟨rfl, rfl, rfl, rfl⟩
  unfold resumeCaller
  split
  · exact Calls.trans (Calls.around ha) (calls_attend _ label _)
  · exact calls_refl s

theorem calls_execute (s : Session) (label : Nat) (text : String) :
    Calls s (s.execute label text) := by
  have hline := calls_enqueueLine s text
  unfold execute
  split
  · rename_i heq
    rw [heq] at hline
    exact Calls.trans hline (calls_attend _ label _)
  · rename_i heq
    rw [heq] at hline
    exact Calls.trans hline (calls_attend _ label _)

theorem calls_enqueueAndWait (s : Session) (label : Nat) (chain : Chain) :
    Calls s (s.enqueueAndWait label chain) := by
  show Calls s ((s.make (.enqueue chain)).attend label (.collect s.engine.next))
  exact Calls.trans (calls_make s _) (calls_attend _ label _)

theorem calls_interruptAndRecover (s : Session) (label : Nat) (reason : Option String) :
    Calls s (s.interruptAndRecover label reason) := by
  have hcall : Calls s (s.interrupt reason) := calls_call s _
  unfold interruptAndRecover
  dsimp only
  split
  · exact Calls.trans hcall (Calls.around ⟨rfl, rfl, rfl, rfl⟩)
  · exact Calls.trans hcall (calls_attend _ label _)

/-! ## The watchdog -/

theorem around_recovered (s : Session) (name : String) : Around s (s.recovered name) := by
  unfold recovered
  dsimp only
  split <;> exact ⟨rfl, rfl, rfl, rfl⟩

theorem calls_checkService (s : Session) (critical : Value) :
    Calls s (s.checkService critical).1 := by
  unfold checkService
  split
  · split
    · split
      · exact calls_refl s
      · exact Calls.trans (calls_enable s _) (Calls.around (around_recovered _ _))
    · exact calls_refl s
  · exact calls_refl s
  · exact calls_refl s
  · exact calls_refl s

theorem calls_checkServices (s : Session) (critical : List Value) :
    Calls s (s.checkServices critical).1 := by
  induction critical generalizing s with
  | nil => exact calls_refl s
  | cons v vs ih =>
      have hone := calls_checkService s v
      unfold checkServices
      split
      · rename_i heq
        rwa [heq] at hone
      · rename_i heq
        rw [heq] at hone
        dsimp only
        split <;> exact Calls.trans hone (ih _)

/-- The watchdog makes calls like anyone else. -/
theorem calls_check (s : Session) : Calls s s.check.1 := by
  unfold check
  split
  · exact calls_refl s
  · have hall := calls_checkServices s s.watchdog.critical
    split
    · rename_i heq
      rw [heq] at hall
      dsimp only
      split
      · exact hall
      · exact Calls.trans hall (Calls.around (around_requestPrompt _))
    · rename_i heq
      rwa [heq] at hall

/-- The watchdog's looks are no work of the running chain. -/
theorem around_arm (s : Session) : Around s s.arm := by
  unfold arm
  split
  · exact Around.refl s
  · split
    · refine ⟨rfl, rfl, rfl, ?_⟩
      simp [sleeps]
    · refine ⟨rfl, rfl, ?_, rfl⟩
      simp [turns]
    · exact Around.refl s
    · exact ⟨rfl, rfl, rfl, rfl⟩
    · exact ⟨rfl, rfl, rfl, rfl⟩

theorem calls_watch (s : Session) : Calls s s.watch := by
  have hcheck := calls_check s
  unfold watch
  split
  · rename_i heq
    rw [heq] at hcheck
    exact Calls.trans hcheck (Calls.around (around_arm _))
  · rename_i heq
    rw [heq] at hcheck
    exact Calls.trans hcheck (Calls.around ((around_report _ _ _ _ _).trans (around_arm _)))

/-! ## Work in its order -/

/-- A piece of work that is taken up is done. -/
theorem reaches_doJob {job : Job} {t : Session} (hchain : job = .chain → Wakes s t)
    (ha : job ≠ .chain → Around s t) : Reaches s (t.doJob job) := by
  cases job with
  | chain => exact Relation.ReflTransGen.single (.chain (hchain rfl))
  | caller label =>
      exact reaches_of_calls
        (Calls.trans (Calls.around (ha (by rintro ⟨⟩))) (calls_resumeCaller t label))
  | watch =>
      exact reaches_of_calls (Calls.trans (Calls.around (ha (by rintro ⟨⟩))) (calls_watch t))
  | arm =>
      exact reaches_of_calls (Calls.around ((ha (by rintro ⟨⟩)).trans (around_arm t)))

theorem reaches_settleWithin (n : Nat) (s : Session) : Reaches s (s.settleWithin n) := by
  induction n generalizing s with
  | zero => exact Relation.ReflTransGen.refl
  | succ n ih =>
      unfold settleWithin
      split
      · exact Relation.ReflTransGen.refl
      · rename_i job ready hready
        refine Relation.ReflTransGen.trans (reaches_doJob ?_ ?_) (ih _)
        · rintro rfl
          have hw : Wakes s { s with ready := s.ready.erase .chain } :=
            Wakes.turn (by rw [hready]; exact List.mem_cons_self)
          rwa [hready, List.erase_cons_head] at hw
        · intro hne
          refine ⟨rfl, rfl, ?_, rfl⟩
          unfold turns
          rw [hready, List.count_cons_of_ne hne]

/-- All work that is ready is done. -/
theorem reaches_settle (s : Session) : Reaches s s.settle := reaches_settleWithin patience s

theorem mem_of_firstTimer? {ts : List Timer} {t : Timer} (h : firstTimer? ts = some t) :
    t ∈ ts := by
  induction ts generalizing t with
  | nil => cases h
  | cons u ts ih =>
      unfold firstTimer? at h
      split at h
      · rename_i v hv
        obtain rfl := Option.some.inj h
        split
        · exact List.mem_cons_of_mem _ (ih hv)
        · exact List.mem_cons_self
      · obtain rfl := Option.some.inj h
        exact List.mem_cons_self

theorem reaches_passUntil (moment : Rat) (n : Nat) (s : Session) :
    Reaches s (s.passUntil moment n) := by
  induction n generalizing s with
  | zero => exact Relation.ReflTransGen.refl
  | succ n ih =>
      unfold passUntil
      split
      · exact reaches_of_calls (Calls.around ⟨rfl, rfl, rfl, rfl⟩)
      · rename_i t ht
        have hmem : t ∈ s.timers := (List.mem_filter.mp (mem_of_firstTimer? ht)).1
        refine Relation.ReflTransGen.trans (Relation.ReflTransGen.trans (reaches_doJob ?_ ?_)
          (reaches_settle _)) (ih _)
        · intro hjob
          exact Wakes.timer t hmem hjob t.due
        · intro hne
          refine ⟨rfl, rfl, rfl, ?_⟩
          unfold sleeps
          rw [(List.perm_cons_erase hmem).countP_eq, List.countP_cons_of_neg (by simp [hne])]

/-- Time passes, and the work that is due on the way is done. -/
theorem reaches_pass (s : Session) (millis : Rat) : Reaches s (s.pass millis) :=
  reaches_passUntil _ _ s

/-! ## Starts -/

theorem isStart_bare (critical : List Value) (reports : Bool) : (bare critical reports).IsStart :=
  ⟨⟨rfl, rfl, rfl, rfl, rfl, rfl, rfl⟩, rfl, rfl, rfl⟩

theorem around_validate (s : Session) (name : String) : Around s (s.validate name) := by
  unfold validate
  split
  · rename_i heq
    exact (around_onRegistry heq).trans ⟨rfl, rfl, rfl, rfl⟩
  · rename_i heq
    exact around_onRegistry heq

/-- Commands may be defined at any time. -/
theorem around_define (s : Session) (d : Definition Program) (register : Bool) :
    Around s (s.define d register).1 := by
  unfold define
  split
  · exact Around.refl s
  · dsimp only
    split
    · refine Around.trans ⟨rfl, rfl, rfl, rfl⟩ (Around.trans ?_ (around_validate _ d.name))
      exact around_onRegistry rfl
    · exact ⟨rfl, rfl, rfl, rfl⟩

/-- Every session that is built is a start. -/
theorem isStart_build {settings : Settings} {name : String} {clock : Clock}
    {reports canClear : Bool} (h : build settings name clock reports canClear = .ok s) :
    s.IsStart := by
  have hvalidate (names : List String) (t : Session) : Around t (names.foldl validate t) := by
    induction names generalizing t with
    | nil => exact Around.refl t
    | cons name names ih => exact (around_validate t name).trans (ih _)
  unfold build at h
  simp only [bind, Except.bind, pure, Except.pure] at h
  split at h
  · cases h
  · rename_i names hnames
    obtain rfl := Except.ok.inj h
    refine isStart_of_around ?_ ((around_onRegistry rfl).trans (hvalidate names _))
    cases settings.diagnostics <;> cases settings.watchdog <;>
      exact ⟨⟨rfl, rfl, rfl, rfl, rfl, rfl, rfl⟩, rfl, rfl, rfl⟩

end CommandShell.Session
