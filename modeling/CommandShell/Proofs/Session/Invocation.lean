import CommandShell.Proofs.Command.Admission
import CommandShell.Proofs.Session.Schedule

/-!
# Handlers are called for what was admitted

The running chain calls a handler where a stage begins, and nowhere else
(`callsOnly_runChain`): `CallsHandler` says in which session this is and for which
fragment. The registry of that very session admits the fragment with the flags that
the handler is given (`admits_of_beginStage`), since nothing comes between the look-up,
the verification and the call.
-/

namespace CommandShell

/-- The handler that a move calls, and what it is called with. -/
def Move.invocation? : Move → Option (Program × Invocation)
  | .invoke program v => some (program, v)
  | _ => none

namespace Registry

variable {η : Type}

theorem lookup_registry (r : Registry η) (name : String) : (r.lookup name).registry = r := by
  unfold lookup
  split
  · split <;> rfl
  · rfl

theorem definition_of_lookup {r : Registry η} {name : String} {d : Definition η}
    (h : (r.lookup name).result = some d) : r.definitions.get? name = some d := by
  unfold lookup at h
  split at h
  · rename_i d' hd
    split at h
    · rw [hd, ← h]
    · cases h
  · cases h

end Registry

namespace Session

variable {s₀ s s' s₁ t : Session}

/-! ## The handlers that were called -/

/-- The handlers that were called so far and what they were called with, in order. -/
def called (s : Session) : List (Program × Invocation) := s.moves.filterMap Move.invocation?

theorem called_onEngine (s : Session) (m : Move) :
    (s.onEngine m).called = s.called ++ m.invocation?.toList := by
  unfold called
  rw [onEngine_moves, List.filterMap_append]
  cases h : m.invocation? <;> simp [h]

theorem called_of_around (h : Around s s') : s'.called = s.called := by
  unfold called
  rw [h.moves]

/-- Calls from anywhere call no handler. -/
theorem called_of_calls (h : Calls s s') : s'.called = s.called := by
  induction h with
  | around h => exact called_of_around h
  | move s hm =>
      rw [called_onEngine]
      cases hm' : Move.invocation? _ with
      | none => exact List.append_nil _
      | some c =>
          unfold Move.invocation? at hm'
          split at hm'
          · exact hm.elim
          · cases hm'
  | trans _ _ ih ih' => rw [ih', ih]

theorem registry_onEngine (s : Session) (m : Move) : (s.onEngine m).registry = s.registry := by
  unfold onEngine
  dsimp only
  split <;> rfl

theorem onRegistry_eq {ρ : Type} {step : Registry.Step Program ρ} {result : ρ}
    (h : s.onRegistry step = (s', result)) :
    s'.registry = step.registry ∧ step.result = result := by
  obtain ⟨rfl, rfl⟩ := Prod.mk.inj h
  exact ⟨rfl, rfl⟩

/-! ## The beginning of a stage -/

/-- **A handler is called for what the registry admits**, at that moment. -/
theorem admits_of_beginStage {f : Fragment} {pipe : Pipe} {handler : Handler}
    (h : s.beginStage f pipe = (t, .ok handler)) :
    ∃ (d : Definition Program) (v : Invocation), handler = d.handler v ∧
      v.name = f.name ∧ v.args = f.args ∧ v.pipe = pipe ∧
      t.called = s.called ++ [(d.handler, v)] ∧ t.registry.Admits f d v.flags := by
  unfold beginStage at h
  split at h
  · cases h
  · rename_i s₁ d hlookup
    obtain ⟨hr₁, hresult⟩ := onRegistry_eq hlookup
    rw [Registry.lookup_registry] at hr₁
    have hd := Registry.definition_of_lookup hresult
    split at h
    · cases h
    · cases h
    · rename_i s₂ taken hverify
      obtain ⟨hr₂, hresult₂⟩ := onRegistry_eq hverify
      rw [hr₁] at hr₂ hresult₂
      rw [(Registry.verify_accepted hresult₂).1] at hr₂
      have hcalled : s₂.called = s.called :=
        (called_of_around (around_onRegistry hverify)).trans
          (called_of_around (around_onRegistry hlookup))
      obtain ⟨d', hd', hadmits⟩ := Registry.admits_of_verify hresult₂
      obtain rfl : d = d' := Option.some.inj (hd.symm.trans hd')
      split at h
      · cases h
      · obtain ⟨rfl, hhandler⟩ := Prod.mk.inj h
        refine ⟨d, _, (Except.ok.inj hhandler).symm, rfl, rfl, rfl, ?_, ?_⟩
        · rw [called_onEngine, called_of_around (around_record s₂ .engine _), hcalled]
          rfl
        · have hreg (what : String) (m : Move) :
              ((s₂.record .engine what).onEngine m).registry = s.registry := by
            rw [registry_onEngine]
            exact hr₂
          rw [hreg]
          exact hr₂ ▸ hadmits

theorem called_of_beginStage_error {f : Fragment} {pipe : Pipe} {failure : Failure}
    (h : s.beginStage f pipe = (t, .error failure)) : t.called = s.called := by
  unfold beginStage at h
  split at h
  · rename_i hlookup
    obtain ⟨rfl, -⟩ := Prod.mk.inj h
    exact called_of_around (around_onRegistry hlookup)
  · rename_i hlookup
    split at h
    · rename_i hverify
      obtain ⟨rfl, -⟩ := Prod.mk.inj h
      exact called_of_around ((around_onRegistry hlookup).trans (around_onRegistry hverify))
    · rename_i hverify
      obtain ⟨rfl, -⟩ := Prod.mk.inj h
      exact called_of_around ((around_onRegistry hlookup).trans (around_onRegistry hverify))
    · rename_i hverify
      dsimp only at h
      split at h
      · obtain ⟨rfl, -⟩ := Prod.mk.inj h
        exact called_of_around (((around_onRegistry hlookup).trans
          (around_onRegistry hverify)).trans (around_record _ _ _))
      · cases h

/-! ## Where handlers are called -/

/-- While stages are carried out from `s` on, `pipe` being what was handed on to them,
the handler of one of them is called: that of `f`, in the session `t`. -/
inductive Enters : List Fragment → Pipe → Session → Session → Fragment → Handler → Prop
  | first {f : Fragment} {rest : List Fragment} {pipe : Pipe} {s t : Session} {handler : Handler}
      (hgoes : s.interruption? = none) (hbegins : s.beginStage f pipe = (t, .ok handler)) :
      Enters (f :: rest) pipe s t f handler
  | later {f g : Fragment} {rest : List Fragment} {pipe result : Pipe} {s s₁ s₂ t : Session}
      {handler₁ handler : Handler} {outcome : Outcome}
      (hgoes : s.interruption? = none) (hbegins : s.beginStage f pipe = (s₁, .ok handler₁))
      (hends : runHandler handler₁ s₁ = (s₂, .done outcome))
      (hresult : outcome.toPipe f.name = .ok result)
      (hlater : Enters rest result (s₂.onEngine (.handOn result)) t g handler) :
      Enters (f :: rest) pipe s t g handler

/-- The running chain is taken up in `s`, and in the session `t` the handler of its
fragment `f` is called. -/
inductive CallsHandler (s t : Session) (f : Fragment) (handler : Handler) : Prop
  | begun {r : Run} (hrun : s.engine.run = some r) (hphase : r.phase = .fresh)
      (henters : Enters r.entry.chain.fragments none
        ((s.setPhase .active).report .engine .info "chain started"
          [("chain", .str r.entry.label)]) t f handler)
  | takenUp {r : Run} {p : Suspended} {s₁ : Session} {outcome : Outcome} {result : Pipe}
      (hrun : s.engine.run = some r) (hphase : r.phase = .suspended p)
      (hends : runHandler p.handler (s.setPhase .active) = (s₁, .done outcome))
      (hresult : outcome.toPipe p.name = .ok result)
      (henters : Enters p.rest result (s₁.onEngine (.handOn result)) t f handler)

/-- A handler that is at work in a session comes, without giving way, to where `handler` is
what it has left to do in the session `t`. -/
inductive ComesTo (handler : Handler) (t : Session) : Handler → Session → Prop
  | here : ComesTo handler t handler t
  | asked {r : Request} {rest : r.Reply → Handler} {s : Session}
      (h : ComesTo handler t (rest (s.reply r).2) (s.reply r).1) :
      ComesTo handler t (.ask r rest) s
  | released {rest : Handler} {s : Session} (hreleased : s.isReleased = true)
      (h : ComesTo handler t rest s) : ComesTo handler t (.pause .release rest) s

/-- While the running chain takes its turn from `s` on, `handler` is what a handler has
left to do in the session `t`. -/
inductive Handles (s : Session) (handler : Handler) (t : Session) : Prop
  | called {u : Session} {f : Fragment} {handler₁ : Handler} (hcalls : s.CallsHandler u f handler₁)
      (h : ComesTo handler t handler₁ u)
  | resumed {r : Run} {p : Suspended} (hrun : s.engine.run = some r)
      (hphase : r.phase = .suspended p) (h : ComesTo handler t p.handler (s.setPhase .active))

theorem admits_of_enters {fs : List Fragment} {pipe : Pipe} {f : Fragment} {handler : Handler}
    (h : Enters fs pipe s t f handler) :
    f ∈ fs ∧ ∃ (d : Definition Program) (v : Invocation), handler = d.handler v ∧
      v.name = f.name ∧ v.args = f.args ∧ t.called.getLast? = some (d.handler, v) ∧
      t.registry.Admits f d v.flags := by
  induction h with
  | first hgoes hbegins =>
      obtain ⟨d, v, hhandler, hname, hargs, -, hcalled, hadmits⟩ := admits_of_beginStage hbegins
      refine ⟨List.mem_cons_self, d, v, hhandler, hname, hargs, ?_, hadmits⟩
      rw [hcalled, List.getLast?_concat]
  | later _ _ _ _ _ ih => exact ⟨List.mem_cons_of_mem _ ih.1, ih.2⟩

/-- The handlers that are called on the way to `s'` are those that `P` tells of. -/
def CallsOnly (s s' : Session) (P : Session → Fragment → Handler → Prop) : Prop :=
  ∃ new, s'.called = s.called ++ new ∧
    ∀ c ∈ new, ∃ t f, P t f (c.1 c.2) ∧ t.called.getLast? = some c

variable {P Q : Session → Fragment → Handler → Prop}

theorem callsOnly_of_eq (h : s'.called = s.called) : CallsOnly s s' P :=
  ⟨[], by rw [h, List.append_nil], by rintro _ ⟨⟩⟩

theorem callsOnly_mono (h : CallsOnly s s' P) (hpq : ∀ t f handler, P t f handler → Q t f handler) :
    CallsOnly s s' Q := by
  obtain ⟨new, hcalled, hnew⟩ := h
  refine ⟨new, hcalled, fun c hc => ?_⟩
  obtain ⟨t, f, hp, hlast⟩ := hnew c hc
  exact ⟨t, f, hpq _ _ _ hp, hlast⟩

theorem callsOnly_trans (h : CallsOnly s s₁ P) (h' : CallsOnly s₁ s' P) : CallsOnly s s' P := by
  obtain ⟨new, hcalled, hnew⟩ := h
  obtain ⟨new', hcalled', hnew'⟩ := h'
  refine ⟨new ++ new', by rw [hcalled', hcalled, List.append_assoc], fun c hc => ?_⟩
  exact (List.mem_append.mp hc).elim (hnew c) (hnew' c)

/-- A handler at work calls no other handler, and the stages after it begin where it
has ended. -/
theorem callsOnly_carryOn {rest : List Fragment} {next : Pipe → Session → Session × Stand}
    {name : String} {pipe : Pipe} {handler : Handler}
    (hnext : ∀ s₁ outcome result, runHandler handler s = (s₁, .done outcome) →
      outcome.toPipe name = .ok result →
      CallsOnly (s₁.onEngine (.handOn result)) (next result (s₁.onEngine (.handOn result))).1 P) :
    CallsOnly s (carryOn rest next name pipe (runHandler handler s)).1 P := by
  have hcalled := called_of_calls (calls_runHandler handler s)
  generalize hstop : runHandler handler s = there at hcalled
  obtain ⟨s₁, stop⟩ := there
  cases stop with
  | failed failure => exact callsOnly_of_eq hcalled
  | paused p handler => exact callsOnly_of_eq hcalled
  | done outcome =>
      simp only [carryOn]
      cases hpipe : outcome.toPipe name with
      | error failure => exact callsOnly_of_eq hcalled
      | ok result =>
          refine callsOnly_trans (callsOnly_of_eq ?_) (hnext s₁ outcome result hstop hpipe)
          rw [called_onEngine, hcalled]
          exact List.append_nil _

theorem callsOnly_runStages (fs : List Fragment) (pipe : Pipe) (s : Session) :
    CallsOnly s (runStages fs pipe s).1 (Enters fs pipe s) := by
  induction fs generalizing pipe s with
  | nil =>
      unfold runStages
      split <;> exact callsOnly_of_eq rfl
  | cons f rest ih =>
      unfold runStages
      split
      · exact callsOnly_of_eq rfl
      · rename_i hgoes
        generalize hbegins : s.beginStage f pipe = there
        obtain ⟨s₁, result⟩ := there
        cases result with
        | error failure => exact callsOnly_of_eq (called_of_beginStage_error hbegins)
        | ok handler =>
            obtain ⟨d, v, rfl, -, -, -, hcalled, -⟩ := admits_of_beginStage hbegins
            have hlast : s₁.called.getLast? = some (d.handler, v) := by
              rw [hcalled, List.getLast?_concat]
            have hfirst : CallsOnly s s₁ (Enters (f :: rest) pipe s) := by
              refine ⟨[(d.handler, v)], hcalled, fun c hc => ?_⟩
              obtain rfl := List.mem_singleton.mp hc
              exact ⟨s₁, f, .first hgoes hbegins, hlast⟩
            refine callsOnly_trans hfirst (callsOnly_carryOn ?_)
            · intro s₂ outcome result hends hresult
              exact callsOnly_mono (ih result _)
                fun t g handler hlater => .later hgoes hbegins hends hresult hlater

theorem called_finish (s : Session) (status : Status) (result : Pipe) :
    (s.finish status result).called = s.called := by
  show (s.onEngine (.finish status result)).called = _
  rw [called_onEngine]
  exact List.append_nil _

theorem called_setPhase (s : Session) (phase : Phase) : (s.setPhase phase).called = s.called := by
  rw [setPhase, called_onEngine]
  exact List.append_nil _

theorem called_fail (s : Session) (pipe : Pipe) (failure : Failure) :
    (s.fail pipe failure).called = s.called := by
  by_cases hf : failure = .cancelled
  · subst hf
    exact (called_finish _ _ _).trans (called_of_calls (calls_call s _))
  · obtain ⟨t, hwrites, heq⟩ := fail_eq_finish hf s pipe
    rw [heq]
    exact (called_finish _ _ _).trans (called_of_around (around_of_writes hwrites))

/-- Ends and pauses call no handler. -/
theorem called_conclude (s : Session) (stand : Stand) : (s.conclude stand).called = s.called := by
  cases stand with
  | complete result =>
      show (s.complete result).called = _
      unfold complete
      dsimp only
      split
      · exact called_fail _ _ _
      · exact called_finish _ _ _
      · exact called_setPhase _ _
      · exact called_setPhase _ _
  | broken pipe failure => exact called_fail s pipe failure
  | paused p rest =>
      show (s.suspend p rest).called = _
      unfold suspend
      split
      · exact called_setPhase s _
      · exact called_setPhase s _
      · split <;> exact called_setPhase s _

/-- All handlers are called where stages begin. -/
theorem callsOnly_runChain (s : Session) : CallsOnly s s.runChain s.CallsHandler := by
  unfold runChain
  cases hr : s.engine.run with
  | none => exact callsOnly_of_eq rfl
  | some r =>
      dsimp only
      have hproceed : (∀ result, r.phase ≠ .pacing result) → r.phase ≠ .active →
          CallsOnly s ((s.proceed r).1.conclude (s.proceed r).2) s.CallsHandler := by
        intro hpacing hactive
        refine callsOnly_trans ?_ (callsOnly_of_eq (called_conclude _ _))
        refine callsOnly_trans (callsOnly_of_eq (called_setPhase s .active)) ?_
        unfold proceed
        split
        · rename_i p hp
          refine callsOnly_carryOn fun s₁ outcome result hends hresult => ?_
          exact callsOnly_mono (callsOnly_runStages _ _ _)
            fun t f handler henters => .takenUp hr hp hends hresult henters
        · rename_i hsuspended
          have hp : r.phase = .fresh := by
            cases hp : r.phase with
            | fresh => rfl
            | active => exact absurd hp hactive
            | suspended p => exact (hsuspended p hp).elim
            | pacing result => exact absurd hp (hpacing result)
          exact callsOnly_mono (callsOnly_runStages _ _ _)
            fun t f handler henters => .begun hr hp henters
      split
      · exact callsOnly_of_eq (called_finish _ _ _)
      · exact callsOnly_of_eq rfl
      · rename_i hpacing hactive
        exact hproceed hpacing hactive

/-! ## In every session that can be reached -/

/-- A handler is called for `f` in the session `t`, and the registry admits the call. -/
def Admitted (t : Session) (f : Fragment) (handler : Handler) : Prop :=
  ∃ (d : Definition Program) (v : Invocation), handler = d.handler v ∧
    v.name = f.name ∧ v.args = f.args ∧ t.called.getLast? = some (d.handler, v) ∧
    t.registry.Admits f d v.flags

theorem admitted_of_callsHandler {f : Fragment} {handler : Handler} {r : Run}
    (hr : s.engine.run = some r) (hfits : r.PhaseFits) (h : s.CallsHandler t f handler) :
    f ∈ r.entry.chain.fragments ∧ Admitted t f handler := by
  cases h with
  | begun hrun _ henters =>
      obtain rfl := Option.some.inj (hr.symm.trans hrun)
      exact admits_of_enters henters
  | takenUp hrun hphase _ _ henters =>
      obtain rfl := Option.some.inj (hr.symm.trans hrun)
      obtain ⟨hmem, hadmitted⟩ := admits_of_enters henters
      unfold Run.PhaseFits at hfits
      rw [hphase] at hfits
      obtain ⟨-, -, hrest, -⟩ := hfits
      rw [hrest] at hmem
      exact ⟨List.mem_of_mem_drop hmem, hadmitted⟩

/-- **Every handler is called for what was admitted.** Whenever the running chain is
taken up, each handler is called for one of its fragments, and the registry of that
moment admits the call. These are all the handlers that are called: there is none that
calls from outside would reach. -/
theorem admitted_of_reaches (h₀ : s₀.IsStart) (h : Reaches s₀ s) (hw : Wakes s s₁) :
    (∀ t f handler, s₁.CallsHandler t f handler →
      (∃ r, s.engine.run = some r ∧ f ∈ r.entry.chain.fragments) ∧ Admitted t f handler) ∧
    CallsOnly s s₁.runChain s₁.CallsHandler ∧
    ∀ s', Calls s s' → s'.called = s.called := by
  obtain ⟨hleads, htasked⟩ := reached h₀ h
  obtain ⟨hengine, hmoves, -, -, r, hr, -⟩ := run_of_wakes htasked hw
  refine ⟨?_, ?_, fun s' => called_of_calls⟩
  · intro t f handler hcalls
    have hr₁ : s₁.engine.run = some r := by rw [hengine, hr]
    obtain ⟨hmem, hadmitted⟩ :=
      admitted_of_callsHandler hr₁ (run_of_leads h₀ hleads hr).1 hcalls
    exact ⟨⟨r, hr, hmem⟩, hadmitted⟩
  · have hcalled : s₁.called = s.called := by
      unfold called
      rw [hmoves]
    exact callsOnly_trans (callsOnly_of_eq hcalled) (callsOnly_runChain s₁)

/-! ## A flag under its short name -/

/-- A command with an argument that has to be one of two, and a number. -/
def greet : Definition Program where
  name := "greet"
  handler _ := .done .nothing
  schema := [
    { kind := .positional, name := "whom", required := true, allowed := some ["you", "me"] },
    { kind := .flag, name := "times", shortName := some "n", datatype := some .number }]

def host : Session := ((bare [] true).define greet true).1

/-- The number comes as a text and under its short name, beside a flag that the command
does not know. -/
def greeting : Fragment :=
  { name := "greet", args := ["you"], flags := [("n", .str "3"), ("loud", .bool true)] }

def asked : Session := host.make (.enqueue ⟨[greeting], by simp⟩)

/-- The chain has its turn. -/
def begun : Session := { asked with ready := asked.ready.erase .chain }

theorem isStart_host : host.IsStart :=
  isStart_of_around (isStart_bare [] true) (around_define _ greet true)

theorem callsHandler_begun :
    ∃ t, begun.CallsHandler t greeting (.done .nothing) ∧
      t.called.map (fun c => c.2.flags) = [[("times", .int 3), ("loud", .bool true)]] :=
  ⟨_, .begun rfl rfl (.first rfl rfl), rfl⟩

theorem admitted_begun :
    ∃ t, t.called.map (fun c => c.2.flags) = [[("times", .int 3), ("loud", .bool true)]] ∧
      Admitted t greeting (.done .nothing) := by
  obtain ⟨t, hcalls, hflags⟩ := callsHandler_begun
  have hready : Job.chain ∈ asked.ready := by decide +kernel
  have hreach : Reaches host asked := reaches_of_calls (calls_make host _)
  obtain ⟨hall, -, -⟩ := admitted_of_reaches isStart_host hreach (.turn hready)
  exact ⟨t, hflags, (hall t greeting _ hcalls).2⟩

end Session

end CommandShell
