import CommandShell.Proofs.Session.Calls

/-!
# The course of a chain

A session carries out the running chain: it begins with it or takes it up again,
calls one handler after the other, and suspends or ends it. All moves that its
engine makes meanwhile are allowed (`arrives_proceed`). The invariant is the stage
that the chain is at, `Run.AtStage`; nothing that a handler asks for changes it,
since the engine then makes moves that leave the stages alone.
-/

namespace CommandShell

/-- A running chain is at a stage: it has `rest` before it, the last completed stage
has handed on `pipe`, and `n` handlers are at work. -/
structure Run.AtStage (r : Run) (rest : List Fragment) (pipe : Pipe) (n : Nat) : Prop where
  rest : rest = r.entry.chain.fragments.drop r.invoked.length
  pipe : pipe = r.lastPipe
  count : r.invoked.length = r.produced.length + n
  le : r.invoked.length ≤ r.entry.chain.fragments.length

/-- A running chain is as far as it was. It may have been cancelled meanwhile. -/
structure Run.SameStage (r r' : Run) : Prop where
  entry : r'.entry = r.entry
  phase : r'.phase = r.phase
  invoked : r'.invoked = r.invoked
  handlers : r'.handlers = r.handlers
  produced : r'.produced = r.produced
  cancelled : r.token.isCancelled = true → r'.token.isCancelled = true

namespace Run

variable {r r' : Run} {rest : List Fragment} {pipe : Pipe} {n : Nat}

theorem lastPipe_congr (h : r.SameStage r') : r'.lastPipe = r.lastPipe := by
  unfold lastPipe
  rw [h.produced]

theorem atStage_congr (h : r.AtStage rest pipe n) (hsame : r.SameStage r') :
    r'.AtStage rest pipe n := by
  obtain ⟨hrest, hpipe, hcount, hle⟩ := h
  refine ⟨?_, hpipe.trans (lastPipe_congr hsame).symm, ?_, ?_⟩
  · rw [hsame.entry, hsame.invoked, hrest]
  · rw [hsame.invoked, hsame.produced, hcount]
  · rwa [hsame.entry, hsame.invoked]

/-- Moves that anyone may make leave a chain at its stage while it is carried
out. -/
theorem sameStage_apply (h : r.phase = .active) {m : Move} (hm : m.IsOutside) :
    r.SameStage (r.apply m) := by
  obtain ⟨hinvoked, hhandlers, hproduced⟩ := apply_of_outside r hm
  refine ⟨apply_entry r m, ?_, hinvoked, hhandlers, hproduced, (cancelled_of_outside · hm)⟩
  rcases phase_apply r hm with heq | ⟨p, hp, -, -⟩
  · exact heq
  · rw [h] at hp
    cases hp

/-- The chain calls the handler of its next fragment. -/
theorem atStage_invoke {f : Fragment} (h : r.AtStage (f :: rest) pipe 0) (program : Program)
    (v : Invocation) : (r.apply (.invoke program v)).AtStage rest pipe 1 := by
  have hlt : r.invoked.length < r.entry.chain.fragments.length := by
    have hlen := congrArg List.length h.rest
    rw [List.length_cons, List.length_drop] at hlen
    omega
  refine ⟨?_, h.pipe, ?_, ?_⟩
  · show rest = r.entry.chain.fragments.drop (r.invoked ++ [v]).length
    rw [List.length_append, List.length_singleton, ← List.drop_drop, ← h.rest]
    rfl
  · show (r.invoked ++ [v]).length = r.produced.length + 1
    rw [List.length_append, h.count]
    rfl
  · show (r.invoked ++ [v]).length ≤ r.entry.chain.fragments.length
    rw [List.length_append]
    exact hlt

/-- A handler that was just called is at work. -/
theorem atWork_invoke (r : Run) (program : Program) (v : Invocation) :
    (r.apply (.invoke program v)).AtWork v.name (program v) :=
  ⟨v, program v, List.getLast?_concat, List.getLast?_concat, rfl, .refl _⟩

theorem atWork_congr {name : String} {h : Handler} (hwork : r.AtWork name h)
    (hsame : r.SameStage r') : r'.AtWork name h := by
  unfold AtWork
  rw [hsame.invoked, hsame.handlers]
  exact hwork

theorem atWork_of_comesTo {name : String} {h h' : Handler} (hwork : r.AtWork name h)
    (hcomes : h.ComesTo h') : r.AtWork name h' := by
  obtain ⟨v, h₀, hv, hh, hname, hcomes₀⟩ := hwork
  exact ⟨v, h₀, hv, hh, hname, hcomes₀.trans hcomes⟩

/-- The handler at work hands on what it has ended with. -/
theorem atStage_handOn (h : r.AtStage rest pipe 1) (result : Pipe) :
    (r.apply (.handOn result)).AtStage rest result 0 := by
  refine ⟨h.rest, ?_, ?_, h.le⟩
  · simp [apply, lastPipe]
  · show r.invoked.length = (r.produced ++ [result]).length + 0
    rw [List.length_append, h.count]
    rfl

/-- A chain with nothing before it is through with all its stages. -/
theorem produced_length_of_atStage (h : r.AtStage [] pipe 0) :
    r.produced.length = r.entry.chain.fragments.length := by
  have hdrop := List.drop_eq_nil_iff.mp h.rest.symm
  have hcount := h.count
  have hle := h.le
  omega

end Run

/-- A handler stops where it may come to. -/
def Stop.IsOf (h : Handler) : Stop → Prop
  | .done outcome => h.ComesTo (.done outcome)
  | .failed failure => h.ComesTo (.fail failure)
  | .paused p rest => h.ComesTo (.pause p rest)

theorem Stop.isOf_of_comesTo {h h' : Handler} {stop : Stop} (hcomes : h.ComesTo h')
    (hof : stop.IsOf h') : stop.IsOf h := by
  cases stop <;> exact hcomes.trans hof

/-- An invocation is refused before its handler is called, or cannot be checked. -/
inductive Fragment.IsDeclined (f : Fragment) : Failure → Prop
  | unknown : IsDeclined f (.refusal (.ofProblem .command (.unknownCommand f.name)))
  | refused {registry : Registry Program} {p : Problem}
      (h : (registry.verify f.name f.args f.flags).result = .ok (.refused p)) :
      IsDeclined f (Session.refusal f.name p)
  | fault {registry : Registry Program} {fault : Numeral.Fault}
      (h : (registry.verify f.name f.args f.flags).result = .error fault) :
      IsDeclined f (.fault (.value fault.message))

/-- What may go wrong with a chain where it is: it is cancelled and heeds that between two
stages, or it is not and its next invocation is declined, or the handler at work fails or
answers with an error. -/
inductive Run.Raises (r : Run) : Failure → Prop
  | heeded {interruption : Refusal} (hcount : r.invoked.length = r.produced.length)
      (h : r.token.interruption? = some interruption) : Raises r (.refusal interruption)
  | declined {f : Fragment} {failure : Failure} (hc : r.token.isCancelled = false)
      (hf : r.entry.chain.fragments[r.invoked.length]? = some f) (h : f.IsDeclined failure) :
      Raises r failure
  | failed {name : String} {failure : Failure}
      (hcount : r.invoked.length = r.produced.length + 1) (h : r.AtWork name (.fail failure)) :
      Raises r failure
  | answered {name : String} {outcome : Outcome} {failure : Failure}
      (hcount : r.invoked.length = r.produced.length + 1)
      (h : r.AtWork name (.done outcome)) (hpipe : outcome.toPipe name = .error failure) :
      Raises r failure

namespace Session

/-! ## From one session to a later one -/

/-- The engine makes moves that it allows. -/
def Leads (s s' : Session) : Prop :=
  ∃ ms, s'.moves = s.moves ++ ms ∧ s'.engine = s.engine.play ms ∧ s.engine.Allowed ms

variable {s s' s'' : Session}

theorem leads_of_eq (he : s'.engine = s.engine) (hm : s'.moves = s.moves) : Leads s s' :=
  ⟨[], by rw [hm, List.append_nil], he, trivial⟩

theorem leads_refl (s : Session) : Leads s s := leads_of_eq rfl rfl

theorem leads_of_around (h : Around s s') : Leads s s' := leads_of_eq h.engine h.moves

theorem leads_trans (h : Leads s s') (h' : Leads s' s'') : Leads s s'' := by
  obtain ⟨ms, hmoves, hengine, ha⟩ := h
  obtain ⟨ms', hmoves', hengine', ha'⟩ := h'
  refine ⟨ms ++ ms', ?_, ?_, Engine.allowed_append.mpr ⟨ha, ?_⟩⟩
  · rw [hmoves', hmoves, List.append_assoc]
  · rw [hengine', hengine, Engine.play_append]
  · rwa [← hengine]

theorem leads_onEngine {m : Move} (h : s.engine.Allows m) : Leads s (s.onEngine m) :=
  ⟨[m], onEngine_moves s m, onEngine_engine s m, h, trivial⟩

theorem allows_of_isOutside (e : Engine) {m : Move} (h : m.IsOutside) : e.Allows m := by
  cases m with
  | call c => trivial
  | hook k => trivial
  | release => trivial
  | _ => exact h.elim

theorem leads_of_calls (h : Calls s s') : Leads s s' := by
  induction h with
  | around h => exact leads_of_around h
  | move s hm => exact leads_onEngine (allows_of_isOutside _ hm)
  | trans _ _ ih ih' => exact leads_trans ih ih'

/-! ## While a chain is carried out -/

/-- The chain `x` is being carried out. No turn of it is ready and no timer is set
for it. -/
structure Active (s : Session) (x : Entry) (r : Run) : Prop where
  run : s.engine.run = some r
  entry : r.entry = x
  phase : r.phase = .active
  turns : s.turns = 0
  sleeps : s.sleeps = 0

variable {x : Entry} {r : Run}

theorem active_of_around (h : s.Active x r) (ha : Around s s') : s'.Active x r where
  run := by rw [ha.engine, h.run]
  entry := h.entry
  phase := h.phase
  turns := by rw [ha.turns, h.turns]
  sleeps := by rw [ha.sleeps, h.sleeps]

/-- A move that keeps the phase of the running chain gives it no turn. -/
theorem active_onEngine (h : s.Active x r) {m : Move}
    (hm : ∀ status result, m ≠ .finish status result) (hphase : (r.apply m).phase = .active) :
    (s.onEngine m).Active x (r.apply m) where
  run := by rw [onEngine_engine, Engine.run_apply h.run hm]
  entry := by rw [Run.apply_entry, h.entry]
  phase := hphase
  turns := by
    rw [onEngine_turns, h.turns]
    simp [Engine.wantsTurn, Engine.run_apply h.run hm, Run.wantsTurn, hphase]
  sleeps := by rw [onEngine_sleeps, h.sleeps]

theorem run_setPhase (hr : s.engine.run = some r) (phase : Phase) :
    (s.setPhase phase).engine.run = some { r with phase } := by
  rw [setPhase, onEngine_engine]
  exact Engine.run_apply hr (by rintro _ _ ⟨⟩)

theorem finished_setPhase (s : Session) (phase : Phase) :
    (s.setPhase phase).engine.finished = s.engine.finished := by
  rw [setPhase, onEngine_engine, Engine.finished_apply]

/-- A chain whose turn was taken, or whose timer has gone off, is carried out. -/
theorem active_setPhase (hr : s.engine.run = some r) (hturns : s.turns = 0)
    (hsleeps : s.sleeps = 0) :
    (s.setPhase .active).Active r.entry { r with phase := .active } where
  run := run_setPhase hr _
  entry := rfl
  phase := rfl
  turns := by
    have hrun := Engine.run_apply hr (m := .phase .active) (by rintro _ _ ⟨⟩)
    rw [setPhase, onEngine_turns, hturns]
    simp [Engine.wantsTurn, hrun, Run.wantsTurn, Run.apply]
  sleeps := by rw [setPhase, onEngine_sleeps, hsleeps]

/-- Calls leave the chain that is carried out at its stage. -/
theorem active_of_calls (h : s.Active x r) (hc : Calls s s') :
    ∃ r', s'.Active x r' ∧ r.SameStage r' := by
  induction hc generalizing r with
  | around ha => exact ⟨r, active_of_around h ha, ⟨rfl, rfl, rfl, rfl, rfl, id⟩⟩
  | move s hm =>
      have hsame := Run.sameStage_apply h.phase hm
      refine ⟨_, active_onEngine h ?_ (hsame.phase.trans h.phase), hsame⟩
      rintro status result rfl
      exact hm
  | trans _ _ ih ih' =>
      obtain ⟨r₁, h₁, hsame₁⟩ := ih h
      obtain ⟨r₂, h₂, hsame₂⟩ := ih' h₁
      exact ⟨r₂, h₂, ⟨hsame₂.entry.trans hsame₁.entry, hsame₂.phase.trans hsame₁.phase,
        hsame₂.invoked.trans hsame₁.invoked, hsame₂.handlers.trans hsame₁.handlers,
        hsame₂.produced.trans hsame₁.produced, hsame₂.cancelled ∘ hsame₁.cancelled⟩⟩

/-! ## Stages -/

/-- Where the chain `x` has come to fits the stages that it has been through. It is not
through if it is cancelled. -/
def Fits (s : Session) (x : Entry) : Stand → Prop
  | .complete result =>
    ∃ r, s.Active x r ∧ r.AtStage [] result 0 ∧ r.token.isCancelled = false
  | .broken pipe _ => ∃ r, s.Active x r ∧ pipe = r.lastPipe
  | .paused _ rest =>
    ∃ r, s.Active x r ∧ r.AtStage rest.rest rest.pipe 1 ∧ r.AtWork rest.name rest.handler

/-- A session carries out the chain `x` up to where it stands. -/
structure Arrives (s : Session) (x : Entry) (there : Session × Stand) : Prop where
  leads : Leads s there.1
  fits : there.1.Fits x there.2
  raises : ∀ pipe failure, there.2 = .broken pipe failure →
    ∃ r, there.1.engine.run = some r ∧ r.Raises failure

theorem arrives_of_leads {there : Session × Stand} (h : Leads s s')
    (ha : s'.Arrives x there) : s.Arrives x there :=
  ⟨leads_trans h ha.leads, ha.fits, ha.raises⟩

theorem arrives_broken {pipe : Pipe} {failure : Failure} (hleads : Leads s s')
    (h : s'.Active x r) (hpipe : pipe = r.lastPipe) (hraises : r.Raises failure) :
    s.Arrives x (s', .broken pipe failure) := by
  refine ⟨hleads, ⟨r, h, hpipe⟩, ?_⟩
  rintro _ _ ⟨⟩
  exact ⟨r, h.run, hraises⟩

theorem raises_of_interruption? {interruption : Refusal} {rest : List Fragment} {pipe : Pipe}
    (h : s.Active x r) (hat : r.AtStage rest pipe 0)
    (hi : s.interruption? = some interruption) : r.Raises (.refusal interruption) := by
  unfold interruption? at hi
  rw [h.run] at hi
  exact .heeded hat.count hi

theorem isCancelled_of_interruption? (h : s.Active x r) (hi : s.interruption? = none) :
    r.token.isCancelled = false := by
  simp only [interruption?, h.run, Option.bind_some, Token.interruption?,
    Option.map_eq_none_iff] at hi
  simp [Token.isCancelled, hi]

/-- Whatever becomes of an invocation before its handler is called, the chain stays
at its stage. -/
theorem beginStage_cases {f : Fragment} {rest : List Fragment} {pipe : Pipe}
    (h : s.Active x r) (hat : r.AtStage (f :: rest) pipe 0)
    (hc : r.token.isCancelled = false) :
    (∃ s' failure, s.beginStage f pipe = (s', .error failure) ∧ Leads s s' ∧ s'.Active x r ∧
      r.Raises failure) ∨
    ∃ s' handler r', s.beginStage f pipe = (s', .ok handler) ∧ Leads s s' ∧
      s'.Active x r' ∧ r'.AtStage rest pipe 1 ∧ r'.AtWork f.name handler := by
  have hnext : r.entry.chain.fragments[r.invoked.length]? = some f := by
    rw [← List.head?_drop, ← hat.rest]
    rfl
  unfold beginStage
  split
  · rename_i s₁ hlookup
    have ha := around_onRegistry hlookup
    exact Or.inl ⟨s₁, _, rfl, leads_of_around ha, active_of_around h ha,
      .declined hc hnext .unknown⟩
  · rename_i s₁ d hlookup
    have ha₁ := around_onRegistry hlookup
    split
    · rename_i s₂ fault hverify
      have ha := ha₁.trans (around_onRegistry hverify)
      have hresult := (Prod.mk.inj hverify).2
      exact Or.inl ⟨s₂, _, rfl, leads_of_around ha, active_of_around h ha,
        .declined hc hnext (.fault hresult)⟩
    · rename_i s₂ p hverify
      have ha := ha₁.trans (around_onRegistry hverify)
      have hresult := (Prod.mk.inj hverify).2
      exact Or.inl ⟨s₂, _, rfl, leads_of_around ha, active_of_around h ha,
        .declined hc hnext (.refused hresult)⟩
    · rename_i s₂ flags hverify
      have ha₂ := ha₁.trans (around_onRegistry hverify)
      dsimp only
      split
      -- the token is looked at once more just before the handler is called
      · rename_i interruption hi
        have ha := ha₂.trans (around_record s₂ .engine s!"fragmentAborted {f.name}")
        exact Or.inl ⟨_, _, rfl, leads_of_around ha, active_of_around h ha,
          raises_of_interruption? (active_of_around h ha₂) hat hi⟩
      · have ha := ha₂.trans (around_record s₂ .engine s!"run {f.name}")
        have hactive := active_of_around h ha
        refine Or.inr ⟨_, _, _, rfl, leads_trans (leads_of_around ha) (leads_onEngine ?_),
          active_onEngine hactive ?_ h.phase, Run.atStage_invoke hat _ _,
          Run.atWork_invoke _ d.handler _⟩
        · refine ⟨r, hactive.run, h.phase, hc, hat.count.symm, ?_, hat.pipe, f, hnext, rfl, rfl⟩
          rw [hactive.run]
          rfl
        · rintro status result ⟨⟩

theorem isOf_runHandler (h : Handler) (s : Session) : (runHandler h s).2.IsOf h := by
  induction h generalizing s with
  | done outcome => exact .refl _
  | fail failure => exact .refl _
  | pause p rest ih =>
      cases p with
      | release =>
          unfold runHandler
          split
          · exact Stop.isOf_of_comesTo (.pause _ (.refl rest)) (ih s)
          · exact .refl _
      | _ => exact .refl _
  | ask r rest ih =>
      unfold runHandler
      exact Stop.isOf_of_comesTo (.ask r _ (.refl _)) (ih _ _)

/-- A handler at work, and the stages after it. -/
theorem arrives_carryOn {rest : List Fragment} {next : Pipe → Session → Session × Stand}
    {name : String} {pipe : Pipe} {handler : Handler} (h : s.Active x r)
    (hat : r.AtStage rest pipe 1) (hwork : r.AtWork name handler)
    (hnext : ∀ {s : Session} {r : Run} {pipe : Pipe}, s.Active x r → r.AtStage rest pipe 0 →
      s.Arrives x (next pipe s)) :
    s.Arrives x (carryOn rest next name pipe (runHandler handler s)) := by
  have hcalls := calls_runHandler handler s
  have hof := isOf_runHandler handler s
  generalize runHandler handler s = there at hcalls hof ⊢
  obtain ⟨s₁, stop⟩ := there
  obtain ⟨r₁, h₁, hsame⟩ := active_of_calls h hcalls
  have hat₁ := Run.atStage_congr hat hsame
  have hwork₁ := Run.atWork_congr hwork hsame
  refine arrives_of_leads (leads_of_calls hcalls) ?_
  cases stop with
  | done outcome =>
      simp only [carryOn]
      cases hpipe : outcome.toPipe name with
      | ok result =>
          have hactive := active_onEngine (m := .handOn result) h₁ (by rintro _ _ ⟨⟩) h₁.phase
          have hmove := leads_onEngine (m := .handOn result) ⟨r₁, h₁.run, h₁.phase, hat₁.count,
            name, outcome, Run.atWork_of_comesTo hwork₁ hof, hpipe⟩
          exact arrives_of_leads hmove (hnext hactive (Run.atStage_handOn hat₁ result))
      | error failure =>
          exact arrives_broken (leads_refl s₁) h₁ hat₁.pipe
            (.answered hat₁.count (Run.atWork_of_comesTo hwork₁ hof) hpipe)
  | failed failure =>
      exact arrives_broken (leads_refl s₁) h₁ hat₁.pipe
        (.failed hat₁.count (Run.atWork_of_comesTo hwork₁ hof))
  | paused p handler =>
      refine ⟨leads_refl s₁, ⟨r₁, h₁, hat₁, ?_⟩, by rintro _ _ ⟨⟩⟩
      exact Run.atWork_of_comesTo hwork₁ (hof.trans (.pause p (.refl _)))

/-- **The stages of a chain**, from one on: each is begun at its place, with what the
one before has handed on. -/
theorem arrives_runStages {fs : List Fragment} {pipe : Pipe} (h : s.Active x r)
    (hat : r.AtStage fs pipe 0) : s.Arrives x (runStages fs pipe s) := by
  -- the session, the chain and the pipe are those at the stage that is reached
  induction fs generalizing s r pipe with
  | nil =>
      unfold runStages
      split
      · rename_i hi
        exact arrives_broken (leads_refl s) h hat.pipe (raises_of_interruption? h hat hi)
      · rename_i hi
        exact ⟨leads_refl s, ⟨r, h, hat, isCancelled_of_interruption? h hi⟩, by rintro _ _ ⟨⟩⟩
  | cons f rest ih =>
      unfold runStages
      split
      · rename_i hi
        have ha := around_record s .engine s!"chainAborted {s.label}"
        exact arrives_broken (leads_of_around ha) (active_of_around h ha) hat.pipe
          (raises_of_interruption? h hat hi)
      · rename_i hi
        have hc := isCancelled_of_interruption? h hi
        rcases beginStage_cases h hat hc with ⟨s₁, failure, heq, hleads, h₁, hraises⟩ |
          ⟨s₁, handler, r₁, heq, hleads, h₁, hat₁, hwork₁⟩
        · rw [heq]
          exact arrives_broken hleads h₁ hat.pipe hraises
        · rw [heq]
          exact arrives_of_leads hleads (arrives_carryOn h₁ hat₁ hwork₁ ih)

/-- A chain is taken up where its handler has paused, or it begins. -/
theorem proceed_cases (s : Session) (hphase : r.phase ≠ .active)
    (hpacing : ∀ result, r.phase ≠ .pacing result) :
    (∃ p, r.phase = .suspended p ∧ s.proceed r = carryOn p.rest (runStages p.rest) p.name p.pipe
      (runHandler p.handler (s.setPhase .active))) ∨
    (r.phase = .fresh ∧ s.proceed r = runStages r.entry.chain.fragments none
      ((s.setPhase .active).report .engine .info "chain started"
        [("chain", .str r.entry.label)])) := by
  unfold proceed
  cases hp : r.phase with
  | fresh => exact Or.inr ⟨rfl, rfl⟩
  | active => exact absurd hp hphase
  | suspended p => exact Or.inl ⟨p, rfl, rfl⟩
  | pacing result => exact absurd hp (hpacing result)

/-- A chain whose delay is over ends, and any other one is carried out. -/
theorem runChain_cases (hr : s.engine.run = some r) (hphase : r.phase ≠ .active) :
    (∃ result, r.phase = .pacing result ∧ s.runChain = s.finish .completed result) ∨
    ((∀ result, r.phase ≠ .pacing result) ∧
      s.runChain = (s.proceed r).1.conclude (s.proceed r).2) := by
  unfold runChain
  rw [hr]
  dsimp only
  split
  · rename_i result hp
    exact Or.inl ⟨result, hp, rfl⟩
  · rename_i hp
    exact absurd hp hphase
  · rename_i hpacing _
    exact Or.inr ⟨hpacing, rfl⟩

/-- The running chain is begun, or taken up where its handler has paused. -/
theorem arrives_proceed (hr : s.engine.run = some r) (hfits : r.PhaseFits) (hstep : r.InStep)
    (hpacing : ∀ result, r.phase ≠ .pacing result) (hphase : r.phase ≠ .active)
    (hturns : s.turns = 0) (hsleeps : s.sleeps = 0) :
    s.Arrives r.entry (s.proceed r) := by
  have hbegin := leads_onEngine (s := s) (m := .phase .active) ⟨r, hr, trivial⟩
  have hactive := active_setPhase hr hturns hsleeps
  unfold Run.PhaseFits at hfits
  rcases proceed_cases s hphase hpacing with ⟨p, hp, heq⟩ | ⟨hp, heq⟩
  · rw [heq]
    rw [hp] at hfits
    obtain ⟨hcount, hpipe, hrest, hwork⟩ := hfits
    refine arrives_of_leads hbegin (arrives_carryOn hactive ?_ hwork arrives_runStages)
    exact ⟨hrest, hpipe, hcount, hstep.invoked_length_le⟩
  · rw [heq]
    rw [hp] at hfits
    obtain ⟨hinvoked, hproduced⟩ := hfits
    have ha := around_report (s.setPhase .active) .engine .info "chain started"
      [("chain", .str r.entry.label)]
    refine arrives_of_leads (leads_trans hbegin (leads_of_around ha))
      (arrives_runStages (active_of_around hactive ha) ?_)
    refine ⟨?_, ?_, ?_, hstep.invoked_length_le⟩
    · simp [hinvoked]
    · simp [Run.lastPipe, hproduced]
    · simp [hinvoked, hproduced]

end Session

end CommandShell
