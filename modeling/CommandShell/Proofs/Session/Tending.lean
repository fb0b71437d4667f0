import CommandShell.Proofs.Engine.Owed
import CommandShell.Proofs.Engine.WakeUp
import CommandShell.Proofs.Session.Look
import CommandShell.Proofs.Session.Scene
import CommandShell.Proofs.Session.Upkeep
import CommandShell.Proofs.Session.Work

/-!
# Sessions in which somebody will open a prompt

A session with the built-in commands is never left alone (`Tended`): as long as no
prompt is open, somebody who interrupted has not recovered yet, or the chain that opens
one is still to be run, or the engine or the registry is disabled. And a queue whose
engine is enabled waits only for a chain that runs or for somebody to recover. Lines
and interruptions leave it so (`tended_handsIn`, `tended_interrupts`), and so do the
running chain and whoever waited and goes on (`tended_runChain`, `tended_resumeCaller`).
-/

namespace CommandShell

/-- A move that comes from outside, adds no hook and does not disable the engine. -/
def Move.IsGentle : Move → Prop
  | .call (.enqueue _) | .call .resume | .call .enable | .call (.interrupt _) | .release => True
  | _ => False

/-- A gentle move that cancels the running chain. -/
def Move.Cancels : Move → Prop
  | .call (.interrupt _) => True
  | _ => False

namespace Session

variable {critical : List Value} {s s' t u : Session} {r : Run}

/-! ## What a tended session is like -/

/-- What it takes to open a prompt is there, and the watchdog knows all services. -/
structure Furnished (critical : List Value) (s : Session) : Prop where
  tame : s.registry.IsTame
  command : s.registry.definitions.get? "commandline" = some Builtin.commandline
  group : s.registry.groups.get? "commandline" = some "commandline"
  registered : "commandline" ∈ s.registry.registered
  surface : s.surface.isSome = true
  critical : s.watchdog.critical = critical
  watched : ∀ v, v ∈ s.watched
  broken : s.broken = []

structure Manned (critical : List Value) (s : Session) : Prop where
  furnished : Furnished critical s
  attended : s.Attended
  initialized : s.engine.life.initialized = true

/-- The running chain is about to begin, or its delay has begun. Nothing is called when
it is cancelled, and if it is, somebody waits for its end. -/
structure Orderly (s : Session) (r : Run) : Prop where
  phase : (r.phase = .fresh ∧ s.engine.life.enabled = true) ∨ ∃ result, r.phase = .pacing result
  hooks : r.token.hooks = []
  awaited : r.token.isCancelled = true → s.IsAwaited

structure Kept (critical : List Value) (s : Session) : Prop extends Manned critical s where
  orderly : ∀ r, s.engine.run = some r → s.Orderly r
  stalled : s.engine.Stalled → s.IsPending

/-- A prompt is open, or somebody will open one. A look of the watchdog that fails keeps
it from that, so this is for critical services that can be looked up. -/
def Prompts (critical : List Value) (s : Session) : Prop :=
  (∀ v ∈ critical, v.isKey = true) → s.engine.life.enabled = true →
    s.registry.life.enabled = true →
      s.hasPrompt = true ∨ s.IsPending ∨ s.engine.Owes (Chain.single "commandline")

structure Tended (critical : List Value) (s : Session) : Prop extends Kept critical s where
  prompts : s.Prompts critical

/-! ## What changes nothing for the engine -/

theorem furnished_of_minds (h : Furnished critical s) (hm : Minds s t) : Furnished critical t where
  tame := isTame_of_minds h.tame hm
  command := by rw [hm.definitions]; exact h.command
  group := by rw [hm.groups]; exact h.group
  registered := by rw [hm.registered]; exact h.registered
  surface := by rw [hm.surface]; exact h.surface
  critical := by rw [hm.critical]; exact h.critical
  watched := by rw [hm.watched]; exact h.watched
  broken := by rw [hm.broken]; exact h.broken

theorem manned_of_serves (h : Manned critical s) (hs : Serves s t) : Manned critical t where
  furnished := furnished_of_minds h.furnished hs.toMinds
  attended := hs.attended h.attended
  initialized := hs.initialized.trans h.initialized

theorem orderly_of_eq (h : s.Orderly r) (he : t.engine = s.engine)
    (ha : s.IsAwaited → t.IsAwaited) : t.Orderly r where
  phase := by rw [he]; exact h.phase
  hooks := h.hooks
  awaited hc := ha (h.awaited hc)

theorem kept_of_minds (h : Kept critical s) (hm : Minds s t) (he : t.engine = s.engine) :
    Kept critical t where
  toManned := manned_of_serves h.toManned (serves_of_minds hm he)
  orderly := by
    intro r hr
    rw [he] at hr
    exact orderly_of_eq (h.orderly r hr) he hm.awaited
  stalled := by
    rw [he]
    exact hm.pending ∘ h.stalled

/-- A session that prompts goes on doing so when nothing is enabled and the chain that
opens the prompt is still to be run, or has been. -/
theorem prompts_mono (h : s.Prompts critical)
    (hengine : t.engine.life.enabled = true → s.engine.life.enabled = true)
    (hregistry : t.registry.life.enabled = true → s.registry.life.enabled = true)
    (hprompt : s.hasPrompt = true → t.hasPrompt = true) (hpending : s.IsPending → t.IsPending)
    (howes : s.registry.life.enabled = true → s.engine.Owes (Chain.single "commandline") →
      t.hasPrompt = true ∨ t.engine.Owes (Chain.single "commandline")) :
    t.Prompts critical := by
  intro hkeys he hr
  have hr' := hregistry hr
  rcases h hkeys (hengine he) hr' with hp | hp | ho
  · exact Or.inl (hprompt hp)
  · exact Or.inr (Or.inl (hpending hp))
  · rcases howes hr' ho with hp | ho
    · exact Or.inl hp
    · exact Or.inr (Or.inr ho)

theorem prompts_of_minds (h : s.Prompts critical) (hm : Minds s t) (he : t.engine = s.engine)
    (hr : t.registry.life = s.registry.life) : t.Prompts critical := by
  refine prompts_mono h ?_ ?_ hm.prompt hm.pending ?_
  · rw [he]
    exact id
  · rw [hr]
    exact id
  · rw [he]
    exact fun _ => Or.inr

theorem tended_of_minds (h : Tended critical s) (hm : Minds s t) (he : t.engine = s.engine)
    (hr : t.registry.life = s.registry.life) : Tended critical t :=
  ⟨kept_of_minds h.toKept hm he, prompts_of_minds h.prompts hm he hr⟩

/-! ## Moves of the engine -/

theorem manned_onEngine (h : Manned critical s) (m : Move) : Manned critical (s.onEngine m) where
  furnished := furnished_of_minds h.furnished (minds_onEngine s m)
  attended := attended_onEngine h.attended m
  initialized := by
    rw [onEngine_engine, Engine.initialized_apply]
    exact h.initialized

theorem orderly_start (x : Entry) (he : s.engine.life.enabled = true) :
    s.Orderly (Run.start x) := by
  constructor
  · exact Or.inl ⟨rfl, he⟩
  · rfl
  · rintro ⟨⟩

/-- The running chain stays orderly, if somebody waits for it when it is cancelled. -/
theorem orderly_onEngine (h : ∀ r, s.engine.run = some r → s.Orderly r) {m : Move}
    (hm : m.IsGentle) (hc : m.Cancels → s.engine.isRunning = true → s.IsAwaited)
    (hr : (s.onEngine m).engine.run = some r) : (s.onEngine m).Orderly r := by
  have hlife : s.engine.life.enabled = true → (s.onEngine m).engine.life.enabled = true := by
    intro he
    rw [onEngine_engine, Engine.life_apply]
    split
    · rfl
    · exact hm.elim
    · exact he
  rw [onEngine_engine] at hr
  rcases Engine.run_apply_land s.engine m with heq | ⟨-, henabled, x, heq⟩
  · obtain ⟨r₀, hr₀, rfl⟩ : ∃ r₀, s.engine.run = some r₀ ∧ r = r₀.apply m := by
      rw [heq, Engine.land_run] at hr
      split at hr
      · cases hr
      · obtain ⟨r₀, hr₀, heq⟩ := Option.map_eq_some_iff.mp hr
        exact ⟨r₀, hr₀, heq.symm⟩
    have ho := h r₀ hr₀
    have haw : s.IsAwaited → (s.onEngine m).IsAwaited := fun ha => isAwaited_onEngine ha m
    have hsame (hphase : (r₀.apply m).phase = r₀.phase) (htoken : (r₀.apply m).token = r₀.token) :
        (s.onEngine m).Orderly (r₀.apply m) := by
      constructor
      · rw [hphase]
        exact ho.phase.imp (fun hp => ⟨hp.1, hlife hp.2⟩) id
      · rw [htoken]
        exact ho.hooks
      · rw [htoken]
        exact fun hcancelled => haw (ho.awaited hcancelled)
    cases m with
    | call c =>
        cases c with
        | interrupt reason =>
            constructor
            · exact ho.phase.imp (fun hp => ⟨hp.1, hlife hp.2⟩) id
            · show (r₀.token.cancel reason).1.hooks = []
              unfold Token.cancel
              split
              · exact ho.hooks
              · rfl
            · intro _
              exact haw (hc trivial (by rw [Engine.isRunning, hr₀]; rfl))
        | enqueue chain => exact hsame rfl rfl
        | resume => exact hsame rfl rfl
        | enable => exact hsame rfl rfl
        | disable => exact hm.elim
        | cancel reason => exact hm.elim
    | release =>
        -- a chain that is not suspended notes that it was released
        have hphase : (r₀.apply .release) = { r₀ with released := true } := by
          show r₀.release = _
          unfold Run.release
          rcases ho.phase with ⟨hp, -⟩ | ⟨result, hp⟩ <;> rw [hp]
        exact hsame (by rw [hphase]) (by rw [hphase])
    | _ => exact hm.elim
  · rw [heq] at hr
    obtain rfl := Option.some.inj hr
    exact orderly_start x (by rw [onEngine_engine]; exact henabled)

theorem kept_onEngine (h : Kept critical s) {m : Move} (hm : m.IsGentle)
    (hc : m.Cancels → s.engine.isRunning = true → s.IsAwaited) : Kept critical (s.onEngine m) where
  toManned := manned_onEngine h.toManned m
  orderly _ hr := orderly_onEngine h.orderly hm hc hr
  stalled := by
    intro hs
    rw [onEngine_engine] at hs
    rcases Engine.stalled_apply h.initialized hs with ⟨r, status, result, rfl, -⟩ | ⟨hs, -⟩
    · exact hm.elim
    · exact isPending_onEngine (h.stalled hs) m

theorem kept_make (h : Kept critical s) {c : Call} (hm : (Move.call c).IsGentle)
    (hc : (Move.call c).Cancels → s.engine.isRunning = true → s.IsAwaited) :
    Kept critical (s.make c) := by
  have hrecorded : Kept critical (s.recordAll (s.engine.actions c)) :=
    kept_of_minds h (minds_of_eq rfl rfl rfl rfl rfl rfl rfl rfl) rfl
  exact kept_onEngine hrecorded hm hc

/-- A chain that has begun comes to its end. If it was cancelled, the queue waits for
somebody to recover. -/
theorem tended_finish (h : Manned critical s) (hr : s.engine.run = some r)
    (hphase : r.phase ≠ .fresh) (ha : r.token.isCancelled = true → s.IsAwaited)
    (hp : s.Prompts critical) (status : Status) (result : Pipe) :
    Tended critical (s.finish status result) := by
  have hmanned := manned_onEngine h (.finish status result)
  have hpending : s.IsPending → (s.finish status result).IsPending := fun hs =>
    isPending_wake (isPending_onEngine hs (.finish status result)) _
  have hlife : (s.finish status result).engine.life = s.engine.life := by
    show (s.onEngine (.finish status result)).engine.life = _
    rw [onEngine_engine, Engine.life_apply]
  have hengine : (s.finish status result).engine = s.engine.apply (.finish status result) :=
    onEngine_engine s _
  have hfurnished : Furnished critical (s.finish status result) := by
    obtain ⟨htame, hcommand, hgroup, hregistered, hsurface, hcritical, hwatched, hbroken⟩ :=
      hmanned.furnished
    exact ⟨htame, hcommand, hgroup, hregistered, hsurface, hcritical, hwatched, hbroken⟩
  have hattended : (s.finish status result).Attended := attended_wake hmanned.attended rfl
  refine ⟨⟨⟨hfurnished, hattended, ?_⟩, ?_, ?_⟩, ?_⟩
  · rw [hlife]
    exact h.initialized
  · intro r' hr'
    rw [hengine] at hr'
    rcases Engine.run_apply_land s.engine (.finish status result) with heq | ⟨-, henabled, x, heq⟩
    · rw [heq] at hr'
      cases hr'
    · rw [heq] at hr'
      obtain rfl := Option.some.inj hr'
      exact orderly_start x (by rw [hengine]; exact henabled)
  · intro hs
    rw [hengine] at hs
    rcases Engine.stalled_apply h.initialized hs with ⟨r', -, -, -, hr', hcancelled⟩ | ⟨hs, -⟩
    · obtain rfl := Option.some.inj (hr.symm.trans hr')
      exact hpending (isPending_of_isAwaited (ha hcancelled))
    · obtain ⟨-, hnone, -⟩ := hs
      rw [hr] at hnone
      cases hnone
  · have hminds := minds_onEngine s (.finish status result)
    refine prompts_mono hp ?_ ?_ hminds.prompt hpending ?_
    · rw [hlife]
      exact id
    · show (s.onEngine _).registry.life.enabled = true → _
      rw [registry_onEngine]
      exact id
    · intro _ howes
      right
      rw [hengine]
      exact Engine.owes_finish howes hr hphase status result

/-- The delay of a chain begins. -/
theorem tended_pacing (h : Manned critical s) (hr : s.engine.run = some r)
    (hphase : r.phase ≠ .fresh) (hooks : r.token.hooks = [])
    (ha : r.token.isCancelled = true → s.IsAwaited) (hp : s.Prompts critical) (result : Pipe) :
    Tended critical (s.setPhase (.pacing result)) := by
  have hserves : Serves s (s.setPhase (.pacing result)) :=
    serves_onEngine s (by rintro ⟨⟩)
  have hrun : (s.setPhase (.pacing result)).engine.run =
      some { r with phase := .pacing result } := by
    rw [setPhase, onEngine_engine]
    exact Engine.run_apply hr (by rintro _ _ ⟨⟩)
  refine ⟨⟨manned_of_serves h hserves, ?_, ?_⟩, ?_⟩
  · intro r' hr'
    obtain rfl := Option.some.inj (hrun.symm.trans hr')
    exact ⟨Or.inr ⟨result, rfl⟩, hooks, fun hc => hserves.awaited (ha hc)⟩
  · rintro ⟨-, hnone, -⟩
    rw [hrun] at hnone
    cases hnone
  · refine prompts_mono hp ?_ ?_ hserves.prompt hserves.pending ?_
    · rw [setPhase, onEngine_engine, Engine.life_apply]
      exact id
    · rw [setPhase, registry_onEngine]
      exact id
    · intro _ howes
      right
      rcases howes with ⟨x, hx, hchain⟩ | ⟨r', hr', -, hfresh, -⟩
      · obtain ⟨-, -, -, -, -, hqueue⟩ := hserves.chain r hr
        exact Or.inl ⟨x, hqueue ▸ hx, hchain⟩
      · obtain rfl := Option.some.inj (hr.symm.trans hr')
        exact absurd hfresh hphase

/-! ## Waiting callers -/

theorem furnished_of_eq (h : Furnished critical s) (hr : t.registry = s.registry)
    (hw : t.watchdog = s.watchdog) (hwatched : t.watched = s.watched) (hb : t.broken = s.broken)
    (hs : t.surface.isSome = s.surface.isSome) : Furnished critical t where
  tame := by rw [hr]; exact h.tame
  command := by rw [hr]; exact h.command
  group := by rw [hr]; exact h.group
  registered := by rw [hr]; exact h.registered
  surface := by rw [hs]; exact h.surface
  critical := by rw [hw]; exact h.critical
  watched := by rw [hwatched]; exact h.watched
  broken := by rw [hb]; exact h.broken

theorem kept_await (h : Kept critical s) {label : Nat} (hnew : s.IsUnused label)
    {awaits : Until} (hawaits : awaits ≠ .woken) (errand : Errand) :
    Kept critical (s.await label awaits errand) where
  furnished := furnished_of_eq h.furnished rfl rfl rfl rfl rfl
  attended := attended_await h.attended hnew hawaits errand
  initialized := h.initialized
  orderly r hr := orderly_of_eq (h.orderly r hr) rfl fun ha => isAwaited_await ha label _ _
  stalled hs := isPending_await (h.stalled hs) label _ _

theorem tended_await (h : Tended critical s) {label : Nat} (hnew : s.IsUnused label)
    {awaits : Until} (hawaits : awaits ≠ .woken) (errand : Errand) :
    Tended critical (s.await label awaits errand) where
  toKept := kept_await h.toKept hnew hawaits errand
  prompts := prompts_mono h.prompts id id id (fun hp => isPending_await hp label _ _)
    fun _ => Or.inr

theorem tended_answerCaller (h : Tended critical s) (label : Nat) (result : Pipe) :
    Tended critical (s.answerCaller label result) :=
  tended_of_minds h (minds_of_eq rfl rfl rfl rfl rfl rfl rfl rfl) rfl rfl

theorem tended_join (h : Tended critical s) {label : Nat} (hnew : s.IsUnused label)
    (result : Pipe) : Tended critical (s.join label result) := by
  unfold join
  split
  · exact tended_await h hnew (by rintro ⟨⟩) _
  · exact tended_answerCaller h label result

theorem tended_attend (h : Tended critical s) {label : Nat} (hnew : s.IsUnused label)
    {errand : Errand} (herrand : errand ≠ .recover) : Tended critical (s.attend label errand) := by
  cases errand with
  | collect id =>
      unfold attend
      dsimp only
      split
      · exact tended_answerCaller h label _
      · exact tended_await h hnew (by rintro ⟨⟩) _
  | execute id =>
      unfold attend
      dsimp only
      split
      · exact tended_join h hnew _
      · exact tended_await h hnew (by rintro ⟨⟩) _
  | join result => exact tended_join h hnew result
  | recover => exact absurd rfl herrand

/-- Whoever recovers lets the queue go on and opens a prompt. -/
theorem tended_recover (h : Manned critical s) (ho : ∀ r, s.engine.run = some r → s.Orderly r) :
    Tended critical s.recover := by
  have hflush := minds_flush s
  have hengine := (around_flush s).engine
  have hmanned : Manned critical s.flush := manned_of_serves h (serves_of_minds hflush hengine)
  have horderly : ∀ r, s.flush.engine.run = some r → s.flush.Orderly r := by
    intro r hr
    rw [hengine] at hr
    exact orderly_of_eq (ho r hr) hengine hflush.awaited
  -- after the queue could go on, nothing holds it back
  have hadvance : Kept critical s.flush.advance := by
    refine ⟨manned_onEngine hmanned _, ?_, ?_⟩
    · intro r hr
      exact orderly_onEngine horderly trivial (by rintro ⟨⟩) hr
    · intro hs
      have hnot := Engine.not_stalled_advance s.flush.engine
      have heq : s.flush.advance.engine = s.flush.engine.advance := onEngine_engine s.flush _
      rw [heq] at hs
      exact absurd hs hnot
  obtain ⟨hminds, hprompt⟩ := minds_requestPrompt s.flush.advance
  have hkept := kept_of_minds hadvance hminds (around_requestPrompt _).engine
  refine ⟨hkept, ?_⟩
  intro _ _ _
  exact Or.inl (hprompt hadvance.furnished.surface)

/-! ## Lines and interruptions -/

theorem labels_enqueueLine (s : Session) (text : String) :
    ((s.enqueueLine text).2.callers.map fun c => c.label) = s.callers.map fun c => c.label := by
  have hchains (chains : List Chain) (t : Session) :
      ((chains.foldl (fun s c => s.make (.enqueue c)) t).callers.map fun c => c.label) =
        t.callers.map fun c => c.label := by
    induction chains generalizing t with
    | nil => rfl
    | cons c chains ih => exact (ih _).trans (minds_make t _).labels
  rw [enqueueLine_eq]
  exact hchains _ _

/-- Handing in a line ends with the chain that opens the prompt. -/
theorem tended_enqueueLine (h : Kept critical s) (text : String) :
    Tended critical (s.enqueueLine text).2 := by
  have hclosed : Kept critical s.closePrompt := by
    refine ⟨⟨?_, ⟨h.attended.1, h.attended.2, h.attended.3⟩, h.initialized⟩, ?_, h.stalled⟩
    · exact furnished_of_eq h.furnished rfl rfl rfl rfl Option.isSome_map
    · exact fun r hr => orderly_of_eq (h.orderly r hr) rfl id
  have hchains (chains : List Chain) {t : Session} (ht : Kept critical t) :
      Kept critical (chains.foldl (fun s c => s.make (.enqueue c)) t) := by
    induction chains generalizing t with
    | nil => exact ht
    | cons c chains ih => exact ih (kept_make ht trivial (by rintro ⟨⟩))
  rw [enqueueLine_eq, chainsOf_eq, List.foldl_append]
  have hkept := hchains ((Chain.read? text).toList ++ [Chain.single "obuffer"]) hclosed
  generalize List.foldl _ _ _ = u at hkept
  show Tended critical (u.make (.enqueue (Chain.single "commandline")))
  refine ⟨kept_make hkept trivial (by rintro ⟨⟩), ?_⟩
  intro _ he _
  -- an enabled engine has taken the chain
  have heq : (u.make (.enqueue (Chain.single "commandline"))).engine =
      u.engine.apply (.call (.enqueue (Chain.single "commandline"))) := onEngine_engine _ _
  rw [heq, Engine.life_apply] at he
  rw [heq]
  exact Or.inr (Or.inr (Engine.owes_enqueue he))

/-- **A line leaves the session tended.** -/
theorem tended_handsIn (h : Tended critical s) {text : String} (hs : HandsIn s text s') :
    Tended critical s' := by
  have hline := tended_enqueueLine h.toKept text
  cases hs with
  | submit => exact hline
  | execute hnew =>
      have hfree := isUnused_of_labels hnew (labels_enqueueLine s text)
      unfold execute
      split
      · rename_i heq
        rw [heq] at hline hfree
        exact tended_attend hline hfree (by rintro ⟨⟩)
      · rename_i heq
        rw [heq] at hline hfree
        exact tended_attend hline hfree (by rintro ⟨⟩)

/-- To begin a wait for the end of the running chain does not matter to the engine. -/
theorem await_onEngine (s : Session) (m : Move) (label : Nat) (errand : Errand) :
    (s.onEngine m).await label .ending errand = (s.await label .ending errand).onEngine m := by
  unfold onEngine await wake
  dsimp only
  split <;> simp

/-- Nothing but the engine hears of an interruption. -/
theorem interrupt_eq_make (h : ∀ r, s.engine.run = some r → r.token.hooks = [])
    (reason : Option String) : s.interrupt reason = s.make (.interrupt reason) := by
  have hnone : s.engine.deeds (.call (.interrupt reason)) = [] := by
    unfold Engine.deeds
    cases hr : s.engine.run with
    | none => rfl
    | some r =>
        show (r.token.cancel reason).2.deeds = []
        unfold Token.cancel
        split
        · rfl
        · rw [h r hr]
          rfl
  unfold interrupt call
  rw [hnone, reactAll_nil]

/-- **An interruption leaves the session tended.** The queue is gone, but whoever has
interrupted waits for the running chain and then opens a prompt. -/
theorem tended_interrupts (h : Tended critical s) (hs : Interrupts s s') : Tended critical s' := by
  obtain ⟨hnew, reason⟩ := hs
  rename_i label
  have hrunning : s.engine.isRunning = true →
      (s.make (.interrupt reason)).engine.isRunning = true := by
    intro hr
    obtain ⟨r, hr⟩ := Option.isSome_iff_exists.mp hr
    have heq : (s.make (.interrupt reason)).engine = s.engine.apply (.call (.interrupt reason)) :=
      onEngine_engine _ _
    unfold Engine.isRunning
    rw [heq, Engine.run_apply hr (by rintro _ _ ⟨⟩)]
    rfl
  unfold interruptAndRecover
  rw [interrupt_eq_make fun r hr => (h.orderly r hr).hooks]
  dsimp only
  split
  · -- the wait may as well begin before the chain is cancelled
    have hwait := kept_await h.toKept hnew (show Until.ending ≠ .woken by rintro ⟨⟩) .recover
    have hawaited : (s.await label .ending .recover).IsAwaited :=
      ⟨_, List.mem_append_right _ List.mem_cons_self, rfl, rfl⟩
    have hkept : Kept critical ((s.await label .ending .recover).make (.interrupt reason)) :=
      kept_make hwait trivial fun _ _ => hawaited
    have heq : (s.make (.interrupt reason)).await label .ending .recover =
        (s.await label .ending .recover).make (.interrupt reason) :=
      await_onEngine _ _ label .recover
    rw [heq]
    refine ⟨hkept, ?_⟩
    intro _ _ _
    exact Or.inr (Or.inl ((minds_make _ _).pending (isPending_of_isAwaited hawaited)))
  · rename_i hnone
    have hkept : Kept critical (s.make (.interrupt reason)) :=
      kept_make h.toKept trivial fun _ hr => absurd (hrunning hr) hnone
    exact tended_answerCaller (tended_recover hkept.toManned hkept.orderly) label none

/-! ## The running chain -/

/-- A stage begins that is known, accepted and not cancelled. -/
theorem beginStage_of_accepted {f : Fragment} {d : Definition Program} {flags : Flags}
    (hlookup : (s.registry.lookup f.name).result = some d)
    (hverify : (s.registry.verify f.name f.args f.flags).result = .ok (.accepted flags))
    (hi : s.interruption? = none) (pipe : Pipe) :
    ∃ v, (s.beginStage f pipe).2 = .ok (d.handler v) := by
  unfold beginStage
  split
  · rename_i s₁ heq
    obtain ⟨-, hresult⟩ := onRegistry_eq heq
    rw [hlookup] at hresult
    cases hresult
  · rename_i s₁ d' heq
    obtain ⟨hr₁, hresult⟩ := onRegistry_eq heq
    obtain rfl := Option.some.inj (hlookup.symm.trans hresult)
    rw [Registry.lookup_registry] at hr₁
    have he₁ := (around_onRegistry heq).engine
    split
    · rename_i s₂ fault heq
      obtain ⟨-, hresult⟩ := onRegistry_eq heq
      rw [hr₁, hverify] at hresult
      cases hresult
    · rename_i s₂ problem heq
      obtain ⟨-, hresult⟩ := onRegistry_eq heq
      rw [hr₁, hverify] at hresult
      cases hresult
    · rename_i s₂ flags' heq
      have he₂ := (around_onRegistry heq).engine.trans he₁
      dsimp only
      split
      · rename_i interruption hsome
        unfold interruption? at hsome hi
        rw [he₂, hi] at hsome
        cases hsome
      · exact ⟨_, rfl⟩

/-- To begin a stage shows nothing. -/
theorem surface_beginStage (s : Session) (f : Fragment) (pipe : Pipe) :
    (s.beginStage f pipe).1.surface = s.surface := by
  have hregistry {s₁ s₂ : Session} {ρ : Type} {step : Registry.Step Program ρ} {result : ρ}
      (h : s₁.onRegistry step = (s₂, result)) : s₂.surface = s₁.surface := by
    obtain ⟨rfl, -⟩ := Prod.mk.inj h
    rfl
  have hmove (t : Session) (m : Move) : (t.onEngine m).surface = t.surface := by
    unfold onEngine
    dsimp only
    split <;> rfl
  unfold beginStage
  split
  · rename_i hlookup
    exact hregistry hlookup
  · rename_i hlookup
    split
    · rename_i hverify
      exact (hregistry hverify).trans (hregistry hlookup)
    · rename_i hverify
      exact (hregistry hverify).trans (hregistry hlookup)
    · rename_i hverify
      dsimp only
      split
      · exact (hregistry hverify).trans (hregistry hlookup)
      · exact (hmove _ _).trans ((hregistry hverify).trans (hregistry hlookup))

/-- The chain that opens a prompt does so, if it can be run. -/
theorem hasPrompt_runStages
    (hcommand : s.registry.definitions.get? "commandline" = some Builtin.commandline)
    (hon : s.registry.isRegistered "commandline" = true) (hsurface : s.surface.isSome = true)
    (hi : s.interruption? = none) (pipe : Pipe) :
    (runStages (Chain.single "commandline").fragments pipe s).1.hasPrompt = true := by
  have hlookup : (s.registry.lookup "commandline").result = some Builtin.commandline := by
    simp [Registry.lookup, hcommand, hon]
  have hverify : (s.registry.verify "commandline" [] []).result = .ok (.accepted []) := by
    simp [Registry.verify, Registry.definition?, hcommand, hon]
    rfl
  obtain ⟨v, hhandler⟩ :=
    beginStage_of_accepted (f := { name := "commandline" }) hlookup hverify hi pipe
  have hbegun := surface_beginStage s { name := "commandline" } pipe
  show (runStages [{ name := "commandline" }] pipe s).1.hasPrompt = true
  unfold runStages
  rw [hi]
  dsimp only
  generalize s.beginStage { name := "commandline" } pipe = there at hhandler hbegun
  obtain ⟨s₁, begun⟩ := there
  obtain rfl : begun = .ok (Builtin.commandline.handler v) := hhandler
  -- the handler requests the prompt, and no stage comes after it
  show (runStages [] none (s₁.requestPrompt.onEngine (.handOn none))).1.hasPrompt = true
  have hprompt := (minds_requestPrompt s₁).2 (by rw [hbegun]; exact hsurface)
  have hmoved := (minds_onEngine s₁.requestPrompt (.handOn none)).prompt hprompt
  unfold runStages
  split <;> exact hmoved

/-- Nothing has happened to the engine and the registry either. -/
structure Idles (s t : Session) : Prop extends Minds s t where
  engine : t.engine = s.engine
  moves : t.moves = s.moves
  registry : t.registry = s.registry

theorem idles_of_writes {rs : List Remark} (h : Writes rs s t) : Idles s t := by
  induction h with
  | trans _ _ ih ih' =>
      exact ⟨ih.toMinds.trans ih'.toMinds, ih'.engine.trans ih.engine, ih'.moves.trans ih.moves,
        ih'.registry.trans ih.registry⟩
  | _ => exact ⟨minds_of_eq rfl rfl rfl rfl rfl rfl rfl rfl, rfl, rfl, rfl⟩

/-- A chain that has come to its end is over, or its delay begins. -/
theorem conclude_cases {stand : Stand} (h : stand.IsOver) (s : Session) :
    ∃ u, Idles s u ∧
      ((∃ status result, s.conclude stand = u.finish status result) ∨
        ∃ result, s.conclude stand = u.setPhase (.pacing result) ∨
          ∃ due, s.conclude stand = { u.setPhase (.pacing result) with
            timers := (u.setPhase (.pacing result)).timers ++ [⟨due, .chain⟩] }) := by
  cases stand with
  | paused p rest => exact h.elim
  | broken pipe failure =>
      obtain ⟨u, hwrites, heq⟩ := fail_eq_finish h s pipe
      exact ⟨u, idles_of_writes hwrites, Or.inl ⟨_, _, heq⟩⟩
  | complete pipe =>
      obtain ⟨u, hwrites, heq⟩ := complete_eq s pipe
      have hidles := idles_of_writes hwrites
      unfold conclude
      dsimp only
      rw [heq]
      split
      · -- a delay that is no number is a failure of the chain
        rename_i fault hdelay
        have hf : Failure.fault fault ≠ .cancelled := by rintro ⟨⟩
        obtain ⟨v, hwrites', heq'⟩ := fail_eq_finish hf u pipe
        exact ⟨v, idles_of_writes (hwrites.trans hwrites'), Or.inl ⟨_, _, heq'⟩⟩
      · exact ⟨u, hidles, Or.inl ⟨.completed, pipe, rfl⟩⟩
      · exact ⟨u, hidles, Or.inr ⟨pipe, Or.inl rfl⟩⟩
      · exact ⟨u, hidles, Or.inr ⟨pipe, Or.inr ⟨_, rfl⟩⟩⟩

theorem minds_timer (s : Session) (due : Rat) {job : Job} (hjob : job.caller? = none) :
    Minds s { s with timers := s.timers ++ [⟨due, job⟩] } := by
  refine ⟨rfl, rfl, rfl, rfl, rfl, rfl, rfl, rfl, id, ?_, id, id⟩
  intro ha
  refine ⟨ha.distinct, ha.woken, ?_⟩
  intro t ht
  rcases List.mem_append.mp ht with ht | ht
  · exact ha.timers t ht
  · obtain rfl := List.mem_singleton.mp ht
    exact hjob

theorem tended_timer (h : Tended critical s) (due : Rat) {job : Job} (hjob : job.caller? = none) :
    Tended critical { s with timers := s.timers ++ [⟨due, job⟩] } :=
  tended_of_minds h (minds_timer s due hjob) rfl rfl

/-- What has become of the running chain while its stages were carried out. -/
theorem tended_conclude {stand : Stand} (hover : stand.IsOver) (h : Manned critical s)
    (hr : s.engine.run = some r) (hphase : r.phase ≠ .fresh) (hooks : r.token.hooks = [])
    (ha : r.token.isCancelled = true → s.IsAwaited) (hp : s.Prompts critical) :
    Tended critical (s.conclude stand) := by
  obtain ⟨u, hidles, hcases⟩ := conclude_cases hover s
  have hminds := hidles.toMinds
  have hmanned := manned_of_serves h (serves_of_minds hminds hidles.engine)
  have hr' : u.engine.run = some r := by rw [hidles.engine]; exact hr
  have hp' := prompts_of_minds hp hminds hidles.engine (congrArg _ hidles.registry)
  have ha' : r.token.isCancelled = true → u.IsAwaited := hminds.awaited ∘ ha
  rcases hcases with ⟨status, result, heq⟩ | ⟨result, heq | ⟨due, heq⟩⟩
  · rw [heq]
    exact tended_finish hmanned hr' hphase ha' hp' status result
  · rw [heq]
    exact tended_pacing hmanned hr' hphase hooks ha' hp' result
  · rw [heq]
    exact tended_timer (tended_pacing hmanned hr' hphase hooks ha' hp' result) due rfl

/-- A chain whose stages are carried out opens the prompt if that is what it is for. -/
theorem prompts_proceed (h : Tended critical s) (hr : s.engine.run = some r)
    (hphase : r.phase = .fresh) (he : s.engine.life.enabled = true) :
    Serves s (s.proceed r).1 ∧ (s.proceed r).2.IsOver ∧ (s.proceed r).1.Prompts critical ∧
      ∃ r', (s.proceed r).1.engine.run = some r' ∧ r'.phase ≠ .fresh ∧ r'.token = r.token := by
  have hproceed : s.proceed r = runStages r.entry.chain.fragments none
      ((s.setPhase .active).report .engine .info "chain started"
        [("chain", .str r.entry.label)]) := by
    unfold proceed
    rw [hphase]
  rw [hproceed]
  generalize hs₁ : (s.setPhase .active).report .engine .info "chain started"
    [("chain", .str r.entry.label)] = s₁
  have hserves₁ : Serves s s₁ := by
    subst hs₁
    exact (serves_onEngine s (by rintro ⟨⟩)).trans
      (serves_of_minds (minds_of_eq rfl rfl rfl rfl rfl rfl rfl rfl) rfl)
  have hregistry₁ : s₁.registry = s.registry := by
    subst hs₁
    exact registry_onEngine s _
  have hrun₁ : s₁.engine.run = some { r with phase := .active } := by
    subst hs₁
    show (s.onEngine (.phase .active)).engine.run = _
    rw [onEngine_engine]
    exact Engine.run_apply hr (by rintro _ _ ⟨⟩)
  have hfurnished₁ := furnished_of_minds h.furnished hserves₁.toMinds
  obtain ⟨hstages, hover⟩ := serves_runStages r.entry.chain.fragments none hfurnished₁.tame
  have hserves := hserves₁.trans hstages
  obtain ⟨r', hr', -, htoken, hfresh, -⟩ := hstages.chain _ hrun₁
  refine ⟨hserves, hover, ?_, r', hr', ?_, htoken⟩
  · refine prompts_mono h.prompts (fun _ => he) ?_ hserves.prompt hserves.pending ?_
    · -- a disabled registry has let no stage begin
      intro hon
      by_contra hoff
      have hoff₁ : s₁.registry.life.enabled = false := by
        rw [hregistry₁]
        exact Bool.eq_false_iff.mpr hoff
      rw [disabled_runStages _ none hoff₁] at hon
      cases hon
    · intro hon howes
      rcases howes with ⟨x, hx, hchain⟩ | ⟨r₀, hr₀, hchain, -, hcancelled⟩
      · obtain ⟨-, -, -, -, -, hqueue⟩ := hserves.chain r hr
        exact Or.inr (Or.inl ⟨x, hqueue ▸ hx, hchain⟩)
      · left
        obtain rfl := Option.some.inj (hr.symm.trans hr₀)
        rw [hchain]
        have hregistered : s₁.registry.isRegistered "commandline" = true := by
          rw [hregistry₁]
          simp [Registry.isRegistered, hon, h.furnished.group, h.furnished.registered]
        refine hasPrompt_runStages hfurnished₁.command hregistered hfurnished₁.surface ?_ none
        unfold interruption?
        rw [hrun₁]
        simpa [Token.interruption?, Token.isCancelled] using hcancelled
  · intro hp
    cases hfresh hp

/-- **The running chain leaves the session tended**, whatever it has run. -/
theorem tended_runChain (h : Tended critical s) : Tended critical s.runChain := by
  unfold runChain
  cases hr : s.engine.run with
  | none => exact h
  | some r =>
      dsimp only
      have horderly := h.orderly r hr
      rcases horderly.phase with ⟨hphase, henabled⟩ | ⟨result, hphase⟩
      · obtain ⟨hserves, hover, hprompts, r', hr', hfresh, htoken⟩ :=
          prompts_proceed h hr hphase henabled
        rw [hphase]
        refine tended_conclude hover (manned_of_serves h.toManned hserves) hr' hfresh ?_ ?_ hprompts
        · rw [htoken]
          exact horderly.hooks
        · rw [htoken]
          exact fun hc => hserves.awaited (horderly.awaited hc)
      · rw [hphase]
        refine tended_finish h.toManned hr ?_ horderly.awaited h.prompts .completed result
        rw [hphase]
        rintro ⟨⟩

/-! ## Callers that go on -/

theorem takes_eq {job : Job} (ht : Takes s job t) :
    t.engine = s.engine ∧ t.registry = s.registry ∧ t.watchdog = s.watchdog ∧
      t.watched = s.watched ∧ t.broken = s.broken ∧ t.surface = s.surface := by
  cases ht <;> exact ⟨rfl, rfl, rfl, rfl, rfl, rfl⟩

/-- Work is taken up that is no caller's. -/
theorem minds_takes {job : Job} (hjob : job.caller? = none) (ht : Takes s job t) :
    Minds s t := by
  obtain ⟨-, hr, hw, hwatched, hb, hs⟩ := takes_eq ht
  have hcallers : t.callers = s.callers := by cases ht <;> rfl
  refine ⟨by rw [hr], by rw [hr], by rw [hr], by rw [hw], hwatched, hb, by rw [hs],
    by rw [hcallers], ?_, fun ha => attended_takes ha ht hjob, ?_, ?_⟩
  · unfold hasPrompt
    rw [hs]
    exact id
  · unfold IsPending
    rw [hcallers]
    exact id
  · unfold IsAwaited
    rw [hcallers]
    exact id

/-- **A caller that goes on leaves the session tended.** -/
theorem tended_resumeCaller (h : Tended critical s) {label : Nat}
    (ht : Takes s (.caller label) t) : Tended critical (t.resumeCaller label) := by
  obtain ⟨he, hr, hw, hwatched, hb, hs⟩ := takes_eq ht
  obtain ⟨hattended, hfree, c, hfind, hpending, hawaited⟩ := resumed_of_takes h.attended ht
  have hmanned : Manned critical (t.without label) := by
    refine ⟨furnished_of_eq h.furnished hr hw hwatched hb (by rw [← hs]; rfl), hattended, ?_⟩
    show t.engine.life.initialized = true
    rw [he]
    exact h.initialized
  have horderly : ∀ r, (t.without label).engine.run = some r → (t.without label).Orderly r := by
    intro r hrun
    rw [show (t.without label).engine = s.engine from he] at hrun
    exact orderly_of_eq (h.orderly r hrun) he hawaited
  have hresume : t.resumeCaller label = (t.without label).attend label c.errand := by
    unfold resumeCaller
    rw [hfind]
    rfl
  rw [hresume]
  by_cases hc : c.errand = .recover
  · rw [hc]
    exact tended_answerCaller (tended_recover hmanned horderly) label none
  · -- whoever is still to recover is another one
    have hstays : s.IsPending → (t.without label).IsPending :=
      fun hp => (hpending hp).resolve_left hc
    refine tended_attend ⟨⟨hmanned, horderly, ?_⟩, ?_⟩ hfree hc
    · intro hstalled
      rw [show (t.without label).engine = s.engine from he] at hstalled
      exact hstays (h.stalled hstalled)
    · refine prompts_mono h.prompts ?_ ?_ ?_ hstays ?_
      · rw [show (t.without label).engine = s.engine from he]
        exact id
      · rw [show (t.without label).registry = s.registry from hr]
        exact id
      · unfold hasPrompt
        rw [show (t.without label).surface = s.surface from hs]
        exact id
      · rw [show (t.without label).engine = s.engine from he]
        exact fun _ => Or.inr

end Session

end CommandShell
