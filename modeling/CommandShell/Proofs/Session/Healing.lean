import CommandShell.Proofs.Session.Build
import CommandShell.Proofs.Session.Watching

/-!
# Self-healing

A session with the built-in commands may lose its engine or its registry to a command
that disables them. Then lines that are handed in get lost, and no prompt is opened any
more. Once the watchdog has looked around and nothing is disabled after that, this is
over: whenever nothing runs and nobody who interrupted is about to recover, both
services are enabled, no chain waits, and a prompt is open (`healed_of_watch`).
-/

namespace CommandShell.Session

variable {critical : List Value} {s s' s₀ t u : Session}

/-! ## What happens to a session -/

theorem tended_release (h : Tended critical s) : Tended critical s.release := by
  have hminds := minds_onEngine s .release
  refine ⟨kept_onEngine h.toKept trivial (by rintro ⟨⟩), ?_⟩
  refine prompts_mono h.prompts ?_ ?_ hminds.prompt hminds.pending ?_
  · unfold release
    rw [onEngine_engine, Engine.life_apply]
    exact id
  · unfold release
    rw [registry_onEngine]
    exact id
  · intro _ howes
    unfold release
    rw [onEngine_engine]
    exact Or.inr (Engine.owes_release howes)

theorem tended_takes (h : Tended critical s) {job : Job} (hjob : job.caller? = none)
    (ht : Takes s job t) : Tended critical t := by
  obtain ⟨he, hr, -⟩ := takes_eq ht
  exact tended_of_minds h (minds_takes hjob ht) he (congrArg _ hr)

/-- **Work leaves the session tended.** -/
theorem tended_works (h : Tended critical s) (hw : Works s s') : Tended critical s' := by
  cases hw with
  | clock now => exact tended_of_minds h (minds_of_eq rfl rfl rfl rfl rfl rfl rfl rfl) rfl rfl
  | release => exact tended_release h
  | job htakes =>
      rename_i job t
      cases job with
      | chain => exact tended_runChain (tended_takes h rfl htakes)
      | caller label => exact tended_resumeCaller h htakes
      | watch => exact tended_watch (tended_takes h rfl htakes)
      | arm => exact tended_arm (tended_takes h rfl htakes)

/-- Somebody hands in a line or interrupts, or work is done. -/
inductive Happens (s : Session) : Session → Prop
  | line {text : String} {s' : Session} (h : HandsIn s text s') : Happens s s'
  | interruption {s' : Session} (h : Interrupts s s') : Happens s s'
  | work {s' : Session} (h : Works s s') : Happens s s'

/-- Neither the engine nor the registry has been disabled. -/
structure Spares (s t : Session) : Prop where
  engine : s.isEnabled .engine = true → t.isEnabled .engine = true
  registry : s.isEnabled .registry = true → t.isEnabled .registry = true

/-- Whatever happens, as long as it disables neither the engine nor the registry. -/
def Undisturbed (s t : Session) : Prop := Happens s t ∧ Spares s t

theorem reaches_happens (h : Happens s s') : Reaches s s' := by
  cases h with
  | line hline => exact reaches_handsIn hline
  | interruption hinterrupts => exact reaches_interrupts hinterrupts
  | work hworks => exact reaches_works hworks

theorem tended_happens (h : Tended critical s) (hs : Happens s s') : Tended critical s' := by
  cases hs with
  | line hline => exact tended_handsIn h hline
  | interruption hinterrupts => exact tended_interrupts h hinterrupts
  | work hworks => exact tended_works h hworks

theorem tended_of_run (h : Tended critical s) (hrun : Relation.ReflTransGen Happens s t) :
    Tended critical t := by
  induction hrun with
  | refl => exact h
  | tail _ hstep ih => exact tended_happens ih hstep

theorem spares_of_run (hrun : Relation.ReflTransGen Undisturbed s t) : Spares s t := by
  induction hrun with
  | refl => exact ⟨id, id⟩
  | tail _ hstep ih => exact ⟨hstep.2.engine ∘ ih.engine, hstep.2.registry ∘ ih.registry⟩

/-! ## Looks of the watchdog -/

/-- The watchdog has looked at all critical services. It does so when it has its turn
and is enabled, unless one of them is no name (`looks_of_takes`). -/
inductive Looks (s : Session) : Session → Prop
  | watch {t : Session} {names : List String} (htakes : Takes s .watch t)
      (hon : t.isEnabled .watchdog = true) (hall : t.check.2 = .ok names) : Looks s t.watch

theorem looks_of_takes (h : Tended critical s) (hkeys : ∀ v ∈ critical, v.isKey = true)
    (htakes : Takes s .watch t) (hon : t.isEnabled .watchdog = true) : Looks s t.watch := by
  have ht := tended_takes h rfl htakes
  have hlooked := looked_checkServices ht.toKept t.watchdog.critical
  rw [ht.furnished.critical] at hlooked
  have hall : ∃ names, t.check.2 = .ok names := by
    rw [check_of_isEnabled hon, ht.furnished.critical]
    generalize t.checkServices critical = there at hlooked
    obtain ⟨t', result⟩ := there
    cases result with
    | ok names => exact ⟨names, rfl⟩
    | error f =>
        obtain ⟨v, hv, hkey⟩ := hlooked.fails f rfl
        rw [hkeys v hv] at hkey
        cases hkey
  obtain ⟨names, hall⟩ := hall
  exact .watch htakes hon hall

theorem happens_of_looks (h : Looks s u) : Happens s u := by
  obtain ⟨htakes, -, -⟩ := h
  exact .work (.job htakes)

/-- A look leaves the critical services enabled, each of which can be looked up. -/
theorem enabled_of_looks (h : Tended critical s) (hl : Looks s u) :
    (∀ v, .str (Service.name v) ∈ critical → u.isEnabled v = true) ∧
      ∀ v ∈ critical, v.isKey = true := by
  obtain ⟨htakes, hon, hall⟩ := hl
  rename_i t names
  have ht := tended_takes h rfl htakes
  have hlooked := looked_checkServices ht.toKept t.watchdog.critical
  rw [ht.furnished.critical] at hlooked
  have hwatch : t.watch = t.check.1.arm := by
    unfold watch
    generalize t.check = there at hall
    obtain ⟨t', result⟩ := there
    obtain rfl : result = .ok names := hall
    rfl
  have hchecked : ∃ names, (t.checkServices critical).2 = .ok names ∧
      ∀ v, t.check.1.isEnabled v = (t.checkServices critical).1.isEnabled v := by
    rw [check_of_isEnabled hon, ht.furnished.critical] at hall ⊢
    generalize t.checkServices critical = there at hall
    obtain ⟨t', result⟩ := there
    cases result with
    | error f => cases hall
    | ok names =>
        refine ⟨names, rfl, ?_⟩
        intro v
        show (if names.isEmpty = true then t' else t'.requestPrompt).isEnabled v = t'.isEnabled v
        split
        · rfl
        · exact congrArg Lifecycle.enabled ((steady_requestPrompt t').life v)
  obtain ⟨names, hnames, hsame⟩ := hchecked
  obtain ⟨hkeys, henabled, -⟩ := hlooked.ends names hnames
  refine ⟨?_, hkeys⟩
  intro v hv
  rw [hwatch, isEnabled_arm, hsame]
  exact henabled v hv

/-- **The watchdog heals the session.** Before the look, anything may have happened, and
after it anything that does not disable the engine or the registry, more lines included.
The session is looked at whenever nothing runs and nobody who interrupted is about to
recover. Where all critical services are given by name, the watchdog looks in its every turn. -/
theorem healed_of_watch {settings : Settings} {name : String} {clock : Clock}
    {reports canClear : Bool} (hbuild : build settings name clock reports canClear = .ok s₀)
    (hcommandline : .str "commandline" ∈ settings.registered)
    (hengine : .str "commandexec" ∈ settings.critical)
    (hregistry : .str "commands" ∈ settings.critical)
    (hrun : Relation.ReflTransGen Happens s₀.start s) :
    ((∀ v ∈ settings.critical, v.isKey = true) →
      ∀ u, Takes s .watch u → u.isEnabled .watchdog = true → Looks s u.watch) ∧
    ∀ u t, Looks s u → Relation.ReflTransGen Undisturbed u t → t.engine.run = none →
      ¬ t.IsPending →
        t.isEnabled .engine = true ∧ t.isEnabled .registry = true ∧ t.engine.queue = [] ∧
          t.hasPrompt = true := by
  have hs := tended_of_run (tended_start hbuild hcommandline) hrun
  refine ⟨fun hkeys u htakes hwatchdog => looks_of_takes hs hkeys htakes hwatchdog,
    fun u t hlooks hon hidle hpending => ?_⟩
  have hu := tended_happens hs (happens_of_looks hlooks)
  have hafter : Relation.ReflTransGen Happens u t :=
    Relation.ReflTransGen.mono (fun _ _ (hstep : Undisturbed _ _) => hstep.1) u t hon
  have ht := tended_of_run hu hafter
  obtain ⟨hcritical, hkeys⟩ := enabled_of_looks hs hlooks
  have hspares := spares_of_run hon
  have he : t.isEnabled .engine = true := hspares.engine (hcritical .engine hengine)
  have hr : t.isEnabled .registry = true := hspares.registry (hcritical .registry hregistry)
  have hqueue : t.engine.queue = [] := by
    by_contra hne
    exact hpending (ht.stalled ⟨he, hidle, hne⟩)
  refine ⟨he, hr, hqueue, ?_⟩
  rcases ht.prompts hkeys he hr with hprompt | hp | howes
  · exact hprompt
  · exact absurd hp hpending
  · rcases howes with ⟨x, hx, -⟩ | ⟨r, hrun, -⟩
    · rw [hqueue] at hx
      cases hx
    · rw [hidle] at hrun
      cases hrun

/-! ## A session that had lost its engine -/

namespace Lost

/-- Both services are critical, and the watchdog looks around every 280 ms. -/
def settings : Settings where
  config := .null
  fingerprint := ""
  eventLimit := none
  stepDelay := .int 0
  historyLimit := none
  interval := .int 280
  critical := [.str "commandexec", .str "commands"]
  transcriptLimit := 0
  diagnostics := true
  watchdog := true
  registered := [.str "obuffer", .str "commandline", .str "service"]

def built : Session := (build settings "s" {} true true).toOption.getD {}

/-- A line has disabled the engine, so what follows that line is left in the queue. -/
def bricked : Session :=
  (built.start.settle.submit "service disable commandexec --confirm").settle

/-- The first look of the watchdog is due. -/
def due : Session := { bricked with timers := bricked.timers.erase ⟨280, .watch⟩, now := 280 }

/-- The next chain has its turn. -/
def onward (s : Session) : Session :=
  ({ s with ready := s.ready.erase .chain } : Session).doJob .chain

def healed : Session := onward (onward due.watch)

theorem build_eq : build settings "s" {} true true = .ok built :=
  build_of_isOk (by decide +kernel)

theorem happens_bricked : Relation.ReflTransGen Happens built.start bricked := by
  have hworks {s t : Session} (h : WorksOn s t) : Relation.ReflTransGen Happens s t :=
    Relation.ReflTransGen.mono (fun _ _ (hstep : Works _ _) => .work hstep) s t h
  exact ((hworks (worksOn_settle _)).tail (.line .submit)).trans (hworks (worksOn_settle _))

theorem takes_due : Takes bricked .watch due :=
  .timer (t := ⟨280, .watch⟩) (by decide +kernel) 280

theorem undisturbed_onward {s : Session} (hready : Job.chain ∈ s.ready)
    (hengine : (onward s).isEnabled .engine = true)
    (hregistry : (onward s).isEnabled .registry = true) : Undisturbed s (onward s) :=
  ⟨.work (.job (.ready hready)), fun _ => hengine, fun _ => hregistry⟩

theorem undisturbed_healed : Relation.ReflTransGen Undisturbed due.watch healed := by
  have hfirst : Undisturbed due.watch (onward due.watch) :=
    undisturbed_onward (by decide +kernel) (by decide +kernel) (by decide +kernel)
  have hsecond : Undisturbed (onward due.watch) healed :=
    undisturbed_onward (by decide +kernel) (by decide +kernel) (by decide +kernel)
  exact (Relation.ReflTransGen.single hfirst).tail hsecond

end Lost

/-- The lines that are left in the queue run as soon as the engine is back. -/
theorem healed_bricked : Lost.bricked.isEnabled .engine = false ∧
    Lost.bricked.engine.queue.length = 2 ∧ Lost.bricked.hasPrompt = false ∧
    Lost.healed.isEnabled .engine = true ∧ Lost.healed.isEnabled .registry = true ∧
    Lost.healed.engine.queue = [] ∧ Lost.healed.hasPrompt = true := by
  obtain ⟨hevery, hheals⟩ := healed_of_watch Lost.build_eq (by simp [Lost.settings])
    (by simp [Lost.settings]) (by simp [Lost.settings]) Lost.happens_bricked
  have hlooks : Looks Lost.bricked Lost.due.watch :=
    hevery (by decide) Lost.due Lost.takes_due (by decide +kernel)
  have hidle : Lost.healed.engine.run = none := Option.isNone_iff_eq_none.mp (by decide +kernel)
  have hpending : ¬ Lost.healed.IsPending := by
    have hnone : Lost.healed.callers = [] := List.isEmpty_iff.mp (by decide +kernel)
    unfold IsPending
    rw [hnone]
    rintro ⟨_, ⟨⟩, -⟩
  exact ⟨by decide +kernel, by decide +kernel, by decide +kernel,
    hheals _ _ hlooks Lost.undisturbed_healed hidle hpending⟩

end CommandShell.Session
