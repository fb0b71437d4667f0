import CommandShell.Proofs.Session.Shell
import CommandShell.Proofs.Session.Turns

/-!
# Containment

Whatever befalls a session, a chain ends in one of three ways, and what the session says
of it is what goes with this end (`outcome_of_run`). No handler can keep the engine:
every chain takes finitely many turns, waits for nothing but its turn, a timer or a
release, and leaves its place to the next one. Handlers may return and raise whatever
they like; only the task of the chain they must not end.

They do have a say in what is told. Of a failure with a part that cannot be read no more
is told than came before that part, and then there may be no event of the end, no report,
or not even a line. A delay with no float for its seconds is a failure that comes after
the chain was called completed, and then two ends are told (`outcome_troubled`).
-/

namespace CommandShell

/-! ## Finite delays -/

/-- A finite number: a truth value, an integer, or a float that is neither infinite nor a
NaN. -/
inductive Value.IsFiniteNumber : Value → Prop
  | bool (b : Bool) : IsFiniteNumber (.bool b)
  | int (n : Int) : IsFiniteNumber (.int n)
  | float {x : Binary64} (h : x.toRat?.isSome = true) : IsFiniteNumber (.float x)

/-- If this is a positive integer, there is a finite float for its thousandth. -/
def Value.HasSeconds : Value → Prop
  | .int n => n ≤ 0 ∨ ((Binary64.ofRat (mkRat n 1000)).toRat?).isSome = true
  | _ => True

namespace Delay

theorem ofInt_ne_forever (n : Int) : ofInt n ≠ .ok .forever := by
  unfold ofInt
  split
  · rintro ⟨⟩
  · split <;> rintro ⟨⟩

/-- A positive integer is a delay as far as its thousandth is finite. -/
theorem ofInt_isOk (n : Int) : (∃ d, ofInt n = .ok d) ↔ (Value.int n).HasSeconds := by
  show _ ↔ n ≤ 0 ∨ _
  unfold ofInt
  by_cases hn : n ≤ 0
  · rw [if_pos hn]
    exact iff_of_true ⟨_, rfl⟩ (Or.inl hn)
  · rw [if_neg hn]
    cases Binary64.ofRat (mkRat n 1000) with
    | finite negative exponent fraction => exact iff_of_true ⟨_, rfl⟩ (Or.inr rfl)
    | _ =>
        refine iff_of_false (by rintro ⟨_, ⟨⟩⟩) ?_
        rintro (hle | hfinite)
        · exact hn hle
        · cases hfinite

/-- A finite number is a delay as far as there are so many seconds. -/
theorem isOk_of_isFiniteNumber {v : Value} (h : v.IsFiniteNumber) :
    (∃ d, afterChain v = .ok d) ↔ v.HasSeconds := by
  cases h with
  | bool b =>
      refine iff_of_true ?_ trivial
      cases b with
      | true => exact ⟨.millis 1, by decide +kernel⟩
      | false => exact ⟨.none, rfl⟩
  | int n => exact ofInt_isOk n
  | float => exact iff_of_true ⟨_, rfl⟩ trivial

/-- A finite number is no endless delay. -/
theorem ne_forever_of_isFiniteNumber {v : Value} (h : v.IsFiniteNumber) :
    afterChain v ≠ .ok .forever := by
  cases h with
  | bool b => exact ofInt_ne_forever _
  | int n => exact ofInt_ne_forever n
  | @float x hx =>
      obtain ⟨q, hq⟩ := Option.isSome_iff_exists.mp hx
      intro hforever
      replace hforever : ofFloat x = .forever := Except.ok.inj hforever
      unfold ofFloat at hforever
      rw [hq] at hforever
      split at hforever <;> cases hforever

end Delay

end CommandShell

namespace CommandShell.Session

variable {P : Remark → Prop} {s₀ s t u : Session}

/-! ## What befalls a session -/

/-- Somebody asks the session for something, or work is done. -/
inductive Befalls (s : Session) : Session → Prop
  | request (r : Request) : Befalls s (s.reply r).1
  | execute (label : Nat) (text : String) : Befalls s (s.execute label text)
  | enqueue (label : Nat) (chain : Chain) : Befalls s (s.enqueueAndWait label chain)
  | interrupt (label : Nat) (reason : Option String) :
      Befalls s (s.interruptAndRecover label reason)
  | define (d : Definition Program) (register : Bool) : Befalls s (s.define d register).1
  | start : Befalls s s.start
  | work {t : Session} (h : Works s t) : Befalls s t

/-- Whatever befalls a session, as long as its output stays enabled. -/
def Audibly (s t : Session) : Prop := Befalls s t ∧ t.isEnabled .output = true

/-- Calls come from outside, of which only asides are told and which clear the surface only
if they are made for it, or the running chain takes its turn. -/
theorem befalls_cases (h : Befalls s t) :
    (Calls s t ∧ Tells (t = s.clearSurface) (·.isAside = true) s t) ∨
      ∃ u, Wakes s u ∧ t = u.runChain := by
  have hasides : ∀ remark : Remark, remark.isAside = true → remark.isAside = true := fun _ => id
  cases h with
  | request r =>
      refine Or.inl ⟨calls_reply s r, tells_reply hasides s r ?_⟩
      rintro rfl
      rfl
  | execute label text => exact Or.inl ⟨calls_execute s label text, tells_execute s label text⟩
  | enqueue label chain =>
      refine Or.inl ⟨calls_enqueueAndWait s label chain, ?_⟩
      show Tells _ _ s ((s.make (.enqueue chain)).attend label (.collect s.engine.next))
      exact (Tells.untold (untold_make s _)).trans (tells_attend _ label _)
  | interrupt label reason =>
      exact Or.inl ⟨calls_interruptAndRecover s label reason,
        tells_interruptAndRecover hasides s label reason⟩
  | define d register =>
      exact Or.inl ⟨.around (around_define s d register), tells_define hasides s d register⟩
  | start => exact Or.inl ⟨.around (around_start s), tells_start s⟩
  | work hworks =>
      cases hworks with
      | clock now =>
          exact Or.inl ⟨.around ⟨rfl, rfl, rfl, rfl⟩,
            .untold ⟨rfl, rfl, rfl, rfl, rfl, rfl, rfl⟩⟩
      | release => exact Or.inl ⟨calls_release s, .untold (untold_onEngine s _)⟩
      | job htakes =>
          rename_i job u
          have htaken {C : Prop} : Tells C (·.isAside = true) s u := .untold (untold_takes htakes)
          have haround := around_takes htakes
          cases job with
          | chain => exact Or.inr ⟨u, wakes_of_takes htakes, rfl⟩
          | caller label =>
              exact Or.inl ⟨(Calls.around (haround (by rintro ⟨⟩))).trans
                (calls_resumeCaller u label), htaken.trans (tells_resumeCaller u label)⟩
          | watch =>
              exact Or.inl ⟨(Calls.around (haround (by rintro ⟨⟩))).trans (calls_watch u),
                htaken.trans (tells_watch hasides u)⟩
          | arm =>
              exact Or.inl ⟨.around ((haround (by rintro ⟨⟩)).trans (around_arm u)),
                htaken.trans (.untold (untold_arm u))⟩

theorem reaches_befalls (h : Befalls s t) : Reaches s t := by
  rcases befalls_cases h with ⟨hcalls, -⟩ | ⟨u, hw, rfl⟩
  · exact reaches_of_calls hcalls
  · exact Relation.ReflTransGen.single (.chain hw)

theorem reaches_of_run (h : Relation.ReflTransGen Audibly s t) : Reaches s t := by
  induction h with
  | refl => exact Relation.ReflTransGen.refl
  | tail _ hstep ih => exact ih.trans (reaches_befalls hstep.1)

theorem tells_befalls (hP : ∀ remark : Remark, P remark) (h : Befalls s t) :
    Tells True P s t := by
  rcases befalls_cases h with ⟨-, htells⟩ | ⟨u, hw, rfl⟩
  · exact tells_mono htells (fun _ => trivial) fun remark _ => hP remark
  · exact (Tells.untold (untold_wakes hw)).trans (tells_runChain hP u fun _ _ _ => trivial)

/-! ## Chains that are contained -/

theorem accounted_befalls (h₀ : s₀.IsStart) (hreached : Reaches s₀ s)
    (h : s.Accounted s₀.engine.stepDelay) (hon : s.output.life.enabled = true)
    (hs : Audibly s t) : t.Accounted s₀.engine.stepDelay := by
  obtain ⟨hbefalls, hafter⟩ := hs
  rcases befalls_cases hbefalls with ⟨hcalls, htells⟩ | ⟨u, hw, rfl⟩
  · refine accounted_of_calls h hcalls htells ?_
    exact started_nodup h₀ (reached h₀ (hreached.trans (reaches_of_calls hcalls))).1
  · exact accounted_runChain h₀ hreached h hon hw hafter

/-- Where no chain was handed in, nothing was said of any. -/
theorem accounted_of_isStart (h₀ : s₀.IsStart) (hheard : s₀.IsHeard)
    (hsilent : ∀ id, s₀.remarksOn id = []) (delay : Value) : s₀.Accounted delay := by
  have hrun := h₀.engine.run
  refine ⟨hheard.context, hheard.faults, fun id _ => hsilent id, ?_, ?_, ?_⟩
  · intro r hr
    rw [hrun] at hr
    cases hr
  · intro f hf
    rw [h₀.engine.finished] at hf
    cases hf
  · intro r result hr
    rw [hrun] at hr
    cases hr

theorem accounted_of_run (h₀ : s₀.IsStart) (hheard : s₀.IsHeard)
    (hsilent : ∀ id, s₀.remarksOn id = []) (hrun : Relation.ReflTransGen Audibly s₀ s) :
    s.Accounted s₀.engine.stepDelay ∧ s.output.life.enabled = true := by
  induction hrun with
  | refl => exact ⟨accounted_of_isStart h₀ hheard hsilent _, hheard.output⟩
  | tail hbefore hstep ih =>
      obtain ⟨hthere, hon⟩ := ih
      exact ⟨accounted_befalls h₀ (reaches_of_run hbefore) hthere hon hstep, hstep.2⟩

theorem recorded_of_run (h : s₀.Recorded) (hrun : Relation.ReflTransGen Audibly s₀ s) :
    s.Recorded := by
  induction hrun with
  | refl => exact h
  | tail _ hstep ih =>
      exact recorded_of_tells ih (tells_befalls (P := fun _ => True) (fun _ => trivial) hstep.1)

/-- The running chain has its turn, or a timer is set for it, or its handler waits for its
release. -/
theorem work_of_accounted (htasked : s.Tasked) (h : s.Accounted s.engine.stepDelay)
    (hdelay : Delay.afterChain s.engine.stepDelay ≠ .ok .forever) {r : Run}
    (hr : s.engine.run = some r) :
    0 < s.turns + s.sleeps ∨ ∃ p, r.phase = .suspended p ∧ p.wait = .release := by
  obtain ⟨hphase, hturns, hsleeps⟩ := htasked.set r hr
  have hturn (hwants : r.wantsTurn = true) : 0 < s.turns + s.sleeps := by
    rw [hturns, if_pos hwants]
    omega
  have hsleep (hwants : r.wantsSleep s.engine.stepDelay = true) : 0 < s.turns + s.sleeps := by
    rw [hsleeps, if_pos hwants]
    omega
  cases hp : r.phase with
  | active => exact absurd hp hphase
  | fresh => exact Or.inl (hturn (by simp [Run.wantsTurn, hp]))
  | suspended p =>
      cases hw : p.wait with
      | release => exact Or.inr ⟨p, rfl, hw⟩
      | turn => exact Or.inl (hturn (by simp [Run.wantsTurn, hp, hw]))
      | sleep => exact Or.inl (hsleep (by simp [Run.wantsSleep, hp, hw]))
  | pacing result =>
      obtain ⟨d, hd, hne⟩ := h.pacing r result hr hp
      cases d with
      | none => exact absurd rfl hne
      | forever => exact absurd hd hdelay
      | millis q => exact Or.inl (hsleep (by simp [Run.wantsSleep, hp, hd]))

/-- A chain that has ended leaves its place to the next one, unless it was cancelled. -/
theorem place_of_finish {r : Run} (hr : s.engine.run = some r) (status : Status) (result : Pipe) :
    (∀ r', (s.finish status result).engine.run = some r' → ∃ x, r' = Run.start x) ∧
      (r.token.isCancelled = true → (s.finish status result).engine.run = none) ∧
      (r.token.isCancelled = false → ¬ (s.finish status result).engine.Stalled) := by
  have hengine : (s.finish status result).engine = s.engine.apply (.finish status result) :=
    onEngine_engine s _
  rw [hengine]
  refine ⟨fun r' hr' => Engine.run_finish hr', ?_, ?_⟩
  · intro hc
    show (s.engine.finish status result).run = none
    unfold Engine.finish
    rw [hr]
    dsimp only
    rw [if_pos hc]
  · intro hc
    show ¬ (s.engine.finish status result).Stalled
    unfold Engine.finish
    rw [hr]
    dsimp only
    rw [if_neg (by simp [hc])]
    exact Engine.not_stalled_advance _

/-- A chain that ends in a turn is aborted exactly if an interruption reaches the end of
this turn. -/
theorem aborted_iff_of_turn (h₀ : s₀.IsStart) (h : Reaches s₀ s) (hw : Wakes s u)
    {f : Finished} (hended : u.runChain.engine.finished = s.engine.finished ++ [f])
    (hspares : f.run.SparesTask) : f.status = .aborted ↔ ∃ v pipe, u.BreaksOff v pipe := by
  obtain ⟨hengine, r, hrun, hturn⟩ := turn_cases h₀ h hw
  have hr : u.engine.run = some r := hengine ▸ hrun
  constructor
  · intro haborted
    generalize u.runChain = t at hturn hended
    cases hturn with
    | goes _ hsame _ =>
        rw [hsame, hengine] at hended
        simpa using congrArg List.length hended
    | ends hr' hsame hcause result =>
        rw [finished_finish hr', hsame, hengine] at hended
        obtain rfl := List.singleton_inj.mp (List.append_cancel_left hended)
        cases hcause with
        | through => cases haborted
        | undelayed h => cases haborted
        | failure hpacing hproceed htask =>
            rename_i v pipe failure
            cases failure with
            | cancelled => exact absurd hspares (htask rfl)
            | fault fault flaws => cases haborted
            | noResult command received => cases haborted
            | refusal x flaws =>
                by_cases hkind : x.kind = .interrupted
                · exact ⟨v, pipe, r, x, flaws, hr, hpacing, hproceed, hkind⟩
                · simp [Failure.status, hkind] at haborted
  · rintro ⟨v, pipe, r', x, flaws, hr', hpacing, hproceed, hkind⟩
    obtain rfl := Option.some.inj (hr.symm.trans hr')
    -- conversely, the turn that breaks off is the one that has ended the chain
    obtain ⟨hleads, htasked⟩ := reached h₀ h
    obtain ⟨-, -, hturns, hsleeps, r₀, hr₀, hphase⟩ := run_of_wakes htasked hw
    obtain rfl := Option.some.inj (hrun.symm.trans hr₀)
    obtain ⟨hfits, hstep⟩ := run_of_leads h₀ hleads hrun
    obtain ⟨r₁, ha⟩ :=
      active_of_arrives (arrives_proceed hr hfits hstep hpacing hphase hturns hsleeps)
    rw [hproceed] at ha
    rw [runChain_of_breaksOff hr hpacing hphase hproceed, finished_fail ha.run hkind] at hended
    rw [← (List.append_singleton_inj.mp hended).2]

/-- Only a turn ends a chain. -/
theorem turn_of_ended (h₀ : s₀.IsStart) (h : Reaches s₀ s) (hbefalls : Befalls s t)
    {f : Finished} (hended : t.engine.finished = s.engine.finished ++ [f]) :
    ∃ u, Wakes s u ∧ t = u.runChain ∧
      (f.run.SparesTask → (f.status = .aborted ↔ ∃ v pipe, u.BreaksOff v pipe)) ∧
      (∀ r, t.engine.run = some r → ∃ x, r = Run.start x) ∧
      (f.run.token.isCancelled = true → t.engine.run = none) ∧
      (f.run.token.isCancelled = false → ¬ t.engine.Stalled) := by
  have hlonger {v : Session} (hsame : v.engine.finished = s.engine.finished)
      (heq : t.engine.finished = v.engine.finished) : False := by
    rw [hended, hsame] at heq
    simpa using congrArg List.length heq
  rcases befalls_cases hbefalls with ⟨hcalls, -⟩ | ⟨u, hw, rfl⟩
  · exact (hlonger rfl (goesOn_of_calls hcalls).finished).elim
  · refine ⟨u, hw, rfl, aborted_iff_of_turn h₀ h hw hended, ?_⟩
    obtain ⟨hengine, r, -, hturn⟩ := turn_cases h₀ h hw
    generalize u.runChain = v at hturn hended hlonger
    cases hturn with
    | goes _ hsame _ => exact (hlonger (by rw [hsame, hengine]) rfl).elim
    | ends hr hsame _ result =>
        rw [finished_finish hr, hsame, hengine] at hended
        obtain rfl := List.singleton_inj.mp (List.append_cancel_left hended)
        exact place_of_finish hr _ result

/-- **Outcome and containment.** In a session whose output stays enabled and whose delay is
a finite number, whatever befalls it and whatever handlers return and raise:

* what it says is what goes to the buffer, the log and the reports;
* a chain ends once, and what is said of it is what goes with how it has ended. It is through
  and fails all the same only if there are not so many seconds as its delay has;
* a chain that runs has work before it or waits for its release, and takes finitely many
  turns;
* only a turn ends a chain, and it is aborted exactly if an interruption reaches the end of
  that turn. Then its place is free, or a next chain has it; and it stays free while chains
  wait only if the one that has ended was cancelled. -/
theorem outcome_of_run (h₀ : s₀.IsStart) (hheard : s₀.IsHeard) (hrecorded : s₀.Recorded)
    (hsilent : ∀ id, s₀.remarksOn id = []) (hdelay : s₀.engine.stepDelay.IsFiniteNumber)
    (hrun : Relation.ReflTransGen Audibly s₀ s) :
    s.Recorded ∧
      (Engine.ids s.engine.ended).Nodup ∧
      (∀ f ∈ s.engine.finished, f.Ends s₀.engine.stepDelay (s.remarksOn f.run.entry.id) ∧
        (s₀.engine.stepDelay.HasSeconds → f.run.SparesTask →
          f.IsTold (s.remarksOn f.run.entry.id))) ∧
      (∀ r, s.engine.run = some r →
        0 < s.turns + s.sleeps ∨ ∃ p, r.phase = .suspended p ∧ p.wait = .release) ∧
      Acc (fun t s => RunsOn s t) s ∧
      ∀ t f, Befalls s t → t.engine.finished = s.engine.finished ++ [f] →
        ∃ u, Wakes s u ∧ t = u.runChain ∧
          (f.run.SparesTask → (f.status = .aborted ↔ ∃ v pipe, u.BreaksOff v pipe)) ∧
          (∀ r, t.engine.run = some r → ∃ x, r = Run.start x) ∧
          (f.run.token.isCancelled = true → t.engine.run = none) ∧
          (f.run.token.isCancelled = false → ¬ t.engine.Stalled) := by
  have hreached := reaches_of_run hrun
  have haccounted := (accounted_of_run h₀ hheard hsilent hrun).1
  obtain ⟨hleads, htasked⟩ := reached h₀ hreached
  have hsame := stepDelay_of_leads hleads
  refine ⟨recorded_of_run hrecorded hrun, ?_, ?_, ?_, acc_runsOn h₀ hreached, ?_⟩
  · have hnodup := started_nodup h₀ hleads
    unfold Engine.started at hnodup
    rw [Engine.ids_append] at hnodup
    exact (List.nodup_append.mp hnodup).1
  · intro f hf
    refine ⟨haccounted.ended f hf, fun hseconds hspares => ?_⟩
    obtain ⟨d, hd⟩ := (Delay.isOk_of_isFiniteNumber hdelay).mpr hseconds
    exact Finished.isTold_of_ends (haccounted.ended f hf) hd hspares
  · intro r hr
    refine work_of_accounted htasked (hsame ▸ haccounted) ?_ hr
    rw [hsame]
    exact Delay.ne_forever_of_isFiniteNumber hdelay
  · exact fun t f hbefalls hended => turn_of_ended h₀ hreached hbefalls hended

/-- A shell of which reports are taken begins like this. -/
theorem start_of_isShell {settings : Settings} {Q : Definition Program → Prop}
    (h : IsShell settings Q s) (hfaults : s.faults.isSome = true) :
    s.IsStart ∧ s.IsHeard ∧ s.Recorded ∧ (∀ id, s.remarksOn id = []) ∧
      s.engine.stepDelay = settings.stepDelay := by
  have hequipped := isEquipped_of_isShell h
  refine ⟨isStart_of_isShell h, ⟨hequipped.output, hequipped.context, hfaults⟩,
    recorded_of_isShell h, fun id => ?_, hequipped.delay⟩
  obtain ⟨t, hblank, htold⟩ := tells_of_isShell h
  rw [remarksOn_of_tells htold]
  unfold remarksOn
  rw [hblank.said]
  rfl

/-! ## A shell in which not all can be told -/

namespace Observed

/-- A session with a log, of which reports are taken. -/
def session : Session := { greeter with context := some { session := "s", config := .null } }

theorem isStart_session : session.IsStart :=
  isStart_of_around isStart_greeter ⟨rfl, rfl, rfl, rfl⟩

theorem audibly_onward {s : Session} (hready : Job.chain ∈ s.ready)
    (hon : (Lost.onward s).isEnabled .output = true) : Audibly s (Lost.onward s) :=
  ⟨.work (.job (.ready hready)), hon⟩

end Observed

namespace Troubled

/-- There is no float for the seconds of this delay. -/
def delay : Int := Int.ofNat (Nat.pow 10 200 * Nat.pow 10 200)

def settings : Settings :=
  { Lost.settings with stepDelay := .int delay, registered := [] }

def built : Session := (build settings "s" {} true true).toOption.getD {}

/-- A command that fails with details that cannot be copied. -/
def locked : Definition Program :=
  { name := "locked"
    handler := fun _ => .fail (.refusal (.ofProblem .command (.handlerError "locked" "boom"))
      { account := true }) }

def shell : Session :=
  [hello, yielding, locked].foldl (fun s d => (s.define d true).1) built

def handIn (s : Session) (chain : Chain) : Session := (s.reply (.call (.enqueue chain))).1

/-- The second stage of a chain has given way, and an interruption comes. -/
def interrupted : Session :=
  ((Lost.onward (handIn shell ⟨[{ name := "hello" }, { name := "yielding" }],
    List.cons_ne_nil _ _⟩)).reply (.call (.interrupt (some "stop")))).1

/-- It has failed with the interruption. -/
def aborted : Session := Lost.onward interrupted

/-- Another chain has failed. -/
def refused : Session := Lost.onward (handIn aborted (Chain.single "locked"))

/-- And one has said hello. -/
def atEnd : Session := Lost.onward (handIn refused (Chain.single "hello"))

theorem isShell_shell : IsShell settings (fun _ => True) shell := by
  have hbuilt : build settings "s" {} true true = .ok built := build_of_isOk (by decide +kernel)
  exact .defined (.defined (.defined (.built hbuilt) trivial true) trivial true) trivial true

theorem audibly_handIn {s : Session} {chain : Chain}
    (hon : (handIn s chain).isEnabled .output = true) : Audibly s (handIn s chain) :=
  ⟨.request _, hon⟩

theorem audibly_atEnd : Relation.ReflTransGen Audibly shell atEnd := by
  have hturn {s : Session} {chain : Chain} (hon : (handIn s chain).isEnabled .output = true)
      (hready : Job.chain ∈ (handIn s chain).ready)
      (hon' : (Lost.onward (handIn s chain)).isEnabled .output = true) :
      Relation.ReflTransGen Audibly s (Lost.onward (handIn s chain)) :=
    (Relation.ReflTransGen.single (audibly_handIn hon)).tail (Observed.audibly_onward hready hon')
  have hcall : Relation.ReflTransGen Audibly shell interrupted :=
    (hturn (by decide +kernel) (by decide +kernel) (by decide +kernel)).tail
      ⟨.request _, by decide +kernel⟩
  have haborted : Relation.ReflTransGen Audibly shell aborted :=
    hcall.tail (Observed.audibly_onward (by decide +kernel) (by decide +kernel))
  have hrefused : Relation.ReflTransGen Audibly aborted refused :=
    hturn (by decide +kernel) (by decide +kernel) (by decide +kernel)
  have hend : Relation.ReflTransGen Audibly refused atEnd :=
    hturn (by decide +kernel) (by decide +kernel) (by decide +kernel)
  exact (haborted.trans hrefused).trans hend

theorem status_atEnd :
    atEnd.engine.finished.map (fun f => f.status) = [.aborted, .failed, .failed] := by
  decide +kernel

/-- The events that tell how a chain has got on, by their messages. -/
def messages (id : Nat) : List String :=
  (atEnd.remarksOn id).filterMap fun
    | .event _ _ message _ => some message
    | _ => none

end Troubled

/-- The first chain is told in full. Of the second one there is a line and no event. Of the third
one two ends are told. -/
theorem outcome_troubled :
    Troubled.atEnd.output.lines =
      [.plain "hello", .status Problem.interruptedMessage, .error "boom", .plain "hello",
        .error Problem.unexpectedMessage] ∧
    Troubled.messages 0 = ["chain started", "chain aborted"] ∧
    Troubled.messages 1 = ["chain started"] ∧
    Troubled.messages 2 = ["chain started", "chain completed", Problem.unexpectedMessage] ∧
    Troubled.atEnd.engine.finished.map (fun f => f.status) = [.aborted, .failed, .failed] ∧
    ∀ f ∈ Troubled.atEnd.engine.finished,
      f.Ends (.int Troubled.delay) (Troubled.atEnd.remarksOn f.run.entry.id) := by
  obtain ⟨hstart, hheard, hrecorded, hsilent, hdelay⟩ :=
    start_of_isShell Troubled.isShell_shell (by decide +kernel)
  have hfinite : Troubled.shell.engine.stepDelay.IsFiniteNumber := by
    rw [hdelay]
    exact .int _
  obtain ⟨-, -, hends, -⟩ :=
    outcome_of_run hstart hheard hrecorded hsilent hfinite Troubled.audibly_atEnd
  refine ⟨by decide +kernel, by decide +kernel, by decide +kernel, by decide +kernel,
    Troubled.status_atEnd, fun f hf => ?_⟩
  have hended := (hends f hf).1
  rw [hdelay] at hended
  exact hended

end CommandShell.Session
