import CommandShell.Proofs.Session.Prospect
import CommandShell.Session.Build

/-!
# Lines handed in together

A user may hand in a line before the ones before it are over. What the presenter is
asked to show and to clear, and what is left to see, is the same as when every line
waits until nothing is left to do (`shown_eq_of_sitting`): both are what the lines make
of the scene one after the other (`prospect_of_sitting`).

This needs a watchdog that has nothing to recover. One that has clears the output at
a time of its own (`shown_ne_of_recovery`).
-/

namespace CommandShell

/-- **The built-in commands are local**, but for the one that is about the services. -/
theorem Builtin.isLocal {d : Definition Program} (hd : d ∈ Builtin.all)
    (hname : d.name ≠ "service") (v : Invocation) : (d.handler v).IsLocal := by
  simp only [Builtin.all, List.mem_cons, List.not_mem_nil, or_false] at hd
  rcases hd with rfl | rfl | rfl | rfl | rfl | rfl | rfl | rfl
  · trivial
  · exact ⟨trivial, fun _ => trivial⟩
  · exact ⟨trivial, fun _ => trivial⟩
  · show (Builtin.countLines v).IsLocal
    unfold Builtin.countLines
    split
    · trivial
    · exact ⟨trivial, fun _ => trivial⟩
  · show (Builtin.helpHandler v).IsLocal
    unfold Builtin.helpHandler
    split
    · exact ⟨trivial, fun _ => trivial⟩
    · exact ⟨trivial, fun _ => trivial⟩
  · exact ⟨trivial, fun _ => ⟨trivial, fun _ => trivial⟩⟩
  · exact absurd rfl hname
  · have hfind (pattern : Pattern.Tree) (lines : List Line) :
        (Builtin.findIn pattern lines).IsLocal := by
      unfold Builtin.findIn
      split <;> trivial
    show (Builtin.findHandler v).IsLocal
    unfold Builtin.findHandler
    split
    · unfold Builtin.patternFailure
      split <;> trivial
    · split
      · exact hfind _ _
      · exact ⟨trivial, hfind _⟩

namespace Session

variable {s₀ s s' t : Session} {may : Session → Prop} {lines : List String}

/-! ## Sittings -/

/-- From the session `s₀` on, lines are handed in and work is done, each line in a
session that `may` tells of. -/
inductive Sitting (may : Session → Prop) (s₀ : Session) : List String → Session → Prop
  | opened : Sitting may s₀ [] s₀
  | line {lines : List String} {s s' : Session} {text : String} (h : Sitting may s₀ lines s)
      (hmay : may s) (hline : HandsIn s text s') : Sitting may s₀ (lines ++ [text]) s'
  | work {lines : List String} {s s' : Session} (h : Sitting may s₀ lines s)
      (hwork : Works s s') : Sitting may s₀ lines s'

/-- Nothing is left to do: no chain runs, and none waits. -/
structure IsDone (s : Session) : Prop where
  run : s.engine.run = none
  queue : s.engine.queue = []

/-- A session in which the lines can be handed in: the engine is enabled and has nothing
to do, nobody who interrupted is still waiting, and all commands of the lines are
local. -/
structure IsServing (s : Session) (lines : List String) : Prop where
  enabled : s.isEnabled .engine = true
  done : s.IsDone
  patient : s.IsPatient
  lines : ∀ text ∈ lines, IsLocalLine text s.registry.definitions

theorem sitting_worksOn (h : Sitting may s₀ lines s) (hw : WorksOn s s') :
    Sitting may s₀ lines s' := by
  induction hw with
  | refl => exact h
  | tail _ hwork ih => exact .work ih hwork

theorem isCalm_of_isServing (h : s.IsServing lines) (hn : s.HasNothingToRecover) : s.IsCalm where
  enabled := h.enabled
  queue := by
    rw [h.done.queue]
    rintro _ ⟨⟩
  unneeded := hn
  patient := h.patient
  run := by
    rw [h.done.run]
    rintro _ ⟨⟩

/-- When nothing is left to do, the prospect is there. -/
theorem prospect_of_isDone (h : s.IsDone) : s.prospect = s.scene := by
  unfold prospect Engine.prospect
  rw [h.run, h.queue]
  rfl

/-- The prospect of a sitting is what its lines make of the scene, one after the
other. -/
theorem prospect_of_sitting (h₀ : s₀.IsCalm)
    (hlines : ∀ text ∈ lines, IsLocalLine text s₀.registry.definitions)
    (h : Sitting may s₀ lines s) :
    s.IsCalm ∧ s.registry.definitions = s₀.registry.definitions ∧
      s.prospect = lines.foldl Scene.line s₀.prospect := by
  induction h with
  | opened => exact ⟨h₀, rfl, rfl⟩
  | line h hmay hline ih =>
      obtain ⟨hcalm, hdefinitions, hprospect⟩ :=
        ih fun text ht => hlines text (List.mem_append_left _ ht)
      have hl := hlines _ (List.mem_append_right _ List.mem_cons_self)
      rw [← hdefinitions] at hl
      have hgains := gains_handsIn hcalm hl hline
      refine ⟨hgains.calm, hgains.definitions.trans hdefinitions, ?_⟩
      rw [hgains.prospect, hprospect, List.foldl_append]
      rfl
  | work h hwork ih =>
      obtain ⟨hcalm, hdefinitions, hprospect⟩ := ih hlines
      have hkeeps := keepsTo_works hcalm hwork
      exact ⟨hkeeps.calm, hkeeps.definitions.trans hdefinitions, hkeeps.prospect.trans hprospect⟩

/-- **Lines that are handed in at any time show what they show in turn.** The calls to
the presenter are the same but for the prompts, and so is the transcript. -/
theorem shown_eq_of_sitting (h₀ : s₀.IsServing lines) (hn : s₀.HasNothingToRecover)
    (hs : Sitting (fun _ => True) s₀ lines s) (hsdone : s.IsDone)
    (ht : Sitting IsDone s₀ lines t) (htdone : t.IsDone) :
    s.shown = t.shown ∧ s.transcript = t.transcript := by
  have hcalm := isCalm_of_isServing h₀ hn
  obtain ⟨-, -, hprospect⟩ := prospect_of_sitting hcalm h₀.lines hs
  obtain ⟨-, -, hprospect'⟩ := prospect_of_sitting hcalm h₀.lines ht
  have hscene : s.scene = t.scene := by
    rw [← prospect_of_isDone hsdone, ← prospect_of_isDone htdone, hprospect, hprospect']
  exact ⟨congrArg Scene.calls hscene, transcript_of_scene hscene⟩

/-! ## A watchdog that looks after the log -/

/-- There is a delay after each chain, and the watchdog looks after the log, which is
enabled or not. -/
def watchful (logged : Bool) : Settings where
  config := .null
  fingerprint := ""
  eventLimit := none
  stepDelay := .int 80
  historyLimit := none
  interval := .int 280
  critical := [.str "diagnostic"]
  transcriptLimit := 0
  diagnostics := logged
  watchdog := true
  registered := [.str "print", .str "obuffer", .str "commandline"]

def opened (logged : Bool) : Session :=
  ((build (watchful logged) "s" {} true true).toOption.getD {}).start.settle

/-- Both lines are handed in at once. -/
def together (logged : Bool) : Session :=
  (((opened logged).submit "print a").settle.submit "print b").settle.pass 1000

/-- The first line is over when the second one is handed in. -/
def between (logged : Bool) : Session := ((opened logged).submit "print a").settle.pass 400

def inTurn (logged : Bool) : Session := ((between logged).submit "print b").settle.pass 600

theorem isDone_of_isNone (h : (s.engine.run.isNone && s.engine.queue.isEmpty) = true) :
    s.IsDone := by
  obtain ⟨hr, hq⟩ := Bool.and_eq_true_iff.mp h
  exact ⟨Option.isNone_iff_eq_none.mp hr, List.isEmpty_iff.mp hq⟩

/-- The commands that both lines run are built in. -/
theorem isLocalLine_opened (logged : Bool) {text : String} (ht : text ∈ ["print a", "print b"]) :
    IsLocalLine text (opened logged).registry.definitions := by
  have hlocal (d : Definition Program) (hd : d ∈ Builtin.all) (hname : d.name ≠ "service")
      (hget : (opened logged).registry.definitions.get? d.name = some d) (f : Fragment)
      (hf : f.name = d.name) : f.IsLocal (opened logged).registry.definitions := by
    intro d' hd' v
    rw [hf, hget] at hd'
    obtain rfl := Option.some.inj hd'
    exact Builtin.isLocal hd hname v
  have hprint : (opened logged).registry.definitions.get? "print" = some Builtin.print := by
    cases logged <;> rfl
  have hobuffer : (opened logged).registry.definitions.get? "obuffer" = some Builtin.obuffer := by
    cases logged <;> rfl
  have hcommandline :
      (opened logged).registry.definitions.get? "commandline" = some Builtin.commandline := by
    cases logged <;> rfl
  have hchains : ∀ c ∈ chainsOf text, ∀ f ∈ c.fragments,
      f.name = "print" ∨ f.name = "obuffer" ∨ f.name = "commandline" := by
    simp only [List.mem_cons, List.not_mem_nil, or_false] at ht
    rcases ht with rfl | rfl <;> decide +kernel
  intro c hc f hf
  rcases hchains c hc f hf with hname | hname | hname
  · exact hlocal Builtin.print (by simp [Builtin.all]) (by decide) hprint f hname
  · exact hlocal Builtin.obuffer (by simp [Builtin.all]) (by decide) hobuffer f hname
  · exact hlocal Builtin.commandline (by simp [Builtin.all]) (by decide) hcommandline f hname

theorem isServing_opened (logged : Bool) : (opened logged).IsServing ["print a", "print b"] where
  enabled := by cases logged <;> decide +kernel
  done := by cases logged <;> exact isDone_of_isNone (by decide +kernel)
  patient := by
    have hnone : (opened logged).callers = [] :=
      List.isEmpty_iff.mp (by cases logged <;> decide +kernel)
    unfold IsPatient
    rw [hnone]
    rintro _ ⟨⟩
  lines _ ht := isLocalLine_opened logged ht

theorem sitting_together (logged : Bool) :
    Sitting (fun _ => True) (opened logged) ["print a", "print b"] (together logged) := by
  have hfirst : Sitting (fun _ => True) (opened logged) ["print a"] _ :=
    .line .opened trivial .submit
  have hsecond : Sitting (fun _ => True) (opened logged) ["print a", "print b"] _ :=
    .line (sitting_worksOn hfirst (worksOn_settle _)) trivial .submit
  exact sitting_worksOn (sitting_worksOn hsecond (worksOn_settle _)) (worksOn_pass _ 1000)

theorem sitting_inTurn (logged : Bool) :
    Sitting IsDone (opened logged) ["print a", "print b"] (inTurn logged) := by
  have hdone : (between logged).IsDone := by
    cases logged <;> exact isDone_of_isNone (by decide +kernel)
  have hfirst : Sitting IsDone (opened logged) ["print a"] _ :=
    .line .opened (isServing_opened logged).done .submit
  have hbetween : Sitting IsDone (opened logged) ["print a"] (between logged) :=
    sitting_worksOn (sitting_worksOn hfirst (worksOn_settle _)) (worksOn_pass _ 400)
  have hsecond : Sitting IsDone (opened logged) ["print a", "print b"] _ :=
    .line hbetween hdone .submit
  exact sitting_worksOn (sitting_worksOn hsecond (worksOn_settle _)) (worksOn_pass _ 600)

theorem isDone_together (logged : Bool) : (together logged).IsDone := by
  cases logged <;> exact isDone_of_isNone (by decide +kernel)

theorem isDone_inTurn (logged : Bool) : (inTurn logged).IsDone := by
  cases logged <;> exact isDone_of_isNone (by decide +kernel)

/-- With the log enabled there is nothing to recover. -/
theorem shown_together : (opened true).HasNothingToRecover ∧
    (together true).shown = (inTurn true).shown ∧
    (together true).transcript = (inTurn true).transcript ∧
    (together true).transcript = [.plain "a", .plain "b"] := by
  have hall : ∀ v ∈ (opened true).watched, (opened true).isEnabled v = true := by decide +kernel
  have hnothing : (opened true).HasNothingToRecover := fun _ v hv _ => hall v hv
  obtain ⟨hshown, htranscript⟩ := shown_eq_of_sitting (isServing_opened true) hnothing
    (sitting_together true) (isDone_together true) (sitting_inTurn true) (isDone_inTurn true)
  exact ⟨hnothing, hshown, htranscript, by decide +kernel⟩

/-- With the log disabled, the watchdog enables it while the output of the second line
waits to be shown. That output is gone, and the user is told about the log instead. -/
theorem shown_ne_of_recovery : ¬ ∀ (s₀ s t : Session) (lines : List String),
    s₀.IsServing lines → s₀.isEnabled .output = true → s₀.isEnabled .registry = true →
    s₀.registry.isRegistered "obuffer" = true → s₀.registry.isRegistered "commandline" = true →
    Sitting (fun _ => True) s₀ lines s → s.IsDone → Sitting IsDone s₀ lines t → t.IsDone →
    s.shown = t.shown ∧ s.transcript = t.transcript := by
  intro hall
  obtain ⟨-, htranscript⟩ := hall (opened false) (together false) (inTurn false)
    ["print a", "print b"] (isServing_opened false) (by decide +kernel) (by decide +kernel)
    (by decide +kernel) (by decide +kernel) (sitting_together false) (isDone_together false)
    (sitting_inTurn false) (isDone_inTurn false)
  have hlost : Line.plain "b" ∉ (together false).transcript ∧
      Line.plain "b" ∈ (inTurn false).transcript := by decide +kernel
  rw [htranscript] at hlost
  exact hlost.1 hlost.2

end Session

end CommandShell
