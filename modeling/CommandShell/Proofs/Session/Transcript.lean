import CommandShell.Proofs.Session.Containment
import Mathlib.Data.List.DropRight

/-!
# The transcript is what was shown

Lines reach the presenter from the buffer, from the watchdog, from definitions and
from whoever shows them, and the surface is cleared in between. Written down in order
(`Displays`), this says what the presenter was asked for and what the transcript has: the
lines since the last clear, as far as its limit goes (`shows_of_displays`). The commands
that read the transcript make their result of just these lines (`reads_of_shows`). And so
it is after every step of a shell and in the middle of its turns (`mirrors_of_run`).
-/

namespace CommandShell

/-! ## What happens to the surface -/

/-- What is done to the surface: a line is shown on it, or it is cleared. -/
inductive Display where
  | line (line : Line)
  | clear
deriving DecidableEq

namespace Display

def line? : Display → Option Line
  | .line l => some l
  | .clear => none

/-- What the presenter is asked for. Not every presenter can clear what it shows. -/
def call? (canClear : Bool) : Display → Option Presenter.Call
  | .line l => some (.render l.displayed)
  | .clear => if canClear then some .clear else none

/-- The lines that were shown since the surface was cleared last. -/
def sinceClear (ds : List Display) : List Line :=
  (ds.rtakeWhile (· ≠ .clear)).filterMap line?

theorem sinceClear_line (ds : List Display) (l : Line) :
    sinceClear (ds ++ [.line l]) = sinceClear ds ++ [l] := by
  unfold sinceClear
  rw [List.rtakeWhile_concat_pos _ _ _ (by simp), List.filterMap_append]
  rfl

theorem sinceClear_clear (ds : List Display) : sinceClear (ds ++ [.clear]) = [] := by
  unfold sinceClear
  rw [List.rtakeWhile_concat_neg _ _ _ (by simp)]
  rfl

end Display

namespace Surface

open Display (sinceClear)

/-- The most lines that are kept, if the limit is positive. -/
def bound (limit : Int) : Option Nat := if 0 < limit then some limit.toNat else none

/-- The surface after these displays: its transcript has the lines since the last clear, as
far as the limit goes, and its presenter got these calls, apart from prompts. -/
structure Shows (limit : Int) (ds : List Display) (calls : List Presenter.Call) (f : Surface) :
    Prop where
  transcript : f.transcript = lastOf (bound limit) (sinceClear ds)
  calls : calls = ds.filterMap (Display.call? f.canClear)
  limit : f.limit = limit

variable {limit : Int} {ds : List Display} {calls : List Presenter.Call} {f : Surface}

theorem shown_transcript (f : Surface) (line : Line) :
    (f.shown line).transcript = lastOf (bound f.limit) (f.transcript ++ [line]) := by
  unfold shown bound lastOf
  dsimp only
  split <;> rfl

/-- A line that is shown comes to the end of both. -/
theorem shows_line (h : f.Shows limit ds calls) (line : Line) :
    (f.shown line).Shows limit (ds ++ [.line line]) (calls ++ [.render line.displayed]) where
  limit := h.limit
  transcript := by
    rw [shown_transcript, h.limit, h.transcript, lastOf_append, Display.sinceClear_line]
  calls := by
    show _ = List.filterMap (Display.call? f.canClear) _
    rw [List.filterMap_append, h.calls]
    rfl

/-- Where the surface is cleared, the transcript begins anew. -/
theorem shows_clear (h : f.Shows limit ds calls) :
    ({ f with transcript := [] } : Surface).Shows limit (ds ++ [.clear])
      (calls ++ (Display.call? f.canClear .clear).toList) where
  limit := h.limit
  transcript := by rw [Display.sinceClear_clear, lastOf_nil]
  calls := by
    show _ = List.filterMap (Display.call? f.canClear) _
    rw [List.filterMap_append, h.calls]
    cases f.canClear <;> rfl

/-- Whether a prompt is open does not matter. -/
theorem shows_open (h : f.Shows limit ds calls) (promptOpen : Bool) :
    ({ f with promptOpen } : Surface).Shows limit ds calls :=
  ⟨h.transcript, h.calls, h.limit⟩

end Surface

/-- What is to be found: a text as it stands, or what a pattern that can be read stands for. -/
inductive Invocation.Seeks (v : Invocation) : Pattern.Tree → Prop
  | text (hregex : v.isSet "regex" = false) :
      Seeks v (.literal (v.isSet "ignorecase") ((v.arg? 0).getD "").toList)
  | pattern {tree : Pattern.Tree} (hregex : v.isSet "regex" = true)
      (hread : Pattern.Tree.read (v.isSet "ignorecase") ((v.arg? 0).getD "").toList = .ok tree) :
      Seeks v tree

namespace Session

open Display (sinceClear)

variable {C : Prop} {P : Remark → Prop} {Q : Definition Program → Prop} {settings : Settings}
  {limit : Int} {ds ds' : List Display} {s s₀ t u : Session}

/-- The surface of the session is as these displays have left it. -/
def Shows (limit : Int) (ds : List Display) (s : Session) : Prop :=
  ∃ f, s.surface = some f ∧ f.Shows limit ds s.shown

/-- On the way from one session to another, lines are shown and the surface is cleared in this order.
Apart from that, prompts are opened and closed, and what does not concern the surface goes on. -/
inductive Displays : List Display → Session → Session → Prop
  | line (s : Session) (line : Line) : Displays [.line line] s (s.render line)
  | clear (s : Session) : Displays [.clear] s s.clearSurface
  | prompt (s : Session) : Displays [] s s.requestPrompt
  | close (s : Session) : Displays [] s s.closePrompt
  | still {s t : Session} (hsurface : t.surface = s.surface) (hcalls : t.calls = s.calls) :
      Displays [] s t
  | trans {ds ds' : List Display} {s t u : Session} (h : Displays ds s t) (h' : Displays ds' t u) :
      Displays (ds ++ ds') s u

theorem clearSurface_of_some {f : Surface} (hf : s.surface = some f) :
    s.clearSurface.surface = some { f with transcript := [] } ∧
      s.clearSurface.shown = s.shown ++ (Display.call? f.canClear .clear).toList := by
  unfold clearSurface
  rw [hf]
  dsimp only
  split
  · rename_i hcan
    rw [hcan]
    exact ⟨rfl, List.filter_append ..⟩
  · rename_i hcan
    rw [eq_false_of_ne_true hcan]
    exact ⟨rfl, (List.append_nil _).symm⟩

/-- **The surface is what the displays make of it**, whatever happens between them. -/
theorem shows_of_displays (h : s.Shows limit ds) (hd : Displays ds' s t) :
    t.Shows limit (ds ++ ds') := by
  induction hd generalizing ds with
  | line s line =>
      obtain ⟨f, hf, hshows⟩ := h
      refine ⟨f.shown line, ?_, ?_⟩
      · show s.surface.map _ = _
        rw [hf]
        rfl
      · have hshown : (s.render line).shown = s.shown ++ [.render line.displayed] :=
          List.filter_append ..
        rw [hshown]
        exact Surface.shows_line hshows line
  | clear s =>
      obtain ⟨f, hf, hshows⟩ := h
      obtain ⟨hsurface, hshown⟩ := clearSurface_of_some hf
      refine ⟨_, hsurface, ?_⟩
      rw [hshown]
      exact Surface.shows_clear hshows
  | prompt s =>
      rw [List.append_nil]
      obtain ⟨f, hf, hshows⟩ := h
      unfold requestPrompt
      rw [hf]
      dsimp only
      split
      · exact ⟨f, hf, hshows⟩
      · have hshown : (s.present .prompt).shown = s.shown :=
          (List.filter_append ..).trans (List.append_nil _)
        refine ⟨_, rfl, ?_⟩
        show Surface.Shows limit ds (s.present .prompt).shown _
        rw [hshown]
        exact Surface.shows_open hshows true
  | close s =>
      rw [List.append_nil]
      obtain ⟨f, hf, hshows⟩ := h
      refine ⟨{ f with promptOpen := false }, ?_, Surface.shows_open hshows false⟩
      show s.surface.map _ = _
      rw [hf]
      rfl
  | still hsurface hcalls =>
      rw [List.append_nil]
      unfold Shows shown
      rw [hsurface, hcalls]
      exact h
  | trans _ _ ih ih' =>
      rw [← List.append_assoc]
      exact ih' (ih h)

/-- Whatever a session tells, the surface is cleared only if it says so. -/
theorem displays_of_tells (h : Tells C P s t) : ∃ ds, Displays ds s t ∧ (.clear ∈ ds → C) := by
  have hnone {s t : Session} (hd : Displays [] s t) :
      ∃ ds, Displays ds s t ∧ (.clear ∈ ds → C) := ⟨[], hd, by rintro ⟨⟩⟩
  induction h with
  | untold hu => exact hnone (.still hu.surface hu.calls)
  | render s line => exact ⟨_, .line s line, by simp⟩
  | clear s hC => exact ⟨_, .clear s, fun _ => hC⟩
  | prompt s => exact hnone (.prompt s)
  | close s => exact hnone (.close s)
  | trans _ _ ih ih' =>
      obtain ⟨ds, hd, hclear⟩ := ih
      obtain ⟨ds', hd', hclear'⟩ := ih'
      exact ⟨_, hd.trans hd', fun hmem => (List.mem_append.mp hmem).elim hclear hclear'⟩
  | _ => exact hnone (.still rfl rfl)

/-- A shell has shown at most the defects of its commands, and its limit is that of the settings. -/
theorem shows_of_isShell (h : IsShell settings Q s) :
    ∃ defects, .clear ∉ defects ∧ s.Shows settings.transcriptLimit defects := by
  obtain ⟨t, hblank, htold⟩ := tells_of_isShell h
  obtain ⟨f₀, hf₀, htranscript⟩ := hblank.surface
  obtain ⟨defects, hd, hclear⟩ := displays_of_tells htold
  have hstart : t.Shows f₀.limit [] := by
    refine ⟨f₀, hf₀, htranscript.trans (lastOf_nil _).symm, ?_, rfl⟩
    unfold shown
    rw [hblank.calls]
    rfl
  obtain ⟨f, hf, hshows⟩ := shows_of_displays hstart hd
  have hequipped := (isEquipped_of_isShell h).limit
  rw [hf] at hequipped
  have hlimit : f₀.limit = settings.transcriptLimit :=
    hshows.limit.symm.trans (Option.some.inj hequipped)
  rw [← hlimit]
  exact ⟨defects, hclear, f, hf, hshows⟩

/-! ## What reads the transcript -/

/-- The commands that read the transcript, called without a pipe, make their result of these
lines: one gives their number, the other those that it finds. Nothing else happens. -/
structure Reads (lines : List Line) (s : Session) : Prop where
  count : ∀ v : Invocation, v.pipe = none → runHandler (Builtin.linecount.handler v) s =
    (s, .done (.single (.plain (toString lines.length))))
  /-- lines that are not marked up as they should be make the search fail -/
  find : ∀ (v : Invocation) (tree : Pattern.Tree), v.pipe = none → v.Seeks tree →
    runHandler (Builtin.findtext.handler v) s =
      (s, match Markup.findLines tree lines with
        | .ok found => .done (.lines found)
        | .error f => .failed (.fault (.value f.message)))

/-- The transcript is what they read. -/
theorem reads_transcript (s : Session) : Reads s.transcript s := by
  constructor
  · intro v hpipe
    show runHandler (Builtin.countLines v) s = _
    unfold Builtin.countLines
    rw [hpipe]
    rfl
  · intro v tree hpipe hseeks
    have hsought : Builtin.sought v = .ok tree := by
      unfold Builtin.sought Builtin.needle
      cases hseeks with
      | text hregex =>
          rw [hregex]
          rfl
      | pattern hregex hread =>
          rw [hregex]
          exact hread
    show runHandler (Builtin.findHandler v) s = _
    unfold Builtin.findHandler
    rw [hsought, hpipe]
    show runHandler (Builtin.findIn tree s.transcript) s = _
    unfold Builtin.findIn
    cases Markup.findLines tree s.transcript <;> rfl

theorem reads_of_shows (h : s.Shows limit ds) :
    s.Reads (lastOf (Surface.bound limit) (sinceClear ds)) := by
  obtain ⟨f, hf, hshows⟩ := h
  have htranscript : s.transcript = lastOf (Surface.bound limit) (sinceClear ds) := by
    unfold transcript
    rw [hf]
    exact hshows.transcript
  rw [← htranscript]
  exact reads_transcript s

/-! ## In the middle of a turn -/

theorem tells_of_comesTo {h handler : Handler} (hcomes : ComesTo handler t h s)
    (hC : ∀ rest v, ComesTo (.ask .clearSurface rest) v h s → C) :
    Tells C (fun _ => True) s t := by
  induction hcomes with
  | here => exact tells_refl _
  | asked _ ih =>
      refine (tells_reply (fun _ _ => trivial) _ _ ?_).trans (ih fun rest v h => hC rest v (.asked h))
      rintro rfl
      exact hC _ _ .here
  | released hreleased _ ih => exact ih fun rest v h => hC rest v (.released hreleased h)

theorem tells_of_runHandler {handler : Handler} {stop : Stop}
    (h : runHandler handler s = (t, stop))
    (hC : ∀ rest v, ComesTo (.ask .clearSurface rest) v handler s → C) :
    Tells C (fun _ => True) s t := by
  have htold : Tells C (fun _ => True) s (runHandler handler s).1 :=
    tells_runHandler (fun _ _ => trivial) handler s hC
  rw [h] at htold
  exact htold

theorem tells_of_enters {fs : List Fragment} {pipe : Pipe} {f : Fragment} {handler : Handler}
    (h : Enters fs pipe s t f handler)
    (hC : ∀ u f handler, Enters fs pipe s u f handler →
      ∀ rest v, ComesTo (.ask .clearSurface rest) v handler u → C) :
    Tells C (fun _ => True) s t := by
  have hbegun {s t : Session} {f : Fragment} {pipe : Pipe} {handler : Handler}
      (hbegins : s.beginStage f pipe = (t, .ok handler)) : Tells C (fun _ => True) s t := by
    have htold : Tells C (fun _ => True) s (s.beginStage f pipe).1 := tells_beginStage s f pipe
    rw [hbegins] at htold
    exact htold
  induction h with
  | first _ hbegins => exact hbegun hbegins
  | later hgoes hbegins hends hresult _ ih =>
      have hran := tells_of_runHandler hends (hC _ _ _ (.first hgoes hbegins))
      refine (((hbegun hbegins).trans hran).trans (.untold (untold_onEngine _ _))).trans (ih ?_)
      exact fun u g handler hlater => hC u g handler (.later hgoes hbegins hends hresult hlater)

/-- On the way to where a handler is at work, the surface is cleared only where a handler
of this turn comes to ask for that. -/
theorem tells_of_handles {handler : Handler} (h : s.Handles handler t)
    (hC : ∀ rest v, s.Handles (.ask .clearSurface rest) v → C) :
    Tells C (fun _ => True) s t := by
  have hactive : Tells C (fun _ => True) s (s.setPhase .active) := .untold (untold_onEngine s _)
  cases h with
  | resumed hrun hphase hcomes =>
      exact hactive.trans (tells_of_comesTo hcomes fun rest v h => hC rest v (.resumed hrun hphase h))
  | called hcalls hcomes =>
      refine Tells.trans ?_ (tells_of_comesTo hcomes fun rest v h => hC rest v (.called hcalls h))
      cases hcalls with
      | begun hrun hphase henters =>
          refine (hactive.trans (.event _ trivial)).trans (tells_of_enters henters ?_)
          exact fun u f handler henters rest v h => hC rest v (.called (.begun hrun hphase henters) h)
      | takenUp hrun hphase hends hresult henters =>
          have hran := tells_of_runHandler hends fun rest v h => hC rest v (.resumed hrun hphase h)
          refine ((hactive.trans hran).trans (.untold (untold_onEngine _ _))).trans
            (tells_of_enters henters ?_)
          exact fun u f handler henters rest v h =>
            hC rest v (.called (.takenUp hrun hphase hends hresult henters) h)

/-! ## Runs -/

/-- Whatever happens to a session: somebody asks it for something, adds output, has the watchdog
look around, starts or stops it, or waits, or work is done. -/
inductive Undergoes (s : Session) : Session → Prop
  | befalls {t : Session} (h : Befalls s t) : Undergoes s t
  | output (lines : List Line) : Undergoes s (s.addOutput lines)
  | look : Undergoes s s.check.1
  | startWatch : Undergoes s s.startWatch
  | stopWatch : Undergoes s s.stopWatch
  | join (label : Nat) : Undergoes s (s.join label none)
  | breaks (name : String) : Undergoes s { s with broken := s.broken ++ [name] }

/-- On the way from `s` to `t` somebody asks for the surface to be cleared, from outside or
by a handler in the turn of the running chain. -/
inductive AsksToClear (s : Session) : Session → Prop
  | outside : AsksToClear s (s.reply .clearSurface).1
  | handler {u v : Session} {rest : Request.Reply .clearSurface → Handler} (hw : Wakes s u)
      (h : u.Handles (.ask .clearSurface rest) v) : AsksToClear s u.runChain

theorem tells_of_undergoes (h : Undergoes s t) :
    Tells (AsksToClear s t) (fun _ => True) s t := by
  cases h with
  | befalls h =>
      rcases befalls_cases h with ⟨-, htold⟩ | ⟨u, hw, rfl⟩
      · refine tells_mono htold ?_ fun _ _ => trivial
        rintro rfl
        exact .outside
      · exact (Tells.untold (untold_wakes hw)).trans
          (tells_runChain (fun _ => trivial) u fun rest v h => .handler hw h)
  | output lines => exact .output s fun _ _ => trivial
  | look => exact tells_check (fun _ _ => trivial) s
  | startWatch => exact .untold (untold_startWatch s)
  | stopWatch => exact .untold ⟨rfl, rfl, rfl, rfl, rfl, rfl, rfl⟩
  | join label =>
      have hjoined : Untold s (s.attend label (.join none)) := untold_attend s label (by rintro ⟨⟩)
      exact .untold hjoined
  | breaks name => exact .untold ⟨rfl, rfl, rfl, rfl, rfl, rfl, rfl⟩

theorem displays_of_run (h : Relation.ReflTransGen Undergoes s₀ s) : ∃ ds, Displays ds s₀ s := by
  induction h with
  | refl => exact ⟨[], .still rfl rfl⟩
  | tail _ hstep ih =>
      obtain ⟨ds, hd⟩ := ih
      obtain ⟨ds', hd', -⟩ := displays_of_tells (tells_of_undergoes hstep)
      exact ⟨_, hd.trans hd'⟩

/-- **The transcript is what was shown.** However lines were shown and the surface was cleared
since a shell was built, the presenter was asked for just that, the transcript has the lines since
the last clear, as far as its limit goes, and the commands that read it make their result of
these. Everything that happens to the shell comes down to such displays, step by step and in
the middle of a turn, and the surface is cleared only where somebody asks for it. -/
theorem mirrors_of_run (h : IsShell settings Q s₀) :
    ∃ defects, .clear ∉ defects ∧
      (∀ ds s, Displays ds s₀ s →
        s.Shows settings.transcriptLimit (defects ++ ds) ∧
        s.Reads (lastOf (Surface.bound settings.transcriptLimit) (sinceClear (defects ++ ds)))) ∧
      ∀ s, Relation.ReflTransGen Undergoes s₀ s →
        (∃ ds, Displays ds s₀ s) ∧
        (∀ t, Undergoes s t → ∃ ds, Displays ds s t ∧ (.clear ∈ ds → AsksToClear s t)) ∧
        ∀ u handler t, Wakes s u → u.Handles handler t →
          ∃ ds, Displays ds s t ∧ (.clear ∈ ds → AsksToClear s u.runChain) := by
  obtain ⟨defects, hdefects, hstart⟩ := shows_of_isShell h
  refine ⟨defects, hdefects, ?_, fun s hrun => ⟨displays_of_run hrun, ?_, ?_⟩⟩
  · intro ds s hd
    have hshows : s.Shows settings.transcriptLimit (defects ++ ds) := shows_of_displays hstart hd
    exact ⟨hshows, reads_of_shows hshows⟩
  · exact fun t hstep => displays_of_tells (tells_of_undergoes hstep)
  · intro u handler t hw hhandles
    refine displays_of_tells ((Tells.untold (untold_wakes hw)).trans (tells_of_handles hhandles ?_))
    exact fun rest v hasks => .handler hw hasks

/-! ## A shell whose surface is cleared -/

namespace Noted

/-- Three lines are kept. -/
def limited : Settings :=
  { Lost.settings with
    transcriptLimit := 3
    registered := [.str "linecount", .str "obuffer", .str "commandline"] }

def built : Session := (build limited "s" {} true true).toOption.getD {}

/-- A line is shown, the surface is cleared, and two more lines are shown, of which one is
an error with a label. -/
def displays : List Display :=
  [.line (.plain "before"), .clear, .line (.plain "first" "here"),
    .line ⟨.error, "second", "there"⟩]

def asked : Display → Request
  | .line line => .render line
  | .clear => .clearSurface

def shown : Session := displays.foldl (fun s d => (s.reply (asked d)).1) built

/-- The lines of the transcript are counted. -/
def counting : Session := shown.submit "linecount"

/-- The chain has its turn. -/
def taken : Session := { counting with ready := counting.ready.erase .chain }

theorem isShell_built : IsShell limited (fun _ => True) built := by
  have hbuilt : build limited "s" {} true true = .ok built := build_of_isOk (by decide +kernel)
  exact .built hbuilt

theorem undergoes_counting : Relation.ReflTransGen Undergoes built counting := by
  have hdisplays (ds : List Display) (s : Session) :
      Relation.ReflTransGen Undergoes s (ds.foldl (fun s d => (s.reply (asked d)).1) s) := by
    induction ds generalizing s with
    | nil => exact Relation.ReflTransGen.refl
    | cons d ds ih => exact Relation.ReflTransGen.head (.befalls (.request (asked d))) (ih _)
  have hshown : Relation.ReflTransGen Undergoes built shown := hdisplays displays built
  have hline (s : Session) : Undergoes s (s.submit "linecount") :=
    .befalls (.request (.submit "linecount"))
  exact hshown.tail (hline shown)

theorem displays_counting : Displays displays built counting := by
  have hdisplays (ds : List Display) (s : Session) :
      Displays ds s (ds.foldl (fun s d => (s.reply (asked d)).1) s) := by
    induction ds generalizing s with
    | nil => exact .still rfl rfl
    | cons d ds ih =>
        have hone : Displays [d] s (s.reply (asked d)).1 := by
          cases d with
          | line line => exact .line s line
          | clear => exact .clear s
        exact hone.trans (ih _)
  have hchains (chains : List Chain) (s : Session) :
      Displays [] s (chains.foldl (fun s c => s.make (.enqueue c)) s) := by
    induction chains generalizing s with
    | nil => exact .still rfl rfl
    | cons c chains ih =>
        have hmade := untold_make s (.enqueue c)
        exact (Displays.still hmade.surface hmade.calls).trans (ih _)
  have hline (s : Session) : Displays [] s (s.submit "linecount") := by
    show Displays [] s (s.enqueueLine "linecount").2
    rw [enqueueLine_eq]
    exact (Displays.close s).trans (hchains _ _)
  exact (hdisplays displays built).trans (hline shown)

theorem undergoes_turn {s : Session} (h : Job.chain ∈ s.ready) :
    Undergoes s ({ s with ready := s.ready.erase .chain } : Session).runChain :=
  .befalls (.work (.job (.ready h)))

/-- The handler of the command is called in this turn. -/
theorem handles_taken : ∃ handler t, taken.Handles handler t := by
  obtain ⟨new, hcalled, hnew⟩ := callsOnly_runChain taken
  have hone : taken.runChain.called.length = 1 := by decide +kernel
  have hnone : taken.called.length = 0 := by decide +kernel
  rw [hcalled, List.length_append, hnone] at hone
  obtain ⟨c, rfl⟩ := List.length_eq_one_iff.mp (by omega : new.length = 1)
  obtain ⟨t, f, hcalls, -⟩ := hnew c List.mem_cons_self
  exact ⟨_, t, .called hcalls .here⟩

end Noted

/-- There is room for the line from before, and yet the transcript has only the two that were
shown since the surface was cleared, and only these are counted. -/
theorem mirrors_noted :
    Noted.counting.transcript = [.plain "first" "here", ⟨.error, "second", "there"⟩] ∧
    Noted.counting.shown = [.render (.plain "before"), .clear, .render (.plain "first" "here"),
      .render (.error "second")] ∧
    Noted.taken.runChain.output.lines = [.plain "2"] ∧
    ∃ defects, Noted.counting.Shows 3 (defects ++ Noted.displays) ∧
      (∃ ds, Displays ds Noted.counting Noted.taken.runChain) ∧
      ∃ handler t ds, Noted.taken.Handles handler t ∧ Displays ds Noted.counting t := by
  have hready : Job.chain ∈ Noted.counting.ready := by decide +kernel
  obtain ⟨defects, -, hshows, hruns⟩ := mirrors_of_run Noted.isShell_built
  obtain ⟨-, hsteps, hturns⟩ := hruns Noted.counting Noted.undergoes_counting
  obtain ⟨handler, t, hhandles⟩ := Noted.handles_taken
  obtain ⟨ds, hd, -⟩ := hturns Noted.taken handler t (.turn hready) hhandles
  obtain ⟨ds', hd', -⟩ := hsteps Noted.taken.runChain (Noted.undergoes_turn hready)
  exact ⟨by decide +kernel, by decide +kernel, by decide +kernel, defects,
    (hshows Noted.displays Noted.counting Noted.displays_counting).1, ⟨ds', hd'⟩,
    handler, t, ds, hhandles, hd⟩

end Session

end CommandShell
