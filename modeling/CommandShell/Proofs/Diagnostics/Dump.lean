import CommandShell.Proofs.Calendar.Stamp
import CommandShell.Proofs.Diagnostics.Runs
import CommandShell.Proofs.Diagnostics.Stamps
import CommandShell.Proofs.Result

/-!
# What the dump of a log merges

The dump shows one line for each block of equal lines that follow each other. By the default
format the line of an entry tells its action and its time (`Entry.line_inj`), so that these blocks
are those of entries with the same action and the same time (`dump_merges_repeated`).
-/

namespace CommandShell.Diagnostics

open Moment

/-- The line of an entry by the default format, where its time is accepted. -/
def Entry.line (e : Entry) : String :=
  let text := (stamp (.str defaultFormat) e.millis).toOption.getD ""
  s!"[{text}] {e.action}"

theorem Entry.line_of_stamp {e : Entry} {text : String}
    (h : stamp (.str defaultFormat) e.millis = .ok text) : e.line = s!"[{text}] {e.action}" := by
  rw [line, h]
  rfl

theorem lines_of_accepted {log : Log}
    (h : ∀ e ∈ log.entries, ∃ text, stamp (.str defaultFormat) e.millis = .ok text) :
    log.lines (.str defaultFormat) = .ok (log.entries.map Entry.line) := by
  refine Result.mapM_eq_ok_iff.mpr (List.forall₂_map_right_iff.mpr (List.forall₂_same.mpr ?_))
  intro e he
  obtain ⟨text, htext⟩ := h e he
  rw [Entry.line_of_stamp htext]
  simp only [htext]
  rfl

/-- **A line shows the second of the time**, its milliseconds and the action. -/
theorem Entry.exists_line_eq {e : Entry} {text : String}
    (h : stamp (.str defaultFormat) e.millis = .ok text) :
    ∃ m : Moment, m.Proper ∧ m.toSeconds = e.millis / 1000 ∧
      e.line = s!"[{String.ofList (stampText m (e.millis % 1000).toNat)}] {e.action}" := by
  rcases stamp_cases e.millis with ⟨m, hproper, hseconds, hstamp⟩ | ⟨-, hfault⟩
  · exact ⟨m, hproper, hseconds, Entry.line_of_stamp hstamp⟩
  · rw [hfault] at h
    cases h

/-- **A line tells the action and the time.** -/
theorem Entry.line_inj {e f : Entry} {text text' : String}
    (he : stamp (.str defaultFormat) e.millis = .ok text)
    (hf : stamp (.str defaultFormat) f.millis = .ok text') :
    e.line = f.line ↔ e.action = f.action ∧ e.millis = f.millis := by
  refine ⟨fun h => ?_, fun ⟨haction, hmillis⟩ => by rw [line, line, haction, hmillis]⟩
  obtain ⟨m, hproper, hseconds, hline⟩ := e.exists_line_eq he
  obtain ⟨m', hproper', hseconds', hline'⟩ := f.exists_line_eq hf
  rw [hline, hline', String.ext_iff] at h
  have htext : stampText m (e.millis % 1000).toNat ++ ']' :: ' ' :: e.action.toList =
      stampText m' (f.millis % 1000).toNat ++ ']' :: ' ' :: f.action.toList := by
    simpa [toString] using h
  obtain ⟨hsecond, hrest, htail⟩ :=
    stampText_inj hproper hproper' (Text.stops_cons rfl) (Text.stops_cons rfl) htext
  refine ⟨String.ext (by simpa using htail), ?_⟩
  omega

/-- **The dump merges exactly the entries that are repeated.** By the default format every line
shows the second of its entry's time as a date and a time of day, its milliseconds and the
action; two lines are the same only for the same action at the same time; and the dump has a
line for each block of such entries. -/
theorem dump_merges_repeated (log : Log)
    (accepted : ∀ e ∈ log.entries, ∃ text, stamp (.str defaultFormat) e.millis = .ok text) :
    ∃ line : Entry → String,
      log.lines (.str defaultFormat) = .ok (log.entries.map line) ∧
      (∀ e ∈ log.entries, ∃ m : Moment, m.Proper ∧ m.toSeconds = e.millis / 1000 ∧
        line e = s!"[{String.ofList (stampText m (e.millis % 1000).toNat)}] {e.action}") ∧
      (∀ e ∈ log.entries, ∀ f ∈ log.entries,
        line e = line f ↔ e.action = f.action ∧ e.millis = f.millis) ∧
      ∃ blocks : List (Entry × Nat), Blocks blocks log.entries ∧
        ∃ shown, log.dump (.str defaultFormat) = .ok shown ∧ shown.length = blocks.length ∧
          shown = blankRepeated (blocks.map fun b => runText (line b.1, b.2)) := by
  have hinj : ∀ e ∈ log.entries, ∀ f ∈ log.entries,
      e.line = f.line ↔ e.action = f.action ∧ e.millis = f.millis := by
    intro e he f hf
    obtain ⟨text, htext⟩ := accepted e he
    obtain ⟨text', htext'⟩ := accepted f hf
    exact Entry.line_inj htext htext'
  have hlines := lines_of_accepted accepted
  obtain ⟨blocks, hblocks, hruns⟩ := exists_blocks Entry.line (l := log.entries)
    fun e he f hf heq => by
      obtain ⟨haction, hmillis⟩ := (hinj e he f hf).mp heq
      cases e
      cases f
      simp_all
  refine ⟨Entry.line, hlines, fun e he => ?_, hinj, blocks, hblocks, _, ?_, ?_, rfl⟩
  · obtain ⟨text, htext⟩ := accepted e he
    exact e.exists_line_eq htext
  · rw [Log.dump, hlines]
    simp only [Except.map, compress_eq_map_runs, hruns, List.map_map]
    rfl
  · rw [length_blankRepeated, List.length_map]

/-- The last thousandth before 1970 and the first one of it. -/
def aroundEpoch : Log := { entries := [⟨"Started", -1⟩, ⟨"Started", -1⟩, ⟨"Started", 0⟩] }

theorem dump_merges_repeated_around_epoch :
    (∀ e ∈ aroundEpoch.entries,
        ∃ text, stamp (.str defaultFormat) e.millis = .ok text) ∧
      ∃ line : Entry → String,
        aroundEpoch.lines (.str defaultFormat) = .ok (aroundEpoch.entries.map line) ∧
        line ⟨"Started", -1⟩ ≠ line ⟨"Started", 0⟩ := by
  have accepted : ∀ e ∈ aroundEpoch.entries,
      ∃ text, stamp (.str defaultFormat) e.millis = .ok text := by
    intro e he
    have hrange : firstSecond ≤ e.millis / 1000 ∧ e.millis / 1000 ≤ lastSecond := by
      revert e
      decide
    rcases stamp_cases e.millis with ⟨m, -, -, hstamp⟩ | ⟨hout, -⟩
    · exact ⟨_, hstamp⟩
    · exact absurd hrange hout
  obtain ⟨line, hlines, -, hinj, -⟩ := dump_merges_repeated aroundEpoch accepted
  refine ⟨accepted, line, hlines, fun heq => ?_⟩
  have hmillis := ((hinj _ (by simp [aroundEpoch]) _ (by simp [aroundEpoch])).mp heq).2
  cases hmillis

end CommandShell.Diagnostics
