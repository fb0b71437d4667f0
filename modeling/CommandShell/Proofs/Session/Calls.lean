import CommandShell.Proofs.Engine.Stages
import CommandShell.Session.Execution

/-!
# Calls from anywhere

Someone outside, a handler or a hook asks the session for something. Whatever it
is, the engine makes only moves that anyone may make (`calls_reply`,
`calls_runHandler`): no such call ends the running chain or carries out one of its
stages. `onEngine` is the one place where a session moves its engine, and where
the running chain gets a turn.
-/

namespace CommandShell.Session

/-! ## Work that the running chain has before it -/

/-- The turns of the running chain that are ready. -/
def turns (s : Session) : Nat := s.ready.count .chain

/-- The timers that let the running chain go on. -/
def sleeps (s : Session) : Nat := s.timers.countP fun t => t.job == .chain

/-- The engine does not move, and the running chain has the work before it that it
had. -/
structure Around (s s' : Session) : Prop where
  engine : s'.engine = s.engine
  moves : s'.moves = s.moves
  turns : s'.turns = s.turns
  sleeps : s'.sleeps = s.sleeps

namespace Around

variable {s s' s'' : Session}

theorem refl (s : Session) : Around s s := ⟨rfl, rfl, rfl, rfl⟩

theorem trans (h : Around s s') (h' : Around s' s'') : Around s s'' :=
  ⟨h'.engine.trans h.engine, h'.moves.trans h.moves, h'.turns.trans h.turns,
    h'.sleeps.trans h.sleeps⟩

end Around

theorem around_report (s : Session) (service : Service) (level : Level) (message : String)
    (more : Table Value) : Around s (s.report service level message more) :=
  ⟨rfl, rfl, rfl, rfl⟩

theorem around_record (s : Session) (service : Service) (what : String) :
    Around s (s.record service what) :=
  ⟨rfl, rfl, rfl, rfl⟩

theorem around_recordAll (s : Session) (actions : List String) :
    Around s (s.recordAll actions) :=
  ⟨rfl, rfl, rfl, rfl⟩

theorem around_render (s : Session) (line : Line) : Around s (s.render line) :=
  ⟨rfl, rfl, rfl, rfl⟩

theorem around_onRegistry {ρ : Type} {s s' : Session} {step : Registry.Step Program ρ}
    {result : ρ} (h : s.onRegistry step = (s', result)) : Around s s' := by
  obtain ⟨rfl, -⟩ := Prod.mk.inj h
  exact ⟨rfl, rfl, rfl, rfl⟩

theorem around_requestPrompt (s : Session) : Around s s.requestPrompt := by
  unfold requestPrompt
  split
  · split <;> exact ⟨rfl, rfl, rfl, rfl⟩
  · exact Around.refl s

theorem around_clearSurface (s : Session) : Around s s.clearSurface := by
  unfold clearSurface
  split
  · dsimp only
    split <;> exact ⟨rfl, rfl, rfl, rfl⟩
  · exact Around.refl s

theorem take_sink (s : Session) (line : Line) : sink.take s line = s.render line.displayed := by
  obtain ⟨kind, content, label⟩ := line
  cases kind <;> rfl

/-- Flushing shows every line of the buffer as it is displayed. -/
theorem flush_eq (s : Session) : s.flush =
    ((s.output.flush.sent.map Line.displayed).foldl render
      { s with output := s.output.flush.output }).recordAll s.output.flush.actions := by
  rw [List.foldl_map]
  simp only [← take_sink]
  rfl

/-- Showing lines leaves the engine alone. -/
theorem around_flush (s : Session) : Around s s.flush := by
  have hlines (lines : List Line) (t : Session) : Around t (lines.foldl render t) := by
    induction lines generalizing t with
    | nil => exact Around.refl t
    | cons line lines ih => exact (around_render t line).trans (ih _)
  have hbuffer : Around s { s with output := s.output.flush.output } := ⟨rfl, rfl, rfl, rfl⟩
  rw [flush_eq]
  exact (hbuffer.trans (hlines _ _)).trans (around_recordAll _ _)

/-- Callers that go on are no turns of the running chain. -/
theorem around_wake (s : Session) (isOver : Until → Bool) : Around s (s.wake isOver) := by
  refine ⟨rfl, rfl, ?_, rfl⟩
  unfold wake turns
  rw [List.count_append, List.count_eq_zero_of_not_mem (l := List.map _ _), Nat.add_zero]
  intro hmem
  obtain ⟨c, -, hc⟩ := List.mem_map.mp hmem
  cases hc

theorem around_changeLife (s : Session) {v : Service} (hv : v ≠ .engine)
    (step : Lifecycle → Lifecycle) : Around s (s.changeLife v step) := by
  cases v with
  | engine => exact absurd rfl hv
  | _ => exact ⟨rfl, rfl, rfl, rfl⟩

/-! ## Moving the engine -/

theorem onEngine_engine (s : Session) (m : Move) : (s.onEngine m).engine = s.engine.apply m := by
  unfold onEngine
  dsimp only
  split <;> rfl

theorem onEngine_moves (s : Session) (m : Move) : (s.onEngine m).moves = s.moves ++ [m] := by
  unfold onEngine
  dsimp only
  split <;> rfl

theorem onEngine_sleeps (s : Session) (m : Move) : (s.onEngine m).sleeps = s.sleeps := by
  unfold onEngine
  dsimp only
  split <;> rfl

theorem onEngine_output (s : Session) (m : Move) : (s.onEngine m).output = s.output := by
  unfold onEngine
  dsimp only
  split <;> rfl

/-- The running chain gets a turn when a move makes it want one. -/
theorem onEngine_turns (s : Session) (m : Move) :
    (s.onEngine m).turns =
      s.turns + if (s.engine.apply m).wantsTurn && !s.engine.wantsTurn then 1 else 0 := by
  have hwake (isOver : Until → Bool) :=
    (around_wake { s with engine := s.engine.apply m, moves := s.moves ++ [m] } isOver).turns
  unfold onEngine
  dsimp only
  split
  · unfold turns at *
    dsimp only
    rw [List.count_append, hwake]
    rfl
  · rw [Nat.add_zero]
    exact hwake _

/-! ## Calls -/

/-- What calls make of a session: the engine makes moves that anyone may make. -/
inductive Calls : Session → Session → Prop
  | around {s s' : Session} (h : Around s s') : Calls s s'
  | move (s : Session) {m : Move} (h : m.IsOutside) : Calls s (s.onEngine m)
  | trans {s s' s'' : Session} (h : Calls s s') (h' : Calls s' s'') : Calls s s''

theorem calls_refl (s : Session) : Calls s s := Calls.around (Around.refl s)

theorem calls_make (s : Session) (c : Call) : Calls s (s.make c) :=
  Calls.trans (Calls.around (around_recordAll s _)) (Calls.move _ trivial)

/-- A line of the user comes with two chains of the shell's own. -/
theorem calls_enqueueLine (s : Session) (text : String) : Calls s (s.enqueueLine text).2 := by
  have hline (t : Session) : Calls t (followers.foldl (fun s name =>
      (s.enqueue (Chain.single name)).2) t) := by
    induction followers generalizing t with
    | nil => exact calls_refl t
    | cons name names ih => exact Calls.trans (calls_make t _) (ih _)
  have hprompt : Calls s s.closePrompt := Calls.around ⟨rfl, rfl, rfl, rfl⟩
  unfold enqueueLine
  dsimp only
  cases Chain.read? text with
  | none => exact Calls.trans hprompt (hline _)
  | some chain => exact Calls.trans (Calls.trans hprompt (calls_make _ _)) (hline _)

theorem calls_release (s : Session) : Calls s s.release := Calls.move s trivial

theorem calls_react (s : Session) (interruption : Refusal) (chain : String)
    (deed : Deed Reaction) : Calls s (s.react interruption chain deed) := by
  cases deed with
  | report fault => exact Calls.around ⟨rfl, rfl, rfl, rfl⟩
  | effect reaction =>
      cases reaction with
      | note id => exact Calls.around ⟨rfl, rfl, rfl, rfl⟩
      | release stage =>
          show Calls s (if _ then s.release else s)
          split
          · exact calls_release s
          · exact calls_refl s
      | submit text => exact calls_enqueueLine s text
      | call c => exact calls_make s c

theorem calls_reactAll (s : Session) (deeds : List (Deed Reaction)) :
    Calls s (s.reactAll deeds) := by
  have hdeeds (interruption : Refusal) (chain : String) (t : Session) :
      Calls t (deeds.foldl (fun s deed => s.react interruption chain deed) t) := by
    induction deeds generalizing t with
    | nil => exact calls_refl t
    | cons deed deeds ih => exact Calls.trans (calls_react t _ _ deed) (ih _)
  unfold reactAll
  split
  · exact calls_refl s
  · split
    · exact calls_refl s
    · exact hdeeds _ _ s

theorem reactAll_nil (s : Session) : s.reactAll [] = s := by
  unfold reactAll
  split
  · rfl
  · split <;> rfl

theorem calls_call (s : Session) (c : Call) : Calls s (s.call c) :=
  Calls.trans (calls_make s c) (calls_reactAll _ _)

theorem calls_addHook (s : Session) (h : Hook Reaction) : Calls s (s.addHook h) :=
  Calls.trans (Calls.move s (m := .hook h) trivial) (calls_reactAll _ _)

theorem calls_enable (s : Session) (v : Service) : Calls s (s.enable v) := by
  cases v with
  | engine => exact calls_make s .enable
  | _ => exact Calls.around (around_changeLife s (by decide) _)

theorem calls_disable (s : Session) (v : Service) : Calls s (s.disable v) := by
  cases v with
  | engine => exact calls_make s .disable
  | _ => exact Calls.around (around_changeLife s (by decide) _)

theorem calls_enableNamed (s : Session) (name : String) : Calls s (s.enableNamed name).1 := by
  unfold enableNamed
  split
  · exact calls_enable s _
  · exact calls_refl s

theorem calls_disableNamed (s : Session) (name : String) : Calls s (s.disableNamed name).1 := by
  unfold disableNamed
  split
  · exact calls_disable s _
  · exact calls_refl s

/-- A handler can ask for nothing but calls. -/
theorem calls_reply (s : Session) (r : Request) : Calls s (s.reply r).1 := by
  cases r with
  | submit text => exact calls_enqueueLine s text
  | call c => exact calls_call s c
  | enable name => exact calls_enableNamed s name
  | disable name => exact calls_disableNamed s name
  | addHook hook => exact calls_addHook s hook
  | flush => exact Calls.around (around_flush s)
  | clearSurface => exact Calls.around (around_clearSurface s)
  | prompt => exact Calls.around (around_requestPrompt s)
  | _ => exact Calls.around ⟨rfl, rfl, rfl, rfl⟩

/-- A handler makes calls until it ends or pauses. -/
theorem calls_runHandler (h : Handler) (s : Session) : Calls s (runHandler h s).1 := by
  induction h generalizing s with
  | done outcome => exact calls_refl s
  | fail failure => exact calls_refl s
  | pause p rest ih =>
      cases p with
      | release =>
          unfold runHandler
          split
          · exact ih s
          · exact calls_refl s
      | _ => exact calls_refl s
  | ask r rest ih =>
      unfold runHandler
      exact Calls.trans (calls_reply s r) (ih _ _)

end CommandShell.Session
