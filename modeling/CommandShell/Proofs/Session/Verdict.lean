import CommandShell.Proofs.Session.Remarks
import CommandShell.Proofs.Session.Telling

/-!
# What is said of a chain

All that a session says of how a chain gets on, other than asides, is what `remarksOn`
collects. What is said of an end is no aside (`isAside_remarks`), and where it is heard it
comes to what was said of the chain that runs (`remarksOn_of_saying`).
-/

namespace CommandShell

namespace Remark

variable {label : String} {pipe : Pipe}

theorem isAside_lines (lines : List Line) :
    ∀ remark ∈ lines.map Remark.line, remark.isAside = false := by
  intro remark hmem
  obtain ⟨line, -, rfl⟩ := List.mem_map.mp hmem
  rfl

theorem isAside_completed : ∀ remark ∈ completed label pipe, remark.isAside = false := by
  intro remark hmem
  rcases List.mem_append.mp hmem with hmem | hmem
  · exact isAside_lines _ remark hmem
  · obtain rfl := List.mem_singleton.mp hmem
    rfl

/-- What is left unsaid needs no proof. -/
theorem forall_mem_unless {P : Remark → Prop} {c : Prop} [Decidable c] {rs : List Remark}
    (h : ∀ remark ∈ rs, P remark) : ∀ remark ∈ (if c then [] else rs), P remark := by
  split
  · exact List.forall_mem_nil _
  · exact h

theorem isAside_aborted (r : Refusal) (flaws : Flaws) :
    ∀ remark ∈ aborted label pipe r flaws, remark.isAside = false :=
  List.forall_mem_append.mpr ⟨isAside_lines _, List.forall_mem_cons.mpr
    ⟨rfl, forall_mem_unless (List.forall_mem_singleton.mpr rfl)⟩⟩

theorem isAside_refused (r : Refusal) (flaws : Flaws) :
    ∀ remark ∈ refused label r flaws, remark.isAside = false :=
  forall_mem_unless (List.forall_mem_cons.mpr
    ⟨rfl, forall_mem_unless (List.forall_mem_singleton.mpr rfl)⟩)

theorem isAside_unexpected (failure : Failure) :
    ∀ remark ∈ unexpected label failure, remark.isAside = false :=
  List.forall_mem_cons.mpr ⟨rfl, forall_mem_unless (List.forall_mem_cons.mpr
    ⟨rfl, forall_mem_unless (List.forall_mem_singleton.mpr rfl)⟩)⟩

theorem isAside_remarks (failure : Failure) :
    ∀ remark ∈ failure.remarks label pipe, remark.isAside = false := by
  cases failure with
  | cancelled => exact List.forall_mem_nil _
  | fault f flaws => exact isAside_unexpected (.fault f flaws)
  | noResult command received => exact isAside_unexpected (.noResult command received)
  | refusal r flaws =>
      unfold Failure.remarks
      dsimp only
      split
      · exact isAside_aborted r flaws
      · exact isAside_refused r flaws

end Remark

namespace Session

variable {C : Prop} {P : Remark → Prop} {rs rs' : List Remark} {s t u : Session} {r : Run}

/-! ## What is said on the way -/

/-- Whatever a session says is written down: the buffer takes lines, there is a log, and
reports are taken. -/
structure IsHeard (s : Session) : Prop where
  output : s.output.life.enabled = true
  context : s.context.isSome = true
  faults : s.faults.isSome = true

/-- A session says this, and nothing else changes that its engine knows of. -/
structure Says (rs : List Remark) (s t : Session) : Prop extends Around s t where
  life : t.output.life = s.output.life
  context : t.context.isSome = s.context.isSome
  faults : t.faults.isSome = s.faults.isSome
  said : s.IsHeard → t.said = s.said ++ rs.map fun remark => (s.engine.running?, remark)

theorem isHeard_of_saying (h : Says rs s t) : t.IsHeard ↔ s.IsHeard := by
  constructor
  · rintro ⟨ho, hc, hf⟩
    exact ⟨h.life ▸ ho, h.context ▸ hc, h.faults ▸ hf⟩
  · rintro ⟨ho, hc, hf⟩
    exact ⟨h.life.symm ▸ ho, h.context.symm ▸ hc, h.faults.symm ▸ hf⟩

theorem Says.trans (h : Says rs s t) (h' : Says rs' t u) : Says (rs ++ rs') s u where
  toAround := h.toAround.trans h'.toAround
  life := h'.life.trans h.life
  context := h'.context.trans h.context
  faults := h'.faults.trans h.faults
  said hs := by
    rw [h'.said ((isHeard_of_saying h).mpr hs), h.said hs, h.engine, List.append_assoc,
      List.map_append]

theorem says_addOutput (s : Session) (lines : List Line) :
    Says (lines.map Remark.line) s (s.addOutput lines) := by
  refine ⟨⟨rfl, rfl, rfl, rfl⟩, ?_, rfl, rfl, ?_⟩
  · show (s.output.addAll lines).output.life = _
    unfold Output.addAll
    split <;> rfl
  · intro hs
    show s.said ++ ((s.output.addAll lines).output.lines.drop _).map _ = _
    unfold Output.addAll
    rw [if_pos hs.output]
    simp

theorem says_report (s : Session) (level : Level) (message : String) (more : Table Value) :
    Says [.event .engine level message more] s (s.report .engine level message more) := by
  refine ⟨⟨rfl, rfl, rfl, rfl⟩, rfl, Option.isSome_map, rfl, ?_⟩
  intro hs
  obtain ⟨c, hc⟩ := Option.isSome_iff_exists.mp hs.context
  unfold report
  rw [hc]
  rfl

theorem says_reportFault (s : Session) (phase : String) (problem : Problem) (kind : String) :
    Says [.fault phase problem kind] s (s.reportFault phase problem kind) := by
  refine ⟨⟨rfl, rfl, rfl, rfl⟩, rfl, rfl, Option.isSome_map, ?_⟩
  intro hs
  obtain ⟨faults, hf⟩ := Option.isSome_iff_exists.mp hs.faults
  unfold reportFault
  rw [hf]
  rfl

/-- What a session writes down it says, where it is heard. -/
theorem says_of_writes (h : Writes rs s t) : Says rs s t := by
  induction h with
  | record s what => exact ⟨⟨rfl, rfl, rfl, rfl⟩, rfl, rfl, rfl, fun _ => (List.append_nil _).symm⟩
  | output s lines => exact says_addOutput s lines
  | event s level message more => exact says_report s level message more
  | fault s phase problem kind => exact says_reportFault s phase problem kind
  | trans _ _ ih ih' => exact ih.trans ih'

/-! ## What is said of a chain -/

/-- What was said of the chain `id`, other than asides. -/
def remarksOn (s : Session) (id : Nat) : List Remark :=
  s.said.filterMap fun x => if x.1 = some id ∧ x.2.isAside = false then some x.2 else none

theorem said_of_tells (h : Tells C P s t) :
    ∃ more, t.said = s.said ++ more ∧ ∀ x ∈ more, P x.2 := by
  have hnone {s t : Session} (h : t.said = s.said) :
      ∃ more, t.said = s.said ++ more ∧ ∀ x ∈ more, P x.2 :=
    ⟨[], by rw [h, List.append_nil], by rintro _ ⟨⟩⟩
  have hsome {α : Type} {remark : Remark} (hp : P remark) (tag : Option Nat) (xs : List α) :
      ∀ x ∈ xs.map fun _ => (tag, remark), P x.2 := by
    intro x hx
    obtain ⟨-, -, rfl⟩ := List.mem_map.mp hx
    exact hp
  induction h with
  | untold h => exact hnone h.said
  | render s line => exact hnone rfl
  | clear s _ =>
      refine hnone ?_
      unfold clearSurface
      split
      · dsimp only
        split <;> rfl
      · rfl
  | prompt s =>
      refine hnone ?_
      unfold requestPrompt
      split
      · split <;> rfl
      · rfl
  | close s => exact hnone rfl
  | drain s => exact hnone rfl
  | warn s source message => exact hnone rfl
  | output s hp =>
      refine ⟨_, rfl, ?_⟩
      intro x hx
      obtain ⟨line, hline, rfl⟩ := List.mem_map.mp hx
      have hmem := List.mem_of_mem_drop hline
      -- a buffer that is disabled takes no line, and none is told
      unfold Output.addAll at hline
      split at hline
      · rw [List.drop_left] at hline
        exact hp line hline
      · rw [List.drop_length] at hline
        cases hline
  | event s hp => exact ⟨_, rfl, hsome hp _ _⟩
  | fault s hp => exact ⟨_, rfl, hsome hp _ _⟩
  | trans _ _ ih ih' =>
      obtain ⟨more, hsaid, hmore⟩ := ih
      obtain ⟨more', hsaid', hmore'⟩ := ih'
      refine ⟨more ++ more', by rw [hsaid', hsaid, List.append_assoc], ?_⟩
      intro x hx
      exact (List.mem_append.mp hx).elim (hmore x) (hmore' x)

/-- The log and whoever takes reports stay. -/
theorem heard_of_tells (h : Tells C P s t) :
    t.context.isSome = s.context.isSome ∧ t.faults.isSome = s.faults.isSome := by
  induction h with
  | untold h => rw [h.context, h.faults]; exact ⟨rfl, rfl⟩
  | clear s _ =>
      unfold clearSurface
      split
      · dsimp only
        split <;> exact ⟨rfl, rfl⟩
      · exact ⟨rfl, rfl⟩
  | prompt s =>
      unfold requestPrompt
      split
      · split <;> exact ⟨rfl, rfl⟩
      · exact ⟨rfl, rfl⟩
  | warn s source message => exact ⟨Option.isSome_map, rfl⟩
  | event s _ => exact ⟨Option.isSome_map, rfl⟩
  | fault s _ => exact ⟨rfl, Option.isSome_map⟩
  | trans _ _ ih ih' => exact ⟨ih'.1.trans ih.1, ih'.2.trans ih.2⟩
  | _ => exact ⟨rfl, rfl⟩

theorem remarksOn_of_eq (h : t.said = s.said) (id : Nat) : t.remarksOn id = s.remarksOn id := by
  unfold remarksOn
  rw [h]

/-- Asides are left aside. -/
theorem remarksOn_of_tells (h : Tells C (·.isAside = true) s t) (id : Nat) :
    t.remarksOn id = s.remarksOn id := by
  obtain ⟨more, hsaid, haside⟩ := said_of_tells h
  unfold remarksOn
  rw [hsaid, List.filterMap_append]
  refine (congrArg _ (List.filterMap_eq_nil_iff.mpr ?_)).trans (List.append_nil _)
  intro x hx
  rw [if_neg]
  rintro ⟨-, hnot⟩
  rw [haside x hx] at hnot
  cases hnot

/-- What is said while a chain runs is said of this chain. -/
theorem remarksOn_of_saying (h : Says rs s t) (hs : s.IsHeard) (hr : s.engine.run = some r)
    (haside : ∀ remark ∈ rs, remark.isAside = false) (id : Nat) :
    t.remarksOn id = s.remarksOn id ++ if id = r.entry.id then rs else [] := by
  have hrunning : s.engine.running? = some r.entry.id := by
    unfold Engine.running?
    rw [hr]
    rfl
  unfold remarksOn
  rw [h.said hs, List.filterMap_append, List.filterMap_map, hrunning]
  congr 1
  split
  · rename_i hid
    subst hid
    refine (List.filterMap_congr fun remark hmem => ?_).trans List.filterMap_some
    exact if_pos ⟨rfl, haside remark hmem⟩
  · rename_i hid
    refine List.filterMap_eq_nil_iff.mpr fun remark _ => if_neg ?_
    rintro ⟨heq, -⟩
    exact hid (Option.some.inj heq).symm

end Session

end CommandShell
