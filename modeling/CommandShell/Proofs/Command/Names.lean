import CommandShell.Proofs.Command.Registration

/-!
# The names of commands

A command that is accepted is kept under its own name and, as a copy, under its other one.
Whatever has been asked of a registry, each of its groups holds the names of one command
that was defined, and what is kept under a name is what that command is under it
(`holds_of_operations`). All names of a group therefore share a handler and a schema.
-/

namespace CommandShell

namespace Definition

variable {η : Type} {c : Definition η} {name : String}

/-- What is kept of a command under one of its names. An other name that is its own as well
leaves only the copy. -/
def under (c : Definition η) (name : String) : Definition η :=
  if c.otherName? = some name then c.renamed name else c

@[simp] theorem handler_under (c : Definition η) (name : String) :
    (c.under name).handler = c.handler := by
  unfold under
  split <;> rfl

@[simp] theorem schema_under (c : Definition η) (name : String) :
    (c.under name).schema = c.schema := by
  unfold under
  split <;> rfl

theorem aliasOf_under (c : Definition η) (name : String) :
    (c.under name).aliasOf = if c.otherName? = some name then some c.name else c.aliasOf := by
  unfold under
  split <;> rfl

@[simp] theorem flags_under (c : Definition η) (name : String) :
    (c.under name).flags = c.flags := by
  simp [flags]

@[simp] theorem positionals_under (c : Definition η) (name : String) :
    (c.under name).positionals = c.positionals := by
  simp [positionals]

@[simp] theorem findFlag?_under (c : Definition η) (name key : String) :
    (c.under name).findFlag? key = c.findFlag? key := by
  simp [findFlag?]

end Definition

namespace Registry

variable {η : Type} {P : Definition η → Prop} {r r' : Registry η} {c d : Definition η}
  {name group : String}

theorem mem_namesOf : name ∈ namesOf c ↔ name = c.name ∨ c.otherName? = some name := by
  simp [namesOf]

/-! ## Definitions -/

/-- What stands under the names once `d` has been defined. -/
structure Enters (r r' : Registry η) (d : Definition η) : Prop extends Defines r r' d where
  named : d.name ≠ ""
  definition : ∀ name, r'.definitions.get? name =
    if name ∈ namesOf d then some (d.under name) else r.definitions.get? name
  distinct : r.definitions.names.Nodup → r'.definitions.names.Nodup

theorem ne_empty_of_define (h : r.define d = .ok r') : d.name ≠ "" := by
  intro hempty
  obtain ⟨hblank, -⟩ := eq_of_define h
  rw [hempty] at hblank
  cases hblank

/-- A definition changes what stands under the names that it gives. -/
theorem get?_of_define (h : r.define d = .ok r') (name : String) :
    r'.definitions.get? name =
      if name ∈ namesOf d then some (d.under name) else r.definitions.get? name := by
  obtain ⟨-, -, rfl⟩ := eq_of_define h
  unfold entered
  cases hother : d.otherName? with
  | none => simp [Table.get?_put, namesOf, Definition.under, hother]
  | some other =>
      by_cases ho : name = other
      · simp [namesOf, Definition.under, hother, ho]
      · simp [Table.get?_put, namesOf, Definition.under, hother, ho, Ne.symm ho]

theorem distinct_of_define (h : r.define d = .ok r') (hdistinct : r.definitions.names.Nodup) :
    r'.definitions.names.Nodup := by
  obtain ⟨-, -, rfl⟩ := eq_of_define h
  unfold entered
  cases d.otherName? with
  | none => exact Table.nodup_put hdistinct _ _
  | some other => exact Table.nodup_put (Table.nodup_put hdistinct _ _) _ _

theorem enters_define (h : r.define d = .ok r') : Enters r r' d :=
  ⟨defines_define h, ne_empty_of_define h, get?_of_define h, distinct_of_define h⟩

/-! ## Groups -/

/-- One group holds the names of the command, and under each of them what it is there. -/
structure Houses (r : Registry η) (c : Definition η) : Prop where
  named : c.name ≠ ""
  group : ∀ name, r.groups.get? name = some c.name ↔ name ∈ namesOf c
  kept : ∀ name ∈ namesOf c, r.definitions.get? name = some (c.under name)

/-- No name stands twice, and every group is that of a command for which `P` holds. -/
structure Holds (P : Definition η → Prop) (r : Registry η) : Prop where
  distinct : r.definitions.names.Nodup
  command : ∀ name group, r.groups.get? name = some group → ∃ c, P c ∧ c.name = group ∧ r.Houses c

theorem holds_fresh : Holds P ({} : Registry η) where
  distinct := List.nodup_nil
  command := by rintro name group ⟨⟩

theorem Houses.has_definitions (h : r.Houses c) (hname : name ∈ namesOf c) :
    r.definitions.has name = true := by
  rw [Table.has, h.kept name hname]
  rfl

/-- What is kept under a name is what its command is there. -/
theorem Holds.kept (h : Holds P r) (hnames : r.definitions.names = r.groups.names)
    (hd : r.definitions.get? name = some d) :
    ∃ c, P c ∧ r.Houses c ∧ name ∈ namesOf c ∧ d = c.under name := by
  have hgroups : r.groups.has name = true := has_groups hnames (Option.isSome_of_mem hd)
  obtain ⟨group, hget⟩ := Option.isSome_iff_exists.mp hgroups
  obtain ⟨c, hc, rfl, hhouses⟩ := h.command name group hget
  have hmem : name ∈ namesOf c := (hhouses.group name).mp hget
  exact ⟨c, hc, hhouses, hmem, Option.some.inj (hd.symm.trans (hhouses.kept name hmem))⟩

/-- A command keeps its names when another one is defined. -/
theorem Houses.of_enters (h : r.Houses c) (hd : Enters r r' d) : r'.Houses c := by
  have hapart {name : String} (hc : name ∈ namesOf c) : name ∉ namesOf d := by
    intro hmem
    have hhas := h.has_definitions hc
    rw [hd.fresh name hmem] at hhas
    cases hhas
  refine ⟨h.named, fun name => ?_, fun name hname => ?_⟩
  · rw [hd.group]
    split
    · rename_i hmem
      refine iff_of_false (fun heq => ?_) fun hc => hapart hc hmem
      -- the two commands would have the same name
      have hown : c.name ∉ namesOf d := hapart List.mem_cons_self
      rw [← Option.some.inj heq] at hown
      exact hown List.mem_cons_self
    · exact h.group name
  · rw [hd.definition, if_neg (hapart hname)]
    exact h.kept name hname

/-- A command that has just been defined has a group of its own. -/
theorem houses_of_enters (h : Holds P r) (hd : Enters r r' d) : r'.Houses d := by
  refine ⟨hd.named, fun name => ?_, fun name hname => ?_⟩
  · rw [hd.group]
    split
    · rename_i hmem
      exact iff_of_true rfl hmem
    · rename_i hmem
      refine iff_of_false (fun hold => ?_) hmem
      obtain ⟨c, -, hname, hc⟩ := h.command name d.name hold
      have hhas : r.definitions.has c.name = true := hc.has_definitions List.mem_cons_self
      rw [hname, hd.fresh d.name List.mem_cons_self] at hhas
      cases hhas
  · rw [hd.definition, if_pos hname]

theorem holds_of_enters (h : Holds P r) (hd : Enters r r' d) (hP : P d) : Holds P r' := by
  refine ⟨hd.distinct h.distinct, fun name group hget => ?_⟩
  rw [hd.group] at hget
  split at hget
  · exact ⟨d, hP, Option.some.inj hget, houses_of_enters h hd⟩
  · obtain ⟨c, hc, hname, hhouses⟩ := h.command name group hget
    exact ⟨c, hc, hname, hhouses.of_enters hd⟩

theorem holds_of_eq (h : Holds P r) (hd : r'.definitions = r.definitions)
    (hg : r'.groups = r.groups) : Holds P r' := by
  refine ⟨?_, fun name group hget => ?_⟩
  · rw [hd]
    exact h.distinct
  · rw [hg] at hget
    obtain ⟨c, hc, hname, hhouses⟩ := h.command name group hget
    refine ⟨c, hc, hname, hhouses.named, ?_, ?_⟩
    · rw [hg]
      exact hhouses.group
    · rw [hd]
      exact hhouses.kept

/-! ## Runs -/

theorem holds_perform (h : Holds P r) (hnames : r.definitions.names = r.groups.names)
    {op : Operation η} (hP : ∀ d, op = .define d → P d) : Holds P (r.perform op) := by
  by_cases hop : ∃ d, op = .define d
  · obtain ⟨d, rfl⟩ := hop
    rw [perform_define]
    cases hd : r.define d with
    | ok r' => exact holds_of_enters h (enters_define hd) (hP d rfl)
    | error fault => exact h
  · have hreplays := replays_perform hnames fun d hd => hop ⟨d, hd⟩
    exact holds_of_eq h hreplays.definitions hreplays.groups

theorem holds_performAll {ws : List Switch} (h : Holds P r) (hr : Coherent r ws)
    (ops : List (Operation η)) (hP : ∀ d, .define d ∈ ops → P d) : Holds P (r.performAll ops) := by
  induction ops generalizing r ws with
  | nil => exact h
  | cons op ops ih =>
      refine ih (holds_perform h hr.names fun d hd => hP d ?_) (coherent_perform hr op) fun d hd =>
        hP d (List.mem_cons_of_mem _ hd)
      rw [hd]
      exact List.mem_cons_self

/-- The registry after these operations holds commands that they define. -/
theorem holds_of_operations (ops : List (Operation η)) :
    Holds (fun c => .define c ∈ ops) (performAll {} ops) :=
  holds_performAll holds_fresh coherent_fresh ops fun _ hd => hd

end Registry

end CommandShell
