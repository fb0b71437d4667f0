import CommandShell.Proofs.Command.Precedence

/-!
# What can be seen

A name can be run, is listed, is found and is not reported as unknown all at once: the
queries of a registry agree after any operations. The list of groups stands apart, as it
does not ask whether the registry is enabled. It has the commands that can be run under
their own names while it is, and those that could be run if it were (`queries_agree`).
-/

namespace CommandShell

/-- The type that is reported when a rule is broken. -/
def Rule.code : Rule → String
  | .known => Problem.commandUnknown
  | .given => Problem.commandMissingArgument
  | .allowed => Problem.commandInvalidArgument
  | .required => Problem.commandMissingFlag
  | .datatype => Problem.commandDefinitionError
  | .type => Problem.commandInvalidFlag
  | .default => Problem.commandDefinitionError

theorem Rule.code_eq_unknown_iff {rule : Rule} :
    rule.code = Problem.commandUnknown ↔ rule = .known := by
  cases rule <;> decide

variable {η : Type}

theorem FlagBreach.type_eq {command key : String} {d : Definition η} {value : Value} {rule : Rule}
    {problem : Problem} (h : FlagBreach command d key value rule problem) :
    problem.type = rule.code := by
  cases h <;> rfl

namespace Registry

variable {r : Registry η} {ws : List Switch} {name : String} {args : List String} {flags : Flags}
  {rule : Rule} {problem : Problem}

theorem Breach.type_eq (h : r.Breach name args flags rule problem) : problem.type = rule.code := by
  cases h with
  | flag _ _ hbreach => exact hbreach.type_eq
  | known | given | allowed | required => rfl

/-- What is reported breaks a rule. -/
theorem breach_of_refused (h : (r.verify name args flags).result = .ok (.refused problem)) :
    ∃ rule, r.Breach name args flags rule problem := by
  rcases bars_or_ready r name args flags with ⟨p, hbars, hresult, -⟩ | ⟨d, hready⟩
  · obtain rfl : p = problem := by simpa [hresult] using h
    obtain ⟨rule, hbreach, -⟩ := breach_of_bars hbars
    exact ⟨rule, hbreach⟩
  · obtain ⟨rule, hfirst, -⟩ := hready.firstAtFault h
    exact ⟨rule, hready.breach_iff.mpr hfirst.exists_breach⟩

/-- A verification reports that there is no such command. -/
def ReportsUnknown (result : Except Numeral.Fault Verification) : Prop :=
  ∃ p, result = .ok (.refused p) ∧ p.type = Problem.commandUnknown

theorem reportsUnknown_iff :
    ReportsUnknown (r.verify name args flags).result ↔ r.IsUnknown name := by
  constructor
  · rintro ⟨p, hrefused, htype⟩
    obtain ⟨rule, hbreach⟩ := breach_of_refused hrefused
    rw [hbreach.type_eq, Rule.code_eq_unknown_iff] at htype
    obtain rfl := htype
    cases hbreach with
    | known hunknown => exact hunknown
    | flag _ _ hbreach => cases hbreach
  · intro hunknown
    exact ⟨_, (verify_of_bars (.unknown hunknown)).1, rfl⟩

/-! ## Queries -/

/-- A name that can be run is defined. -/
theorem has_of_isRegistered (h : r.definitions.names = r.groups.names)
    (hr : r.isRegistered name = true) : r.definitions.has name = true := by
  obtain ⟨group, hget, -⟩ := group_of_isRegistered hr
  have hgroups : r.groups.has name = true := Option.isSome_of_mem hget
  rw [Table.has_iff_mem_names] at hgroups ⊢
  rwa [h]

theorem isUnknown_iff (h : r.definitions.names = r.groups.names) :
    r.IsUnknown name ↔ r.isRegistered name = false := by
  constructor
  · rintro (hnone | hfalse)
    · rw [Bool.eq_false_iff]
      intro hr
      have hhas := has_of_isRegistered h hr
      rw [Table.has, hnone] at hhas
      cases hhas
    · exact hfalse
  · exact Or.inr

theorem mem_registeredNames (h : r.definitions.names = r.groups.names) :
    name ∈ r.registeredNames ↔ r.isRegistered name = true := by
  rw [registeredNames, List.mem_filter, and_iff_right_iff_imp]
  intro hr
  rw [← Table.has_iff_mem_names]
  exact has_of_isRegistered h hr

theorem result_lookup (r : Registry η) (name : String) :
    (r.lookup name).result = if r.isRegistered name then r.definitions.get? name else none := by
  unfold lookup
  cases r.definitions.get? name with
  | none => exact (ite_self none).symm
  | some d =>
      dsimp only
      split <;> rfl

theorem lookup_finds_iff (h : r.definitions.names = r.groups.names) :
    (∃ d, (r.lookup name).result = some d) ↔ r.isRegistered name = true := by
  rw [result_lookup]
  constructor
  · rintro ⟨d, hd⟩
    split at hd
    · assumption
    · cases hd
  · intro hr
    rw [if_pos hr]
    exact Option.isSome_iff_exists.mp (has_of_isRegistered h hr)

/-- The group of a name is the name itself. -/
def IsOwn (r : Registry η) (name : String) : Bool := r.groups.get? name = some name

/-- The groups that are listed are the commands that could be run. -/
theorem registeredGroups_eq (h : Coherent r ws) :
    r.registeredGroups = (r.perform .enable).registeredNames.filter r.IsOwn := by
  rw [registeredGroups, registeredNames, List.filter_filter]
  refine List.filter_congr fun name _ => ?_
  rw [Bool.eq_iff_iff, List.contains_iff_mem]
  constructor
  · intro hmem
    have hown : r.groups.get? name = some name := h.registered name hmem
    simp [perform, isRegistered, Lifecycle.enable, IsOwn, hown, hmem]
  · intro hall
    simp only [Bool.and_eq_true, IsOwn, decide_eq_true_eq] at hall
    obtain ⟨group, hget, hmem⟩ := group_of_isRegistered hall.2
    obtain rfl : name = group := Option.some.inj (hall.1.symm.trans hget)
    exact hmem

theorem perform_enable (h : r.life.enabled = true) : r.perform .enable = r := by
  have hlife : r.life.enable = r.life := by
    rw [Lifecycle.enable, ← h]
  rw [perform, hlife]

theorem mem_registeredGroups (h : Coherent r ws) {group : String} :
    group ∈ r.registeredGroups ↔ group ∈ r.registered := by
  rw [registeredGroups, List.mem_filter, List.contains_iff_mem, and_iff_right_iff_imp]
  intro hmem
  rw [← Table.has_iff_mem_names]
  exact (h.leader group group (h.registered group hmem)).1

/-- **The queries agree**, but for the list of groups while the registry is disabled. After
any operations a name is listed, is found and is not reported as unknown exactly when it
can be run. The groups that are listed are those commands, under their own names and in
the order of their definitions, as long as the registry is enabled. While it is disabled no
name can be run, but the same groups are listed as if it were not. -/
theorem queries_agree (ops : List (Operation η)) :
    let r : Registry η := performAll {} ops
    (∀ name, (name ∈ r.registeredNames ↔ r.isRegistered name = true) ∧
      ((∃ d, (r.lookup name).result = some d) ↔ r.isRegistered name = true) ∧
      ∀ args flags, ¬ ReportsUnknown (r.verify name args flags).result ↔
        r.isRegistered name = true) ∧
    (r.life.enabled = true → r.registeredGroups = r.registeredNames.filter r.IsOwn) ∧
    (r.life.enabled = false → r.registeredNames = [] ∧
      ∀ group, group ∈ r.registeredGroups ↔ group ∈ r.registered) ∧
    r.registeredGroups = (r.perform .enable).registeredNames.filter r.IsOwn := by
  intro r
  have hcoherent : Coherent r (history {} ops) := coherent_performAll coherent_fresh ops
  refine ⟨fun name => ⟨mem_registeredNames hcoherent.names, lookup_finds_iff hcoherent.names,
    fun args flags => ?_⟩, fun henabled => ?_, fun hdisabled => ⟨?_, fun group => ?_⟩, ?_⟩
  · rw [reportsUnknown_iff, isUnknown_iff hcoherent.names, Bool.not_eq_false]
  · rw [registeredGroups_eq hcoherent, perform_enable henabled]
  · rw [registeredNames, List.filter_eq_nil_iff]
    intro name _
    rw [isRegistered, hdisabled]
    exact Bool.false_ne_true
  · exact mem_registeredGroups hcoherent
  · exact registeredGroups_eq hcoherent

/-- A command with another name in a registry that has been disabled. -/
def closed : Registry Unit :=
  performAll {} [.define { name := "print", handler := (), otherName := some "p" }, .init,
    .register "p", .disable]

/-- No name can be run, but the group is listed. -/
theorem groups_while_disabled :
    closed.registeredNames = [] ∧ closed.registeredGroups = ["print"] ∧
    closed.registeredGroups ≠ closed.registeredNames.filter closed.IsOwn ∧
    (closed.lookup "print").result = none ∧
    ReportsUnknown (closed.verify "print" [] []).result ∧
    (closed.perform .enable).registeredNames = ["print", "p"] := by
  obtain ⟨hqueries, -, hdisabled, hgroups⟩ := queries_agree
    [.define ({ name := "print", handler := (), otherName := some "p" } : Definition Unit), .init,
      .register "p", .disable]
  have hnames : closed.registeredNames = [] := (hdisabled rfl).1
  have hlisted : closed.registeredGroups = ["print"] := by
    refine hgroups.trans ?_
    decide
  have hunknown : ReportsUnknown (closed.verify "print" [] []).result := by
    by_contra hnot
    have hrun := ((hqueries "print").2.2 [] []).mp hnot
    exact absurd hrun (by decide)
  refine ⟨hnames, hlisted, ?_, rfl, hunknown, by decide⟩
  rw [hlisted, hnames]
  decide

end Registry

end CommandShell
