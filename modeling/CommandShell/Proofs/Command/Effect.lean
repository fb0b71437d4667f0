import CommandShell.Proofs.Command.Conversion

/-!
# What a verification changes

A verification leaves alone the definitions, the groups, and which other groups are
registered. It takes the group of the name that it is asked about out of the registered ones
exactly when it reports a defect of the definition, and it never puts one in. The flags
that it accepts have the keys that were given in their order, and only flags of the
command that came with a text that is written like an integer have got another value
(`effect_of_verify`).
-/

namespace CommandShell

variable {η : Type} {d : Definition η}

/-! ## Flags -/

/-- A value is converted when it is a text that is written like an integer, to the integer
that its digits stand for. -/
theorem coerce_eq_ok {value taken : Value} (h : coerce value = .ok taken) :
    (∃ text, value = .str text ∧ Numeral.isPlain text.toList = true ∧
      taken = .int (Numeral.plainValue text)) ∨
    (taken = value ∧ ∀ text, value = .str text → Numeral.isPlain text.toList = false) := by
  unfold coerce at h
  split at h
  · rename_i text
    split at h
    · rename_i hplain
      left
      rw [Numeral.read_of_isPlain hplain] at h
      split at h
      · cases h
      · obtain rfl := Except.ok.inj h
        exact ⟨text, rfl, hplain, rfl⟩
    · rename_i hplain
      obtain rfl := Except.ok.inj h
      refine Or.inr ⟨rfl, ?_⟩
      rintro other ⟨⟩
      exact Bool.eq_false_iff.mpr hplain
  · rename_i hstr
    obtain rfl := Except.ok.inj h
    exact Or.inr ⟨rfl, fun text htext => absurd htext (hstr text)⟩

/-- What a command takes a flag for that was given: for itself, unless it is one of its own
flags and has a text that is written like an integer. -/
inductive Definition.Reads (d : Definition η) : String × Value → String × Value → Prop where
  | same {key : String} {value : Value}
      (h : d.findFlag? key = none ∨
        ∀ text, value = .str text → Numeral.isPlain text.toList = false) :
      d.Reads (key, value) (key, value)
  | integer {key text : String} {p : Parameter} (known : d.findFlag? key = some p)
      (plain : Numeral.isPlain text.toList = true) :
      d.Reads (key, .str text) (key, .int (Numeral.plainValue text))

theorem reads_of_checkFlag {command key : String} {given taken : Value}
    (h : checkFlag command d key given = .ok taken) : d.Reads (key, given) (key, taken) := by
  rcases value_of_checkFlag h with ⟨hnone, rfl⟩ | ⟨p, t, hp, -, hcoerce, -⟩
  · exact .same (Or.inl hnone)
  · rcases coerce_eq_ok hcoerce with ⟨text, rfl, hplain, rfl⟩ | ⟨rfl, htext⟩
    · exact .integer hp hplain
    · exact .same (Or.inr htext)

theorem reads_of_checkFlags {command : String} {flags taken : Flags}
    (h : checkFlags command d flags = .ok taken) : List.Forall₂ d.Reads flags taken := by
  refine (checkFlags_eq_ok_iff.mp h).imp fun f t hft => ?_
  obtain ⟨key, given⟩ := f
  obtain ⟨k, value⟩ := t
  obtain ⟨rfl, hcheck⟩ := hft
  exact reads_of_checkFlag hcheck

namespace Registry

variable {r : Registry η} {name : String} {args : List String} {flags : Flags}

/-! ## Groups -/

/-- A verification has found a defect of the definition. -/
def ReportsDefect (result : Except Numeral.Fault Verification) : Prop :=
  ∃ p, result = .ok (.refused p) ∧ p.isDefinitionError = true

/-- A verification changes nothing, or it reports a defect of a command that can be run and
takes it out of the registered ones. -/
theorem verify_changes (r : Registry η) (name : String) (args : List String) (flags : Flags) :
    (¬ ReportsDefect (r.verify name args flags).result ∧
      (r.verify name args flags).registry = r) ∨
    (ReportsDefect (r.verify name args flags).result ∧ r.isRegistered name = true ∧
      (r.verify name args flags).registry = (r.unregister name).registry) := by
  rcases verify_cases r name args flags with ⟨hsame, hsound⟩ | ⟨p, hrefused, hdefect, -, hout⟩
  · refine Or.inl ⟨?_, hsame⟩
    rintro ⟨p, hrefused, hdefect⟩
    rw [hsound p hrefused] at hdefect
    cases hdefect
  · refine Or.inr ⟨⟨p, hrefused, hdefect⟩, ?_, hout⟩
    -- a command that cannot be run is reported as unknown, which is no defect
    by_contra hnot
    have hunknown : r.Bars name args flags (.unknownCommand name) :=
      .unknown (Or.inr (Bool.eq_false_iff.mpr hnot))
    obtain rfl : .unknownCommand name = p := by
      simpa [hrefused, eq_comm] using (verify_of_bars hunknown).1
    cases hdefect

theorem registry_unregister {group : String} (h : r.groups.get? name = some group) :
    (r.unregister name).registry = { r with registered := switched false group r.registered } :=
  (turn_of_get? false h).2

/-- A verification changes at most which groups are registered. -/
theorem registry_verify (r : Registry η) (name : String) (args : List String) (flags : Flags) :
    (r.verify name args flags).registry =
      { r with registered := (r.verify name args flags).registry.registered } := by
  rcases verify_changes r name args flags with ⟨-, hsame⟩ | ⟨-, hrun, hout⟩
  · rw [hsame]
  · obtain ⟨group, hget, -⟩ := group_of_isRegistered hrun
    rw [hout, registry_unregister hget]

/-- Only a defect of a command that can be run is reported. -/
theorem group_of_reportsDefect (h : ReportsDefect (r.verify name args flags).result) :
    ∃ group, r.groups.get? name = some group ∧ group ∈ r.registered := by
  rcases verify_changes r name args flags with ⟨hnone, -⟩ | ⟨-, hrun, -⟩
  · exact absurd h hnone
  · exact group_of_isRegistered hrun

/-- A group stays registered unless it is that of the name and a defect is reported. -/
theorem mem_registered_verify (group : String) :
    group ∈ (r.verify name args flags).registry.registered ↔
      group ∈ r.registered ∧ ¬ (ReportsDefect (r.verify name args flags).result ∧
        r.groups.get? name = some group) := by
  rcases verify_changes r name args flags with ⟨hnone, hsame⟩ | ⟨hdefect, hrun, hout⟩
  · simp [hsame, hnone]
  · obtain ⟨own, hget, -⟩ := group_of_isRegistered hrun
    rw [hout, registry_unregister hget, mem_switched]
    by_cases hgroup : group = own
    · simp [hgroup, hget, hdefect]
    · simp [hgroup, hget, Ne.symm hgroup]

/-- `r'` is `r` but for the registration of one group. -/
structure SameBut (group? : Option String) (r r' : Registry η) : Prop where
  definitions : r'.definitions = r.definitions
  groups : r'.groups = r.groups
  life : r'.life = r.life
  registered : ∀ group, group? ≠ some group → (group ∈ r'.registered ↔ group ∈ r.registered)

theorem sameBut_verify (r : Registry η) (name : String) (args : List String) (flags : Flags) :
    SameBut (r.groups.get? name) r (r.verify name args flags).registry := by
  refine ⟨?_, ?_, ?_, fun group hgroup => ?_⟩
  · rw [registry_verify]
  · rw [registry_verify]
  · rw [registry_verify]
  · rw [mem_registered_verify]
    exact and_iff_left fun hout => hgroup hout.2

/-- **What a verification changes**, and when. Everything but the registration of the group
of the name stays as it is. That group is taken out of the registered ones exactly when a
defect of the definition is reported, and no group comes in. Flags that are accepted have
the keys that were given, in their order, and the values that were given, but for integers
where a flag of the command came with a text that is written like one. -/
theorem effect_of_verify (r : Registry η) (name : String) (args : List String) (flags : Flags) :
    let s := r.verify name args flags
    SameBut (r.groups.get? name) r s.registry ∧
    ((∃ group, r.groups.get? name = some group ∧ group ∈ r.registered ∧
      group ∉ s.registry.registered) ↔ ReportsDefect s.result) ∧
    (∀ group ∈ s.registry.registered, group ∈ r.registered) ∧
    ∀ taken, s.result = .ok (.accepted taken) →
      ∃ d, r.definitions.get? name = some d ∧ Table.names taken = Table.names flags ∧
        List.Forall₂ d.Reads flags taken := by
  intro s
  refine ⟨sameBut_verify r name args flags, ?_, ?_, fun taken haccepted => ?_⟩
  · constructor
    · rintro ⟨group, hget, hin, hout⟩
      rw [mem_registered_verify, not_and, not_not] at hout
      exact (hout hin).1
    · intro hdefect
      obtain ⟨group, hget, hin⟩ := group_of_reportsDefect hdefect
      refine ⟨group, hget, hin, fun hstays => ?_⟩
      exact (mem_registered_verify group |>.mp hstays).2 ⟨hdefect, hget⟩
  · intro group hgroup
    exact (mem_registered_verify group |>.mp hgroup).1
  · obtain ⟨-, d, hd, -, -, -, hchecked⟩ := verify_accepted haccepted
    exact ⟨d, hd, names_of_checkFlags hchecked, reads_of_checkFlags hchecked⟩

/-- A command with another name, a flag without a datatype and one for numbers. -/
def gauge : Definition Unit :=
  { name := "gauge", handler := (), otherName := some "g"
    schema := [
      { kind := .flag, name := "level" },
      { kind := .flag, name := "depth", shortName := some "d", datatype := some .number }] }

/-- A registry in which it can be run, and another command too. -/
def workshop : Registry Unit :=
  performAll {} [.define gauge, .define { name := "rule", handler := () }, .init,
    .bulkRegister ["g", "rule"]]

/-- Of the flags that are accepted only the depth has become an integer. A level is a defect
that takes out the command, though it is asked for by its other name, and no other one. -/
theorem effect_by_other_name :
    (workshop.verify "gauge" [] [("d", .str "-07"), ("width", .str "12")]).result =
      .ok (.accepted [("d", .int (-7)), ("width", .str "12")]) ∧
    (∃ d, workshop.definitions.get? "gauge" = some d ∧
      List.Forall₂ d.Reads [("d", .str "-07"), ("width", .str "12")]
        [("d", .int (-7)), ("width", .str "12")]) ∧
    (workshop.verify "g" [] [("level", .str "1")]).result =
      .ok (.refused (.missingDatatype "g" "level")) ∧
    "gauge" ∉ (workshop.verify "g" [] [("level", .str "1")]).registry.registered ∧
    "rule" ∈ (workshop.verify "g" [] [("level", .str "1")]).registry.registered := by
  have haccepted : (workshop.verify "gauge" [] [("d", .str "-07"), ("width", .str "12")]).result =
      .ok (.accepted [("d", .int (-7)), ("width", .str "12")]) := rfl
  have hrefused : (workshop.verify "g" [] [("level", .str "1")]).result =
      .ok (.refused (.missingDatatype "g" "level")) := rfl
  have hgroup : workshop.groups.get? "g" = some "gauge" := rfl
  obtain ⟨-, -, -, hflags⟩ :=
    effect_of_verify workshop "gauge" [] [("d", .str "-07"), ("width", .str "12")]
  obtain ⟨hsame, hout, -, -⟩ := effect_of_verify workshop "g" [] [("level", .str "1")]
  obtain ⟨d, hd, -, hreads⟩ := hflags _ haccepted
  obtain ⟨group, hget, -, hgone⟩ := hout.mpr ⟨_, hrefused, rfl⟩
  obtain rfl : "gauge" = group := Option.some.inj (hgroup.symm.trans hget)
  have hrule : workshop.groups.get? "g" ≠ some "rule" := by decide
  exact ⟨haccepted, ⟨d, hd, hreads⟩, hrefused, hgone,
    (hsame.registered "rule" hrule).mpr (by decide)⟩

end Registry

end CommandShell
