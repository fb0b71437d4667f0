import CommandShell.Proofs.Command.Conversion
import CommandShell.Proofs.Command.Names

/-!
# One command under two names

Nothing hangs on which of its names a command is asked for by: an invocation is accepted or
refused alike and leaves the same behind, flags are handed on alike, and a look at the
registry finds the same handler and the same schema (`alike_of_group`). Only the text about
an unknown command tells the names apart, which quotes the one that was asked for.
-/

namespace CommandShell

/-! ## What is said -/

/-- Two problems of the same type with the same text. -/
structure Problem.SaysSame (p q : Problem) : Prop where
  type : p.type = q.type
  message : p.message = q.message

/-- What is said of an invocation under the names `n` and `m` is the same, but that an unknown
command is called by the name. -/
inductive Problem.Alike (n m : String) : Problem → Problem → Prop where
  | unknown : Alike n m (.unknownCommand n) (.unknownCommand m)
  | same {p q : Problem} (h : p.SaysSame q) : Alike n m p q

/-- The same comes of a verification under the names `n` and `m`. -/
inductive Verification.Alike (n m : String) :
    Except Numeral.Fault Verification → Except Numeral.Fault Verification → Prop where
  | accepted (flags : Flags) : Alike n m (.ok (.accepted flags)) (.ok (.accepted flags))
  | refused {p q : Problem} (h : p.Alike n m q) : Alike n m (.ok (.refused p)) (.ok (.refused q))
  | fault (fault : Numeral.Fault) : Alike n m (.error fault) (.error fault)

/-- Two checks of flags come to the same. -/
inductive FlagFault.Agree {α : Type} : Except FlagFault α → Except FlagFault α → Prop where
  | ok (a : α) : Agree (.ok a) (.ok a)
  | definition {p q : Problem} (h : p.SaysSame q) :
      Agree (.error (.definition p)) (.error (.definition q))
  | value {p q : Problem} (h : p.SaysSame q) : Agree (.error (.value p)) (.error (.value q))
  | numeral (fault : Numeral.Fault) : Agree (.error (.numeral fault)) (.error (.numeral fault))

theorem FlagFault.Agree.bind {α β : Type} {one other : Except FlagFault α}
    {f g : α → Except FlagFault β} (h : Agree one other) (hnext : ∀ a, Agree (f a) (g a)) :
    Agree (one >>= f) (other >>= g) := by
  cases h with
  | ok a => exact hnext a
  | definition h => exact .definition h
  | value h => exact .value h
  | numeral fault => exact .numeral fault

/-! ## Checks -/

section

variable {η : Type} (n m : String) (c : Definition η)

theorem checkArguments_agree (args : List String) (position : Nat) (ps : List Parameter) :
    Option.Rel Problem.SaysSame (checkArguments n args position ps)
      (checkArguments m args position ps) := by
  induction ps generalizing position with
  | nil => exact .none
  | cons p ps ih =>
      rw [checkArguments, checkArguments]
      split
      · split
        · exact .some ⟨rfl, rfl⟩
        · exact ih _
      · split
        · split
          · exact ih _
          · exact .some ⟨rfl, rfl⟩
        · exact ih _

variable {n} in
theorem checkArguments_eq_none {args : List String} {position : Nat} {ps : List Parameter}
    (h : checkArguments n args position ps = none) : checkArguments m args position ps = none := by
  have hagree := checkArguments_agree n m args position ps
  rw [h] at hagree
  generalize checkArguments m args position ps = other at hagree ⊢
  cases hagree
  rfl

variable {n} in
theorem checkArguments_eq_problem {args : List String} {position : Nat} {ps : List Parameter}
    {p : Problem} (h : checkArguments n args position ps = some p) :
    ∃ q, checkArguments m args position ps = some q ∧ p.SaysSame q := by
  have hagree := checkArguments_agree n m args position ps
  rw [h] at hagree
  generalize checkArguments m args position ps = other at hagree ⊢
  cases hagree with
  | some hsame => exact ⟨_, rfl, hsame⟩

theorem checkFlag_agree (key : String) (value : Value) :
    FlagFault.Agree (checkFlag n c key value) (checkFlag m c key value) := by
  unfold checkFlag
  split
  · exact .ok _
  · split
    · exact .definition ⟨rfl, rfl⟩
    · split
      · exact .numeral _
      · split
        · exact .value ⟨rfl, rfl⟩
        · split
          · exact .definition ⟨rfl, rfl⟩
          · exact .ok _

theorem checkFlags_agree (flags : Flags) :
    FlagFault.Agree (checkFlags n c flags) (checkFlags m c flags) := by
  induction flags with
  | nil => exact .ok _
  | cons f flags ih =>
      obtain ⟨key, value⟩ := f
      rw [checkFlags, checkFlags]
      exact (checkFlag_agree n m c key value).bind fun v => ih.bind fun vs => .ok _

variable {c}

/-- Flags are held against the same parameters under every name. -/
theorem checkFlags_under (command name : String) (flags : Flags) :
    checkFlags command (c.under name) flags = checkFlags command c flags := by
  have hone (key : String) (value : Value) :
      checkFlag command (c.under name) key value = checkFlag command c key value := by
    simp only [checkFlag, Definition.findFlag?_under]
  induction flags with
  | nil => rfl
  | cons f flags ih =>
      obtain ⟨key, value⟩ := f
      simp only [checkFlags, hone, ih]

end

namespace Registry

variable {η : Type} {r : Registry η} {c d : Definition η} {name n m group : String}
  {args : List String} {flags : Flags} {p : Problem}

/-! ## Names of one command -/

theorem isRegistered_congr (h : r.groups.get? n = r.groups.get? m) :
    r.isRegistered n = r.isRegistered m := by
  rw [isRegistered, h, isRegistered]

theorem registry_unregister_congr (h : r.groups.get? n = r.groups.get? m) :
    (r.unregister n).registry = (r.unregister m).registry := by
  unfold unregister
  rw [h]
  cases r.groups.get? m with
  | none => rfl
  | some group =>
      dsimp only
      split <;> rfl

namespace Houses

variable (h : r.Houses c) (hn : n ∈ namesOf c) (hm : m ∈ namesOf c)

include h hn hm

theorem group_eq : r.groups.get? n = r.groups.get? m := by
  rw [(h.group n).mpr hn, (h.group m).mpr hm]

theorem bars (hbars : r.Bars n args flags p) : ∃ q, r.Bars m args flags q ∧ p.Alike n m q := by
  have hregistered : r.isRegistered n = r.isRegistered m := isRegistered_congr (h.group_eq hn hm)
  cases hbars with
  | unknown hunknown =>
      refine ⟨_, .unknown (Or.inr ?_), .unknown⟩
      rw [← hregistered]
      refine hunknown.resolve_left fun hnone => ?_
      rw [h.kept n hn] at hnone
      cases hnone
  | argument hd hr ha =>
      obtain rfl := Option.some.inj ((h.kept n hn).symm.trans hd)
      rw [Definition.positionals_under, ← Definition.positionals_under c m] at ha
      obtain ⟨q, hq, hsame⟩ := checkArguments_eq_problem m ha
      exact ⟨q, .argument (h.kept m hm) (hregistered.symm.trans hr) hq, .same hsame⟩
  | missing hd hr ha hmissing =>
      obtain rfl := Option.some.inj ((h.kept n hn).symm.trans hd)
      rw [Definition.positionals_under, ← Definition.positionals_under c m] at ha
      rw [Definition.flags_under, ← Definition.flags_under c m] at hmissing
      exact ⟨_, .missing (h.kept m hm) (hregistered.symm.trans hr) (checkArguments_eq_none m ha)
        hmissing, .same ⟨rfl, rfl⟩⟩

theorem ready (hready : r.Ready n args flags d) :
    d = c.under n ∧ r.Ready m args flags (c.under m) := by
  obtain rfl := Option.some.inj ((h.kept n hn).symm.trans hready.defined)
  have hregistered : r.isRegistered n = r.isRegistered m := isRegistered_congr (h.group_eq hn hm)
  refine ⟨rfl, h.kept m hm, hregistered.symm.trans hready.registered, ?_, ?_⟩
  · have ha := hready.arguments
    rw [Definition.positionals_under, ← Definition.positionals_under c m] at ha
    exact checkArguments_eq_none m ha
  · have hmissing := hready.required
    rwa [Definition.flags_under, ← Definition.flags_under c m] at hmissing

/-- A verification comes to the same under both names. -/
theorem verify_alike (args : List String) (flags : Flags) :
    Verification.Alike n m (r.verify n args flags).result (r.verify m args flags).result ∧
      (r.verify n args flags).registry = (r.verify m args flags).registry := by
  rcases bars_or_ready r n args flags with ⟨p, hbars, hresult, hregistry⟩ | ⟨d, hready⟩
  · obtain ⟨q, hother, halike⟩ := h.bars hn hm hbars
    obtain ⟨hresult', hregistry'⟩ := verify_of_bars hother
    rw [hresult, hregistry, hresult', hregistry']
    exact ⟨.refused halike, rfl⟩
  · obtain ⟨rfl, hother⟩ := h.ready hn hm hready
    obtain ⟨hresult, hregistry⟩ := verify_of_ready hready
    obtain ⟨hresult', hregistry'⟩ := verify_of_ready hother
    rw [hresult, hregistry, hresult', hregistry', checkFlags_under, checkFlags_under]
    have hagree := checkFlags_agree n m c flags
    generalize checkFlags n c flags = one at hagree ⊢
    generalize checkFlags m c flags = other at hagree ⊢
    cases hagree with
    | ok taken => exact ⟨.accepted taken, rfl⟩
    | definition hsame =>
        exact ⟨.refused (.same hsame), registry_unregister_congr (h.group_eq hn hm)⟩
    | value hsame => exact ⟨.refused (.same hsame), rfl⟩
    | numeral fault => exact ⟨.fault fault, rfl⟩

theorem normalize_eq_normalize (flags : Flags) : r.normalize n flags = r.normalize m flags := by
  rw [normalize_eq (h.kept n hn), normalize_eq (h.kept m hm)]
  simp only [Definition.longName, Definition.findFlag?_under]

/-- A look at the registry finds the same command. -/
theorem lookup_eq_lookup :
    (r.lookup n).result.map (fun d => (d.handler, d.schema)) =
      (r.lookup m).result.map (fun d => (d.handler, d.schema)) := by
  have hregistered : r.isRegistered n = r.isRegistered m := isRegistered_congr (h.group_eq hn hm)
  unfold lookup
  rw [h.kept n hn, h.kept m hm, hregistered]
  dsimp only
  split
  · simp
  · rfl

end Houses

/-- The names of one group are those of one command. -/
theorem Holds.houses {P : Definition η → Prop} (h : Holds P r)
    (hn : r.groups.get? n = some group) (hm : r.groups.get? m = some group) :
    ∃ c, r.Houses c ∧ n ∈ namesOf c ∧ m ∈ namesOf c := by
  obtain ⟨c, -, rfl, hc⟩ := h.command n group hn
  exact ⟨c, hc, (hc.group n).mp hn, (hc.group m).mp hm⟩

/-- **Two names of one group do the same.** After any operations an invocation under one of
them is accepted with the same flags or refused for the same, with the same text unless
that quotes the name, and leaves the same registry behind. Flags are handed on alike. A
look at the registry finds a command under both or under none, with the same handler and
the same schema. -/
theorem alike_of_group (ops : List (Operation η)) {n m group : String}
    (hn : (performAll {} ops).groups.get? n = some group)
    (hm : (performAll {} ops).groups.get? m = some group) :
    let r : Registry η := performAll {} ops
    (∀ args flags,
      Verification.Alike n m (r.verify n args flags).result (r.verify m args flags).result ∧
      (r.verify n args flags).registry = (r.verify m args flags).registry) ∧
    (∀ flags, r.normalize n flags = r.normalize m flags) ∧
    (∀ d, (r.lookup n).result = some d →
      ∃ e, (r.lookup m).result = some e ∧ e.handler = d.handler ∧ e.schema = d.schema) ∧
    ((r.lookup n).result = none ↔ (r.lookup m).result = none) := by
  intro r
  obtain ⟨c, hc, hn', hm'⟩ := (holds_of_operations ops).houses hn hm
  have hlookup : (r.lookup n).result.map (fun d => (d.handler, d.schema)) =
      (r.lookup m).result.map (fun d => (d.handler, d.schema)) := hc.lookup_eq_lookup hn' hm'
  refine ⟨hc.verify_alike hn' hm', hc.normalize_eq_normalize hn' hm', fun d hd => ?_, ?_⟩
  · rw [hd, Option.map_some, eq_comm, Option.map_eq_some_iff] at hlookup
    obtain ⟨e, he, heq⟩ := hlookup
    obtain ⟨hhandler, hschema⟩ := Prod.mk.inj heq
    exact ⟨e, he, hhandler, hschema⟩
  · rw [← Option.map_eq_none_iff, hlookup, Option.map_eq_none_iff]

/-- A command with another name, an argument that must be given, a flag without a datatype
and one for numbers. -/
def seek : Definition Unit :=
  { name := "seek", handler := (), otherName := some "s"
    schema := [
      { kind := .positional, name := "text", required := true },
      { kind := .flag, name := "level" },
      { kind := .flag, name := "count", shortName := some "c", datatype := some .number }] }

/-- A registry in which it can be run, registered by its other name. -/
def library : Registry Unit := performAll {} [.define seek, .init, .register "s"]

/-- A level is the same defect under both names and takes out the one group, the short name
of the count becomes its long one, and both names find the same schema. -/
theorem alike_under_short_name :
    (library.groups.get? "seek" = some "seek" ∧ library.groups.get? "s" = some "seek") ∧
    Verification.Alike "seek" "s" (library.verify "seek" ["x"] [("level", .str "1")]).result
      (library.verify "s" ["x"] [("level", .str "1")]).result ∧
    (library.verify "s" ["x"] [("level", .str "1")]).result =
      .ok (.refused (.missingDatatype "s" "level")) ∧
    (library.verify "seek" ["x"] [("level", .str "1")]).registry.registered = [] ∧
    library.normalize "seek" [("c", .int 3)] = [("count", .int 3)] ∧
    ∃ e, (library.lookup "s").result = some e ∧ e.schema = seek.schema := by
  have hown : (performAll {} [.define seek, .init, .register "s"]).groups.get? "seek" =
      some "seek" := rfl
  have hother : (performAll {} [.define seek, .init, .register "s"]).groups.get? "s" =
      some "seek" := rfl
  obtain ⟨hverify, hnormalize, hlookup, -⟩ :=
    alike_of_group [.define seek, .init, .register "s"] hown hother
  obtain ⟨halike, hregistry⟩ := hverify ["x"] [("level", .str "1")]
  obtain ⟨e, he, -, hschema⟩ := hlookup seek rfl
  have hgone : (library.verify "s" ["x"] [("level", .str "1")]).registry.registered = [] := rfl
  have hshort : library.normalize "s" [("c", .int 3)] = [("count", .int 3)] := rfl
  exact ⟨⟨hown, hother⟩, halike, rfl, hregistry ▸ hgone, (hnormalize _).trans hshort, e, he,
    hschema⟩

end Registry

end CommandShell
