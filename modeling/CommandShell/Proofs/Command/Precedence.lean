import CommandShell.Proofs.Command.Conversion

/-!
# Which problem is reported

An invocation may break several rules at once, and one problem is reported. The rules are
numbered, and they are looked at in rounds: an argument that is not allowed is found before
one that is missing, and each flag is held against all rules about flags before the next
one is. So the rule that is reported is one of the first round in which a rule is broken,
and among the rules about flags it is the lowest that the first flag at fault breaks
(`verify_reports`). Whether a defect of the definition is found, and the command taken out,
hangs on the order of the flags.
-/

namespace CommandShell

/-! ## Rules -/

/-- What an invocation has to keep to. -/
inductive Rule where
  /-- there is such a command, and it can be run -/
  | known
  /-- the arguments that are required are there -/
  | given
  /-- every argument has one of the values that are allowed for it -/
  | allowed
  /-- the flags that are required are there -/
  | required
  /-- the definition says of which datatype a flag is -/
  | datatype
  /-- the value of a flag is of its datatype -/
  | type
  /-- the default of a flag is of its datatype -/
  | default
deriving DecidableEq, Repr

namespace Rule

/-- The step of a verification that a rule belongs to. The sixth step converts values. -/
def number : Rule → Nat
  | .known => 1
  | .given => 2
  | .allowed => 3
  | .required => 4
  | .datatype => 5
  | .type => 7
  | .default => 8

/-- The round in which a rule is looked at. The last one goes over the flags. -/
def round : Rule → Nat
  | .known => 0
  | .allowed => 1
  | .given => 2
  | .required => 3
  | .datatype | .type | .default => 4

/-- The rounds follow the numbers, but for arguments and within the last one. -/
theorem number_le_of_round_le {rule other : Rule} (h : rule.round ≤ other.round) :
    rule.number ≤ other.number ∨ (rule = .allowed ∧ other = .given) ∨
      (rule.round = 4 ∧ other.round = 4) := by
  revert h
  cases rule <;> cases other <;> decide

end Rule

variable {η : Type}

/-- A flag of an invocation breaks a rule, and this is said of it. -/
inductive FlagBreach (command : String) (d : Definition η) (key : String) (value : Value) :
    Rule → Problem → Prop where
  | datatype {p : Parameter} (known : d.findFlag? key = some p) (untyped : p.datatype = none) :
      FlagBreach command d key value .datatype (.missingDatatype command p.name)
  | type {p : Parameter} {t : Datatype} {v : Value} (known : d.findFlag? key = some p)
      (typed : p.datatype = some t) (converted : coerce value = .ok v)
      (wrong : runtimeType v ≠ t.name) :
      FlagBreach command d key value .type
        (.invalidFlag command p.name t.name (runtimeType v))
  | default {p : Parameter} {t : Datatype} (known : d.findFlag? key = some p)
      (typed : p.datatype = some t) (wrong : p.hasWrongDefault t = true) :
      FlagBreach command d key value .default (.invalidDefault command p.name)

namespace Registry

/-- An invocation breaks a rule, and this is said of it. -/
inductive Breach (r : Registry η) (name : String) (args : List String) (flags : Flags) :
    Rule → Problem → Prop where
  | known (h : r.IsUnknown name) : Breach r name args flags .known (.unknownCommand name)
  | given {d : Definition η} {i : Nat} {p : Parameter} (defined : r.definitions.get? name = some d)
      (parameter : d.positionals[i]? = some p) (required : p.required = true)
      (missing : args.length ≤ i) :
      Breach r name args flags .given (.missingArgument name p.name i)
  | allowed {d : Definition η} {i : Nat} {p : Parameter} {arg : String} {values : List String}
      (defined : r.definitions.get? name = some d) (parameter : d.positionals[i]? = some p)
      (supplied : args[i]? = some arg) (limited : p.allowed = some values) (outside : arg ∉ values) :
      Breach r name args flags .allowed (.invalidArgument name p.name (values.map .str) arg)
  | required {d : Definition η} {p : Parameter} (defined : r.definitions.get? name = some d)
      (parameter : p ∈ d.flags) (required : p.required = true)
      (missing : ∀ key ∈ p.flagKeys, flags.has key = false) :
      Breach r name args flags .required (.missingFlag name p.name)
  | flag {d : Definition η} {key : String} {value : Value} {rule : Rule} {problem : Problem}
      (defined : r.definitions.get? name = some d) (supplied : (key, value) ∈ flags)
      (breach : FlagBreach name d key value rule problem) :
      Breach r name args flags rule problem

end Registry

/-! ## Arguments -/

section

variable {command : String} {args : List String} {n : Nat} {p : Parameter} {ps : List Parameter}
  {problem : Problem}

/-- What is wrong with the argument at a position. -/
def argumentFault? (command : String) (args : List String) (position : Nat) (p : Parameter) :
    Option Problem :=
  match args[position]? with
  | none => if p.required then some (.missingArgument command p.name position) else none
  | some arg =>
    match p.allowed with
    | some allowed =>
      if allowed.contains arg then none
      else some (.invalidArgument command p.name (allowed.map .str) arg)
    | none => none

theorem checkArguments_cons :
    checkArguments command args n (p :: ps) =
      (argumentFault? command args n p).or (checkArguments command args (n + 1) ps) := by
  rw [checkArguments, argumentFault?]
  cases args[n]? with
  | none =>
      dsimp only
      split <;> rfl
  | some arg =>
      cases p.allowed with
      | none => rfl
      | some values =>
          dsimp only
          split <;> rfl

/-- The first argument at fault decides. -/
theorem checkArguments_eq_some (h : checkArguments command args n ps = some problem) :
    ∃ i p, ps[i]? = some p ∧ argumentFault? command args (n + i) p = some problem ∧
      ∀ j < i, ∀ q, ps[j]? = some q → argumentFault? command args (n + j) q = none := by
  induction ps generalizing n with
  | nil => cases h
  | cons q ps ih =>
      rw [checkArguments_cons] at h
      cases hq : argumentFault? command args n q with
      | some problem' =>
          rw [hq] at h
          exact ⟨0, q, rfl, hq.trans h, fun j hj => absurd hj (Nat.not_lt_zero j)⟩
      | none =>
          rw [hq] at h
          obtain ⟨i, p, hp, hfault, hbefore⟩ := ih h
          refine ⟨i + 1, p, hp, ?_, ?_⟩
          · rwa [show n + (i + 1) = n + 1 + i by omega]
          · intro j hj q' hq'
            cases j with
            | zero =>
                obtain rfl := Option.some.inj hq'
                exact hq
            | succ j =>
                rw [show n + (j + 1) = n + 1 + j by omega]
                exact hbefore j (by omega) q' hq'

theorem allowed_of_argumentFault? (h : argumentFault? command args n p = none) {arg : String}
    {values : List String} (harg : args[n]? = some arg) (hvalues : p.allowed = some values) :
    arg ∈ values := by
  rw [argumentFault?, harg, hvalues] at h
  dsimp only at h
  split at h
  · rename_i hmem
    exact List.contains_iff_mem.mp hmem
  · cases h

end

/-! ## Flags -/

section

variable {command key : String} {d : Definition η} {value : Value} {rule : Rule}
  {problem : Problem} {fault : FlagFault}

theorem FlagBreach.round_eq (h : FlagBreach command d key value rule problem) : rule.round = 4 := by
  cases h <;> rfl

/-- A flag that is accepted breaks no rule. -/
theorem not_flagBreach_of_checkFlag {v : Value} (h : checkFlag command d key value = .ok v) :
    ¬ FlagBreach command d key value rule problem := by
  intro hbreach
  unfold checkFlag at h
  cases hbreach with
  | datatype hknown huntyped => simp [hknown, huntyped] at h
  | type hknown htyped hconverted hwrong => simp [hknown, htyped, hconverted, hwrong] at h
  | @default p t hknown htyped hwrong =>
      simp only [hknown, htyped] at h
      cases hv : coerce value with
      | error fault => simp [hv] at h
      | ok v' => by_cases htype : runtimeType v' = t.name <;> simp [hv, htype, hwrong] at h

theorem not_flagBreach_datatype {p : Parameter} {t : Datatype} (hp : d.findFlag? key = some p)
    (ht : p.datatype = some t) : ¬ FlagBreach command d key value .datatype problem := by
  intro hbreach
  cases hbreach with
  | datatype hq huntyped =>
      obtain rfl := Option.some.inj (hp.symm.trans hq)
      rw [ht] at huntyped
      cases huntyped

theorem not_flagBreach_type {p : Parameter} {t : Datatype} {v : Value}
    (hp : d.findFlag? key = some p) (ht : p.datatype = some t) (hv : coerce value = .ok v)
    (hright : runtimeType v = t.name) : ¬ FlagBreach command d key value .type problem := by
  intro hbreach
  cases hbreach with
  | type hq hs hw hwrong =>
      obtain rfl := Option.some.inj (hp.symm.trans hq)
      obtain rfl := Option.some.inj (ht.symm.trans hs)
      obtain rfl := Except.ok.inj (hv.symm.trans hw)
      exact hwrong hright

/-- The problem with a flag, but for numerals of too many digits. -/
def FlagFault.problem? : FlagFault → Option Problem
  | .definition p => some p
  | .value p => some p
  | .numeral _ => none

/-- What is reported of a flag breaks a rule, and the flag breaks none with a lower number. -/
theorem flagBreach_of_checkFlag (h : checkFlag command d key value = .error fault)
    (hproblem : fault.problem? = some problem) :
    ∃ rule, FlagBreach command d key value rule problem ∧
      (rule = .type ↔ fault = .value problem) ∧
      ∀ other p, FlagBreach command d key value other p → rule.number ≤ other.number := by
  obtain ⟨p, hp, hfault⟩ := checkFlag_error_cases h
  rcases hfault with ⟨ht, rfl⟩ | ⟨t, ht, hfault⟩
  · obtain rfl := Option.some.inj hproblem
    refine ⟨.datatype, .datatype hp ht, by simp, fun other p' hb => ?_⟩
    cases hb <;> decide
  · rcases hfault with ⟨numeral, -, rfl⟩ | ⟨v, hv, hfault⟩
    · cases hproblem
    · rcases hfault with ⟨hwrong, rfl⟩ | ⟨hright, hdefault, rfl⟩
      · obtain rfl := Option.some.inj hproblem
        refine ⟨.type, .type hp ht hv hwrong, by simp, fun other p' hb => ?_⟩
        cases other with
        | datatype => exact absurd hb (not_flagBreach_datatype hp ht)
        | type => decide
        | default => decide
        | known | given | allowed | required => cases hb
      · obtain rfl := Option.some.inj hproblem
        refine ⟨.default, .default hp ht hdefault, by simp, fun other p' hb => ?_⟩
        cases other with
        | datatype => exact absurd hb (not_flagBreach_datatype hp ht)
        | type => exact absurd hb (not_flagBreach_type hp ht hv hright)
        | default => decide
        | known | given | allowed | required => cases hb

/-- Flags that are accepted break no rule. -/
theorem not_flagBreach_of_checkFlags {flags taken : Flags}
    (h : checkFlags command d flags = .ok taken) {f : String × Value} (hf : f ∈ flags) :
    ¬ FlagBreach command d f.1 f.2 rule problem := by
  rw [checkFlags_eq_ok_iff] at h
  induction h with
  | nil => cases hf
  | cons hone _ ih =>
      rcases List.mem_cons.mp hf with rfl | hf
      · exact not_flagBreach_of_checkFlag hone.2
      · exact ih hf

end

namespace Registry

variable {r : Registry η} {name : String} {args : List String} {flags : Flags}
  {d : Definition η} {rule : Rule} {problem : Problem}

/-! ## Rounds -/

theorem not_isUnknown (hd : r.definitions.get? name = some d) (hr : r.isRegistered name = true) :
    ¬ r.IsUnknown name := by
  rintro (hnone | hfalse)
  · rw [hd] at hnone
    cases hnone
  · rw [hr] at hfalse
    cases hfalse

/-- A command that can be run is known. -/
theorem one_le_round (hknown : ¬ r.IsUnknown name) (h : r.Breach name args flags rule problem) :
    1 ≤ rule.round := by
  cases h with
  | known hunknown => exact absurd hunknown hknown
  | given => decide
  | allowed => decide
  | required => decide
  | flag _ _ hbreach =>
      rw [hbreach.round_eq]
      decide

theorem not_breach_allowed (hd : r.definitions.get? name = some d)
    (hallowed : ∀ (i : Nat) (p : Parameter) (arg : String) (values : List String),
      d.positionals[i]? = some p → args[i]? = some arg → p.allowed = some values → arg ∈ values) :
    ¬ r.Breach name args flags .allowed problem := by
  intro h
  cases h with
  | allowed hd' hp harg hvalues houtside =>
      obtain rfl := Option.some.inj (hd.symm.trans hd')
      exact houtside (hallowed _ _ _ _ hp harg hvalues)
  | flag _ _ hbreach => cases hbreach

theorem not_breach_given (hd : r.definitions.get? name = some d)
    (hgiven : ∀ (i : Nat) (p : Parameter), d.positionals[i]? = some p → p.required = true →
      i < args.length) :
    ¬ r.Breach name args flags .given problem := by
  intro h
  cases h with
  | given hd' hp hrequired hmissing =>
      obtain rfl := Option.some.inj (hd.symm.trans hd')
      exact absurd (hgiven _ _ hp hrequired) (Nat.not_lt.mpr hmissing)
  | flag _ _ hbreach => cases hbreach

/-- Arguments in which nothing is found break no rule. -/
theorem three_le_round (hknown : ¬ r.IsUnknown name) (hd : r.definitions.get? name = some d)
    (ha : checkArguments name args 0 d.positionals = none)
    (h : r.Breach name args flags rule problem) : 3 ≤ rule.round := by
  have hargument (i : Nat) (p : Parameter) (hp : d.positionals[i]? = some p) :=
    arguments_of_checkArguments ha hp
  simp only [Nat.zero_add] at hargument
  cases rule with
  | known => exact absurd (one_le_round hknown h) (by decide)
  | allowed =>
      exact absurd h (not_breach_allowed hd fun i p arg values hp => (hargument i p hp).2 arg values)
  | given => exact absurd h (not_breach_given hd fun i p hp => (hargument i p hp).1)
  | required | datatype | type | default => decide

/-- What is reported of the arguments breaks a rule about them. When it is that one is
missing, all that are there are allowed: those that are missing come last. -/
theorem breach_of_checkArguments (hd : r.definitions.get? name = some d)
    (h : checkArguments name args 0 d.positionals = some problem) :
    r.Breach name args flags .allowed problem ∨
    (r.Breach name args flags .given problem ∧
      ∀ p, ¬ r.Breach name args flags .allowed p) := by
  obtain ⟨i, p, hp, hfault, hbefore⟩ := checkArguments_eq_some h
  simp only [Nat.zero_add] at hfault hbefore
  unfold argumentFault? at hfault
  cases harg : args[i]? with
  | none =>
      simp only [harg] at hfault
      split at hfault
      · rename_i hrequired
        obtain rfl := Option.some.inj hfault
        have hlength : args.length ≤ i := List.getElem?_eq_none_iff.mp harg
        refine Or.inr ⟨.given hd hp hrequired hlength, fun p' => not_breach_allowed hd ?_⟩
        intro j q arg values hq hsupplied hvalues
        have hj : j < args.length := (List.getElem?_eq_some_iff.mp hsupplied).1
        exact allowed_of_argumentFault? (hbefore j (by omega) q hq) hsupplied hvalues
      · cases hfault
  | some arg =>
      simp only [harg] at hfault
      cases hvalues : p.allowed with
      | none => simp [hvalues] at hfault
      | some values =>
          simp only [hvalues] at hfault
          split at hfault
          · cases hfault
          · rename_i hmem
            obtain rfl := Option.some.inj hfault
            refine Or.inl (.allowed hd hp harg hvalues fun hin => hmem ?_)
            exact List.contains_iff_mem.mpr hin

/-- What an invocation is refused for before its flags are looked at one by one is of the
first round in which it breaks a rule. -/
theorem breach_of_bars (h : r.Bars name args flags problem) :
    ∃ rule, r.Breach name args flags rule problem ∧ rule.round < 4 ∧
      ∀ other p, r.Breach name args flags other p → rule.round ≤ other.round := by
  cases h with
  | unknown hunknown => exact ⟨.known, .known hunknown, by decide, fun other p _ => Nat.zero_le _⟩
  | argument hd hr ha =>
      have hknown := not_isUnknown hd hr
      rcases breach_of_checkArguments hd ha with hall | ⟨hgiven, hall⟩
      · exact ⟨.allowed, hall, by decide, fun other p hb => one_le_round hknown hb⟩
      · refine ⟨.given, hgiven, by decide, fun other p hb => ?_⟩
        cases other with
        | known => exact absurd (one_le_round hknown hb) (by decide)
        | allowed => exact absurd hb (hall p)
        | given | required | datatype | type | default => decide
  | @missing d p hd hr ha hm =>
      have hmissing := List.find?_some (p := fun p : Parameter =>
        p.required && !p.flagKeys.any fun k => flags.has k) hm
      simp only [Bool.and_eq_true, Bool.not_eq_true', List.any_eq_false, Bool.not_eq_true] at hmissing
      refine ⟨.required, .required hd (List.mem_of_find?_eq_some hm) hmissing.1 hmissing.2,
        by decide, fun other p' hb => three_le_round (not_isUnknown hd hr) hd ha hb⟩

/-- Once nothing else is wrong only flags break rules. -/
theorem Ready.breach_iff (h : r.Ready name args flags d) :
    r.Breach name args flags rule problem ↔
      ∃ f ∈ flags, FlagBreach name d f.1 f.2 rule problem := by
  constructor
  · intro hb
    have hround := three_le_round (not_isUnknown h.defined h.registered) h.defined h.arguments hb
    cases hb with
    | known => exact absurd hround (by decide)
    | given => exact absurd hround (by decide)
    | allowed => exact absurd hround (by decide)
    | @required d' p hd' hp hrequired hmissing =>
        obtain rfl := Option.some.inj (h.defined.symm.trans hd')
        obtain ⟨key, hkey, hhas⟩ : ∃ key ∈ p.flagKeys, flags.has key = true := by
          simpa [hrequired] using List.find?_eq_none.mp h.required p hp
        rw [hmissing key hkey] at hhas
        cases hhas
    | flag hd' hmem hbreach =>
        obtain rfl := Option.some.inj (h.defined.symm.trans hd')
        exact ⟨_, hmem, hbreach⟩
  · rintro ⟨f, hf, hbreach⟩
    exact .flag h.defined hf hbreach

/-! ## What is reported -/

/-- The first flag at fault breaks this rule and none with a lower number. -/
def FirstAtFault (d : Definition η) (name : String) (flags : Flags) (rule : Rule)
    (problem : Problem) : Prop :=
  ∃ before key value after, flags = before ++ (key, value) :: after ∧
    (∀ f ∈ before, ∀ other p, ¬ FlagBreach name d f.1 f.2 other p) ∧
    FlagBreach name d key value rule problem ∧
    ∀ other p, FlagBreach name d key value other p → rule.number ≤ other.number

theorem firstAtFault_of_checkFlags {fault : FlagFault} (h : checkFlags name d flags = .error fault)
    (hproblem : fault.problem? = some problem) :
    ∃ rule, FirstAtFault d name flags rule problem ∧ (rule = .type ↔ fault = .value problem) := by
  obtain ⟨before, key, value, after, rfl, ⟨taken, hbefore⟩, hcheck⟩ := checkFlags_eq_error_iff.mp h
  obtain ⟨rule, hbreach, htype, hleast⟩ := flagBreach_of_checkFlag hcheck hproblem
  exact ⟨rule, ⟨before, key, value, after, rfl,
    fun f hf other p => not_flagBreach_of_checkFlags hbefore hf, hbreach, hleast⟩, htype⟩

theorem FirstAtFault.exists_breach (h : FirstAtFault d name flags rule problem) :
    ∃ f ∈ flags, FlagBreach name d f.1 f.2 rule problem := by
  obtain ⟨before, key, value, after, rfl, -, hbreach, -⟩ := h
  exact ⟨(key, value), by simp, hbreach⟩

theorem FirstAtFault.round_eq (h : FirstAtFault d name flags rule problem) : rule.round = 4 := by
  obtain ⟨f, -, hbreach⟩ := h.exists_breach
  exact hbreach.round_eq

theorem outcome_eq_accepted_iff {checked : Except FlagFault Flags} {taken : Flags} :
    outcome checked = .ok (.accepted taken) ↔ checked = .ok taken := by
  rcases checked with ⟨p | p | fault⟩ | taken' <;> simp [outcome]

theorem outcome_eq_refused_iff {checked : Except FlagFault Flags} :
    outcome checked = .ok (.refused problem) ↔
      ∃ fault, checked = .error fault ∧ fault.problem? = some problem := by
  rcases checked with ⟨p | p | fault⟩ | taken <;> simp [outcome, FlagFault.problem?]

/-- What is accepted breaks no rule. -/
theorem not_breach_of_accepted {taken : Flags}
    (h : (r.verify name args flags).result = .ok (.accepted taken)) :
    ¬ r.Breach name args flags rule problem := by
  rcases bars_or_ready r name args flags with ⟨p, -, hrefused, -⟩ | ⟨d, hready⟩
  · rw [hrefused] at h
    cases h
  · rw [(verify_of_ready hready).1, outcome_eq_accepted_iff] at h
    rw [hready.breach_iff]
    rintro ⟨f, hf, hbreach⟩
    exact not_flagBreach_of_checkFlags h hf hbreach

/-- What is reported of the flags once nothing else is wrong. -/
theorem Ready.firstAtFault (h : r.Ready name args flags d)
    (hrefused : (r.verify name args flags).result = .ok (.refused problem)) :
    ∃ rule, FirstAtFault d name flags rule problem ∧
      (r.verify name args flags).registry =
        if rule = .datatype ∨ rule = .default then (r.unregister name).registry else r := by
  obtain ⟨hresult, hregistry⟩ := verify_of_ready h
  rw [hresult, outcome_eq_refused_iff] at hrefused
  obtain ⟨fault, hcheck, hproblem⟩ := hrefused
  obtain ⟨rule, hfirst, htype⟩ := firstAtFault_of_checkFlags hcheck hproblem
  refine ⟨rule, hfirst, ?_⟩
  rw [hregistry, hcheck]
  have hround := hfirst.round_eq
  cases fault with
  | definition p =>
      have hne : rule ≠ .type := fun heq => by cases htype.mp heq
      have hdefect : rule = .datatype ∨ rule = .default := by
        revert hround hne
        cases rule <;> decide
      rw [if_pos hdefect]
  | value p =>
      obtain rfl := Option.some.inj hproblem
      rw [htype.mpr rfl]
      rfl
  | numeral fault => cases hproblem

/-- **One problem is reported, and which.** An invocation that a verification gives a
result for is accepted exactly when it breaks no rule. A problem that is reported breaks a
rule of the first round in which any is broken. Another rule with a lower number may be
broken only where an argument that is missing gives way to one that is not allowed, and
among the rules about flags, where the first flag at fault decides. The command is taken
out of the registered ones when the rule is about its definition. -/
theorem verify_reports (r : Registry η) (name : String) (args : List String) (flags : Flags) :
    ((∃ taken, (r.verify name args flags).result = .ok (.accepted taken)) ↔
      (∃ v, (r.verify name args flags).result = .ok v) ∧
        ∀ rule p, ¬ r.Breach name args flags rule p) ∧
    ∀ problem, (r.verify name args flags).result = .ok (.refused problem) →
      ∃ rule, r.Breach name args flags rule problem ∧
        (∀ other p, r.Breach name args flags other p → rule.round ≤ other.round) ∧
        (∀ other p, r.Breach name args flags other p → rule.number ≤ other.number ∨
          (rule = .allowed ∧ other = .given) ∨ (rule.round = 4 ∧ other.round = 4)) ∧
        (rule.round = 4 → ∃ d, r.definitions.get? name = some d ∧
          FirstAtFault d name flags rule problem) ∧
        (r.verify name args flags).registry =
          if rule = .datatype ∨ rule = .default then (r.unregister name).registry else r := by
  constructor
  · constructor
    · rintro ⟨taken, h⟩
      exact ⟨⟨_, h⟩, fun rule p => not_breach_of_accepted h⟩
    · rintro ⟨⟨v, hv⟩, hnone⟩
      cases v with
      | accepted taken => exact ⟨taken, hv⟩
      | refused problem =>
          exfalso
          rcases bars_or_ready r name args flags with ⟨p, hbars, -, -⟩ | ⟨d, hready⟩
          · obtain ⟨rule, hbreach, -⟩ := breach_of_bars hbars
            exact hnone rule p hbreach
          · obtain ⟨rule, hfirst, -⟩ := hready.firstAtFault hv
            exact hnone rule problem (hready.breach_iff.mpr hfirst.exists_breach)
  · intro problem hrefused
    rcases bars_or_ready r name args flags with ⟨p, hbars, hresult, hregistry⟩ | ⟨d, hready⟩
    · obtain rfl : p = problem := by
        rw [hresult] at hrefused
        exact Verification.refused.inj (Except.ok.inj hrefused)
      obtain ⟨rule, hbreach, hround, hfirst⟩ := breach_of_bars hbars
      refine ⟨rule, hbreach, hfirst,
        fun other p' hb => Rule.number_le_of_round_le (hfirst other p' hb),
        fun hlast => absurd hlast (Nat.ne_of_lt hround), ?_⟩
      rw [hregistry, if_neg]
      rintro (rfl | rfl)
      · exact absurd hround (by decide)
      · exact absurd hround (by decide)
    · obtain ⟨rule, hfirst, hregistry⟩ := hready.firstAtFault hrefused
      have hleast (other : Rule) (p : Problem) (hb : r.Breach name args flags other p) :
          rule.round ≤ other.round := by
        obtain ⟨f, -, hbreach⟩ := hready.breach_iff.mp hb
        exact Nat.le_of_eq (hfirst.round_eq.trans hbreach.round_eq.symm)
      exact ⟨rule, hready.breach_iff.mpr hfirst.exists_breach, hleast,
        fun other p hb => Rule.number_le_of_round_le (hleast other p hb),
        fun _ => ⟨d, hready.defined, hfirst⟩, hregistry⟩

/-- An argument that must be given. -/
def target : Parameter := { kind := .positional, name := "target", required := true }

/-- A command with a choice in front of what it requires, and a flag without a datatype in
front of one for numbers. -/
def shipping : Definition Unit :=
  { name := "ship", handler := ()
    schema := [
      { kind := .positional, name := "mode", allowed := some ["fast", "safe"] },
      target,
      { kind := .flag, name := "level" },
      { kind := .flag, name := "count", datatype := some .number }] }

/-- A registry in which it can be run. -/
def harbour : Registry Unit := performAll {} [.define shipping, .init, .register "ship"]

/-- A choice that is not offered is reported though the target is missing, which is the
lower rule. The same two flags are refused for the value of one or for the definition of
the other, whichever comes first, and only then the command is taken out. -/
theorem reported_out_of_turn :
    (harbour.verify "ship" ["slow"] []).result =
      .ok (.refused (.invalidArgument "ship" "mode" [.str "fast", .str "safe"] "slow")) ∧
    (∃ rule, harbour.Breach "ship" ["slow"] [] rule
        (.invalidArgument "ship" "mode" [.str "fast", .str "safe"] "slow") ∧
      rule.round ≤ Rule.given.round) ∧
    harbour.Breach "ship" ["slow"] [] .given (.missingArgument "ship" "target" 1) ∧
    (harbour.verify "ship" ["fast", "port"] [("count", .str "x"), ("level", .str "1")]).result =
      .ok (.refused (.invalidFlag "ship" "count" "number" "string")) ∧
    (harbour.verify "ship" ["fast", "port"]
      [("count", .str "x"), ("level", .str "1")]).registry.isRegistered "ship" = true ∧
    (harbour.verify "ship" ["fast", "port"] [("level", .str "1"), ("count", .str "x")]).result =
      .ok (.refused (.missingDatatype "ship" "level")) ∧
    (harbour.verify "ship" ["fast", "port"]
      [("level", .str "1"), ("count", .str "x")]).registry.isRegistered "ship" = false := by
  have hresult : (harbour.verify "ship" ["slow"] []).result =
      .ok (.refused (.invalidArgument "ship" "mode" [.str "fast", .str "safe"] "slow")) := rfl
  have hdefined : harbour.definitions.get? "ship" = some shipping := rfl
  have hparameter : shipping.positionals[1]? = some target := rfl
  have hmissing := @Breach.given Unit harbour "ship" ["slow"] [] shipping 1 target hdefined
    hparameter rfl (by decide)
  obtain ⟨rule, hbreach, hround, -⟩ := (verify_reports harbour "ship" ["slow"] []).2 _ hresult
  exact ⟨hresult, ⟨rule, hbreach, hround _ _ hmissing⟩, hmissing, rfl, by decide, rfl, by decide⟩

end Registry

end CommandShell
