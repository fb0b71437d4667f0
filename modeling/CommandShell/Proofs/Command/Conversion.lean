import CommandShell.Proofs.Command.Flags
import CommandShell.Proofs.Command.Registration
import CommandShell.Proofs.Number.Numeral

/-!
# Verification and numerals of too many digits

A value that is written like an integer becomes one before its type is compared. All such
texts are integers to the reader of numerals, but it refuses those of too many digits, and
its refusal is not a result of the verification. So an invocation is accepted or refused
with a problem, unless its first flag at fault is a flag of the command with such a
numeral (`verify_eq_error_iff`).
-/

namespace CommandShell

/-! ## Converting values -/

/-- A text of too many digits that is written like an integer. -/
def Numeral.IsOverlong (text : String) : Prop :=
  isPlain text.toList = true ∧ limit < digitCount text

/-- Only numerals of too many digits are not converted. -/
theorem coerce_eq_error_iff {value : Value} {fault : Numeral.Fault} :
    coerce value = .error fault ↔
      ∃ text, value = .str text ∧ Numeral.IsOverlong text ∧
        fault = .tooLong (Numeral.digitCount text) := by
  unfold coerce
  split
  · rename_i text
    split
    · rename_i hplain
      rw [Numeral.read_of_isPlain hplain]
      split
      · rename_i hlong
        constructor
        · rintro ⟨⟩
          exact ⟨text, rfl, ⟨hplain, hlong⟩, rfl⟩
        · rintro ⟨other, ⟨⟩, -, rfl⟩
          rfl
      · rename_i hshort
        constructor
        · rintro ⟨⟩
        · rintro ⟨other, ⟨⟩, ⟨-, hlong⟩, -⟩
          exact absurd hlong hshort
    · rename_i hplain
      constructor
      · rintro ⟨⟩
      · rintro ⟨other, ⟨⟩, ⟨hother, -⟩, -⟩
        exact absurd hother hplain
  · rename_i hstr
    constructor
    · rintro ⟨⟩
    · rintro ⟨text, rfl, -⟩
      exact absurd rfl (hstr text)

section

variable {η : Type} {command : String} {d : Definition η} {flags : Flags}

/-- The value of a flag that the command knows is converted when the flag has a datatype. -/
theorem checkFlag_eq_numeral_iff {key : String} {value : Value} {fault : Numeral.Fault} :
    checkFlag command d key value = .error (.numeral fault) ↔
      ∃ p, d.findFlag? key = some p ∧ p.datatype.isSome = true ∧ coerce value = .error fault := by
  unfold checkFlag
  cases hp : d.findFlag? key with
  | none => simp
  | some p =>
      cases ht : p.datatype with
      | none => simp [ht]
      | some t =>
          cases hv : coerce value with
          | error fault' => simp [ht]
          | ok v =>
              by_cases htype : runtimeType v = t.name <;>
                by_cases hdefault : p.hasWrongDefault t = true <;> simp [ht, htype, hdefault]

end

namespace Registry

variable {η : Type} {r : Registry η} {name : String} {args : List String} {flags : Flags}
  {d : Definition η}

/-! ## The course of a verification -/

/-- The command can be run, its arguments are in order, and no flag that it requires is
missing. -/
structure Ready (r : Registry η) (name : String) (args : List String) (flags : Flags)
    (d : Definition η) : Prop where
  defined : r.definitions.get? name = some d
  registered : r.isRegistered name = true
  arguments : checkArguments name args 0 d.positionals = none
  required : missingFlag? d.flags flags = none

/-- There is nothing under the name that can be run. -/
def IsUnknown (r : Registry η) (name : String) : Prop :=
  r.definitions.get? name = none ∨ r.isRegistered name = false

/-- What an invocation is refused for before its flags are looked at one by one. -/
inductive Bars (r : Registry η) (name : String) (args : List String) (flags : Flags) :
    Problem → Prop where
  | unknown (h : r.IsUnknown name) : Bars r name args flags (.unknownCommand name)
  | argument {d : Definition η} {p : Problem} (defined : r.definitions.get? name = some d)
      (registered : r.isRegistered name = true)
      (h : checkArguments name args 0 d.positionals = some p) : Bars r name args flags p
  | missing {d : Definition η} {p : Parameter} (defined : r.definitions.get? name = some d)
      (registered : r.isRegistered name = true)
      (arguments : checkArguments name args 0 d.positionals = none)
      (h : missingFlag? d.flags flags = some p) :
      Bars r name args flags (.missingFlag name p.name)

/-- What comes of a verification. -/
def outcome (checked : Except FlagFault Flags) : Except Numeral.Fault Verification :=
  match checked with
  | .ok taken => .ok (.accepted taken)
  | .error (.definition p) => .ok (.refused p)
  | .error (.value p) => .ok (.refused p)
  | .error (.numeral fault) => .error fault

/-- Once nothing else is wrong the flags decide. -/
theorem verify_of_ready (h : r.Ready name args flags d) :
    (r.verify name args flags).result = outcome (checkFlags name d flags) ∧
      (r.verify name args flags).registry =
        match checkFlags name d flags with
        | .error (.definition _) => (r.unregister name).registry
        | _ => r := by
  have hd : r.definition? name = some d := h.defined
  unfold verify
  simp only [hd, h.registered, h.arguments, h.required, Bool.not_true, Bool.false_eq_true, if_false]
  rcases checkFlags name d flags with ⟨p | p | fault⟩ | taken <;> exact ⟨rfl, rfl⟩

/-- What it is refused for before that decides. -/
theorem verify_of_bars {p : Problem} (h : r.Bars name args flags p) :
    (r.verify name args flags).result = .ok (.refused p) ∧
      (r.verify name args flags).registry = r := by
  unfold verify
  cases h with
  | unknown hunknown =>
      cases hd : r.definition? name with
      | none => exact ⟨rfl, rfl⟩
      | some d =>
          have hfalse : r.isRegistered name = false :=
            hunknown.resolve_left fun hnone => by
              rw [← definition?, hd] at hnone
              cases hnone
          simp [hfalse]
  | @argument d _ hd hr ha =>
      have hd' : r.definition? name = some d := hd
      simp [hd', hr, ha]
  | @missing d q hd hr ha hm =>
      have hd' : r.definition? name = some d := hd
      simp [hd', hr, ha, hm]

/-- An invocation is refused before its flags are looked at one by one, or they decide. -/
theorem bars_or_ready (r : Registry η) (name : String) (args : List String) (flags : Flags) :
    (∃ p, r.Bars name args flags p ∧ (r.verify name args flags).result = .ok (.refused p) ∧
      (r.verify name args flags).registry = r) ∨
    ∃ d, r.Ready name args flags d := by
  unfold verify
  dsimp only
  cases hd : r.definition? name with
  | none => exact Or.inl ⟨_, .unknown (Or.inl hd), rfl, rfl⟩
  | some d =>
      dsimp only
      cases hr : r.isRegistered name with
      | false => exact Or.inl ⟨_, .unknown (Or.inr hr), rfl, rfl⟩
      | true =>
          rw [Bool.not_true, if_neg Bool.false_ne_true]
          cases ha : checkArguments name args 0 d.positionals with
          | some p => exact Or.inl ⟨p, .argument hd hr ha, rfl, rfl⟩
          | none =>
              dsimp only
              cases hm : missingFlag? d.flags flags with
              | some p => exact Or.inl ⟨_, .missing hd hr ha hm, rfl, rfl⟩
              | none => exact Or.inr ⟨d, hd, hr, ha, hm⟩

theorem outcome_eq_error_iff {checked : Except FlagFault Flags} {fault : Numeral.Fault} :
    outcome checked = .error fault ↔ checked = .error (.numeral fault) := by
  rcases checked with ⟨p | p | fault'⟩ | taken <;> simp [outcome]

/-! ## Numerals of too many digits -/

/-- The flags are in order up to one with this value, which is a text of too many digits,
where the command wants a value that it compares. -/
inductive Overflows (d : Definition η) (name : String) : Flags → String → Prop where
  | intro {before after : Flags} {key text : String} {p : Parameter}
      (before_accepted : ∃ taken, checkFlags name d before = .ok taken)
      (known : d.findFlag? key = some p) (typed : p.datatype.isSome = true)
      (overlong : Numeral.IsOverlong text) :
      Overflows d name (before ++ (key, .str text) :: after) text

theorem checkFlags_eq_numeral_iff {fault : Numeral.Fault} :
    checkFlags name d flags = .error (.numeral fault) ↔
      ∃ text, Overflows d name flags text ∧ fault = .tooLong (Numeral.digitCount text) := by
  rw [checkFlags_eq_error_iff]
  constructor
  · rintro ⟨before, key, value, after, rfl, hbefore, hcheck⟩
    obtain ⟨p, hp, htyped, hcoerce⟩ := checkFlag_eq_numeral_iff.mp hcheck
    obtain ⟨text, rfl, hlong, rfl⟩ := coerce_eq_error_iff.mp hcoerce
    exact ⟨text, ⟨hbefore, hp, htyped, hlong⟩, rfl⟩
  · rintro ⟨text, hover, rfl⟩
    cases hover with
    | @intro before after key _ p hbefore hp htyped hlong =>
        refine ⟨before, key, .str text, after, rfl, hbefore, ?_⟩
        exact checkFlag_eq_numeral_iff.mpr
          ⟨p, hp, htyped, coerce_eq_error_iff.mpr ⟨text, rfl, hlong, rfl⟩⟩

/-- The group of a name that can be run. -/
theorem group_of_isRegistered (h : r.isRegistered name = true) :
    ∃ group, r.groups.get? name = some group ∧ group ∈ r.registered := by
  obtain ⟨-, hgroup⟩ := Bool.and_eq_true_iff.mp h
  obtain ⟨group, hget, hmem⟩ := (Option.any_eq_true _ _).mp hgroup
  exact ⟨group, hget, List.contains_iff_mem.mp hmem⟩

/-- A command that can be run can be taken out of the registered ones. -/
theorem unregister_of_isRegistered (h : r.isRegistered name = true) :
    (r.unregister name).result = .ok () := by
  obtain ⟨group, hget, hmem⟩ := group_of_isRegistered h
  rw [unregister, hget]
  dsimp only
  rw [if_pos hmem]

/-- **A verification has a result** but for numerals of too many digits: it gives none
exactly when nothing else is wrong with the invocation up to a flag with such a value,
whatever the type of that flag, and it says how many digits there are. Where no value is
such a numeral there is a result, and taking out a command with a defect never fails. -/
theorem verify_eq_error_iff (r : Registry η) (name : String) (args : List String) (flags : Flags) :
    (∀ fault, (r.verify name args flags).result = .error fault ↔
      ∃ d text, r.Ready name args flags d ∧ Overflows d name flags text ∧
        fault = .tooLong (Numeral.digitCount text)) ∧
    ((∀ key text, (key, .str text) ∈ flags → ¬ Numeral.IsOverlong text) →
      ∃ verification, (r.verify name args flags).result = .ok verification) ∧
    (r.isRegistered name = true → (r.unregister name).result = .ok ()) := by
  have herror (fault : Numeral.Fault) : (r.verify name args flags).result = .error fault ↔
      ∃ d text, r.Ready name args flags d ∧ Overflows d name flags text ∧
        fault = .tooLong (Numeral.digitCount text) := by
    constructor
    · intro h
      rcases bars_or_ready r name args flags with ⟨p, -, hrefused, -⟩ | ⟨d, hready⟩
      · rw [hrefused] at h
        cases h
      · rw [(verify_of_ready hready).1, outcome_eq_error_iff, checkFlags_eq_numeral_iff] at h
        obtain ⟨text, hover, hfault⟩ := h
        exact ⟨d, text, hready, hover, hfault⟩
    · rintro ⟨d, text, hready, hover, hfault⟩
      rw [(verify_of_ready hready).1, outcome_eq_error_iff, checkFlags_eq_numeral_iff]
      exact ⟨text, hover, hfault⟩
  refine ⟨herror, fun hshort => ?_, unregister_of_isRegistered⟩
  cases hresult : (r.verify name args flags).result with
  | ok verification => exact ⟨verification, rfl⟩
  | error fault =>
      obtain ⟨d, text, -, hover, -⟩ := (herror fault).mp hresult
      cases hover with
      | @intro before after key _ p _ _ _ hlong =>
          exact absurd hlong (hshort key text (by simp))

/-- A command with one flag for numbers. -/
def counter : Definition Unit :=
  { name := "go", handler := (), schema := [{ kind := .flag, name := "count", datatype := some .number }] }

/-- A registry in which it can be run. -/
def counting : Registry Unit := performAll {} [.define counter, .init, .register "go"]

def nines (n : Nat) : String := String.ofList (List.replicate n '9')

theorem digitCount_nines (n : Nat) : Numeral.digitCount (nines n) = n := by
  have hdigit : Text.isDecimal '9' = true := by decide
  rw [Numeral.digitCount, nines, String.toList_ofList, List.countP_replicate, if_pos hdigit]

theorem isOverlong_nines {n : Nat} (h : Numeral.limit < n) : Numeral.IsOverlong (nines n) := by
  have hpos : n ≠ 0 := Nat.ne_of_gt (Nat.zero_lt_of_lt h)
  refine ⟨Numeral.isPlain_iff.mpr ⟨[], (nines n).toList, [], by simp, Or.inl rfl, ?_, ?_, Or.inl rfl⟩,
    by rwa [digitCount_nines]⟩
  · simpa [nines] using hpos
  · intro c hc
    rw [nines, String.toList_ofList] at hc
    rw [List.eq_of_mem_replicate hc]
    decide

/-- A value of one digit more than are read is no problem of the invocation but a fault of
the verification. -/
theorem verify_nines :
    (counting.verify "go" [] [("count", .str (nines 4301))]).result = .error (.tooLong 4301) ∧
    ∀ v, (counting.verify "go" [] [("count", .str (nines 4301))]).result ≠ .ok v := by
  have hready : counting.Ready "go" [] [("count", .str (nines 4301))] counter :=
    ⟨rfl, rfl, rfl, rfl⟩
  have hover : Overflows counter "go" [("count", .str (nines 4301))] (nines 4301) :=
    @Overflows.intro Unit counter "go" [] [] "count" _ _ ⟨[], rfl⟩ rfl rfl
      (isOverlong_nines (by decide))
  have hfault : (counting.verify "go" [] [("count", .str (nines 4301))]).result =
      .error (.tooLong 4301) :=
    ((verify_eq_error_iff counting "go" [] [("count", .str (nines 4301))]).1 _).mpr
      ⟨counter, nines 4301, hready, hover, by rw [digitCount_nines]⟩
  refine ⟨hfault, fun v hresult => ?_⟩
  rw [hfault] at hresult
  cases hresult

end Registry

end CommandShell
