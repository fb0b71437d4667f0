import CommandShell.Proofs.Command.Admission
import CommandShell.Proofs.Chain.RoundTrip
import Mathlib.Data.List.Forall2
import Mathlib.Data.List.Pairwise

/-!
# Flags one after the other

Flags are held against their parameters in the order of the line, each for itself: they
are accepted when every one of them is (`checkFlags_eq_ok_iff`), and the first that is not
decides what is said (`checkFlags_eq_error_iff`). What the handler gets is a table that is
filled in the same order, each value under the long name of its flag (`normalize_eq`).
-/

namespace CommandShell

namespace Table

variable {α : Type}

theorem ofList_concat (es : List (String × α)) (e : String × α) :
    ofList (es ++ [e]) = put e.1 e.2 (ofList es) := by
  rw [ofList, List.foldl_append]
  rfl

/-- The entry that the last of the entries with a name makes for it. -/
def last? (name : String) (es : List (String × α)) : Option α :=
  ((es.filter fun e => e.1 = name).getLast?).map (·.2)

theorem last?_concat (name : String) (es : List (String × α)) (e : String × α) :
    last? name (es ++ [e]) = if e.1 = name then some e.2 else last? name es := by
  unfold last?
  by_cases h : e.1 = name <;> simp [List.filter_append, h]

/-- The last entry counts. -/
theorem get?_ofList (es : List (String × α)) (name : String) :
    (ofList es).get? name = last? name es := by
  induction es using List.reverseRecOn with
  | nil => rfl
  | append_singleton es e ih =>
      rw [ofList_concat, last?_concat]
      by_cases h : e.1 = name
      · rw [if_pos h, ← h, get?_put_self]
      · rw [if_neg h, get?_put_of_ne _ _ (Ne.symm h), ih]

theorem mem_names_ofList {es : List (String × α)} {name : String} :
    name ∈ names (ofList es) ↔ name ∈ es.map (·.1) := by
  induction es using List.reverseRecOn with
  | nil => rfl
  | append_singleton es e ih =>
      rw [ofList_concat, names_put, List.map_append, List.mem_append, ← ih]
      split
      · rename_i hmem
        constructor
        · exact Or.inl
        · rintro (h | h)
          · exact h
          · rwa [List.mem_singleton.mp h]
      · exact List.mem_append

end Table

variable {η : Type} {command : String} {d : Definition η} {flags taken : Flags}

/-! ## Recognising flags -/

namespace Definition

/-- The name under which the handler gets what was given under a key. -/
def longName (d : Definition η) (key : String) : String := (d.findFlag? key).elim key (·.name)

/-- A key that names a flag is taken for the first flag that it names. -/
theorem exists_findFlag? {p : Parameter} (hp : p ∈ d.flags) {key : String}
    (h : p.isNamed key = true) : ∃ q, d.findFlag? key = some q := by
  rw [← Option.isSome_iff_exists, findFlag?, List.find?_isSome]
  exact ⟨p, hp, h⟩

theorem isNamed_name (p : Parameter) : p.isNamed p.name = true := by
  simp [Parameter.isNamed]

/-- What goes under the long name of a flag has been given under a key of a flag of that
name. -/
theorem longName_eq_iff {p : Parameter} (hp : p ∈ d.flags) {key : String} :
    d.longName key = p.name ↔ ∃ q, d.findFlag? key = some q ∧ q.name = p.name := by
  unfold longName
  constructor
  · intro h
    cases hq : d.findFlag? key with
    | some q =>
        rw [hq] at h
        exact ⟨q, rfl, h⟩
    | none =>
        -- a key that names no flag is not the name of one
        rw [hq] at h
        obtain rfl : key = p.name := h
        obtain ⟨q, hq'⟩ := exists_findFlag? hp (isNamed_name p)
        rw [hq] at hq'
        cases hq'
  · rintro ⟨q, hq, hname⟩
    rw [hq]
    exact hname

end Definition

/-- No key names both flags. -/
def Parameter.Apart (p q : Parameter) : Prop :=
  ∀ key, p.isNamed key = true → q.isNamed key = false

instance : Std.Symm Parameter.Apart where
  symm p q h key hq := by
    rw [Bool.eq_false_iff]
    intro hp
    rw [h key hp] at hq
    cases hq

/-- Where no two flags share a key, a key is taken for the flag that it names. -/
theorem Definition.findFlag?_eq_some_iff (hapart : d.flags.Pairwise Parameter.Apart)
    {p : Parameter} (hp : p ∈ d.flags) {key : String} :
    d.findFlag? key = some p ↔ p.isNamed key = true := by
  constructor
  · intro h
    exact (Registry.isNamed_of_findFlag? h).2
  · intro h
    obtain ⟨q, hq⟩ := Definition.exists_findFlag? hp h
    obtain ⟨hmem, hnamed⟩ := Registry.isNamed_of_findFlag? hq
    by_cases heq : q = p
    · rw [hq, heq]
    · have hfalse := hapart.forall hmem hp heq key hnamed
      rw [h] at hfalse
      cases hfalse

/-- There the handler gets under the long name of a flag what was given under its keys. -/
theorem Definition.longName_eq_iff_of_apart (hapart : d.flags.Pairwise Parameter.Apart)
    {p : Parameter} (hp : p ∈ d.flags) {key : String} :
    d.longName key = p.name ↔ p.isNamed key = true := by
  rw [Definition.longName_eq_iff hp, ← Definition.findFlag?_eq_some_iff hapart hp]
  constructor
  · rintro ⟨q, hq, hname⟩
    have hmem := (Registry.isNamed_of_findFlag? hq).1
    -- both flags have this name, and no two flags share a key
    have hself : d.findFlag? q.name = some q :=
      (Definition.findFlag?_eq_some_iff hapart hmem).mpr (Definition.isNamed_name q)
    have hother : d.findFlag? p.name = some p :=
      (Definition.findFlag?_eq_some_iff hapart hp).mpr (Definition.isNamed_name p)
    rw [hname, hother] at hself
    rw [hq, Option.some.inj hself]
  · intro h
    exact ⟨p, h, rfl⟩

/-! ## Checking flags -/

/-- Why a flag is not accepted: it has no datatype, its value is a numeral of too many
digits or not of its datatype, or its default is not. -/
theorem checkFlag_error_cases {key : String} {value : Value} {fault : FlagFault}
    (h : checkFlag command d key value = .error fault) :
    ∃ p, d.findFlag? key = some p ∧
      ((p.datatype = none ∧ fault = .definition (.missingDatatype command p.name)) ∨
        ∃ t, p.datatype = some t ∧
          ((∃ numeral, coerce value = .error numeral ∧ fault = .numeral numeral) ∨
            ∃ v, coerce value = .ok v ∧
              ((runtimeType v ≠ t.name ∧
                  fault = .value (.invalidFlag command p.name t.name (runtimeType v))) ∨
                (runtimeType v = t.name ∧ p.hasWrongDefault t = true ∧
                  fault = .definition (.invalidDefault command p.name))))) := by
  unfold checkFlag at h
  split at h
  · cases h
  · rename_i p hp
    refine ⟨p, hp, ?_⟩
    split at h
    · rename_i ht
      exact Or.inl ⟨ht, (Except.error.inj h).symm⟩
    · rename_i t ht
      refine Or.inr ⟨t, ht, ?_⟩
      split at h
      · rename_i numeral hv
        exact Or.inl ⟨numeral, hv, (Except.error.inj h).symm⟩
      · rename_i v hv
        refine Or.inr ⟨v, hv, ?_⟩
        split at h
        · rename_i hwrong
          exact Or.inl ⟨hwrong, (Except.error.inj h).symm⟩
        · rename_i hright
          split at h
          · rename_i hdefault
            exact Or.inr ⟨not_not.mp hright, hdefault, (Except.error.inj h).symm⟩
          · cases h

theorem checkFlags_cons_error {key : String} {value : Value} {fault : FlagFault}
    (h : checkFlag command d key value = .error fault) (flags : Flags) :
    checkFlags command d ((key, value) :: flags) = .error fault := by
  rw [checkFlags, h]
  rfl

theorem checkFlags_cons_ok {key : String} {value v : Value}
    (h : checkFlag command d key value = .ok v) (flags : Flags) :
    checkFlags command d ((key, value) :: flags) =
      (checkFlags command d flags).map ((key, v) :: ·) := by
  rw [checkFlags, h]
  cases checkFlags command d flags <;> rfl

/-- Flags are accepted when each of them is. -/
theorem checkFlags_eq_ok_iff :
    checkFlags command d flags = .ok taken ↔
      List.Forall₂ (fun f t => t.1 = f.1 ∧ checkFlag command d f.1 f.2 = .ok t.2) flags taken := by
  induction flags generalizing taken with
  | nil =>
      rw [checkFlags, List.forall₂_nil_left_iff]
      exact ⟨fun h => (Except.ok.inj h).symm, fun h => by rw [h]⟩
  | cons f flags ih =>
      obtain ⟨key, value⟩ := f
      rw [List.forall₂_cons_left_iff]
      cases hone : checkFlag command d key value with
      | error fault => simp [checkFlags_cons_error hone]
      | ok v =>
          rw [checkFlags_cons_ok hone]
          constructor
          · intro h
            cases hmore : checkFlags command d flags with
            | error fault =>
                rw [hmore] at h
                cases h
            | ok vs =>
                rw [hmore] at h
                exact ⟨(key, v), vs, ⟨rfl, rfl⟩, ih.mp hmore, (Except.ok.inj h).symm⟩
          · rintro ⟨⟨k, w⟩, vs, ⟨rfl, hw⟩, hvs, rfl⟩
            obtain rfl := Except.ok.inj hw
            rw [ih.mpr hvs]
            rfl

/-- Behind flags that are accepted the checks go on as from the start. -/
theorem checkFlags_append (h : checkFlags command d flags = .ok taken) (more : Flags) :
    checkFlags command d (flags ++ more) = (checkFlags command d more).map (taken ++ ·) := by
  rw [checkFlags_eq_ok_iff] at h
  induction h with
  | nil =>
      rw [List.nil_append]
      cases checkFlags command d more <;> rfl
  | @cons f t flags taken hone _ ih =>
      obtain ⟨key, value⟩ := f
      obtain ⟨k, v⟩ := t
      obtain ⟨rfl, hcheck⟩ := hone
      rw [List.cons_append, checkFlags_cons_ok hcheck, ih]
      cases checkFlags command d more <;> rfl

/-- **The first flag that is not accepted decides.** -/
theorem checkFlags_eq_error_iff {fault : FlagFault} :
    checkFlags command d flags = .error fault ↔
      ∃ before key value after, flags = before ++ (key, value) :: after ∧
        (∃ taken, checkFlags command d before = .ok taken) ∧
        checkFlag command d key value = .error fault := by
  constructor
  · intro h
    induction flags with
    | nil => cases h
    | cons f flags ih =>
        obtain ⟨key, value⟩ := f
        cases hone : checkFlag command d key value with
        | error fault' =>
            rw [checkFlags_cons_error hone] at h
            obtain rfl := Except.error.inj h
            exact ⟨[], key, value, flags, rfl, ⟨[], rfl⟩, hone⟩
        | ok v =>
            rw [checkFlags_cons_ok hone] at h
            have hmore : checkFlags command d flags = .error fault := by
              cases hmore : checkFlags command d flags with
              | error fault' =>
                  rw [hmore] at h
                  exact h
              | ok vs =>
                  rw [hmore] at h
                  cases h
            obtain ⟨before, k, w, after, rfl, ⟨taken, hbefore⟩, hcheck⟩ := ih hmore
            refine ⟨(key, value) :: before, k, w, after, rfl, ⟨(key, v) :: taken, ?_⟩, hcheck⟩
            rw [checkFlags_cons_ok hone, hbefore]
            rfl
  · rintro ⟨before, key, value, after, rfl, ⟨taken, hbefore⟩, hcheck⟩
    rw [checkFlags_append hbefore, checkFlags_cons_error hcheck]
    rfl

theorem names_of_checkFlags (h : checkFlags command d flags = .ok taken) :
    Table.names taken = Table.names flags := by
  rw [checkFlags_eq_ok_iff] at h
  induction h with
  | nil => rfl
  | cons hone _ ih =>
      simp only [Table.names, List.map_cons] at ih ⊢
      rw [hone.1, ih]

/-! ## Handing flags on -/

theorem Registry.normalize_eq {r : Registry η} {name : String}
    (hd : r.definitions.get? name = some d) (flags : Flags) :
    r.normalize name flags = Table.ofList (flags.map fun f => (d.longName f.1, f.2)) := by
  have hd' : r.definition? name = some d := hd
  rw [normalize, hd', Table.ofList, List.foldl_map]
  rfl

end CommandShell
