import CommandShell.Proofs.Command.Flags
import CommandShell.Proofs.Command.Registration

/-!
# Flags that are given more than once

A flag may come several times on a line, under its long name and under its short one. The
table of a fragment has for each key the value that came last, at the place where the key
came first, and the handler gets what stands last in that table. So of the keys of a flag
the newest decides, the one that came up behind all others, with the last value that was
given under it (`value_of_spellings`). The last flag on the line decides when its key is
the newest, and otherwise it does not.
-/

namespace CommandShell

namespace Table

variable {α : Type} {es : List (String × α)} {key : String}

theorem nodup_ofList (es : List (String × α)) : (names (ofList es)).Nodup := by
  induction es using List.reverseRecOn with
  | nil => exact List.nodup_nil
  | append_singleton es e ih =>
      rw [ofList_concat]
      exact nodup_put ih _ _

theorem names_ofList_concat (es : List (String × α)) (e : String × α) :
    names (ofList (es ++ [e])) =
      if e.1 ∈ es.map (·.1) then names (ofList es) else names (ofList es) ++ [e.1] := by
  rw [ofList_concat, names_put]
  simp only [mem_names_ofList]

theorem names_ofList_eq_nil_iff : names (ofList es) = [] ↔ es = [] := by
  rw [List.eq_nil_iff_forall_not_mem]
  simp only [mem_names_ofList]
  rw [← List.eq_nil_iff_forall_not_mem, List.map_eq_nil_iff]

/-- The names of some of the entries come in the order in which they come among all. -/
theorem filter_names_ofList (named : String → Bool) (es : List (String × α)) :
    (names (ofList es)).filter named = names (ofList (es.filter fun e => named e.1)) := by
  induction es using List.reverseRecOn with
  | nil => rfl
  | append_singleton es e ih =>
      rw [names_ofList_concat, List.filter_append]
      cases hnamed : named e.1 with
      | false =>
          have hnone : [e].filter (fun e => named e.1) = [] := by simp [hnamed]
          rw [hnone, List.append_nil, ← ih]
          split
          · rfl
          · simp [List.filter_append, hnamed]
      | true =>
          have hone : [e].filter (fun e => named e.1) = [e] := by simp [hnamed]
          have hmem : e.1 ∈ (es.filter fun e => named e.1).map (·.1) ↔ e.1 ∈ es.map (·.1) := by
            constructor
            · intro h
              exact List.map_subset _ (List.filter_subset_self _) h
            · intro h
              obtain ⟨e', he', heq⟩ := List.mem_map.mp h
              exact List.mem_map.mpr ⟨e', List.mem_filter.mpr ⟨he', by rwa [heq]⟩, heq⟩
          rw [hone, names_ofList_concat, ← ih]
          simp only [hmem]
          split
          · rfl
          · simp [List.filter_append, hnamed]

theorem last?_filter {named : String → Bool} (h : named key = true) (es : List (String × α)) :
    last? key (es.filter fun e => named e.1) = last? key es := by
  unfold last?
  rw [List.filter_filter]
  congr 2
  refine List.filter_congr fun e _ => ?_
  by_cases he : e.1 = key
  · simp [he, h]
  · simp [he]

theorem last?_of_getLast? {a : α} (h : es.getLast? = some (key, a)) : last? key es = some a := by
  obtain ⟨es', rfl⟩ := List.getLast?_eq_some_iff.mp h
  rw [last?_concat, if_pos rfl]

end Table

/-! ## The newest key -/

/-- All other keys have come up in front of the place where this one first came. -/
def IsNewest (keys : List String) (key : String) : Prop :=
  key ∈ keys ∧ ∀ other ∈ keys, keys.idxOf other ≤ keys.idxOf key

/-- A key that has been there leaves the newest one what it is, and another one is the
newest itself. -/
theorem isNewest_concat {keys : List String} {key k : String} :
    IsNewest (keys ++ [k]) key ↔ if k ∈ keys then IsNewest keys key else key = k := by
  have hold (other : String) (h : other ∈ keys) : (keys ++ [k]).idxOf other = keys.idxOf other :=
    List.idxOf_append_of_mem h
  by_cases hk : k ∈ keys
  · have hmem (other : String) : other ∈ keys ++ [k] ↔ other ∈ keys := by
      rw [List.mem_append, List.mem_singleton]
      constructor
      · rintro (h | rfl)
        · exact h
        · exact hk
      · exact Or.inl
    rw [if_pos hk, IsNewest, IsNewest]
    simp only [hmem]
    refine and_congr_right fun hkey => forall₂_congr fun other hother => ?_
    rw [hold other hother, hold key hkey]
  · have hlast : (keys ++ [k]).idxOf k = keys.length := by
      rw [List.idxOf_append_of_notMem hk]
      simp
    rw [if_neg hk]
    constructor
    · rintro ⟨hkey, hbehind⟩
      rcases List.mem_append.mp hkey with hkey | hkey
      · -- the last key came up behind this one
        have hle := hbehind k (List.mem_append_right _ List.mem_cons_self)
        rw [hlast, hold key hkey] at hle
        exact absurd (List.idxOf_lt_length_of_mem hkey) (Nat.not_lt.mpr hle)
      · exact List.mem_singleton.mp hkey
    · rintro rfl
      refine ⟨List.mem_append_right _ List.mem_cons_self, fun other hother => ?_⟩
      rcases List.mem_append.mp hother with hother | hother
      · rw [hlast, hold other hother]
        exact List.idxOf_le_length
      · exact Nat.le_of_eq (by rw [List.mem_singleton.mp hother])

/-- The newest key stands last in the table. -/
theorem isNewest_iff {α : Type} {es : List (String × α)} {key : String} :
    IsNewest (es.map (·.1)) key ↔ (Table.names (Table.ofList es)).getLast? = some key := by
  induction es using List.reverseRecOn with
  | nil =>
      constructor
      · rintro ⟨h, -⟩
        cases h
      · intro h
        cases h
  | append_singleton es e ih =>
      rw [List.map_append, List.map_singleton, isNewest_concat, Table.names_ofList_concat]
      split
      · exact ih
      · rw [List.getLast?_concat, Option.some.injEq, eq_comm]

theorem exists_isNewest {α : Type} {es : List (String × α)} (h : es ≠ []) :
    ∃ key, IsNewest (es.map (·.1)) key := by
  have hne : Table.names (Table.ofList es) ≠ [] :=
    fun hnil => h (Table.names_ofList_eq_nil_iff.mp hnil)
  exact ⟨_, isNewest_iff.mpr (List.getLast?_eq_some_getLast hne)⟩

/-! ## What the handler gets -/

/-- The flags of a stage in the order of the line, as often as they come. -/
def Fragment.flagsGiven (stage : List Char) : List (String × Value) :=
  (Word.ofText stage).tail.filterMap Word.flag?

theorem Fragment.flags_ofText (stage : List Char) :
    (Fragment.ofText stage).flags = Table.ofList (Fragment.flagsGiven stage) := by
  unfold Fragment.ofText Fragment.flagsGiven
  cases Word.ofText stage <;> rfl

/-- What of them is given for a flag. -/
def Parameter.spellings (p : Parameter) (stage : List Char) : List (String × Value) :=
  (Fragment.flagsGiven stage).filter fun g => p.isNamed g.1

variable {η : Type} {d : Definition η} {p : Parameter} {stage : List Char} {flags taken : Flags}
  {command name : String}

namespace Registry

variable {r : Registry η}

/-- The handler gets under the long name of a flag what was taken last under its keys. -/
theorem get?_normalize (hd : r.definitions.get? name = some d) (hp : p ∈ d.flags)
    (hapart : d.flags.Pairwise Parameter.Apart) (taken : Flags) :
    (r.normalize name taken).get? p.name =
      ((taken.filter fun t => p.isNamed t.1).getLast?).map (·.2) := by
  have hlong (t : String × Value) :
      decide (d.longName t.1 = p.name) = p.isNamed t.1 := by
    rw [Bool.eq_iff_iff, decide_eq_true_iff]
    exact Definition.longName_eq_iff_of_apart hapart hp
  rw [normalize_eq hd, Table.get?_ofList, Table.last?, List.filter_map, List.getLast?_map,
    Option.map_map]
  simp only [Function.comp_def, hlong]

/-- The keys of a flag that were taken are in the order in which they first came. -/
theorem names_filter_of_checkFlags
    (h : checkFlags command d (Fragment.ofText stage).flags = .ok taken) (p : Parameter) :
    Table.names (taken.filter fun t => p.isNamed t.1) =
      Table.names (Table.ofList (p.spellings stage)) := by
  have hnames := names_of_checkFlags h
  rw [Fragment.flags_ofText] at hnames
  rw [Parameter.spellings, ← Table.filter_names_ofList, ← hnames, Table.names, Table.names,
    List.filter_map]
  rfl

/-- What was taken under a key of a flag is what was last given under it, converted. -/
theorem given_of_taken (hp : p ∈ d.flags) (hapart : d.flags.Pairwise Parameter.Apart)
    (h : checkFlags command d (Fragment.ofText stage).flags = .ok taken) {key : String}
    (hkey : p.isNamed key = true) {value : Value} (hmem : (key, value) ∈ taken) :
    ∃ given, Table.last? key (p.spellings stage) = some given ∧ coerce given = .ok value := by
  obtain ⟨given, hgiven, hcheck⟩ := given_of_checkFlags h hmem
  have hfound : d.findFlag? key = some p := (Definition.findFlag?_eq_some_iff hapart hp).mpr hkey
  refine ⟨given, ?_, ?_⟩
  · rw [Fragment.flags_ofText] at hgiven
    rw [Parameter.spellings, Table.last?_filter hkey, ← Table.get?_ofList]
    exact Table.get?_of_mem (Table.nodup_ofList _) hgiven
  · rcases value_of_checkFlag hcheck with ⟨hnone, -⟩ | ⟨q, t, -, -, hcoerce, -⟩
    · rw [hfound] at hnone
      cases hnone
    · exact hcoerce

/-- **Of the keys of a flag the newest decides.** Where no two flags share a key and the
invocation is accepted, the handler gets something under the long name of a flag exactly
when the flag is on the line. It is the last value that was given under the newest of its
keys, converted, and so that of the last flag on the line when its key is the newest. -/
theorem value_of_spellings (hd : r.definitions.get? (Fragment.ofText stage).name = some d)
    (hp : p ∈ d.flags) (hapart : d.flags.Pairwise Parameter.Apart)
    (h : (r.verify (Fragment.ofText stage).name (Fragment.ofText stage).args
      (Fragment.ofText stage).flags).result = .ok (.accepted taken)) :
    ((r.normalize (Fragment.ofText stage).name taken).get? p.name = none ↔
      p.spellings stage = []) ∧
    (p.spellings stage ≠ [] → ∃ key, IsNewest ((p.spellings stage).map (·.1)) key) ∧
    (∀ key, IsNewest ((p.spellings stage).map (·.1)) key →
      ∃ given value, Table.last? key (p.spellings stage) = some given ∧
        coerce given = .ok value ∧
        (r.normalize (Fragment.ofText stage).name taken).get? p.name = some value) ∧
    ∀ key given, (p.spellings stage).getLast? = some (key, given) →
      IsNewest ((p.spellings stage).map (·.1)) key →
      ∃ value, coerce given = .ok value ∧
        (r.normalize (Fragment.ofText stage).name taken).get? p.name = some value := by
  obtain ⟨-, d', hd', -, -, -, hchecked⟩ := verify_accepted h
  obtain rfl := Option.some.inj (hd.symm.trans hd')
  have hnames := names_filter_of_checkFlags hchecked p
  have hnewest (key : String) (hkey : IsNewest ((p.spellings stage).map (·.1)) key) :
      ∃ given value, Table.last? key (p.spellings stage) = some given ∧
        coerce given = .ok value ∧
        (r.normalize (Fragment.ofText stage).name taken).get? p.name = some value := by
    rw [isNewest_iff, ← hnames, Table.names, List.getLast?_map, Option.map_eq_some_iff] at hkey
    obtain ⟨⟨k, value⟩, hlast, rfl⟩ := hkey
    obtain ⟨hmem, hnamed⟩ := List.mem_filter.mp (List.mem_of_getLast? hlast)
    obtain ⟨given, hgiven, hcoerce⟩ := given_of_taken hp hapart hchecked hnamed hmem
    refine ⟨given, value, hgiven, hcoerce, ?_⟩
    rw [get?_normalize hd hp hapart, hlast]
    rfl
  refine ⟨?_, exists_isNewest, hnewest, fun key given hlast hkey => ?_⟩
  · rw [← Table.names_ofList_eq_nil_iff, ← hnames, Table.names, List.map_eq_nil_iff,
      get?_normalize hd hp hapart, Option.map_eq_none_iff, List.getLast?_eq_none_iff]
  · obtain ⟨given', value, hgiven, hcoerce, hvalue⟩ := hnewest key hkey
    rw [Table.last?_of_getLast? hlast] at hgiven
    obtain rfl := Option.some.inj hgiven
    exact ⟨value, hcoerce, hvalue⟩

/-- A flag for numbers with a long name and a short one. -/
def count : Parameter :=
  { kind := .flag, name := "count", shortName := some "n", datatype := some .number }

/-- A command with this flag. -/
def tally : Definition Unit := { name := "go", handler := (), schema := [count] }

/-- A registry in which it can be run. -/
def tallying : Registry Unit := performAll {} [.define tally, .init, .register "go"]

/-- The flag three times, under its long name in front of its short one and behind it. -/
def thrice : List Char := "go --count=1 -n=2 --count=3".toList

/-- The handler gets the second value and not the third: the short name is the newest key,
though the long one comes last. -/
theorem value_of_thrice :
    (tallying.verify "go" [] (Fragment.ofText thrice).flags).result =
      .ok (.accepted [("count", .int 3), ("n", .int 2)]) ∧
    (count.spellings thrice).getLast? = some ("count", .str "3") ∧
    coerce (.str "3") = .ok (.int 3) ∧
    IsNewest ((count.spellings thrice).map (·.1)) "n" ∧
    (tallying.normalize "go" [("count", .int 3), ("n", .int 2)]).get? "count" = some (.int 2) := by
  have hspellings : count.spellings thrice =
      [("count", .str "1"), ("n", .str "2"), ("count", .str "3")] := rfl
  have haccepted : (tallying.verify "go" [] (Fragment.ofText thrice).flags).result =
      .ok (.accepted [("count", .int 3), ("n", .int 2)]) := rfl
  have hnewest : IsNewest ((count.spellings thrice).map (·.1)) "n" := by
    rw [isNewest_iff, hspellings]
    rfl
  have hdefined : tallying.definitions.get? (Fragment.ofText thrice).name = some tally := rfl
  have hparameter : count ∈ tally.flags := List.mem_cons_self
  have hapart : tally.flags.Pairwise Parameter.Apart := List.pairwise_singleton _ _
  obtain ⟨-, -, hvalue, -⟩ := value_of_spellings hdefined hparameter hapart haccepted
  obtain ⟨given, value, hgiven, hcoerce, hget⟩ := hvalue "n" hnewest
  obtain rfl : .str "2" = given := Option.some.inj hgiven
  obtain rfl : .int 2 = value := Except.ok.inj hcoerce
  exact ⟨haccepted, rfl, rfl, hnewest, hget⟩

end Registry

end CommandShell
