import CommandShell.Proofs.Command.Flags
import CommandShell.Proofs.Command.Registration

/-!
# Flags that are required

A flag that is required is looked for under its own keys, and a flag that is supplied goes
to the first flag that its key names. The two views of a key are one where every key of
the flag that is looked for goes to it and the empty key does not, unless it is its name
(`missingFlag?_agrees`). Otherwise a flag may be missed that has been recognised, or be
taken for given while the handler gets another in its place.
-/

namespace CommandShell

variable {η : Type} {d : Definition η} {p : Parameter} {flags : Flags} {key : String}

/-- A key under which a required flag is looked for names it, and it is the empty one only
if that is the name of the flag. -/
theorem Parameter.mem_flagKeys_iff :
    key ∈ p.flagKeys ↔ p.isNamed key = true ∧ (key = "" → p.name = "") := by
  unfold flagKeys isNamed
  cases hshort : p.shortName with
  | none =>
      simp only [List.mem_singleton, Bool.or_eq_true, beq_iff_eq]
      constructor
      · rintro rfl
        exact ⟨Or.inl rfl, id⟩
      · rintro ⟨hname | hnone, -⟩
        · exact hname
        · cases hnone
  | some s =>
      by_cases hs : s = ""
      · simp only [hs, if_true, List.mem_singleton, Bool.or_eq_true, beq_iff_eq, Option.some.injEq]
        constructor
        · rintro rfl
          exact ⟨Or.inl rfl, id⟩
        · rintro ⟨rfl | rfl, hempty⟩
          · rfl
          · exact (hempty rfl).symm
      · simp only [hs, if_false, List.mem_cons, List.not_mem_nil, or_false, Bool.or_eq_true,
          beq_iff_eq, Option.some.injEq, eq_comm (a := s)]
        constructor
        · rintro (rfl | rfl)
          · exact ⟨Or.inl rfl, id⟩
          · exact ⟨Or.inr rfl, fun h => absurd h hs⟩
        · exact And.left

/-- Nothing that is required is missing when every required flag is there under one of its
keys. -/
theorem missingFlag?_eq_none_iff {ps : List Parameter} :
    missingFlag? ps flags = none ↔
      ∀ p ∈ ps, p.required = true → ∃ key ∈ p.flagKeys, flags.has key = true := by
  simp [missingFlag?]

theorem missingFlag?_singleton (hrequired : p.required = true) :
    missingFlag? [p] flags = none ↔ ∃ key ∈ p.flagKeys, flags.has key = true := by
  simp [missingFlag?_eq_none_iff, hrequired]

/-- A key that is supplied goes to this flag. -/
def Definition.Recognises (d : Definition η) (flags : Flags) (p : Parameter) : Prop :=
  ∃ key, flags.has key = true ∧ d.findFlag? key = some p

theorem Table.has_singleton {α : Type} {a : α} {name other : String} :
    has other [(name, a)] = true ↔ other = name := by
  rw [has_iff_mem_names]
  exact List.mem_singleton

/-- Looking for a required flag and recognising it are the same for all that may be
supplied when they are the same for every single key. -/
theorem agrees_iff (hrequired : p.required = true) :
    (∀ flags : Flags, missingFlag? [p] flags = none ↔ d.Recognises flags p) ↔
      (∀ key ∈ p.flagKeys, d.findFlag? key = some p) ∧ (d.findFlag? "" = some p → p.name = "") := by
  simp only [missingFlag?_singleton hrequired]
  constructor
  · intro h
    constructor
    · intro key hkey
      have hsupplied : Table.has key [(key, Value.bool true)] = true := Table.has_singleton.mpr rfl
      obtain ⟨other, hother, hfound⟩ := (h [(key, .bool true)]).mp ⟨key, hkey, hsupplied⟩
      rwa [Table.has_singleton.mp hother] at hfound
    · intro hempty
      have hsupplied : Table.has "" [("", Value.bool true)] = true := Table.has_singleton.mpr rfl
      obtain ⟨key, hkey, hhas⟩ := (h [("", .bool true)]).mpr ⟨"", hsupplied, hempty⟩
      exact (Parameter.mem_flagKeys_iff.mp hkey).2 (Table.has_singleton.mp hhas)
  · rintro ⟨hkeys, hempty⟩ flags
    constructor
    · rintro ⟨key, hkey, hhas⟩
      exact ⟨key, hhas, hkeys key hkey⟩
    · rintro ⟨key, hhas, hfound⟩
      refine ⟨key, Parameter.mem_flagKeys_iff.mpr ⟨?_, ?_⟩, hhas⟩
      · exact (Registry.isNamed_of_findFlag? hfound).2
      · rintro rfl
        exact hempty hfound

namespace Registry

variable {r : Registry η} {name : String} {args : List String} {taken : Flags}

/-! ## What the handler gets -/

theorem has_normalize (hd : r.definitions.get? name = some d) :
    (r.normalize name flags).has key = true ↔
      ∃ k, flags.has k = true ∧ d.longName k = key := by
  rw [normalize_eq hd, Table.has_iff_mem_names, Table.mem_names_ofList]
  simp only [Table.has_iff_mem_names, Table.names, List.mem_map, exists_exists_and_eq_and]

/-- The handler gets what was supplied and accepted, under long names. -/
theorem has_normalize_of_accepted (hd : r.definitions.get? name = some d)
    (h : (r.verify name args flags).result = .ok (.accepted taken)) :
    (r.normalize name taken).has key = true ↔ ∃ k, flags.has k = true ∧ d.longName k = key := by
  obtain ⟨-, d', hd', -, -, -, hchecked⟩ := verify_accepted h
  obtain rfl := Option.some.inj (hd.symm.trans hd')
  have hnames := names_of_checkFlags hchecked
  rw [has_normalize hd]
  simp only [Table.has_iff_mem_names, hnames]

/-- **Looking for a required flag and recognising it**, by the keys of the flag: they agree
for all that may be supplied exactly when each of its keys goes to it, and the empty key
does not unless it is its name. Whatever the definition, a verification accepts only what
has one of the keys of the flag, and the handler gets something under the long name of the
flag that this key goes to. It gets something under the long name of the required flag
only from a key that goes to a flag of that name. -/
theorem missingFlag?_agrees (d : Definition η) {p : Parameter} (hp : p ∈ d.flags)
    (hrequired : p.required = true) :
    ((∀ flags : Flags, missingFlag? [p] flags = none ↔ d.Recognises flags p) ↔
      (∀ key ∈ p.flagKeys, d.findFlag? key = some p) ∧ (d.findFlag? "" = some p → p.name = "")) ∧
    ∀ (r : Registry η) (name : String) (args : List String) (flags taken : Flags),
      r.definitions.get? name = some d →
      (r.verify name args flags).result = .ok (.accepted taken) →
      (∃ key ∈ p.flagKeys, flags.has key = true ∧
        (r.normalize name taken).has (d.longName key) = true) ∧
      ((r.normalize name taken).has p.name = true ↔
        ∃ key q, flags.has key = true ∧ d.findFlag? key = some q ∧ q.name = p.name) := by
  refine ⟨agrees_iff hrequired, fun r name args flags taken hd h => ⟨?_, ?_⟩⟩
  · obtain ⟨-, d', hd', -, -, hmissing, -⟩ := verify_accepted h
    obtain rfl := Option.some.inj (hd.symm.trans hd')
    obtain ⟨key, hkey, hhas⟩ := missingFlag?_eq_none_iff.mp hmissing p hp hrequired
    exact ⟨key, hkey, hhas, (has_normalize_of_accepted hd h).mpr ⟨key, hhas, rfl⟩⟩
  · simp only [has_normalize_of_accepted hd h, Definition.longName_eq_iff hp, exists_and_left]

/-- A flag that must be given, behind one with the same short name. -/
def version : Parameter :=
  { kind := .flag, name := "version", shortName := some "v", required := true,
    datatype := some .boolean }

/-- A flag that must be given, with an empty short name. -/
def quiet : Parameter :=
  { kind := .flag, name := "quiet", shortName := some "", required := true,
    datatype := some .boolean }

/-- A command in which two flags share a key. -/
def crowded : Definition Unit :=
  { name := "crowded", handler := ()
    schema := [{ kind := .flag, name := "verbose", shortName := some "v", datatype := some .boolean },
      version] }

/-- A command with a flag that has an empty short name. -/
def hushed : Definition Unit := { name := "hushed", handler := (), schema := [quiet] }

/-- A registry in which both can be run. -/
def gathered : Registry Unit :=
  performAll {} [.define crowded, .define hushed, .init, .register "crowded", .register "hushed"]

/-- The shared key stands in for the required flag, of which the handler gets nothing. The
empty key goes to the required flag, which is missed nevertheless. -/
theorem missingFlag?_disagrees :
    ((gathered.verify "crowded" [] [("v", .bool true)]).result = .ok (.accepted [("v", .bool true)]) ∧
      (gathered.normalize "crowded" [("v", .bool true)]).has "version" = false ∧
      missingFlag? [version] [("v", .bool true)] = none ∧
      ¬ crowded.Recognises [("v", .bool true)] version) ∧
    ((gathered.verify "hushed" [] [("", .bool true)]).result =
        .ok (.refused (.missingFlag "hushed" "quiet")) ∧
      hushed.Recognises [("", .bool true)] quiet ∧
      ¬ ∀ flags : Flags, missingFlag? [quiet] flags = none ↔ hushed.Recognises flags quiet) := by
  have hversion : version ∈ crowded.flags := List.mem_cons_of_mem _ List.mem_cons_self
  have hquiet : quiet ∈ hushed.flags := List.mem_cons_self
  have haccepted : (gathered.verify "crowded" [] [("v", .bool true)]).result =
      .ok (.accepted [("v", .bool true)]) := rfl
  have hlacks : (gathered.normalize "crowded" [("v", .bool true)]).has "version" = false := rfl
  obtain ⟨-, hcrowded⟩ := missingFlag?_agrees crowded hversion rfl
  obtain ⟨hhushed, -⟩ := missingFlag?_agrees hushed hquiet rfl
  refine ⟨⟨haccepted, hlacks, rfl, ?_⟩, rfl, ⟨"", rfl, rfl⟩, fun hagrees => ?_⟩
  · rintro ⟨key, hhas, hfound⟩
    have hgets := (hcrowded gathered "crowded" [] _ _ rfl haccepted).2.mpr
      ⟨key, version, hhas, hfound, rfl⟩
    cases hlacks.symm.trans hgets
  · exact absurd ((hhushed.mp hagrees).2 rfl) (by decide)

end Registry

end CommandShell
