import CommandShell.Command.Help
import CommandShell.Proofs.Command.Names
import CommandShell.Proofs.Command.Visibility

/-!
# The list of commands

The list of commands has each command that can be run and is not hidden once, under its own
name and in order, and the other names of a group are all that belong to it but for that
name. This fails only for a command whose other name is its own: under that name stands
the copy, so that the command is left out of the list and counted among its other names
(`listing_of_operations`).
-/

namespace CommandShell

/-! ## Order -/

/-- The order of the list: in lower case, and between texts that are the same there as they
are written. -/
def InFront (a b : String) : Prop :=
  Text.lower a < Text.lower b ∨ (Text.lower a = Text.lower b ∧ a < b)

theorem listedBefore_iff {a b : String} : listedBefore a b = true ↔ InFront a b ∨ a = b := by
  unfold listedBefore InFront
  simp only [Bool.or_eq_true, Bool.and_eq_true, beq_iff_eq, Bool.not_eq_true', decide_eq_true_eq,
    decide_eq_false_iff_not]
  constructor
  · rintro (hlt | ⟨heq, hnot⟩)
    · exact Or.inl (Or.inl hlt)
    · rcases Std.lt_trichotomy a b with hab | hab | hba
      · exact Or.inl (Or.inr ⟨heq, hab⟩)
      · exact Or.inr hab
      · exact absurd hba hnot
  · rintro ((hlt | ⟨heq, hab⟩) | rfl)
    · exact Or.inl hlt
    · exact Or.inr ⟨heq, String.lt_asymm hab⟩
    · exact Or.inr ⟨rfl, String.lt_irrefl a⟩

theorem InFront.trans {a b c : String} (hab : InFront a b) (hbc : InFront b c) : InFront a c := by
  rcases hab with hab | ⟨hab, hab'⟩
  · rcases hbc with hbc | ⟨hbc, -⟩
    · exact Or.inl (String.lt_trans hab hbc)
    · exact Or.inl (hbc ▸ hab)
  · rcases hbc with hbc | ⟨hbc, hbc'⟩
    · exact Or.inl (hab ▸ hbc)
    · exact Or.inr ⟨hab.trans hbc, String.lt_trans hab' hbc'⟩

theorem inFront_total (a b : String) : InFront a b ∨ a = b ∨ InFront b a := by
  rcases Std.lt_trichotomy (Text.lower a) (Text.lower b) with hlt | heq | hgt
  · exact Or.inl (Or.inl hlt)
  · rcases Std.lt_trichotomy a b with hlt | hsame | hgt
    · exact Or.inl (Or.inr ⟨heq, hlt⟩)
    · exact Or.inr (Or.inl hsame)
    · exact Or.inr (Or.inr (Or.inr ⟨heq.symm, hgt⟩))
  · exact Or.inr (Or.inr (Or.inl hgt))

/-- A list that is sorted in this order. -/
theorem pairwise_listed (names : List String) :
    (names.mergeSort listedBefore).Pairwise fun a b => InFront a b ∨ a = b := by
  refine (List.pairwise_mergeSort ?_ ?_ names).imp listedBefore_iff.mp
  · intro a b c hab hbc
    rw [listedBefore_iff] at hab hbc ⊢
    rcases hab with hab | rfl
    · rcases hbc with hbc | rfl
      · exact Or.inl (hab.trans hbc)
      · exact Or.inl hab
    · exact hbc
  · intro a b
    rw [Bool.or_eq_true, listedBefore_iff, listedBefore_iff]
    rcases inFront_total a b with hab | hab | hba
    · exact Or.inl (Or.inl hab)
    · exact Or.inl (Or.inr hab)
    · exact Or.inr (Or.inl hba)

/-- Where no name comes twice, each stands in front of the next. -/
theorem pairwise_inFront {names : List String} (h : names.Nodup) :
    (names.mergeSort listedBefore).Pairwise InFront := by
  have hdistinct : (names.mergeSort listedBefore).Pairwise (· ≠ ·) :=
    (List.mergeSort_perm names listedBefore).nodup_iff.mpr h
  exact (pairwise_listed names).imp₂ (fun a b hab hne => hab.resolve_right hne) hdistinct

namespace Registry

variable {η : Type} {P : Definition η → Prop} {r : Registry η} {c d : Definition η}
  {name group other : String}

/-! ## Commands and copies -/

/-- A command that is registered and not hidden, by its own name. -/
structure Shows (r : Registry η) (name : String) : Prop where
  own : r.groups.get? name = some name
  registered : name ∈ r.registered
  visible : ∃ d, r.definitions.get? name = some d ∧ d.hidden = false

/-- Under its own name stands the copy of a command for its other name. -/
def IsDoubled (r : Registry η) (name : String) : Prop :=
  ∃ d, r.definitions.get? name = some d ∧ d.aliasOf = some name

/-- The tables of `r` fit together, and its commands have not been defined as copies. -/
structure Lists (P : Definition η → Prop) (r : Registry η) : Prop extends Holds P r where
  names : r.definitions.names = r.groups.names
  commands : ∀ c, P c → c.aliasOf = none

/-- What stands under a name is the command, which goes by this name, or its copy. -/
theorem Lists.kept_cases (h : Lists P r) (hd : r.definitions.get? name = some d) :
    (d.aliasOf = none ∧ r.groups.get? name = some name) ∨
    ∃ c, P c ∧ r.Houses c ∧ c.otherName? = some name ∧ d.aliasOf = some c.name := by
  obtain ⟨c, hc, hhouses, hmem, rfl⟩ := h.kept h.names hd
  rw [Definition.aliasOf_under]
  split
  · rename_i hother
    exact Or.inr ⟨c, hc, hhouses, hother, rfl⟩
  · rename_i hother
    obtain rfl : name = c.name := (mem_namesOf.mp hmem).resolve_right hother
    exact Or.inl ⟨h.commands c hc, (hhouses.group c.name).mpr hmem⟩

/-- Only a command whose other name is its own is doubled. -/
theorem Lists.of_isDoubled (h : Lists P r) (hdoubled : r.IsDoubled name) :
    ∃ c, P c ∧ c.name = name ∧ c.otherName = some name := by
  obtain ⟨d, hd, hcopy⟩ := hdoubled
  rcases h.kept_cases hd with ⟨hnone, -⟩ | ⟨c, hc, -, hother, hsome⟩
  · rw [hcopy] at hnone
    cases hnone
  · rw [hcopy] at hsome
    exact ⟨c, hc, (Option.some.inj hsome).symm, (Option.filter_eq_some_iff.mp hother).1⟩

/-! ## Other names -/

theorem mem_aliasesOf_iff (h : r.definitions.names.Nodup) :
    other ∈ r.aliasesOf name ↔ ∃ group d, r.groups.get? name = some group ∧
      r.definitions.get? other = some d ∧ d.aliasOf = some group := by
  unfold aliasesOf
  cases hget : r.groups.get? name with
  | none => simp
  | some group =>
      simp only [List.mem_map, List.mem_filter, beq_iff_eq, Option.some.injEq]
      constructor
      · rintro ⟨⟨n, d⟩, ⟨hmem, hcopy⟩, rfl⟩
        exact ⟨group, d, rfl, Table.get?_of_mem h hmem, hcopy⟩
      · rintro ⟨_, d, rfl, hd, hcopy⟩
        exact ⟨(other, d), ⟨Table.mem_of_get? hd, hcopy⟩, rfl⟩

theorem nodup_aliasesOf (h : r.definitions.names.Nodup) (name : String) :
    (r.aliasesOf name).Nodup := by
  unfold aliasesOf
  split
  · exact List.nodup_nil
  · exact h.sublist (List.filter_sublist.map _)

/-- The other names of a group are those that are not its own, and its own if the command is
doubled. -/
theorem Lists.mem_aliasesOf (h : Lists P r) :
    other ∈ r.aliasesOf name ↔ ∃ group, r.groups.get? name = some group ∧
      r.groups.get? other = some group ∧ (other ≠ group ∨ r.IsDoubled group) := by
  rw [mem_aliasesOf_iff h.distinct]
  constructor
  · rintro ⟨group, d, hget, hd, hcopy⟩
    refine ⟨group, hget, ?_, ?_⟩
    · rcases h.kept_cases hd with ⟨hnone, -⟩ | ⟨c, -, hhouses, hother, hsome⟩
      · rw [hcopy] at hnone
        cases hnone
      · rw [← hcopy, hsome]
        exact (hhouses.group other).mpr (mem_namesOf.mpr (Or.inr hother))
    · by_cases hown : other = group
      · exact Or.inr ⟨d, hown ▸ hd, hcopy⟩
      · exact Or.inl hown
  · rintro ⟨group, hget, hother, hcopy⟩
    refine ⟨group, ?_⟩
    by_cases hown : other = group
    · obtain ⟨d, hd, hdcopy⟩ := hcopy.resolve_left (not_not.mpr hown)
      exact ⟨d, hget, hown ▸ hd, hdcopy⟩
    · obtain ⟨c, -, rfl, hhouses⟩ := h.command other group hother
      have hmem : other ∈ namesOf c := (hhouses.group other).mp hother
      have hsecond : c.otherName? = some other := (mem_namesOf.mp hmem).resolve_left hown
      refine ⟨c.under other, hget, hhouses.kept other hmem, ?_⟩
      rw [Definition.aliasOf_under, if_pos hsecond]

/-! ## The list -/

theorem mem_listed (h : r.definitions.names = r.groups.names) :
    name ∈ r.listed ↔ r.isRegistered name = true ∧ ∃ d, r.definitions.get? name = some d ∧
      (d.aliasOf.filter (· ≠ "")) = none ∧ d.hidden = false := by
  rw [listed, List.mem_filter, mem_registeredNames h, Option.any_eq_true]
  simp only [definition?, Bool.and_eq_true, Option.isNone_iff_eq_none, Bool.not_eq_true']

theorem nodup_listed (h : r.definitions.names.Nodup) : r.listed.Nodup :=
  (h.filter _).filter _

/-- The commands that are listed are those that are registered and not hidden, but for those
that are doubled. -/
theorem Lists.mem_listed (h : Lists P r) (henabled : r.life.enabled = true) :
    name ∈ r.listed ↔ r.Shows name ∧ ¬ r.IsDoubled name := by
  rw [Registry.mem_listed h.names]
  constructor
  · rintro ⟨hr, d, hd, hfilter, hhidden⟩
    obtain ⟨group, hget, hmem⟩ := group_of_isRegistered hr
    rcases h.kept_cases hd with ⟨hnone, hown⟩ | ⟨c, -, hhouses, -, hsome⟩
    · obtain rfl : group = name := Option.some.inj (hget.symm.trans hown)
      refine ⟨⟨hown, hmem, d, hd, hhidden⟩, ?_⟩
      rintro ⟨d', hd', hcopy⟩
      obtain rfl := Option.some.inj (hd.symm.trans hd')
      rw [hnone] at hcopy
      cases hcopy
    · -- the name of a command is not empty
      rw [hsome] at hfilter
      simp [Option.filter, hhouses.named] at hfilter
  · rintro ⟨⟨hown, hmem, d, hd, hhidden⟩, hnot⟩
    have hr : r.isRegistered name = true := by
      simp [isRegistered, henabled, hown, hmem]
    refine ⟨hr, d, hd, ?_, hhidden⟩
    rcases h.kept_cases hd with ⟨hnone, -⟩ | ⟨c, -, hhouses, hother, hsome⟩
    · rw [hnone]
      rfl
    · have hname : r.groups.get? name = some c.name :=
        (hhouses.group name).mpr (mem_namesOf.mpr (Or.inr hother))
      obtain rfl : name = c.name := Option.some.inj (hown.symm.trans hname)
      exact absurd ⟨d, hd, hsome⟩ hnot

/-- A name with other names behind it in brackets. -/
def bracketed (name : String) (others : List String) : String :=
  if others = [] then name else name ++ " (" ++ ", ".intercalate others ++ ")"

theorem listEntry_true (r : Registry η) (name : String) :
    r.listEntry true name = bracketed name (r.aliasesOf name) := by
  unfold listEntry bracketed
  rw [if_pos rfl]
  cases r.aliasesOf name with
  | nil => rfl
  | cons other others => rfl

theorem listCommands_false (r : Registry η) :
    r.listCommands false = r.listed.mergeSort listedBefore := by
  have hentry : r.listEntry false = id := rfl
  rw [listCommands, hentry, List.map_id]

theorem listCommands_true (r : Registry η) :
    (r.listCommands true).Perm
      ((r.listCommands false).map fun name => bracketed name (r.aliasesOf name)) := by
  have hentry : r.listEntry true = fun name => bracketed name (r.aliasesOf name) :=
    funext (listEntry_true r)
  rw [listCommands_false, listCommands, hentry]
  exact (List.mergeSort_perm _ _).trans ((List.mergeSort_perm _ _).map _).symm

theorem lists_of_operations {ops : List (Operation η)}
    (hcommands : ∀ d, .define d ∈ ops → d.aliasOf = none) :
    Lists (fun c => .define c ∈ ops) (performAll {} ops) where
  toHolds := holds_of_operations ops
  names := (coherent_performAll coherent_fresh ops).names
  commands := hcommands

/-- **The list has every command that is to be seen once**, but for those that are doubled.
After any operations that define no copies, and while the registry is enabled, the list
without other names has exactly the registered commands that are not hidden, in its order,
and leaves out those that are doubled. The other names of a name are all names of its
group but for the own one, which is among them when the command is doubled. The list with
other names shows all of them behind each command. Only a command that is defined with
its own name for other name is doubled. -/
theorem listing_of_operations (ops : List (Operation η))
    (hcommands : ∀ d, .define d ∈ ops → d.aliasOf = none)
    (henabled : (performAll {} ops).life.enabled = true) :
    let r : Registry η := performAll {} ops
    (∀ name, name ∈ r.listCommands false ↔ r.Shows name ∧ ¬ r.IsDoubled name) ∧
    (r.listCommands false).Pairwise InFront ∧
    (∀ name, (r.aliasesOf name).Nodup ∧
      ∀ other, other ∈ r.aliasesOf name ↔ ∃ group, r.groups.get? name = some group ∧
        r.groups.get? other = some group ∧ (other ≠ group ∨ r.IsDoubled group)) ∧
    ((r.listCommands true).Perm
        ((r.listCommands false).map fun name => bracketed name (r.aliasesOf name)) ∧
      (r.listCommands true).Pairwise fun a b => InFront a b ∨ a = b) ∧
    ∀ name, r.IsDoubled name → ∃ d, .define d ∈ ops ∧ d.name = name ∧ d.otherName = some name := by
  intro r
  have hlists : Lists (fun c => .define c ∈ ops) r := lists_of_operations hcommands
  refine ⟨fun name => ?_, ?_,
    fun name => ⟨nodup_aliasesOf hlists.distinct name, fun other => hlists.mem_aliasesOf⟩,
    ⟨listCommands_true r, pairwise_listed _⟩, fun name => hlists.of_isDoubled⟩
  · rw [listCommands_false, List.mem_mergeSort]
    exact hlists.mem_listed henabled
  · rw [listCommands_false]
    exact pairwise_inFront (nodup_listed hlists.distinct)

/-- A command with another name, one that is hidden and one whose other name is its own, all
of them registered. -/
def shelving : List (Operation Unit) :=
  [.define { name := "print", handler := (), otherName := some "p" },
    .define { name := "secret", handler := (), hidden := true },
    .define { name := "echo", handler := (), otherName := some "echo" }, .init,
    .bulkRegister ["p", "secret", "echo"]]

def shelf : Registry Unit := performAll {} shelving

theorem aliasOf_of_shelving (d : Definition Unit) (h : .define d ∈ shelving) :
    d.aliasOf = none := by
  simp only [shelving, List.mem_cons, Operation.define.injEq, reduceCtorEq, List.not_mem_nil,
    or_false] at h
  rcases h with rfl | rfl | rfl <;> rfl

/-- The command whose other name is its own is registered and not hidden, but it is not in the
list, and its own name is among its other ones. -/
theorem listing_without_echo :
    shelf.life.enabled = true ∧
    ("print" ∈ shelf.listCommands false ∧ "p" ∉ shelf.listCommands false ∧
      "p" ∈ shelf.aliasesOf "print" ∧ "print" ∉ shelf.aliasesOf "p") ∧
    "secret" ∉ shelf.listCommands false ∧
    shelf.Shows "echo" ∧ "echo" ∉ shelf.listCommands false ∧ "echo" ∈ shelf.aliasesOf "echo" := by
  obtain ⟨hlisted, -, haliases, -, -⟩ := listing_of_operations shelving aliasOf_of_shelving rfl
  have hprint : shelf.Shows "print" := ⟨rfl, by decide, _, rfl, rfl⟩
  have hecho : shelf.Shows "echo" := ⟨rfl, by decide, _, rfl, rfl⟩
  have hdoubled : shelf.IsDoubled "echo" := ⟨_, rfl, rfl⟩
  have hsingle : ¬ shelf.IsDoubled "print" := by
    rintro ⟨d, hd, hcopy⟩
    obtain rfl := Option.some.inj hd
    cases hcopy
  have hown : shelf.groups.get? "p" ≠ some "p" := by decide
  refine ⟨rfl, ⟨(hlisted _).mpr ⟨hprint, hsingle⟩, fun h => hown ((hlisted _).mp h).1.own,
    (haliases _).2 _ |>.mpr ⟨"print", rfl, rfl, Or.inl (by decide)⟩, fun h => ?_⟩, fun h => ?_,
    hecho, fun h => ((hlisted _).mp h).2 hdoubled,
    (haliases _).2 _ |>.mpr ⟨"echo", rfl, rfl, Or.inr hdoubled⟩⟩
  · obtain ⟨group, hget, -, hother⟩ := (haliases _).2 _ |>.mp h
    obtain rfl : "print" = group := Option.some.inj hget
    exact hother.elim (fun hne => hne rfl) hsingle
  · obtain ⟨d, hd, hhidden⟩ := ((hlisted _).mp h).1.visible
    obtain rfl := Option.some.inj hd
    cases hhidden

end Registry

end CommandShell
