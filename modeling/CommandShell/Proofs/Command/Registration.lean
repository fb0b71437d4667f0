import CommandShell.Proofs.Command.Admission

/-!
# What is registered

A group is registered as a whole, through any of its names, and a defect of a definition
that is found takes it out again. Whatever is asked of a registry comes down to defining
commands and to switching groups on and off one after the other (`replays_perform`). So
the tables of a registry fit together after any sequence of operations, and the last
switch of a group decides whether it is registered (`coherent_performAll`). A definition
that fails has not written anything by then (`run_defining`).
-/

namespace CommandShell

namespace Table

theorem get?_put {α : Type} (t : Table α) (name other : String) (a : α) :
    (t.put name a).get? other = if other = name then some a else t.get? other := by
  by_cases h : other = name
  · rw [if_pos h, h, get?_put_self]
  · rw [if_neg h, get?_put_of_ne _ _ h]

theorem mem_of_get? {α : Type} {t : Table α} {name : String} {a : α}
    (h : t.get? name = some a) : (name, a) ∈ t := by
  induction t with
  | nil => cases h
  | cons e t ih =>
      obtain ⟨n, b⟩ := e
      unfold get? at h
      split at h
      · rename_i heq
        obtain rfl := Option.some.inj h
        rw [heq]
        exact List.mem_cons_self
      · exact List.mem_cons_of_mem _ (ih h)

/-- Where no name comes twice, each entry is the one at its name. -/
theorem get?_of_mem {α : Type} {t : Table α} (h : (names t).Nodup) {key : String} {a : α}
    (hmem : (key, a) ∈ t) : t.get? key = some a := by
  induction t with
  | nil => cases hmem
  | cons e t ih =>
      obtain ⟨n, b⟩ := e
      obtain ⟨hnew, ht⟩ := List.nodup_cons.mp h
      rcases List.mem_cons.mp hmem with heq | hmem
      · obtain ⟨rfl, rfl⟩ := Prod.mk.inj heq
        rw [get?, if_pos rfl]
      · have hne : n ≠ key := by
          rintro rfl
          exact hnew (List.mem_map.mpr ⟨_, hmem, rfl⟩)
        rw [get?, if_neg hne]
        exact ih ht hmem

end Table

/-! ## Defects of definitions -/

/-- Only a defect of the definition counts as one. -/
def FlagFault.Tells : FlagFault → Prop
  | .definition p => p.isDefinitionError = true
  | .value p => p.isDefinitionError = false
  | .numeral _ => True

theorem isDefinitionError_of_checkArguments {command : String} {args : List String} {n : Nat}
    {ps : List Parameter} {p : Problem} (h : checkArguments command args n ps = some p) :
    p.isDefinitionError = false := by
  induction ps generalizing n with
  | nil => cases h
  | cons q ps ih =>
      rw [checkArguments] at h
      split at h
      · split at h
        · obtain rfl := Option.some.inj h
          rfl
        · exact ih h
      · split at h
        · split at h
          · exact ih h
          · obtain rfl := Option.some.inj h
            rfl
        · exact ih h

section

variable {η : Type} {command : String} {d : Definition η} {fault : FlagFault}

theorem tells_of_checkFlag {key : String} {value : Value}
    (h : checkFlag command d key value = .error fault) : fault.Tells := by
  unfold checkFlag at h
  split at h
  · cases h
  · split at h
    · obtain rfl := Except.error.inj h
      rfl
    · split at h
      · obtain rfl := Except.error.inj h
        trivial
      · split at h
        · obtain rfl := Except.error.inj h
          rfl
        · split at h
          · obtain rfl := Except.error.inj h
            rfl
          · cases h

theorem tells_of_checkFlags {flags : Flags} (h : checkFlags command d flags = .error fault) :
    fault.Tells := by
  induction flags with
  | nil => cases h
  | cons f flags ih =>
      obtain ⟨key, value⟩ := f
      simp only [checkFlags, bind, Except.bind, pure, Except.pure] at h
      split at h
      · rename_i one hone
        obtain rfl := Except.error.inj h
        exact tells_of_checkFlag hone
      · split at h
        · rename_i more hmore
          obtain rfl := Except.error.inj h
          exact ih hmore
        · cases h

end

namespace Registry

variable {η : Type} {r r' : Registry η}

/-- Verifying an invocation changes nothing, unless it finds a defect of the definition,
which takes the command out of the registered ones. -/
theorem verify_cases (r : Registry η) (name : String) (args : List String) (flags : Flags) :
    ((r.verify name args flags).registry = r ∧
      ∀ p, (r.verify name args flags).result = .ok (.refused p) → p.isDefinitionError = false) ∨
    ∃ p, (r.verify name args flags).result = .ok (.refused p) ∧ p.isDefinitionError = true ∧
      r.definitions.has name = true ∧
      (r.verify name args flags).registry = (r.unregister name).registry := by
  have hrefuse {p : Problem} (hp : p.isDefinitionError = false) (q : Problem)
      (h : (.ok (.refused p) : Except Numeral.Fault Verification) = .ok (.refused q)) :
      q.isDefinitionError = false := by
    injection h with h
    injection h with h
    rwa [← h]
  unfold verify
  dsimp only
  split
  · exact Or.inl ⟨rfl, hrefuse rfl⟩
  · rename_i d hd
    split
    · exact Or.inl ⟨rfl, hrefuse rfl⟩
    · split
      · rename_i p hp
        exact Or.inl ⟨rfl, hrefuse (isDefinitionError_of_checkArguments hp)⟩
      · split
        · exact Or.inl ⟨rfl, hrefuse rfl⟩
        · split
          · exact Or.inl ⟨rfl, by rintro p ⟨⟩⟩
          · rename_i p hp
            exact Or.inl ⟨rfl, hrefuse (tells_of_checkFlags hp)⟩
          · exact Or.inl ⟨rfl, by rintro p ⟨⟩⟩
          · rename_i p hp
            exact Or.inr ⟨p, rfl, tells_of_checkFlags hp, Option.isSome_of_mem hd, rfl⟩

/-- So does checking a definition. -/
theorem validate_cases (r : Registry η) (name : String) :
    ((r.validate name).registry = r ∧ ∀ p, (r.validate name).result ≠ .error (.defect p)) ∨
    ∃ p, (r.validate name).result = .error (.defect p) ∧ r.definitions.has name = true ∧
      (r.validate name).registry = (r.unregister name).registry := by
  unfold validate
  split
  · exact Or.inl ⟨rfl, by rintro p ⟨⟩⟩
  · rename_i d hd
    split
    · exact Or.inl ⟨rfl, by rintro p ⟨⟩⟩
    · exact Or.inr ⟨_, rfl, Option.isSome_of_mem hd, rfl⟩

/-! ## Operations -/

/-- What can be asked of a registry that may change it. -/
inductive Operation (η : Type) where
  | define (definition : Definition η)
  | register (name : String)
  | unregister (name : String)
  | bulkRegister (names : List String)
  | bulkUnregister (names : List String)
  | validate (name : String)
  | verify (name : String) (args : List String) (flags : Flags)
  | init
  | enable
  | disable

/-- What an operation leaves, also one that fails. -/
def perform (r : Registry η) : Operation η → Registry η
  | .define d => ((defining d).run.run r).2
  | .register name => (r.register name).registry
  | .unregister name => (r.unregister name).registry
  | .bulkRegister names => (r.bulkRegister names).registry
  | .bulkUnregister names => (r.bulkUnregister names).registry
  | .validate name => (r.validate name).registry
  | .verify name args flags => (r.verify name args flags).registry
  | .init => { r with life := r.life.init }
  | .enable => { r with life := r.life.enable }
  | .disable => { r with life := r.life.disable }

def performAll (r : Registry η) (ops : List (Operation η)) : Registry η := ops.foldl perform r

/-! ## Switches -/

/-- The group of a known name is registered, or taken out of the registered ones. -/
structure Switch where
  name : String
  on : Bool

/-- Registers the group of a name, or takes it out. -/
def turn (on : Bool) : Registry η → String → Step η (Except UnknownCommand Unit) :=
  if on then register else unregister

def switch (r : Registry η) (w : Switch) : Registry η := (turn w.on r w.name).registry

/-- The switches that an operation comes down to. An operation for many names makes one
for each name in front of the first that no command has. -/
def switches (r : Registry η) : Operation η → List Switch
  | .register name => if r.groups.has name then [⟨name, true⟩] else []
  | .unregister name => if r.groups.has name then [⟨name, false⟩] else []
  | .bulkRegister names => (names.takeWhile r.groups.has).map (⟨·, true⟩)
  | .bulkUnregister names => (names.takeWhile r.groups.has).map (⟨·, false⟩)
  | .validate name =>
    match (r.validate name).result with
    | .error (.defect _) => [⟨name, false⟩]
    | _ => []
  | .verify name args flags =>
    match (r.verify name args flags).result with
    | .ok (.refused p) => if p.isDefinitionError then [⟨name, false⟩] else []
    | _ => []
  | .define _ | .init | .enable | .disable => []

/-- The switches that a sequence of operations comes down to. -/
def history (r : Registry η) : List (Operation η) → List Switch
  | [] => []
  | op :: ops => r.switches op ++ history (r.perform op) ops

/-- The last switch of a group, by any of its names. -/
def latest? (groups : Table String) (ws : List Switch) (group : String) : Option Bool :=
  ((ws.filter fun w => groups.get? w.name = some group).getLast?).map (·.on)

variable {w : Switch} {ws vs : List Switch}

/-! ### What a switch does -/

/-- The groups that are registered once `group` has been switched. -/
def switched (on : Bool) (group : String) (registered : List String) : List String :=
  if on then if group ∈ registered then registered else registered ++ [group]
  else registered.filter (· ≠ group)

theorem mem_switched (on : Bool) (group g : String) (registered : List String) :
    g ∈ switched on group registered ↔ if g = group then on = true else g ∈ registered := by
  unfold switched
  cases on with
  | true =>
      by_cases hg : g = group <;> by_cases hmem : group ∈ registered <;> simp [hg, hmem]
  | false => by_cases hg : g = group <;> simp [hg]

theorem turn_of_get? (on : Bool) {name group : String} (h : r.groups.get? name = some group) :
    (turn on r name).result = .ok () ∧
    (turn on r name).registry = { r with registered := switched on group r.registered } := by
  unfold turn
  cases on with
  | true =>
      rw [if_pos rfl, register, h]
      dsimp only
      by_cases hmem : group ∈ r.registered
      · simp [hmem, switched, unchanged]
      · simp [hmem, switched]
  | false =>
      rw [if_neg Bool.false_ne_true, unregister, h]
      dsimp only
      by_cases hmem : group ∈ r.registered
      · simp [hmem, switched]
      · have hsame : r.registered.filter (· ≠ group) = r.registered := by
          rw [List.filter_eq_self]
          rintro g hg
          simp only [decide_eq_true_eq]
          rintro rfl
          exact hmem hg
        rw [if_neg hmem, switched, if_neg Bool.false_ne_true, hsame]
        exact ⟨rfl, rfl⟩

/-- A name that no command has switches nothing. -/
theorem turn_of_not_has (on : Bool) {name : String} (h : r.groups.has name = false) :
    (∃ fault, (turn on r name).result = .error fault) ∧ (turn on r name).registry = r := by
  have hnone : r.groups.get? name = none := by simpa [Table.has] using h
  unfold turn
  cases on with
  | true =>
      rw [if_pos rfl, register, hnone]
      exact ⟨⟨_, rfl⟩, rfl⟩
  | false =>
      rw [if_neg Bool.false_ne_true, unregister, hnone]
      exact ⟨⟨_, rfl⟩, rfl⟩

theorem switch_of_get? {group : String} (h : r.groups.get? w.name = some group) :
    r.switch w = { r with registered := switched w.on group r.registered } :=
  (turn_of_get? w.on h).2

/-- A switch changes at most which groups are registered. -/
theorem switch_eq (r : Registry η) (w : Switch) :
    r.switch w = { r with registered := (r.switch w).registered } := by
  cases hget : r.groups.get? w.name with
  | none =>
      have hsame : r.switch w = r := (turn_of_not_has w.on (by simp [Table.has, hget])).2
      rw [hsame]
  | some group => rw [switch_of_get? hget]

theorem foldl_switch_eq (r : Registry η) (ws : List Switch) :
    ws.foldl switch r = { r with registered := (ws.foldl switch r).registered } := by
  induction ws generalizing r with
  | nil => rfl
  | cons w ws ih =>
      rw [List.foldl_cons, ih (r.switch w), switch_eq r w]

/-! ### Operations as switches -/

/-- But for being enabled or not, `r'` is what these switches make of `r`. -/
structure Replays (r r' : Registry η) (ws : List Switch) : Prop where
  definitions : r'.definitions = r.definitions
  groups : r'.groups = r.groups
  registered : r'.registered = (ws.foldl switch r).registered
  known : ∀ w ∈ ws, r.groups.has w.name = true

theorem replays_self {r' : Registry η} (hd : r'.definitions = r.definitions)
    (hg : r'.groups = r.groups) (hr : r'.registered = r.registered) : Replays r r' [] :=
  ⟨hd, hg, hr, by rintro w ⟨⟩⟩

theorem replays_foldl (h : ∀ w ∈ ws, r.groups.has w.name = true) :
    Replays r (ws.foldl switch r) ws := by
  refine ⟨?_, ?_, rfl, h⟩ <;> rw [foldl_switch_eq]

theorem replays_switch (h : r.groups.has w.name = true) : Replays r (r.switch w) [w] := by
  have hknown : ∀ v ∈ [w], r.groups.has v.name = true := by
    intro v hv
    rwa [List.mem_singleton.mp hv]
  exact replays_foldl hknown

theorem replays_turn (on : Bool) (r : Registry η) (name : String) :
    Replays r (turn on r name).registry (if r.groups.has name then [⟨name, on⟩] else []) := by
  cases h : r.groups.has name with
  | true => exact replays_switch (w := ⟨name, on⟩) h
  | false =>
      have hsame : (turn on r name).registry = r := (turn_of_not_has on h).2
      rw [hsame]
      exact replays_self rfl rfl rfl

/-- One switch for each name in front of the first that no command has. -/
theorem registry_forEach (on : Bool) (r : Registry η) (names : List String) :
    (forEach (turn on) r names).registry =
      ((names.takeWhile r.groups.has).map (⟨·, on⟩ : String → Switch)).foldl switch r := by
  induction names generalizing r with
  | nil => rfl
  | cons name names ih =>
      rw [forEach]
      cases hhas : r.groups.has name with
      | false =>
          obtain ⟨⟨fault, hfault⟩, hsame⟩ := turn_of_not_has on hhas
          simp [hfault, hsame, hhas]
      | true =>
          obtain ⟨group, hgroup⟩ := Option.isSome_iff_exists.mp hhas
          have hgroups : (turn on r name).registry.groups = r.groups := by
            rw [(turn_of_get? on hgroup).2]
          have hmore := ih (turn on r name).registry
          rw [hgroups] at hmore
          simp only [(turn_of_get? on hgroup).1, List.takeWhile_cons, hhas, if_true,
            List.map_cons, List.foldl_cons]
          exact hmore

theorem replays_bulk (on : Bool) (what : String) (r : Registry η) (names : List String) :
    Replays r (bulk (turn on) what r names).registry
      ((names.takeWhile r.groups.has).map (⟨·, on⟩)) := by
  have hregistry :
      (bulk (turn on) what r names).registry = (forEach (turn on) r names).registry := by
    unfold bulk
    dsimp only
    split <;> rfl
  rw [hregistry, registry_forEach]
  refine replays_foldl fun w hw => ?_
  obtain ⟨name, hname, rfl⟩ := List.mem_map.mp hw
  exact List.all_eq_true.mp List.all_takeWhile name hname

/-- A name that is defined has a group. -/
theorem has_groups (h : r.definitions.names = r.groups.names) {name : String}
    (hname : r.definitions.has name = true) : r.groups.has name = true := by
  rw [Table.has_iff_mem_names] at hname ⊢
  rwa [← h]

theorem replays_unregister (h : r.definitions.names = r.groups.names) {name : String}
    (hname : r.definitions.has name = true) :
    Replays r (r.unregister name).registry [⟨name, false⟩] :=
  replays_switch (w := ⟨name, false⟩) (has_groups h hname)

/-- **Every operation but a definition comes down to its switches.** -/
theorem replays_perform (h : r.definitions.names = r.groups.names) {op : Operation η}
    (hop : ∀ d, op ≠ .define d) : Replays r (r.perform op) (r.switches op) := by
  cases op with
  | define d => exact absurd rfl (hop d)
  | register name => exact replays_turn true r name
  | unregister name => exact replays_turn false r name
  | bulkRegister names => exact replays_bulk true "bulkRegister" r names
  | bulkUnregister names => exact replays_bulk false "bulkUnregister" r names
  | validate name =>
      unfold perform switches
      dsimp only
      rcases validate_cases r name with ⟨hsame, hsound⟩ | ⟨p, hp, hhas, hreg⟩
      · rw [hsame]
        split
        · rename_i p hp
          exact absurd hp (hsound p)
        · exact replays_self rfl rfl rfl
      · rw [hp, hreg]
        exact replays_unregister h hhas
  | verify name args flags =>
      unfold perform switches
      dsimp only
      rcases verify_cases r name args flags with ⟨hsame, hsound⟩ | ⟨p, hp, hdefect, hhas, hreg⟩
      · rw [hsame]
        split
        · rename_i p hp
          rw [hsound p hp]
          exact replays_self rfl rfl rfl
        · exact replays_self rfl rfl rfl
      · rw [hp, hreg]
        dsimp only
        rw [if_pos hdefect]
        exact replays_unregister h hhas
  | init => exact replays_self rfl rfl rfl
  | enable => exact replays_self rfl rfl rfl
  | disable => exact replays_self rfl rfl rfl

/-! ## Tables that fit together -/

/-- The tables of a registry fit together, and its groups are registered as these switches
say. -/
structure Coherent (r : Registry η) (ws : List Switch) : Prop where
  /-- Definitions and groups have the same names. -/
  names : r.definitions.names = r.groups.names
  /-- A group goes by the name of a command, which belongs to it. -/
  leader : ∀ name group, r.groups.get? name = some group →
    r.definitions.has group = true ∧ r.groups.get? group = some group
  /-- Only groups are registered. -/
  registered : ∀ group ∈ r.registered, r.groups.get? group = some group
  /-- The last switch of a group decides. -/
  latest : ∀ group, group ∈ r.registered ↔ latest? r.groups ws group = some true
  /-- Every switch is by the name of a command. -/
  known : ∀ w ∈ ws, r.groups.has w.name = true

theorem coherent_fresh : Coherent ({} : Registry η) [] where
  names := rfl
  leader := by rintro name group ⟨⟩
  registered := by rintro group ⟨⟩
  latest group := by simp [latest?]
  known := by rintro w ⟨⟩

/-! ### Switches -/

theorem latest?_concat (groups : Table String) (ws : List Switch) (w : Switch) (group : String) :
    latest? groups (ws ++ [w]) group =
      if groups.get? w.name = some group then some w.on else latest? groups ws group := by
  unfold latest?
  by_cases h : groups.get? w.name = some group <;> simp [List.filter_append, h]

theorem latest?_congr {groups groups' : Table String}
    (h : ∀ w ∈ ws, groups'.get? w.name = groups.get? w.name) (group : String) :
    latest? groups' ws group = latest? groups ws group := by
  unfold latest?
  have hfilter : (ws.filter fun w => groups'.get? w.name = some group) =
      ws.filter fun w => groups.get? w.name = some group :=
    List.filter_congr fun w hw => by rw [h w hw]
  rw [hfilter]

theorem coherent_switch (h : Coherent r ws) (hw : r.groups.has w.name = true) :
    Coherent (r.switch w) (ws ++ [w]) := by
  obtain ⟨group, hgroup⟩ := Option.isSome_iff_exists.mp hw
  rw [switch_of_get? hgroup]
  refine ⟨h.names, h.leader, fun g hg => ?_, fun g => ?_, fun v hv => ?_⟩
  · rw [mem_switched] at hg
    split at hg
    · rename_i heq
      rw [heq]
      exact (h.leader w.name group hgroup).2
    · exact h.registered g hg
  · rw [mem_switched, latest?_concat, hgroup]
    by_cases hg : g = group
    · simp [hg]
    · simpa [hg, Ne.symm hg] using h.latest g
  · rcases List.mem_append.mp hv with hv | hv
    · exact h.known v hv
    · rwa [List.mem_singleton.mp hv]

theorem coherent_foldl (h : Coherent r ws) (hvs : ∀ w ∈ vs, r.groups.has w.name = true) :
    Coherent (vs.foldl switch r) (ws ++ vs) := by
  induction vs generalizing r ws with
  | nil => simpa using h
  | cons w vs ih =>
      have hone := coherent_switch h (hvs w List.mem_cons_self)
      have hgroups : (r.switch w).groups = r.groups := by rw [switch_eq]
      have hmore := ih hone fun v hv => by
        rw [hgroups]
        exact hvs v (List.mem_cons_of_mem _ hv)
      rwa [List.append_assoc] at hmore

theorem coherent_of_replays (h : Coherent r ws) (hr : Replays r r' vs) :
    Coherent r' (ws ++ vs) := by
  have hfold := coherent_foldl h hr.known
  rw [foldl_switch_eq] at hfold
  constructor
  · rw [hr.definitions, hr.groups]
    exact h.names
  · rw [hr.definitions, hr.groups]
    exact h.leader
  · rw [hr.groups, hr.registered]
    exact hfold.registered
  · intro group
    rw [hr.registered, hr.groups]
    exact hfold.latest group
  · rw [hr.groups]
    exact hfold.known

/-! ### Definitions -/

/-- The names that a definition gives to its command. -/
def namesOf (d : Definition η) : List String := d.name :: d.otherName?.toList

/-- `d` has been defined under its names, which had not been taken. -/
structure Defines (r r' : Registry η) (d : Definition η) : Prop where
  fresh : ∀ name ∈ namesOf d, r.definitions.has name = false
  names : r.definitions.names = r.groups.names → r'.definitions.names = r'.groups.names
  group : ∀ name, r'.groups.get? name =
    if name ∈ namesOf d then some d.name else r.groups.get? name
  registered : r'.registered = r.registered

/-- The registry with a command under its names. -/
def entered (r : Registry η) (d : Definition η) : Registry η :=
  { r with
    definitions := d.otherName?.elim (r.definitions.put d.name d) fun other =>
      (r.definitions.put d.name d).put other (d.renamed other)
    groups := d.otherName?.elim (r.groups.put d.name d.name) fun other =>
      (r.groups.put d.name d.name).put other d.name }

/-- Names are checked without writing anything. -/
theorem run_checkFree (r : Registry η) (names : List String) :
    (checkFree names).run.run r =
      (match names.find? r.definitions.has with
        | none => .ok ()
        | some name => .error (.duplicate name), r) := by
  induction names with
  | nil => rfl
  | cons name names ih =>
      rw [List.find?_cons]
      show (if r.definitions.has name = true then _ else _ : Defining η Unit).run.run r = _
      cases hhas : r.definitions.has name with
      | true => rfl
      | false => exact ih

/-- **Every check comes before the first write.** A definition fails at its name or at the first
name that is taken, and leaves the registry as it is, or it enters the command. -/
theorem run_defining (r : Registry η) (d : Definition η) :
    (defining d).run.run r =
      if d.name.toList.all Text.isBlank then (.error .blankName, r)
      else
        match (namesOf d).find? r.definitions.has with
        | some name => (.error (.duplicate name), r)
        | none => (.ok (), r.entered d) := by
  have hchecked := run_checkFree r (namesOf d)
  unfold defining
  cases hblank : d.name.toList.all Text.isBlank with
  | true => rfl
  | false =>
      show (checkFree (namesOf d) >>= _ : Defining η Unit).run.run r = _
      rw [ExceptT.run_bind, StateT.run_bind, hchecked]
      cases (namesOf d).find? r.definitions.has with
      | some name => rfl
      | none =>
          unfold entered
          cases d.otherName? <;> rfl

theorem perform_define (r : Registry η) (d : Definition η) :
    r.perform (.define d) = (r.define d).toOption.getD r := by
  unfold perform define
  dsimp only
  rw [run_defining]
  split
  · rfl
  · split <;> rfl

/-- A command is defined when its name is not blank and none of its names is taken. It
stands under its own name then, and a copy of it under its other one. -/
theorem eq_of_define {d : Definition η} (h : r.define d = .ok r') :
    d.name.toList.all Text.isBlank = false ∧
    (∀ name ∈ namesOf d, r.definitions.has name = false) ∧ r' = r.entered d := by
  unfold define at h
  rw [run_defining] at h
  cases hblank : d.name.toList.all Text.isBlank with
  | true =>
      rw [hblank] at h
      cases h
  | false =>
      rw [hblank] at h
      cases hfree : (namesOf d).find? r.definitions.has with
      | some name =>
          rw [hfree] at h
          cases h
      | none =>
          rw [hfree] at h
          exact ⟨rfl, by simpa using hfree, (Except.ok.inj h).symm⟩

theorem defines_define {d : Definition η} (h : r.define d = .ok r') : Defines r r' d := by
  obtain ⟨-, hfresh, rfl⟩ := eq_of_define h
  refine ⟨hfresh, fun hnames => ?_, fun name => ?_, rfl⟩
  · unfold entered
    cases d.otherName? <;> simp [Table.names_put, hnames]
  · unfold entered
    cases hother : d.otherName? with
    | none => simp [Table.get?_put, namesOf, hother]
    | some other =>
        by_cases hname : name = d.name <;> by_cases ho : name = other <;>
          simp [Table.get?_put, namesOf, hother, hname, ho]

/-- A name that was taken keeps its group. -/
theorem Defines.group_eq {d : Definition η} (h : Defines r r' d)
    (hnames : r.definitions.names = r.groups.names) {name : String}
    (hname : r.groups.has name = true) : r'.groups.get? name = r.groups.get? name := by
  rw [h.group, if_neg]
  intro hmem
  have hhas : r.definitions.has name = true := by
    rw [Table.has_iff_mem_names] at hname ⊢
    rwa [hnames]
  rw [h.fresh name hmem] at hhas
  cases hhas

theorem coherent_of_defines {d : Definition η} (h : Coherent r ws) (hd : Defines r r' d) :
    Coherent r' ws := by
  have hkept {name : String} (hname : r.groups.has name = true) :
      r'.groups.get? name = r.groups.get? name := hd.group_eq h.names hname
  have hleader (name group : String) (hget : r'.groups.get? name = some group) :
      r'.groups.get? group = some group := by
    rw [hd.group] at hget
    split at hget
    · obtain rfl := Option.some.inj hget
      exact (hd.group d.name).trans (if_pos List.mem_cons_self)
    · have hold := (h.leader name group hget).2
      rw [hkept (Option.isSome_of_mem hold), hold]
  refine ⟨hd.names h.names, fun name group hget => ⟨?_, hleader name group hget⟩, ?_, ?_, ?_⟩
  · have hhas : r'.groups.has group = true := Option.isSome_of_mem (hleader name group hget)
    rw [Table.has_iff_mem_names] at hhas ⊢
    rwa [hd.names h.names]
  · intro group hgroup
    rw [hd.registered] at hgroup
    have hold := h.registered group hgroup
    rw [hkept (Option.isSome_of_mem hold), hold]
  · intro group
    rw [hd.registered, latest?_congr fun w hw => hkept (h.known w hw)]
    exact h.latest group
  · intro w hw
    rw [Table.has, hkept (h.known w hw)]
    exact h.known w hw

/-! ### Runs -/

theorem coherent_perform (h : Coherent r ws) (op : Operation η) :
    Coherent (r.perform op) (ws ++ r.switches op) := by
  by_cases hop : ∃ d, op = .define d
  · obtain ⟨d, rfl⟩ := hop
    rw [switches, List.append_nil]
    rw [perform_define]
    cases hd : r.define d with
    | ok r' => exact coherent_of_defines h (defines_define hd)
    | error fault => exact h
  · exact coherent_of_replays h (replays_perform h.names fun d hd => hop ⟨d, hd⟩)

theorem coherent_performAll (h : Coherent r ws) (ops : List (Operation η)) :
    Coherent (r.performAll ops) (ws ++ r.history ops) := by
  induction ops generalizing r ws with
  | nil => simpa [performAll, history] using h
  | cons op ops ih =>
      have hmore := ih (coherent_perform h op)
      rwa [List.append_assoc] at hmore

/-- **The last switch of a group decides.** Whatever has been asked of a registry, its
tables fit together, and a name can be run if the registry is enabled and the last switch
of its group has registered it. All names of a group can be run or none. Only definitions
that are accepted change which names there are and to which groups they belong, since one
that fails has only checked names by then. -/
theorem registration_of_operations (ops : List (Operation η)) :
    let r : Registry η := performAll {} ops
    Coherent r (history {} ops) ∧
    (∀ name, r.isRegistered name = true ↔ r.life.enabled = true ∧
      ∃ group, r.groups.get? name = some group ∧
        latest? r.groups (history {} ops) group = some true) ∧
    (∀ name other, r.groups.get? name = r.groups.get? other →
      r.isRegistered name = r.isRegistered other) ∧
    (∀ op, (∀ d, op ≠ .define d) →
      (r.perform op).definitions = r.definitions ∧ (r.perform op).groups = r.groups) ∧
    ∀ d, (∃ fault, r.define d = .error fault) → r.perform (.define d) = r := by
  intro r
  have hcoherent : Coherent r (history {} ops) := coherent_performAll coherent_fresh ops
  refine ⟨hcoherent, fun name => ?_, fun name other hsame => ?_, fun op hop => ?_, ?_⟩
  · simp only [isRegistered, Bool.and_eq_true, Option.any_eq_true, List.contains_iff_mem,
      hcoherent.latest]
  · rw [isRegistered, hsame, isRegistered]
  · have hreplays := replays_perform hcoherent.names hop
    exact ⟨hreplays.definitions, hreplays.groups⟩
  · rintro d ⟨fault, hfault⟩
    rw [perform_define, hfault]
    rfl

-- a command is registered by its other name and taken out for a flag without a datatype
example :
    let find : Definition Unit :=
      { name := "find", handler := (), otherName := some "f",
        schema := [{ name := "all", kind := .flag }] }
    let r := performAll {} [.define find, .init, .register "f"]
    r.isRegistered "find" = true ∧ (r.perform (.validate "f")).isRegistered "find" = false := by
  decide

end Registry

end CommandShell
