import CommandShell.Command.Verification
import Mathlib.Data.List.Induction

/-!
# What is admitted

An invocation that a registry accepts fits the command that it names: the command can
be run, its required arguments are there and have allowed values, and every flag that
the command knows has come under its long name with a value of its datatype
(`Registry.admits_of_verify`). Flags that it does not know are passed on as they are.
-/

namespace CommandShell

namespace Table

variable {α : Type}

/-- An entry of a table is new or was there before. -/
theorem mem_put {t : Table α} {name : String} {a : α} {e : String × α} (h : e ∈ put name a t) :
    e = (name, a) ∨ e ∈ t := by
  induction t with
  | nil => exact Or.inl (List.mem_singleton.mp h)
  | cons d t ih =>
      obtain ⟨n, b⟩ := d
      by_cases hn : n = name
      · rw [put, if_pos hn, hn] at h
        rcases List.mem_cons.mp h with rfl | h
        · exact Or.inl rfl
        · exact Or.inr (List.mem_cons_of_mem _ h)
      · rw [put, if_neg hn] at h
        rcases List.mem_cons.mp h with rfl | h
        · exact Or.inr List.mem_cons_self
        · exact (ih h).imp_right (List.mem_cons_of_mem _)

theorem names_put (t : Table α) (name : String) (a : α) :
    names (put name a t) = if name ∈ names t then names t else names t ++ [name] := by
  induction t with
  | nil => rfl
  | cons e t ih =>
      obtain ⟨n, b⟩ := e
      by_cases hn : n = name
      · simp [put, names, hn]
      · unfold names at ih ⊢
        rw [put, if_neg hn, List.map_cons, ih]
        by_cases hmem : name ∈ t.map (·.1)
        · simp [hmem]
        · simp [hmem, Ne.symm hn]

/-- No name comes twice. -/
theorem nodup_put {t : Table α} (h : (names t).Nodup) (name : String) (a : α) :
    (names (put name a t)).Nodup := by
  rw [names_put]
  split
  · exact h
  · rename_i hnew
    rw [List.nodup_append]
    refine ⟨h, List.pairwise_singleton _ _, ?_⟩
    rintro n hn m hm rfl
    obtain rfl := List.mem_singleton.mp hm
    exact hnew hn

end Table

/-! ## Arguments -/

/-- Without a problem every required argument is there, and every argument has one of
the values that are allowed for it. -/
theorem arguments_of_checkArguments {command : String} {args : List String} {n : Nat}
    {ps : List Parameter} (h : checkArguments command args n ps = none) {i : Nat} {p : Parameter}
    (hp : ps[i]? = some p) :
    (p.required = true → n + i < args.length) ∧
    ∀ arg values, args[n + i]? = some arg → p.allowed = some values → arg ∈ values := by
  induction ps generalizing n i with
  | nil => simp at hp
  | cons q ps ih =>
      cases i with
      | zero =>
          obtain rfl : q = p := by simpa using hp
          rw [checkArguments] at h
          split at h
          · rename_i hnone
            split at h
            · cases h
            · rename_i hreq
              refine ⟨fun hr => absurd hr hreq, fun arg values harg => ?_⟩
              rw [Nat.add_zero, hnone] at harg
              cases harg
          · rename_i arg harg
            refine ⟨fun _ => (List.getElem?_eq_some_iff.mp harg).1, ?_⟩
            intro arg' values harg' hvalues
            rw [Nat.add_zero, harg] at harg'
            obtain rfl := Option.some.inj harg'
            rw [hvalues] at h
            dsimp only at h
            split at h
            · rename_i hmem
              exact List.contains_iff_mem.mp hmem
            · cases h
      | succ i =>
          have hnext : checkArguments command args (n + 1) ps = none := by
            rw [checkArguments] at h
            split at h
            · split at h
              · cases h
              · exact h
            · split at h
              · split at h
                · exact h
                · cases h
              · exact h
          have hi := ih hnext (by simpa using hp)
          rwa [show n + 1 + i = n + (i + 1) by omega] at hi

/-! ## Flags -/

variable {η : Type}

/-- The value of a flag that a command takes: one that it does not know as it came, and
one that it knows with the datatype that it has. -/
theorem value_of_checkFlag {command : String} {d : Definition η} {key : String}
    {given taken : Value} (h : checkFlag command d key given = .ok taken) :
    (d.findFlag? key = none ∧ taken = given) ∨
    ∃ p t, d.findFlag? key = some p ∧ p.datatype = some t ∧ coerce given = .ok taken ∧
      runtimeType taken = t.name := by
  unfold checkFlag at h
  split at h
  · rename_i hnone
    exact Or.inl ⟨hnone, (Except.ok.inj h).symm⟩
  · rename_i p hp
    right
    split at h
    · cases h
    · rename_i t ht
      split at h
      · cases h
      · rename_i v hv
        split at h
        · cases h
        · rename_i htype
          split at h
          · cases h
          · obtain rfl := Except.ok.inj h
            exact ⟨p, t, hp, ht, hv, not_not.mp htype⟩

/-- Every flag that is taken was given under its key. -/
theorem given_of_checkFlags {command : String} {d : Definition η} {given taken : Flags}
    (h : checkFlags command d given = .ok taken) {key : String} {value : Value}
    (hmem : (key, value) ∈ taken) :
    ∃ v, (key, v) ∈ given ∧ checkFlag command d key v = .ok value := by
  induction given generalizing taken with
  | nil =>
      obtain rfl := Except.ok.inj h
      cases hmem
  | cons g given ih =>
      obtain ⟨k, v⟩ := g
      simp only [checkFlags, bind, Except.bind, pure, Except.pure] at h
      split at h
      · cases h
      · rename_i w hw
        split at h
        · cases h
        · rename_i ws hws
          obtain rfl := Except.ok.inj h
          rcases List.mem_cons.mp hmem with heq | hmem
          · obtain ⟨rfl, rfl⟩ := Prod.mk.inj heq
            exact ⟨v, List.mem_cons_self, hw⟩
          · obtain ⟨u, hu, hcheck⟩ := ih hws hmem
            exact ⟨u, List.mem_cons_of_mem _ hu, hcheck⟩

namespace Registry

variable {r : Registry η} {f : Fragment} {d : Definition η}

/-- The registry lets a fragment run as an invocation of `d` with these flags. -/
structure Admits (r : Registry η) (f : Fragment) (d : Definition η) (flags : Flags) : Prop where
  enabled : r.life.enabled = true
  registered : ∃ group, r.groups.get? f.name = some group ∧ group ∈ r.registered
  defined : r.definitions.get? f.name = some d
  /-- Every required argument is there. -/
  required : ∀ (i : Nat) (p : Parameter), d.positionals[i]? = some p → p.required = true →
    i < f.args.length
  /-- Every argument has a value that is allowed for it. -/
  allowed : ∀ (i : Nat) (p : Parameter) (arg : String) (values : List String),
    d.positionals[i]? = some p → f.args[i]? = some arg → p.allowed = some values → arg ∈ values
  distinct : (Table.names flags).Nodup
  /-- A flag that the command does not know comes as it was given. One that it knows comes
  under its long name and has the datatype of that flag, once a text that is written
  like an integer has become one. -/
  flags : ∀ key value, (key, value) ∈ flags →
    ((∀ p ∈ d.flags, p.isNamed key = false) ∧ (key, value) ∈ f.flags) ∨
    ∃ p ∈ d.flags, p.name = key ∧
      (∃ t, p.datatype = some t ∧ runtimeType value = t.name) ∧
      ∃ k given, (k, given) ∈ f.flags ∧ p.isNamed k = true ∧ coerce given = .ok value

/-- Everything that is checked of an invocation before it is accepted. -/
theorem verify_accepted {name : String} {args : List String} {given taken : Flags}
    (h : (r.verify name args given).result = .ok (.accepted taken)) :
    (r.verify name args given).registry = r ∧
    ∃ d, r.definitions.get? name = some d ∧ r.isRegistered name = true ∧
      checkArguments name args 0 d.positionals = none ∧
      missingFlag? d.flags given = none ∧ checkFlags name d given = .ok taken := by
  unfold verify at h ⊢
  dsimp only at h ⊢
  cases hd : r.definition? name with
  | none => simp [hd] at h
  | some d =>
      cases hr : r.isRegistered name with
      | false => simp [hd, hr] at h
      | true =>
          cases ha : checkArguments name args 0 d.positionals with
          | some p => simp [hd, hr, ha] at h
          | none =>
              cases hm : missingFlag? d.flags given with
              | some p => simp [hd, hr, ha, hm] at h
              | none =>
                  cases hf : checkFlags name d given with
                  | error fault => cases fault <;> simp [hd, hr, ha, hm, hf] at h
                  | ok accepted =>
                      obtain rfl : accepted = taken := by simpa [hd, hr, ha, hm, hf] using h
                      exact ⟨by simp [ha, hm, hf], d, hd, rfl, ha, hm, hf⟩

/-- The flags that are handed on are those that were taken, each under its long name. -/
theorem mem_normalize (hd : r.definitions.get? f.name = some d) {taken : Flags}
    {key : String} {value : Value} (h : (key, value) ∈ r.normalize f.name taken) :
    ∃ k, (k, value) ∈ taken ∧ (d.findFlag? k).elim k (·.name) = key := by
  have hd' : r.definition? f.name = some d := hd
  unfold normalize at h
  rw [hd'] at h
  dsimp only at h
  induction taken using List.reverseRecOn with
  | nil => cases h
  | append_singleton taken t ih =>
      rw [List.foldl_append, List.foldl_cons, List.foldl_nil] at h
      rcases Table.mem_put h with heq | h
      · obtain ⟨rfl, rfl⟩ := Prod.mk.inj heq
        exact ⟨t.1, List.mem_append_right _ List.mem_cons_self, rfl⟩
      · obtain ⟨k, hk, hkey⟩ := ih h
        exact ⟨k, List.mem_append_left _ hk, hkey⟩

theorem nodup_normalize (hd : r.definitions.get? f.name = some d) (taken : Flags) :
    (Table.names (r.normalize f.name taken)).Nodup := by
  have hd' : r.definition? f.name = some d := hd
  unfold normalize
  rw [hd']
  dsimp only
  induction taken using List.reverseRecOn with
  | nil => exact List.nodup_nil
  | append_singleton taken t ih =>
      rw [List.foldl_append]
      exact Table.nodup_put ih _ _

theorem isNamed_of_findFlag? {key : String} {p : Parameter} (h : d.findFlag? key = some p) :
    p ∈ d.flags ∧ p.isNamed key = true := by
  unfold Definition.findFlag? at h
  have hnamed := List.find?_some (p := fun p : Parameter => p.isNamed key) h
  exact ⟨List.mem_of_find?_eq_some h, hnamed⟩

/-- **What is accepted fits.** -/
theorem admits_of_verify {taken : Flags}
    (h : (r.verify f.name f.args f.flags).result = .ok (.accepted taken)) :
    ∃ d, r.definitions.get? f.name = some d ∧ r.Admits f d (r.normalize f.name taken) := by
  obtain ⟨-, d, hd, hreg, hargs, -, hflags⟩ := verify_accepted h
  obtain ⟨henabled, hgroup⟩ := Bool.and_eq_true_iff.mp hreg
  have hargument (i : Nat) (p : Parameter) (hp : d.positionals[i]? = some p) :=
    arguments_of_checkArguments hargs hp
  simp only [Nat.zero_add] at hargument
  refine ⟨d, hd, henabled, ?_, hd, fun i p hp => (hargument i p hp).1,
    fun i p arg values hp => (hargument i p hp).2 arg values, nodup_normalize hd taken, ?_⟩
  · obtain ⟨group, hg, hmem⟩ := (Option.any_eq_true _ _).mp hgroup
    exact ⟨group, hg, List.contains_iff_mem.mp hmem⟩
  · intro key value hmem
    obtain ⟨k, hk, hkey⟩ := mem_normalize hd hmem
    obtain ⟨given, hgiven, hcheck⟩ := given_of_checkFlags hflags hk
    rcases value_of_checkFlag hcheck with ⟨hnone, rfl⟩ | ⟨p, t, hp, ht, hcoerce, htype⟩
    · left
      rw [hnone] at hkey
      obtain rfl : k = key := hkey
      refine ⟨fun p hp => ?_, hgiven⟩
      simpa using List.find?_eq_none.mp hnone p hp
    · right
      rw [hp] at hkey
      obtain ⟨hmem, hnamed⟩ := isNamed_of_findFlag? hp
      exact ⟨p, hmem, hkey, ⟨t, ht, htype⟩, k, given, hgiven, hnamed, hcoerce⟩

end Registry

end CommandShell
