import CommandShell.Proofs.Config.Merge
import CommandShell.Proofs.Result

/-!
# Several configurations over each other

Three configurations without nulls are laid over each other in two ways, and both come to
the same (`merge_assoc`). What is at a key of the result depends on what the two mappings
have at that key (`SlotOver`), and the keys are those of the lower one and then the new ones;
a mapping is no more than this (`mergeEntries_eq_ok_iff`). So the three mappings may be
grouped in either way as soon as the values at each key may, and this is shown by induction
on the uppermost value. Where not all three are mappings only their kinds count, and these
are passed on by every step. A null has no kind, so it would let a conflict in one grouping
go unseen in the other.
-/

namespace CommandShell

/-- No key holds null, at any depth that mappings lead to. -/
inductive Value.Filled : Value → Prop where
  | scalar {s : Scalar} (h : s ≠ .null) : Filled (.scalar s)
  | list (items : List Value) : Filled (.list items)
  | map {es : Entries} (h : ∀ e ∈ es, Filled e.2) : Filled (.map es)

namespace Value

@[simp] theorem proper_scalar (s : Scalar) : (scalar s).Proper := .scalar s

@[simp] theorem proper_list_iff {items : List Value} :
    (list items).Proper ↔ ∀ v ∈ items, v.Proper :=
  ⟨fun h => by cases h; assumption, .list⟩

@[simp] theorem proper_map_iff {es : Entries} :
    (map es).Proper ↔ es.Distinct ∧ ∀ e ∈ es, e.2.Proper :=
  ⟨fun h => by cases h; exact ⟨by assumption, by assumption⟩, fun h => .map h.1 h.2⟩

@[simp] theorem filled_scalar_iff {s : Scalar} : (scalar s).Filled ↔ s ≠ .null :=
  ⟨fun h => by cases h; assumption, .scalar⟩

@[simp] theorem filled_list (items : List Value) : (list items).Filled := .list items

@[simp] theorem filled_map_iff {es : Entries} : (map es).Filled ↔ ∀ e ∈ es, e.2.Filled :=
  ⟨fun h => by cases h; assumption, .map⟩

theorem Filled.of_get? {es : Entries} (h : (Value.map es).Filled) {k : Scalar} {v : Value}
    (hv : es.get? k = some v) : v.Filled := by
  cases h with
  | map h =>
      obtain ⟨l, hmem, -⟩ := Entries.exists_mem_of_get? hv
      exact h _ hmem

end Value

/-! ## Mappings by what they have -/

namespace Entries

theorem distinct_iff_keys {es : Entries} :
    es.Distinct ↔ es.keys.Pairwise fun k l => k.sameKey l = false := by
  rw [keys, List.pairwise_map]
  rfl

/-- Mappings with the same keys in the same order and the same values are the same. -/
theorem eq_of_keys_of_get? {es fs : Entries} (h : es.Distinct) (hkeys : es.keys = fs.keys)
    (hget : ∀ p, es.get? p = fs.get? p) : es = fs := by
  induction es generalizing fs with
  | nil => exact (List.map_eq_nil_iff.mp hkeys.symm).symm
  | cons e es ih =>
      obtain ⟨k, v⟩ := e
      cases fs with
      | nil => cases hkeys
      | cons f fs =>
          obtain ⟨l, w⟩ := f
          obtain ⟨rfl, htail⟩ := List.cons.inj hkeys
          have hf : Distinct ((k, w) :: fs) := by
            rw [distinct_iff_keys] at h ⊢
            rwa [← hkeys]
          have hv : v = w := by
            have hk := hget k
            rw [get?, get?, if_pos (Scalar.sameKey_refl k), if_pos (Scalar.sameKey_refl k)] at hk
            exact Option.some.inj hk
          have hrest (p : Scalar) : get? p es = get? p fs := by
            by_cases hp : k.sameKey p = true
            · rw [← get?_congr hp, ← get?_congr hp, h.get?_tail, hf.get?_tail]
            · have hall := hget p
              rwa [get?, get?, if_neg hp, if_neg hp] at hall
          rw [hv, ih (List.pairwise_cons.mp h).2 htail hrest]

end Entries

namespace Config

/-! ## One value over another -/

theorem exists_kind_of_filled {v : Value} (h : v.Filled) : ∃ k, kind? v = some k := by
  cases h with
  | scalar h =>
      rename_i s
      cases s with
      | null => exact absurd rfl h
      | _ => exact ⟨_, rfl⟩
  | list items => exact ⟨.list, rfl⟩
  | map h => exact ⟨.mapping, rfl⟩

theorem isMap_of_kind {v : Value} (h : kind? v = some .mapping) : ∃ es, v = .map es := by
  cases v with
  | scalar s => cases s <;> cases h
  | list items => cases h
  | map es => exact ⟨es, rfl⟩

theorem agree_iff {a b : Value} {j k : Kind} (ha : kind? a = some j) (hb : kind? b = some k) :
    agree a b = true ↔ j = k := by
  rw [agree, ha, hb]
  exact beq_iff_eq

/-- One value has been laid over another. The key, which only shows in messages, is left open. -/
def Over (base override result : Value) : Prop :=
  mergeValue .null (some base) override = .ok result

theorem over_maps {under upper : Entries} {result : Value} :
    Over (.map under) (.map upper) result ↔
      ∃ es, result = .map es ∧ mergeEntries under upper = .ok es := by
  refine ⟨exists_of_mergeValue_maps, ?_⟩
  rintro ⟨es, rfl, hes⟩
  rw [Over, mergeValue_maps, hes]
  rfl

theorem mergeValue_eq_ok_iff (key : Scalar) {base override result : Value} :
    mergeValue key (some base) override = .ok result ↔ Over base override result := by
  unfold Over
  by_cases hmaps : base.isMap = true ∧ override.isMap = true
  · cases base <;> cases override <;> simp [Value.isMap] at hmaps
    rw [mergeValue_maps, mergeValue_maps]
  · rw [mergeValue_some key hmaps, mergeValue_some .null hmaps]
    split <;> simp

/-- What is no mapping takes the place of a value of its own kind. -/
theorem over_iff_of_not_isMap {base override result : Value} {j k : Kind}
    (hj : kind? base = some j) (hk : kind? override = some k) (h : override.isMap = false) :
    Over base override result ↔ j = k ∧ result = override := by
  have hmaps : ¬(base.isMap = true ∧ override.isMap = true) := by simp [h]
  rw [Over, mergeValue_some _ hmaps, ← agree_iff hj hk]
  cases agree base override with
  | true => exact ⟨fun hr => ⟨rfl, (Except.ok.inj hr).symm⟩, fun hr => congrArg Except.ok hr.2.symm⟩
  | false => exact ⟨fun hr => (nomatch hr), fun hr => nomatch hr.1⟩

/-- Two values that are merged are of one kind, and it is that of the result. -/
theorem Over.kind {base override result : Value} {j k : Kind} (h : Over base override result)
    (hj : kind? base = some j) (hk : kind? override = some k) :
    j = k ∧ kind? result = some k := by
  by_cases hmaps : base.isMap = true ∧ override.isMap = true
  · cases base <;> cases override <;> simp [Value.isMap] at hmaps
    obtain ⟨es, rfl, -⟩ := over_maps.mp h
    cases hj
    cases hk
    exact ⟨rfl, rfl⟩
  · rw [Over, mergeValue_some _ hmaps] at h
    split at h
    · rename_i hagree
      cases h
      exact ⟨(agree_iff hj hk).mp hagree, hk⟩
    · cases h

/-! ## The value at a key -/

/-- What a key has, once what an override may have at it is laid over what it may have had. -/
inductive SlotOver : Option Value → Option Value → Option Value → Prop where
  | kept (a : Option Value) : SlotOver a none a
  | new (b : Value) : SlotOver none (some b) (some b)
  | both {a b r : Value} (h : Over a b r) : SlotOver (some a) (some b) (some r)

theorem SlotOver.unique {a b r s : Option Value} (h : SlotOver a b r) (h' : SlotOver a b s) :
    r = s := by
  cases h with
  | kept => cases h'; rfl
  | new => cases h'; rfl
  | both h =>
      cases h' with
      | both h' => exact congrArg some (Except.ok.inj (h.symm.trans h'))

theorem SlotOver.isNone {a b r : Option Value} (h : SlotOver a b r) :
    r.isNone = (a.isNone && b.isNone) := by
  cases h <;> simp

theorem slotOver_some {key : Scalar} {a : Option Value} {b r : Value}
    (h : mergeValue key a b = .ok r) : SlotOver a (some b) (some r) := by
  cases a with
  | none =>
      rw [mergeValue_none] at h
      cases h
      exact .new _
  | some a => exact .both ((mergeValue_eq_ok_iff key).mp h)

/-- Three values at a key may be grouped in either way when they may be as values. -/
theorem slotOver_assoc {a b c r : Option Value}
    (h : ∀ x ∈ a, ∀ y ∈ b, ∀ z ∈ c, ∀ w,
      (∃ xy, Over x y xy ∧ Over xy z w) ↔ ∃ yz, Over y z yz ∧ Over x yz w) :
    (∃ ab, SlotOver a b ab ∧ SlotOver ab c r) ↔ ∃ bc, SlotOver b c bc ∧ SlotOver a bc r := by
  constructor
  · rintro ⟨ab, hab, hr⟩
    cases hab with
    | kept =>
        cases c with
        | none => exact ⟨none, .kept none, hr⟩
        | some z => exact ⟨some z, .new z, hr⟩
    | new y =>
        cases hr with
        | kept => exact ⟨some y, .kept _, .new y⟩
        | both hr => exact ⟨_, .both hr, .new _⟩
    | both hxy =>
        cases hr with
        | kept => exact ⟨_, .kept _, .both hxy⟩
        | both hr =>
            obtain ⟨yz, hyz, hw⟩ := (h _ rfl _ rfl _ rfl _).mp ⟨_, hxy, hr⟩
            exact ⟨some yz, .both hyz, .both hw⟩
  · rintro ⟨bc, hbc, hr⟩
    cases hbc with
    | kept => exact ⟨r, hr, .kept r⟩
    | new z => exact ⟨a, .kept a, hr⟩
    | both hyz =>
        cases hr with
        | new => exact ⟨_, .new _, .both hyz⟩
        | both hr =>
            obtain ⟨xy, hxy, hw⟩ := (h _ rfl _ rfl _ rfl _).mpr ⟨_, hyz, hr⟩
            exact ⟨some xy, .both hxy, .both hw⟩

/-! ## Mappings over mappings -/

theorem distinct_mergeEntries {base upper es : Entries} (h : mergeEntries base upper = .ok es)
    (hbase : base.Distinct) : es.Distinct := by
  induction upper generalizing base with
  | nil =>
      rw [mergeEntries] at h
      cases h
      exact hbase
  | cons e rest ih =>
      obtain ⟨merged, -, hrest⟩ := exists_of_mergeEntries_cons h
      exact ih hrest (hbase.put _ _)

theorem slotOver_mergeEntries {base upper es : Entries} (h : mergeEntries base upper = .ok es)
    (hupper : upper.Distinct) (p : Scalar) :
    SlotOver (base.get? p) (upper.get? p) (es.get? p) := by
  cases hp : upper.get? p with
  | none =>
      rw [get?_mergeEntries_of_none h hp]
      exact .kept _
  | some v =>
      obtain ⟨key, w, hw, hes⟩ := get?_mergeEntries_of_some h hupper hp
      rw [hes]
      exact slotOver_some hw

/-- Mappings can be merged when the values at every key can. -/
theorem exists_mergeEntries {base upper : Entries} (hupper : upper.Distinct)
    (h : ∀ p, ∃ r, SlotOver (base.get? p) (upper.get? p) r) :
    ∃ es, mergeEntries base upper = .ok es := by
  cases hmerged : mergeEntries base upper with
  | ok es => exact ⟨es, rfl⟩
  | error c =>
      obtain ⟨e, he, d, hd⟩ := (mergeEntries_error_iff hupper base).mp ⟨c, hmerged⟩
      obtain ⟨r, hr⟩ := h e.1
      rw [hupper.get?_of_mem he] at hr
      cases hbase : base.get? e.1 with
      | none =>
          rw [hbase, mergeValue_none] at hd
          cases hd
      | some a =>
          rw [hbase] at hr hd
          cases hr with
          | both hr =>
              rw [← mergeValue_eq_ok_iff e.1, hd] at hr
              cases hr

/-- **What a merged mapping is**: its keys in order, and what it has at each. -/
theorem mergeEntries_eq_ok_iff {base upper es : Entries} (hbase : base.Distinct)
    (hupper : upper.Distinct) :
    mergeEntries base upper = .ok es ↔
      es.keys = base.keys ++ upper.keys.filter (fun k => (base.get? k).isNone) ∧
        ∀ p, SlotOver (base.get? p) (upper.get? p) (es.get? p) := by
  refine ⟨fun h => ⟨keys_mergeEntries h hupper, slotOver_mergeEntries h hupper⟩, ?_⟩
  rintro ⟨hkeys, hslots⟩
  obtain ⟨fs, hfs⟩ := exists_mergeEntries hupper fun p => ⟨_, hslots p⟩
  rw [hfs]
  refine congrArg Except.ok ?_
  refine Entries.eq_of_keys_of_get? (distinct_mergeEntries hfs hbase) ?_ fun p => ?_
  · rw [keys_mergeEntries hfs hupper, hkeys]
  · exact (slotOver_mergeEntries hfs hupper p).unique (hslots p)

section Three

variable {a b c : Entries}

/-- The keys come in the same order in both groupings. -/
theorem keys_grouped {ab bc : Entries} (hab : ∀ p, SlotOver (a.get? p) (b.get? p) (ab.get? p))
    (hkeys : ab.keys = a.keys ++ b.keys.filter fun k => (a.get? k).isNone)
    (hkeys' : bc.keys = b.keys ++ c.keys.filter fun k => (b.get? k).isNone) :
    ab.keys ++ c.keys.filter (fun k => (ab.get? k).isNone) =
      a.keys ++ bc.keys.filter fun k => (a.get? k).isNone := by
  have hnew : (fun k => (ab.get? k).isNone) = fun k => (a.get? k).isNone && (b.get? k).isNone :=
    funext fun k => (hab k).isNone
  rw [hnew, hkeys, hkeys', List.filter_append, List.filter_filter, List.append_assoc]

/-- Mappings may be grouped in either way when the values at every key may. -/
theorem mergeEntries_assoc (ha : a.Distinct) (hb : b.Distinct) (hc : c.Distinct)
    (h : ∀ p r, (∃ ab, SlotOver (a.get? p) (b.get? p) ab ∧ SlotOver ab (c.get? p) r) ↔
      ∃ bc, SlotOver (b.get? p) (c.get? p) bc ∧ SlotOver (a.get? p) bc r) (es : Entries) :
    (∃ ab, mergeEntries a b = .ok ab ∧ mergeEntries ab c = .ok es) ↔
      ∃ bc, mergeEntries b c = .ok bc ∧ mergeEntries a bc = .ok es := by
  constructor
  · rintro ⟨ab, hab, hes⟩
    have hdistinct := distinct_mergeEntries hab ha
    obtain ⟨habkeys, habslots⟩ := (mergeEntries_eq_ok_iff ha hb).mp hab
    obtain ⟨heskeys, hesslots⟩ := (mergeEntries_eq_ok_iff hdistinct hc).mp hes
    have hother (p : Scalar) := (h p _).mp ⟨_, habslots p, hesslots p⟩
    obtain ⟨bc, hbc⟩ := exists_mergeEntries hc fun p => (hother p).imp fun _ hp => hp.1
    obtain ⟨hbckeys, hbcslots⟩ := (mergeEntries_eq_ok_iff hb hc).mp hbc
    refine ⟨bc, hbc, (mergeEntries_eq_ok_iff ha (distinct_mergeEntries hbc hb)).mpr ⟨?_, ?_⟩⟩
    · rw [heskeys, keys_grouped habslots habkeys hbckeys]
    · intro p
      obtain ⟨r, hr, hesp⟩ := hother p
      rwa [(hbcslots p).unique hr]
  · rintro ⟨bc, hbc, hes⟩
    have hdistinct := distinct_mergeEntries hbc hb
    obtain ⟨hbckeys, hbcslots⟩ := (mergeEntries_eq_ok_iff hb hc).mp hbc
    obtain ⟨heskeys, hesslots⟩ := (mergeEntries_eq_ok_iff ha hdistinct).mp hes
    have hother (p : Scalar) := (h p _).mpr ⟨_, hbcslots p, hesslots p⟩
    obtain ⟨ab, hab⟩ := exists_mergeEntries hb fun p => (hother p).imp fun _ hp => hp.1
    obtain ⟨habkeys, habslots⟩ := (mergeEntries_eq_ok_iff ha hb).mp hab
    refine ⟨ab, hab, (mergeEntries_eq_ok_iff (distinct_mergeEntries hab ha) hc).mpr ⟨?_, ?_⟩⟩
    · rw [heskeys, keys_grouped habslots habkeys hbckeys]
    · intro p
      obtain ⟨r, hr, hesp⟩ := hother p
      rwa [(habslots p).unique hr]

end Three

/-! ## Three configurations -/

/-- Under a value that is no mapping only the kinds count. -/
theorem over_assoc_of_not_isMap {a b c : Value} (ha : a.Filled) (hb : b.Filled) (hc : c.Filled)
    (hmap : c.isMap = false) (r : Value) :
    (∃ ab, Over a b ab ∧ Over ab c r) ↔ ∃ bc, Over b c bc ∧ Over a bc r := by
  obtain ⟨i, hi⟩ := exists_kind_of_filled ha
  obtain ⟨j, hj⟩ := exists_kind_of_filled hb
  obtain ⟨k, hk⟩ := exists_kind_of_filled hc
  constructor
  · rintro ⟨ab, hab, hr⟩
    obtain ⟨rfl, hkind⟩ := hab.kind hi hj
    obtain ⟨rfl, rfl⟩ := (over_iff_of_not_isMap hkind hk hmap).mp hr
    exact ⟨r, (over_iff_of_not_isMap hj hk hmap).mpr ⟨rfl, rfl⟩,
      (over_iff_of_not_isMap hi hk hmap).mpr ⟨rfl, rfl⟩⟩
  · rintro ⟨bc, hbc, hr⟩
    obtain ⟨rfl, rfl⟩ := (over_iff_of_not_isMap hj hk hmap).mp hbc
    obtain ⟨rfl, rfl⟩ := (over_iff_of_not_isMap hi hk hmap).mp hr
    have hbmap : b.isMap = false := by
      rw [Bool.eq_false_iff]
      intro hmaps
      cases b <;> simp [Value.isMap] at hmaps
      cases hj
      obtain ⟨es, rfl⟩ := isMap_of_kind hk
      cases hmap
    exact ⟨b, (over_iff_of_not_isMap hi hj hbmap).mpr ⟨rfl, rfl⟩,
      (over_iff_of_not_isMap hj hk hmap).mpr ⟨rfl, rfl⟩⟩

/-- A mapping is laid over mappings only, so these two groupings are of three mappings. -/
theorem over_assoc_map {a b : Value} {c : Entries} (ha : a.Filled) (hb : b.Filled)
    (h : ∀ x y, a = .map x → b = .map y → ∀ es,
      (∃ xy, mergeEntries x y = .ok xy ∧ mergeEntries xy c = .ok es) ↔
        ∃ yc, mergeEntries y c = .ok yc ∧ mergeEntries x yc = .ok es) (r : Value) :
    (∃ ab, Over a b ab ∧ Over ab (.map c) r) ↔ ∃ bc, Over b (.map c) bc ∧ Over a bc r := by
  obtain ⟨i, hi⟩ := exists_kind_of_filled ha
  obtain ⟨j, hj⟩ := exists_kind_of_filled hb
  constructor
  · rintro ⟨ab, hab, hr⟩
    obtain ⟨rfl, hkind⟩ := hab.kind hi hj
    obtain ⟨rfl, -⟩ := hr.kind hkind rfl
    obtain ⟨x, rfl⟩ := isMap_of_kind hi
    obtain ⟨y, rfl⟩ := isMap_of_kind hj
    obtain ⟨xy, rfl, hxy⟩ := over_maps.mp hab
    obtain ⟨es, rfl, hes⟩ := over_maps.mp hr
    obtain ⟨yc, hyc, hx⟩ := (h x y rfl rfl es).mp ⟨xy, hxy, hes⟩
    exact ⟨.map yc, over_maps.mpr ⟨yc, rfl, hyc⟩, over_maps.mpr ⟨es, rfl, hx⟩⟩
  · rintro ⟨bc, hbc, hr⟩
    obtain ⟨rfl, hkind⟩ := hbc.kind hj rfl
    obtain ⟨rfl, -⟩ := hr.kind hi hkind
    obtain ⟨x, rfl⟩ := isMap_of_kind hi
    obtain ⟨y, rfl⟩ := isMap_of_kind hj
    obtain ⟨yc, rfl, hyc⟩ := over_maps.mp hbc
    obtain ⟨es, rfl, hes⟩ := over_maps.mp hr
    obtain ⟨xy, hxy, hc⟩ := (h x y rfl rfl es).mpr ⟨yc, hyc, hes⟩
    exact ⟨.map xy, over_maps.mpr ⟨xy, rfl, hxy⟩, over_maps.mpr ⟨es, rfl, hc⟩⟩

/-- **Three values over each other**, by induction on the uppermost. -/
theorem over_assoc {c : Value} (hc : c.Proper) {a b : Value} (ha : a.Proper) (hb : b.Proper)
    (hfa : a.Filled) (hfb : b.Filled) (hfc : c.Filled) (r : Value) :
    (∃ ab, Over a b ab ∧ Over ab c r) ↔ ∃ bc, Over b c bc ∧ Over a bc r := by
  induction hc generalizing a b r with
  | scalar s => exact over_assoc_of_not_isMap hfa hfb hfc rfl r
  | list h ih => exact over_assoc_of_not_isMap hfa hfb hfc rfl r
  | @map c hdistinct h ih =>
      refine over_assoc_map hfa hfb ?_ r
      rintro x y rfl rfl es
      refine mergeEntries_assoc ha.distinct hb.distinct hdistinct (fun p r => ?_) es
      refine slotOver_assoc fun u hu v hv w hw => ?_
      obtain ⟨l, hmem, -⟩ := Entries.exists_mem_of_get? hw
      exact ih _ hmem (ha.of_get? hu) (hb.of_get? hv) (hfa.of_get? hu) (hfb.of_get? hv)
        (hfc.of_get? hw)

/-- What is laid over a mapping, or has one laid over it, are mappings. -/
theorem isMap_of_over {a b : Entries} {r : Value} (h : Over (.map a) (.map b) r) :
    ∃ es, r = .map es := by
  obtain ⟨es, rfl, -⟩ := over_maps.mp h
  exact ⟨es, rfl⟩

theorem merge_bind_left {a b c : Entries} {r : Value} :
    ((merge (.map a) (.map b)).bind fun ab => merge ab (.map c)) = .ok r ↔
      ∃ ab, Over (.map a) (.map b) ab ∧ Over ab (.map c) r := by
  rw [Result.bind_eq_ok_iff]
  refine exists_congr fun ab => and_congr_right fun hab => ?_
  obtain ⟨es, rfl⟩ := isMap_of_over hab
  exact Iff.rfl

theorem merge_bind_right {a b c : Entries} {r : Value} :
    ((merge (.map b) (.map c)).bind fun bc => merge (.map a) bc) = .ok r ↔
      ∃ bc, Over (.map b) (.map c) bc ∧ Over (.map a) bc r := by
  rw [Result.bind_eq_ok_iff]
  refine exists_congr fun bc => and_congr_right fun hbc => ?_
  obtain ⟨es, rfl⟩ := isMap_of_over hbc
  exact Iff.rfl

/-- Results that succeed alike also fail alike. -/
theorem both_of_forall_ok_iff {ε α : Type} {x y : Except ε α} (h : ∀ r, x = .ok r ↔ y = .ok r) :
    (∃ r, x = .ok r ∧ y = .ok r) ∨ ∃ d e, x = .error d ∧ y = .error e := by
  cases x with
  | ok r => exact Or.inl ⟨r, rfl, (h r).mp rfl⟩
  | error d =>
      cases y with
      | ok r => exact nomatch (h r).mpr rfl
      | error e => exact Or.inr ⟨d, e, rfl, rfl⟩

/-- **Without nulls the grouping of overrides does not count.** Both groupings fail with a
conflict, or both come to the same configuration, with its keys in the same order. -/
theorem merge_assoc {a b c : Entries} (ha : (Value.map a).Proper) (hb : (Value.map b).Proper)
    (hc : (Value.map c).Proper) (hfa : (Value.map a).Filled) (hfb : (Value.map b).Filled)
    (hfc : (Value.map c).Filled) :
    (∃ r, ((merge (.map a) (.map b)).bind fun ab => merge ab (.map c)) = .ok r ∧
        ((merge (.map b) (.map c)).bind fun bc => merge (.map a) bc) = .ok r) ∨
      ∃ d e, ((merge (.map a) (.map b)).bind fun ab => merge ab (.map c)) = .error d ∧
        ((merge (.map b) (.map c)).bind fun bc => merge (.map a) bc) = .error e := by
  refine both_of_forall_ok_iff fun r => ?_
  rw [merge_bind_left, merge_bind_right]
  exact over_assoc hc ha hb hfa hfb hfc r

/-- Defaults, and an override for a site that comes between them and `patch`. -/
def site : Entries := [
  (.str "watchdog", .map [(.str "interval_ms", .int 100)]),
  (.str "engine", .map [(.str "history_limit", .int 20), (.str "trace", .bool false)])]

def plain : Entries := [
  (.str "engine", .map [(.str "step_delay_ms", .int 50)]),
  (.str "tags", .list [.str "a", .null])]

/-- New keys come from two layers, and a number is replaced by one of the other type. -/
theorem merge_assoc_site :
    ((Value.map plain).Proper ∧ (Value.map site).Proper ∧ (Value.map patch).Proper) ∧
      ((Value.map plain).Filled ∧ (Value.map site).Filled ∧ (Value.map patch).Filled) ∧
      ((merge (.map site) (.map patch)).bind fun upper => merge (.map plain) upper) =
        .ok (.map [
          (.str "engine", .map [(.str "step_delay_ms", .float (.ofInt 12)),
            (.str "history_limit", .int 20), (.str "trace", .bool true)]),
          (.str "tags", .list []),
          (.str "watchdog", .map [(.str "interval_ms", .int 100), (.str "enabled", .bool true)])]) := by
  have hplain : (Value.map plain).Proper := by
    simp [plain]
    decide
  have hsite : (Value.map site).Proper := by
    simp [site]
    decide
  have hfplain : (Value.map plain).Filled := by simp [plain]
  have hfsite : (Value.map site).Filled := by simp [site]
  have hfpatch : (Value.map patch).Filled := by simp [patch]
  have hassoc := merge_assoc hplain hsite proper_patch hfplain hfsite hfpatch
  refine ⟨⟨hplain, hsite, proper_patch⟩, ⟨hfplain, hfsite, hfpatch⟩, ?_⟩
  rcases hassoc with ⟨r, hleft, hright⟩ | ⟨d, e, hleft, -⟩
  · rw [hright, ← hleft]
    rfl
  · cases hleft

end Config

end CommandShell
