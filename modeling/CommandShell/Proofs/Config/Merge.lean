import CommandShell.Config.Merge
import CommandShell.Proofs.Config.Entries

/-!
# What a configuration has once another is laid over it

A configuration is looked at along paths of keys. Laying one over another fails just where
some path leads to values of different kinds in both (`ClashAt`), and the result has, at
every path, what `Layered` says (`merge_by_paths`). Both come from what becomes of the
entries of two mappings: which one cannot be merged (`mergeEntries_error_iff`), and what is
at a key afterwards (`get?_mergeEntries_of_none`, `get?_mergeEntries_of_some`). The failures
are found by induction on the value laid over, and all else by induction on the path.
-/

namespace CommandShell

namespace Value

def isMap : Value → Bool
  | .map _ => true
  | _ => false

/-- What stands at a path of keys. -/
def at? : List Scalar → Value → Option Value
  | [], v => some v
  | k :: path, .map es => (Entries.get? k es).bind (at? path)
  | _ :: _, _ => none

theorem at?_map_cons (k : Scalar) (path : List Scalar) (es : Entries) :
    (Value.map es).at? (k :: path) = (es.get? k).bind (at? path) :=
  rfl

/-- A path goes on in mappings only. -/
theorem exists_of_at?_cons {k : Scalar} {path : List Scalar} {v w : Value}
    (h : v.at? (k :: path) = some w) :
    ∃ (es : Entries) (x : Value), v = .map es ∧ es.get? k = some x ∧ x.at? path = some w := by
  cases v with
  | scalar s => cases h
  | list items => cases h
  | map es =>
      obtain ⟨x, hx, hw⟩ := Option.bind_eq_some_iff.mp h
      exact ⟨es, x, rfl, hx, hw⟩

end Value

namespace Config

/-! ## Values of different kinds -/

/-- Two values have kinds, and they are not the same. -/
def Differ (a b : Value) : Prop := ∃ j k, kind? a = some j ∧ kind? b = some k ∧ j ≠ k

theorem agree_eq_false_iff {a b : Value} : agree a b = false ↔ Differ a b := by
  unfold agree Differ
  cases kind? a <;> cases kind? b <;> simp

/-- A path leads to values of different kinds, and to mappings in both up to there. -/
def ClashAt (base override : Value) (path : List Scalar) : Prop :=
  (∀ front behind, path = front ++ behind → behind ≠ [] →
    ∃ under upper : Entries,
      base.at? front = some (.map under) ∧ override.at? front = some (.map upper)) ∧
  ∃ a b, base.at? path = some a ∧ override.at? path = some b ∧ Differ a b

theorem clashAt_nil {base override : Value} : ClashAt base override [] ↔ Differ base override := by
  constructor
  · rintro ⟨-, a, b, ha, hb, hdiffer⟩
    cases ha
    cases hb
    exact hdiffer
  · intro h
    refine ⟨fun front behind heq hne => ?_, base, override, rfl, rfl, h⟩
    exact absurd (List.append_eq_nil_iff.mp heq.symm).2 hne

theorem clashAt_cons {base override : Value} {k : Scalar} {path : List Scalar} :
    ClashAt base override (k :: path) ↔ ∃ (under upper : Entries) (a b : Value), base = .map under ∧
      override = .map upper ∧ under.get? k = some a ∧ upper.get? k = some b ∧
      ClashAt a b path := by
  constructor
  · rintro ⟨hmaps, x, y, hx, hy, hdiffer⟩
    obtain ⟨under, a, rfl, ha, hx⟩ := Value.exists_of_at?_cons hx
    obtain ⟨upper, b, rfl, hb, hy⟩ := Value.exists_of_at?_cons hy
    refine ⟨under, upper, a, b, rfl, rfl, ha, hb, fun front behind heq hne => ?_, x, y, hx, hy,
      hdiffer⟩
    have h := hmaps (k :: front) behind (congrArg (k :: ·) heq) hne
    simpa [Value.at?_map_cons, ha, hb] using h
  · rintro ⟨under, upper, a, b, rfl, rfl, ha, hb, hmaps, x, y, hx, hy, hdiffer⟩
    refine ⟨fun front behind heq hne => ?_, x, y, ?_, ?_, hdiffer⟩
    · cases front with
      | nil => exact ⟨under, upper, rfl, rfl⟩
      | cons l front =>
          obtain ⟨rfl, hpath⟩ := List.cons.inj heq
          simpa [Value.at?_map_cons, ha, hb] using hmaps front behind hpath hne
    · rw [Value.at?_map_cons, ha]
      exact hx
    · rw [Value.at?_map_cons, hb]
      exact hy

/-! ## One value over another -/

theorem mergeValue_none (key : Scalar) (v : Value) : mergeValue key none v = .ok v := by
  cases v <;> rfl

/-- Unless both are mappings, a value takes the place of the one under it, if it may. -/
theorem mergeValue_some {base override : Value} (key : Scalar)
    (h : ¬(base.isMap = true ∧ override.isMap = true)) :
    mergeValue key (some base) override =
      if agree base override then .ok override
      else .error (.key key base.typeName override.typeName) := by
  cases override with
  | scalar s => rfl
  | list items => rfl
  | map upper =>
      cases base with
      | scalar s => rfl
      | list items => rfl
      | map under => exact absurd ⟨rfl, rfl⟩ h

theorem mergeValue_maps (key : Scalar) (under upper : Entries) :
    mergeValue key (some (.map under)) (.map upper) = (mergeEntries under upper).map .map :=
  rfl

/-- What is merged with no mapping stays as it is. -/
theorem eq_of_mergeValue {key : Scalar} {base : Option Value} {override result : Value}
    (h : mergeValue key base override = .ok result)
    (hmaps : ∀ under, base = some under → ¬(under.isMap = true ∧ override.isMap = true)) :
    result = override := by
  cases base with
  | none =>
      rw [mergeValue_none] at h
      exact (Except.ok.inj h).symm
  | some under =>
      rw [mergeValue_some key (hmaps under rfl)] at h
      split at h
      · exact (Except.ok.inj h).symm
      · cases h

/-! ## Entries over entries -/

theorem mergeEntries_cons (base : Entries) (key : Scalar) (v : Value) (rest : Entries) :
    mergeEntries base ((key, v) :: rest) = (mergeValue key (base.get? key) v).bind fun merged =>
      mergeEntries (base.put key merged) rest := by
  rw [mergeEntries]
  rfl

/-- A key that is not the one put in has what it had. -/
theorem get?_put_of_distinct {base rest : Entries} {key : Scalar} {v : Value}
    (h : Entries.Distinct ((key, v) :: rest)) (merged : Value) {e : Scalar × Value}
    (he : e ∈ rest) : (base.put key merged).get? e.1 = base.get? e.1 := by
  rw [Entries.get?_put, if_neg (Bool.eq_false_iff.mp ((List.pairwise_cons.mp h).1 e he))]

/-- Mappings cannot be merged just when one of the entries cannot. -/
theorem mergeEntries_error_iff {upper : Entries} (h : upper.Distinct) (base : Entries) :
    (∃ c, mergeEntries base upper = .error c) ↔
      ∃ e ∈ upper, ∃ c, mergeValue e.1 (base.get? e.1) e.2 = .error c := by
  induction upper generalizing base with
  | nil =>
      refine iff_of_false ?_ ?_
      · rintro ⟨c, hc⟩
        rw [mergeEntries] at hc
        cases hc
      · rintro ⟨e, he, -⟩
        cases he
  | cons e rest ih =>
      obtain ⟨key, v⟩ := e
      rw [mergeEntries_cons, List.exists_mem_cons_iff]
      cases hmerged : mergeValue key (base.get? key) v with
      | error c => exact iff_of_true ⟨c, rfl⟩ (Or.inl ⟨c, rfl⟩)
      | ok merged =>
          have hrest := ih (List.pairwise_cons.mp h).2 (base.put key merged)
          refine hrest.trans ⟨?_, ?_⟩
          · rintro ⟨e, he, hc⟩
            rw [get?_put_of_distinct h merged he] at hc
            exact Or.inr ⟨e, he, hc⟩
          · rintro (⟨c, hc⟩ | ⟨e, he, hc⟩)
            · cases hc
            · refine ⟨e, he, ?_⟩
              rwa [get?_put_of_distinct h merged he]

section Result

variable {base upper es : Entries}

theorem exists_of_mergeEntries_cons {key : Scalar} {v : Value} {rest : Entries}
    (h : mergeEntries base ((key, v) :: rest) = .ok es) :
    ∃ merged, mergeValue key (base.get? key) v = .ok merged ∧
      mergeEntries (base.put key merged) rest = .ok es := by
  rw [mergeEntries_cons] at h
  cases hmerged : mergeValue key (base.get? key) v with
  | error c =>
      rw [hmerged] at h
      cases h
  | ok merged =>
      rw [hmerged] at h
      exact ⟨merged, rfl, h⟩

/-- A key that nothing is laid over keeps what it has. -/
theorem get?_mergeEntries_of_none (h : mergeEntries base upper = .ok es) {p : Scalar}
    (hp : upper.get? p = none) : es.get? p = base.get? p := by
  induction upper generalizing base with
  | nil =>
      rw [mergeEntries] at h
      cases h
      rfl
  | cons e rest ih =>
      obtain ⟨key, v⟩ := e
      obtain ⟨merged, -, hrest⟩ := exists_of_mergeEntries_cons h
      rw [Entries.get?] at hp
      split at hp
      · cases hp
      · rename_i hkey
        rw [ih hrest hp, Entries.get?_put, if_neg hkey]

/-- What is laid over a key is merged with what the key has. -/
theorem get?_mergeEntries_of_some (h : mergeEntries base upper = .ok es)
    (hdistinct : upper.Distinct) {p : Scalar} {v : Value} (hp : upper.get? p = some v) :
    ∃ key w, mergeValue key (base.get? p) v = .ok w ∧ es.get? p = some w := by
  induction upper generalizing base with
  | nil => cases hp
  | cons e rest ih =>
      obtain ⟨key, u⟩ := e
      obtain ⟨merged, hmerged, hrest⟩ := exists_of_mergeEntries_cons h
      rw [Entries.get?] at hp
      split at hp
      · rename_i hkey
        cases hp
        -- no later entry has the key again, so what was put there stays
        have htail : Entries.get? p rest = none := by
          rw [← Entries.get?_congr hkey]
          exact hdistinct.get?_tail
        rw [Entries.get?_congr hkey] at hmerged
        refine ⟨key, merged, hmerged, ?_⟩
        rw [get?_mergeEntries_of_none hrest htail, Entries.get?_put, if_pos hkey]
      · rename_i hkey
        have hsame : (base.put key merged).get? p = base.get? p := by
          rw [Entries.get?_put, if_neg hkey]
        obtain ⟨l, w, hw, hes⟩ := ih hrest (List.pairwise_cons.mp hdistinct).2 hp
        rw [hsame] at hw
        exact ⟨l, w, hw, hes⟩

/-- The keys of a mapping stay in front, and those that are new follow. -/
theorem keys_mergeEntries (h : mergeEntries base upper = .ok es) (hdistinct : upper.Distinct) :
    es.keys = base.keys ++ upper.keys.filter fun k => (base.get? k).isNone := by
  induction upper generalizing base with
  | nil =>
      rw [mergeEntries] at h
      cases h
      exact (List.append_nil _).symm
  | cons e rest ih =>
      obtain ⟨key, v⟩ := e
      obtain ⟨merged, -, hrest⟩ := exists_of_mergeEntries_cons h
      have hnew : ((Entries.keys rest).filter fun k => ((base.put key merged).get? k).isNone) =
          (Entries.keys rest).filter fun k => (base.get? k).isNone := by
        refine List.filter_congr fun k hk => ?_
        obtain ⟨e, he, rfl⟩ := List.mem_map.mp hk
        rw [get?_put_of_distinct hdistinct merged he]
      rw [ih hrest (List.pairwise_cons.mp hdistinct).2, hnew, Entries.keys_put]
      have hkeys : Entries.keys ((key, v) :: rest) = key :: Entries.keys rest := rfl
      rw [hkeys, List.filter_cons]
      cases base.get? key <;> simp

end Result

/-! ## Failures -/

theorem exists_clashAt_of_not_maps {base override : Value} (key : Scalar)
    (h : ¬(base.isMap = true ∧ override.isMap = true)) :
    (∃ c, mergeValue key (some base) override = .error c) ↔
      ∃ path, ClashAt base override path := by
  have hroot : (∃ path, ClashAt base override path) ↔ Differ base override := by
    refine ⟨?_, fun hdiffer => ⟨[], clashAt_nil.mpr hdiffer⟩⟩
    rintro ⟨path, hpath⟩
    cases path with
    | nil => exact clashAt_nil.mp hpath
    | cons k path =>
        obtain ⟨under, upper, -, -, rfl, rfl, -⟩ := clashAt_cons.mp hpath
        exact absurd ⟨rfl, rfl⟩ h
  rw [hroot, mergeValue_some key h, ← agree_eq_false_iff]
  cases agree base override <;> simp

/-- **A value cannot be laid over another just when some path clashes.** -/
theorem mergeValue_error_iff {override : Value} (h : override.Proper) (key : Scalar)
    (base : Value) :
    (∃ c, mergeValue key (some base) override = .error c) ↔
      ∃ path, ClashAt base override path := by
  induction h generalizing key base with
  | scalar s => exact exists_clashAt_of_not_maps key fun hmaps => nomatch hmaps.2
  | list h ih => exact exists_clashAt_of_not_maps key fun hmaps => nomatch hmaps.2
  | @map upper hdistinct h ih =>
      cases base with
      | scalar s => exact exists_clashAt_of_not_maps key fun hmaps => nomatch hmaps.1
      | list items => exact exists_clashAt_of_not_maps key fun hmaps => nomatch hmaps.1
      | map under =>
          have hentries : (∃ c, mergeValue key (some (.map under)) (.map upper) = .error c) ↔
              ∃ c, mergeEntries under upper = .error c := by
            rw [mergeValue_maps]
            cases mergeEntries under upper <;> simp [Except.map]
          rw [hentries, mergeEntries_error_iff hdistinct]
          constructor
          · rintro ⟨e, he, hc⟩
            cases ha : Entries.get? e.1 under with
            | none =>
                rw [ha, mergeValue_none] at hc
                obtain ⟨c, hc⟩ := hc
                cases hc
            | some a =>
                rw [ha, ih e he] at hc
                obtain ⟨path, hpath⟩ := hc
                exact ⟨e.1 :: path, clashAt_cons.mpr
                  ⟨under, upper, a, e.2, rfl, rfl, ha, hdistinct.get?_of_mem he, hpath⟩⟩
          · rintro ⟨path, hpath⟩
            cases path with
            | nil =>
                obtain ⟨j, k, hj, hk, hne⟩ := clashAt_nil.mp hpath
                cases hj
                cases hk
                exact absurd rfl hne
            | cons k path =>
                obtain ⟨_, _, a, b, hunder, hupper, ha, hb, hclash⟩ := clashAt_cons.mp hpath
                cases hunder
                cases hupper
                obtain ⟨l, hmem, hkey⟩ := Entries.exists_mem_of_get? hb
                refine ⟨(l, b), hmem, ?_⟩
                rw [Entries.get?_congr hkey, ha]
                exact (ih _ hmem l a).mpr ⟨path, hclash⟩

/-! ## Results -/

/-- What `result` has when `override` has been laid over `base`. -/
structure Layered (base override result : Value) : Prop where
  /-- where mappings meet, new keys follow those that are there -/
  keys : ∀ (path : List Scalar) (under upper : Entries), base.at? path = some (.map under) →
    override.at? path = some (.map upper) → ∃ es : Entries, result.at? path = some (.map es) ∧
      es.keys = under.keys ++ upper.keys.filter fun k => (under.get? k).isNone
  /-- what is laid over is there afterwards -/
  upper : ∀ path v, override.at? path = some v → v.isMap = false → result.at? path = some v
  /-- what nothing is laid over is still there -/
  lower : ∀ path v, base.at? path = some v → v.isMap = false → override.at? path = none →
    (∀ front behind, path = front ++ behind → behind ≠ [] →
      ∀ w, override.at? front = some w → w.isMap = true) →
    result.at? path = some v

section Result

variable {path : List Scalar} {key : Scalar} {result : Value}

/-- Two mappings that have been merged, and what has become of them. -/
theorem exists_of_mergeValue_maps {under upper : Entries}
    (h : mergeValue key (some (.map under)) (.map upper) = .ok result) :
    ∃ es, result = .map es ∧ mergeEntries under upper = .ok es := by
  rw [mergeValue_maps] at h
  cases hentries : mergeEntries under upper with
  | error c =>
      rw [hentries] at h
      cases h
  | ok es =>
      rw [hentries] at h
      cases h
      exact ⟨es, rfl, rfl⟩

theorem keys_at?_merge {base override : Value} (hproper : override.Proper)
    (h : mergeValue key (some base) override = .ok result) {under upper : Entries}
    (hunder : base.at? path = some (.map under)) (hupper : override.at? path = some (.map upper)) :
    ∃ es : Entries, result.at? path = some (.map es) ∧
      es.keys = under.keys ++ upper.keys.filter fun k => (under.get? k).isNone := by
  induction path generalizing key base override result with
  | nil =>
      cases hunder
      cases hupper
      obtain ⟨es, rfl, hes⟩ := exists_of_mergeValue_maps h
      exact ⟨es, rfl, keys_mergeEntries hes hproper.distinct⟩
  | cons k path ih =>
      obtain ⟨lows, a, rfl, ha, hunder⟩ := Value.exists_of_at?_cons hunder
      obtain ⟨highs, b, rfl, hb, hupper⟩ := Value.exists_of_at?_cons hupper
      obtain ⟨es, rfl, hes⟩ := exists_of_mergeValue_maps h
      obtain ⟨l, w, hw, hk⟩ := get?_mergeEntries_of_some hes hproper.distinct hb
      rw [ha] at hw
      rw [Value.at?_map_cons, hk]
      exact ih (hproper.of_get? hb) hw hunder hupper

/-- A mapping is merged with a mapping, and takes the place of anything else. -/
theorem cases_of_mergeValue_map {base : Option Value} {upper : Entries}
    (h : mergeValue key base (.map upper) = .ok result) :
    result = .map upper ∨ ∃ under es, base = some (.map under) ∧ result = .map es ∧
      mergeEntries under upper = .ok es := by
  cases base with
  | none => exact Or.inl (eq_of_mergeValue h fun _ hbase => nomatch hbase)
  | some base =>
      cases base with
      | scalar s =>
          refine Or.inl (eq_of_mergeValue h ?_)
          rintro _ ⟨⟩ hmaps
          exact nomatch hmaps.1
      | list items =>
          refine Or.inl (eq_of_mergeValue h ?_)
          rintro _ ⟨⟩ hmaps
          exact nomatch hmaps.1
      | map under =>
          obtain ⟨es, hresult, hes⟩ := exists_of_mergeValue_maps h
          exact Or.inr ⟨under, es, rfl, hresult, hes⟩

theorem at?_merge_of_override {base : Option Value} {override v : Value}
    (hproper : override.Proper) (h : mergeValue key base override = .ok result)
    (hv : override.at? path = some v) (hmap : v.isMap = false) : result.at? path = some v := by
  induction path generalizing key base override result with
  | nil =>
      cases hv
      have hsame : result = v := eq_of_mergeValue h fun _ _ hmaps => by
        rw [hmap] at hmaps
        exact nomatch hmaps.2
      exact congrArg some hsame
  | cons k path ih =>
      obtain ⟨highs, b, rfl, hb, hv⟩ := Value.exists_of_at?_cons hv
      rcases cases_of_mergeValue_map h with rfl | ⟨lows, es, rfl, rfl, hes⟩
      · rw [Value.at?_map_cons, hb]
        exact hv
      · obtain ⟨l, w, hw, hk⟩ := get?_mergeEntries_of_some hes hproper.distinct hb
        rw [Value.at?_map_cons, hk]
        exact ih (hproper.of_get? hb) hw hv

theorem at?_merge_of_base {base override v : Value} (hproper : override.Proper)
    (h : mergeValue key (some base) override = .ok result) (hv : base.at? path = some v)
    (hnone : override.at? path = none)
    (hmaps : ∀ front behind, path = front ++ behind → behind ≠ [] →
      ∀ w, override.at? front = some w → w.isMap = true) : result.at? path = some v := by
  induction path generalizing key base override result with
  | nil => cases hnone
  | cons k path ih =>
      obtain ⟨lows, a, rfl, ha, hv⟩ := Value.exists_of_at?_cons hv
      -- the empty path is a proper prefix, so what is laid over is a mapping
      have hroot := hmaps [] (k :: path) rfl (List.cons_ne_nil k path) override rfl
      cases override with
      | scalar s => cases hroot
      | list items => cases hroot
      | map highs =>
          obtain ⟨es, rfl, hes⟩ := exists_of_mergeValue_maps h
          rw [Value.at?_map_cons] at hnone ⊢
          cases hb : Entries.get? k highs with
          | none =>
              rw [get?_mergeEntries_of_none hes hb, ha]
              exact hv
          | some b =>
              obtain ⟨l, w, hw, hk⟩ := get?_mergeEntries_of_some hes hproper.distinct hb
              rw [ha] at hw
              rw [hb] at hnone
              rw [hk]
              refine ih (hproper.of_get? hb) hw hv hnone fun front behind heq hne x hx => ?_
              refine hmaps (k :: front) behind (congrArg (k :: ·) heq) hne x ?_
              rw [Value.at?_map_cons, hb]
              exact hx

end Result

/-- **What laying one configuration over another comes to.** It fails just when some path leads
to values of different kinds, neither of them null, in both; otherwise every path has what
`Layered` says. A mapping that is laid over has each key once. -/
theorem merge_by_paths (base : Entries) {override : Entries}
    (h : (Value.map override).Proper) :
    ((∃ c, merge (.map base) (.map override) = .error c) ↔
        ∃ path, ClashAt (.map base) (.map override) path) ∧
      ∀ result, merge (.map base) (.map override) = .ok result →
        Layered (.map base) (.map override) result := by
  -- at the root no key is told, and none counts
  have hroot : merge (.map base) (.map override) =
      mergeValue .null (some (.map base)) (.map override) := rfl
  rw [hroot]
  refine ⟨mergeValue_error_iff h .null _, fun result hresult => ⟨?_, ?_, ?_⟩⟩
  · exact fun path under upper => keys_at?_merge h hresult
  · exact fun path v => at?_merge_of_override h hresult
  · exact fun path v hv _ => at?_merge_of_base h hresult hv

/-- Defaults with a null among them. -/
def sparse : Entries := [
  (.str "engine", .map [(.str "step_delay_ms", .int 50), (.str "history_limit", .null)]),
  (.str "watchdog", .null),
  (.str "tags", .list [.str "a", .str "b"])]

/-- An override with a new key in front of one that is there. -/
def patch : Entries := [
  (.str "tags", .list []),
  (.str "engine", .map [(.str "trace", .bool true), (.str "step_delay_ms", .float (.ofInt 12))]),
  (.str "watchdog", .map [(.str "enabled", .bool true)])]

theorem proper_patch : (Value.map patch).Proper := by
  refine .map (by decide) (List.forall_mem_cons.mpr ⟨?tags, List.forall_mem_cons.mpr
    ⟨?engine, List.forall_mem_cons.mpr ⟨?watchdog, fun _ h => nomatch h⟩⟩⟩)
  case tags => exact .list fun _ h => nomatch h
  case engine =>
    exact .map (by decide) (List.forall_mem_cons.mpr ⟨.scalar _, List.forall_mem_cons.mpr
      ⟨.scalar _, fun _ h => nomatch h⟩⟩)
  case watchdog =>
    exact .map (by decide) (List.forall_mem_cons.mpr ⟨.scalar _, fun _ h => nomatch h⟩)

/-- Numbers of both types are of one kind, and a null makes room for a mapping. -/
theorem merge_by_paths_patch :
    (Value.map patch).Proper ∧
      Layered (.map sparse) (.map patch) (.map [
        (.str "engine", .map [(.str "step_delay_ms", .float (.ofInt 12)),
          (.str "history_limit", .null), (.str "trace", .bool true)]),
        (.str "watchdog", .map [(.str "enabled", .bool true)]),
        (.str "tags", .list [])]) :=
  ⟨proper_patch, (merge_by_paths sparse proper_patch).2 _ rfl⟩

end Config

end CommandShell
