import CommandShell.Proofs.Number.Binary64
import CommandShell.Value

/-!
# Entries of mappings

Two scalars are the same key when they come to the same `Key`: numbers to the fraction that
they are, whatever their type, and everything else to itself (`sameKey_iff`). So to put an
entry into a mapping changes what the mapping has at that key and nothing else (`get?_put`),
and its keys stay where they are (`keys_put`). A mapping that is built in this way has each key
once (`distinct_ofList`).
-/

namespace CommandShell

/-! ## Keys -/

/-- What a scalar comes to as a key. -/
inductive Key where
  | number (q : Rat)
  | other (s : Scalar)

namespace Scalar

def key (s : Scalar) : Key :=
  match s.number? with
  | some (.inl n) => .number n
  | some (.inr x) => x.toRat?.elim (.other s) .number
  | none => .other s

/-- Only a floating-point number is read as one. -/
theorem eq_float_of_number? {s : Scalar} {x : Binary64} (h : s.number? = some (.inr x)) :
    s = .float x := by
  cases s <;> simp_all [number?]

theorem sameAsInt_iff {x : Binary64} {n : Int} (s : Scalar) :
    sameAsInt x n = true ↔ x.toRat?.elim (Key.other s) .number = .number n := by
  rw [sameAsInt, beq_iff_eq]
  cases x.toRat? <;> simp

theorem elim_eq_elim_iff {x y : Binary64} :
    (x == y || x.sameNumber y) = true ↔
      x.toRat?.elim (Key.other (.float x)) .number = y.toRat?.elim (.other (.float y)) .number := by
  rw [Bool.or_eq_true, beq_iff_eq]
  cases hx : x.toRat? with
  | some q =>
      rw [Binary64.sameNumber_iff_toRat? hx]
      constructor
      · rintro (rfl | hy)
        · rw [hx]
        · rw [hy]
          rfl
      · intro h
        cases hy : y.toRat? with
        | some r =>
            rw [hy] at h
            exact Or.inr (congrArg some (Key.number.inj h).symm)
        | none => rw [hy] at h; cases h
  | none =>
      constructor
      · intro h
        have hxy : x = y := h.elim id (Binary64.eq_of_sameNumber hx)
        rw [← hxy, hx]
      · intro h
        cases hy : y.toRat? with
        | some r => rw [hy] at h; cases h
        | none =>
            rw [hy] at h
            exact Or.inl (Scalar.float.inj (Key.other.inj h))

theorem elim_ne_other (x : Binary64) {s : Scalar} (h : s.number? = none) :
    x.toRat?.elim (Key.other (.float x)) .number ≠ .other s := by
  cases x.toRat? with
  | some q => exact fun hkey => nomatch hkey
  | none =>
      intro hkey
      obtain rfl := Key.other.inj hkey
      cases h

/-- **Two scalars are the same key when they come to the same one.** -/
theorem sameKey_iff {a b : Scalar} : a.sameKey b = true ↔ a.key = b.key := by
  unfold sameKey key
  rcases ha : a.number? with _ | m | x <;> rcases hb : b.number? with _ | n | y
  · rw [beq_iff_eq, Key.other.injEq]
  · simp
  · obtain rfl := eq_float_of_number? hb
    exact iff_of_false Bool.false_ne_true (elim_ne_other y ha).symm
  · simp
  · rw [beq_iff_eq, Key.number.injEq, Int.cast_inj]
  · exact (sameAsInt_iff b).trans eq_comm
  · obtain rfl := eq_float_of_number? ha
    exact iff_of_false Bool.false_ne_true (elim_ne_other x hb)
  · exact sameAsInt_iff a
  · obtain rfl := eq_float_of_number? ha
    obtain rfl := eq_float_of_number? hb
    exact elim_eq_elim_iff

theorem sameKey_refl (a : Scalar) : a.sameKey a = true := sameKey_iff.mpr rfl

theorem sameKey_symm {a b : Scalar} (h : a.sameKey b = true) : b.sameKey a = true :=
  sameKey_iff.mpr (sameKey_iff.mp h).symm

theorem sameKey_trans {a b c : Scalar} (h : a.sameKey b = true) (h' : b.sameKey c = true) :
    a.sameKey c = true :=
  sameKey_iff.mpr ((sameKey_iff.mp h).trans (sameKey_iff.mp h'))

theorem sameKey_comm (a b : Scalar) : a.sameKey b = b.sameKey a :=
  Bool.eq_iff_iff.mpr ⟨sameKey_symm, sameKey_symm⟩

/-- The same keys are the same for every other. -/
theorem sameKey_congr {a b : Scalar} (h : a.sameKey b = true) (c : Scalar) :
    a.sameKey c = b.sameKey c :=
  Bool.eq_iff_iff.mpr ⟨sameKey_trans (sameKey_symm h), sameKey_trans h⟩

end Scalar

/-! ## Looking up and putting in -/

namespace Entries

theorem get?_congr {p q : Scalar} (h : p.sameKey q = true) (es : Entries) :
    es.get? p = es.get? q := by
  induction es with
  | nil => rfl
  | cons e es ih =>
      have hkey : e.1.sameKey p = e.1.sameKey q := by
        rw [Scalar.sameKey_comm e.1, Scalar.sameKey_congr h, Scalar.sameKey_comm q]
      rw [get?, get?, hkey, ih]

/-- **To put an entry in changes what is at its key and nothing else.** -/
theorem get?_put (key p : Scalar) (value : Value) (es : Entries) :
    (es.put key value).get? p = if key.sameKey p then some value else es.get? p := by
  induction es with
  | nil => rfl
  | cons e es ih =>
      obtain ⟨k, w⟩ := e
      rw [put]
      by_cases hk : k.sameKey key = true
      · rw [if_pos hk, get?, get?, Scalar.sameKey_congr hk p]
        split <;> rfl
      · rw [if_neg hk, get?, get?, ih]
        by_cases hp : k.sameKey p = true
        · have hkey : ¬key.sameKey p = true := fun h =>
            hk (Scalar.sameKey_trans hp (Scalar.sameKey_symm h))
          rw [if_pos hp, if_pos hp, if_neg hkey]
        · rw [if_neg hp, if_neg hp]

theorem keys_put (key : Scalar) (value : Value) (es : Entries) :
    (es.put key value).keys = if (es.get? key).isSome then es.keys else es.keys ++ [key] := by
  induction es with
  | nil => rfl
  | cons e es ih =>
      obtain ⟨k, w⟩ := e
      rw [put, get?]
      split
      · rfl
      · simp only [keys, List.map_cons] at ih ⊢
        rw [ih]
        split <;> rfl

theorem exists_mem_of_get? {p : Scalar} {v : Value} {es : Entries} (h : es.get? p = some v) :
    ∃ k, (k, v) ∈ es ∧ k.sameKey p = true := by
  induction es with
  | nil => cases h
  | cons e es ih =>
      rw [get?] at h
      split at h
      · rename_i hkey
        cases h
        exact ⟨e.1, List.mem_cons_self, hkey⟩
      · obtain ⟨k, hmem, hkey⟩ := ih h
        exact ⟨k, List.mem_cons_of_mem e hmem, hkey⟩

/-! ## Each key once -/

/-- No two entries have the same key. -/
def Distinct (es : Entries) : Prop := es.Pairwise fun a b => a.1.sameKey b.1 = false

instance (es : Entries) : Decidable es.Distinct :=
  inferInstanceAs (Decidable (es.Pairwise _))

/-- The key of the first entry does not occur again. -/
theorem Distinct.get?_tail {k : Scalar} {v : Value} {es : Entries}
    (h : Distinct ((k, v) :: es)) : es.get? k = none := by
  rw [Option.eq_none_iff_forall_ne_some]
  intro w hw
  obtain ⟨l, hmem, hkey⟩ := exists_mem_of_get? hw
  have hne := (List.pairwise_cons.mp h).1 _ hmem
  rw [Scalar.sameKey_comm, hkey] at hne
  cases hne

theorem Distinct.get?_of_mem {k : Scalar} {v : Value} {es : Entries} (h : es.Distinct)
    (hmem : (k, v) ∈ es) : es.get? k = some v := by
  induction es with
  | nil => cases hmem
  | cons e es ih =>
      obtain ⟨hhead, htail⟩ := List.pairwise_cons.mp h
      rw [get?]
      rcases List.mem_cons.mp hmem with rfl | hmem
      · rw [if_pos (Scalar.sameKey_refl k)]
      · have hne := hhead _ hmem
        rw [if_neg (Bool.eq_false_iff.mp hne), ih htail hmem]

/-- Where the entries come from is told by the keys. -/
theorem mem_put {key : Scalar} {value : Value} {es : Entries} {e : Scalar × Value}
    (h : e ∈ es.put key value) : (e.1 = key ∨ ∃ w, (e.1, w) ∈ es) := by
  induction es with
  | nil => exact Or.inl (congrArg Prod.fst (List.mem_singleton.mp h))
  | cons d es ih =>
      rw [put] at h
      split at h
      · rcases List.mem_cons.mp h with rfl | h
        · exact Or.inr ⟨d.2, List.mem_cons_self⟩
        · exact Or.inr ⟨e.2, List.mem_cons_of_mem d h⟩
      · rcases List.mem_cons.mp h with rfl | h
        · exact Or.inr ⟨_, List.mem_cons_self⟩
        · rcases ih h with hkey | ⟨w, hw⟩
          · exact Or.inl hkey
          · exact Or.inr ⟨w, List.mem_cons_of_mem d hw⟩

theorem Distinct.put {es : Entries} (h : es.Distinct) (key : Scalar) (value : Value) :
    (es.put key value).Distinct := by
  induction es with
  | nil => exact List.pairwise_singleton _ _
  | cons e es ih =>
      obtain ⟨hhead, htail⟩ := List.pairwise_cons.mp h
      rw [Entries.put]
      split
      · exact List.pairwise_cons.mpr ⟨hhead, htail⟩
      · rename_i hkey
        refine List.pairwise_cons.mpr ⟨fun d hd => ?_, ih htail⟩
        rcases mem_put hd with hd | ⟨w, hw⟩
        · rw [hd]
          exact Bool.eq_false_iff.mpr hkey
        · exact hhead (d.1, w) hw

/-- **A mapping that is built entry by entry has each key once.** -/
theorem distinct_ofList (entries : List (Scalar × Value)) : (ofList entries).Distinct := by
  -- the fold puts into a mapping that is there already, so that is general
  have hfold (es : Entries) (h : es.Distinct) :
      (entries.foldl (fun es e => es.put e.1 e.2) es).Distinct := by
    induction entries generalizing es with
    | nil => exact h
    | cons e entries ih => exact ih _ (h.put e.1 e.2)
  exact hfold [] List.Pairwise.nil

end Entries

/-- Every mapping in a value has each key once. -/
inductive Value.Proper : Value → Prop where
  | scalar (s : Scalar) : Proper (.scalar s)
  | list {items : List Value} (h : ∀ v ∈ items, Proper v) : Proper (.list items)
  | map {es : Entries} (hdistinct : es.Distinct) (h : ∀ e ∈ es, Proper e.2) : Proper (.map es)

namespace Value

theorem Proper.distinct {es : Entries} (h : (Value.map es).Proper) : es.Distinct := by
  cases h with
  | map hdistinct h => exact hdistinct

theorem Proper.of_get? {es : Entries} (h : (Value.map es).Proper) {k : Scalar} {v : Value}
    (hv : es.get? k = some v) : v.Proper := by
  cases h with
  | map hdistinct h =>
      obtain ⟨l, hmem, -⟩ := Entries.exists_mem_of_get? hv
      exact h _ hmem

end Value

end CommandShell
