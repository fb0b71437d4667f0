import CommandShell.Config.Fingerprint
import CommandShell.Proofs.Json.Order
import CommandShell.Proofs.Json.Token
import CommandShell.Proofs.Result
import Mathlib.Data.List.Perm.Basic

/-!
# What a canonical text tells

Two documents have the same canonical text just when they are the same up to the order of
their keys (`canonical_text_identifies`). Rearranged entries come into one order before they
are written. And a text is read in one way only, from front to back: what stands first tells a
scalar, a list and a mapping apart, the parts of the latter two end where their commas and
their closing brackets stand (`commas_append_inj`), and so a value ends where its text does
(`same_of_encode_append`).
-/

namespace CommandShell.Json

/-! ## Documents -/

/-- Scalars that are no dates, lists, and mappings whose keys are names, each there once. -/
inductive Document : Value → Prop where
  | scalar {s : Scalar} (h : ∀ text, s ≠ .date text ∧ s ≠ .moment text) : Document (.scalar s)
  | list {items : List Value} (h : ∀ v ∈ items, Document v) : Document (.list items)
  | map {es : Entries} (named : Named es) (distinct : es.Pairwise fun a b => a.1 ≠ b.1)
      (h : ∀ e ∈ es, Document e.2) : Document (.map es)

/-- Equality up to the order of keys, at every depth. -/
inductive Same : Value → Value → Prop where
  | scalar (s : Scalar) : Same (.scalar s) (.scalar s)
  | list {items items' : List Value} (h : List.Forall₂ Same items items') :
      Same (.list items) (.list items')
  | map {es es' fs : Entries} (perm : es.Perm es') (keys : es'.keys = fs.keys)
      (values : List.Forall₂ Same (es'.map (·.2)) (fs.map (·.2))) : Same (.map es) (.map fs)

/-- No integer has more digits than can be written. -/
inductive Short : Value → Prop where
  | scalar {s : Scalar} (h : ∀ n, s = .int n → (Nat.toDigits 10 n.natAbs).length ≤ Numeral.limit) :
      Short (.scalar s)
  | list {items : List Value} (h : ∀ v ∈ items, Short v) : Short (.list items)
  | map {es : Entries} (h : ∀ e ∈ es, Short e.2) : Short (.map es)

@[simp] theorem document_scalar_iff {s : Scalar} :
    Document (.scalar s) ↔ ∀ text, s ≠ .date text ∧ s ≠ .moment text :=
  ⟨fun h => by cases h; assumption, .scalar⟩

@[simp] theorem document_list_iff {items : List Value} :
    Document (.list items) ↔ ∀ v ∈ items, Document v :=
  ⟨fun h => by cases h; assumption, .list⟩

@[simp] theorem document_map_iff {es : Entries} :
    Document (.map es) ↔
      Named es ∧ (es.Pairwise fun a b => a.1 ≠ b.1) ∧ ∀ e ∈ es, Document e.2 :=
  ⟨fun h => by cases h; exact ⟨by assumption, by assumption, by assumption⟩,
    fun h => .map h.1 h.2.1 h.2.2⟩

@[simp] theorem short_scalar_iff {s : Scalar} : Short (.scalar s) ↔
    ∀ n, s = .int n → (Nat.toDigits 10 n.natAbs).length ≤ Numeral.limit :=
  ⟨fun h => by cases h; assumption, .scalar⟩

@[simp] theorem short_list_iff {items : List Value} :
    Short (.list items) ↔ ∀ v ∈ items, Short v :=
  ⟨fun h => by cases h; assumption, .list⟩

@[simp] theorem short_map_iff {es : Entries} : Short (.map es) ↔ ∀ e ∈ es, Short e.2 :=
  ⟨fun h => by cases h; assumption, .map⟩

/-! ## The texts of lists and mappings -/

theorem encodeItems_eq (items : List Value) : encodeItems items = items.mapM encode := by
  induction items with
  | nil => rfl
  | cons item items ih => rw [encodeItems, ih, List.mapM_cons]

theorem encodeEntries_eq (es : Entries) :
    encodeEntries es = es.map fun e => (e.1, encode e.2) := by
  induction es with
  | nil => rfl
  | cons e es ih => rw [encodeEntries, ih, List.map_cons]

theorem encode_list_eq_ok_iff {items : List Value} {t : List Char} :
    encode (.list items) = .ok t ↔
      ∃ ps, List.Forall₂ (fun v p => encode v = .ok p) items ps ∧
        t = '[' :: commas ps ++ [']'] := by
  have hencode : encode (.list items) =
      (items.mapM encode).bind fun ps => .ok ('[' :: commas ps ++ [']']) := by
    rw [encode, encodeItems_eq]
    rfl
  simp only [hencode, Result.bind_eq_ok_iff, Result.mapM_eq_ok_iff, Except.ok.injEq,
    eq_comm (a := t)]

/-- The text of an entry. -/
def EntryText (e : Scalar × Value) (p : List Char) : Prop :=
  ∃ k v, keyText e.1 = .ok k ∧ encode e.2 = .ok v ∧ p = encodeString k.toList ++ ':' :: v

theorem encode_map_eq {es : Entries} (hnamed : Named es) :
    encode (.map es) = ((sorted es).mapM fun e => (keyText e.1).bind fun k =>
      (encode e.2).bind fun v => .ok (encodeString k.toList ++ ':' :: v)).bind fun ps =>
        .ok ('\x7b' :: commas ps ++ ['\x7d']) := by
  rw [encode, encodeEntries_eq, assemble, (hnamed.map encode).unordered?, sorted_map, List.mapM_map]
  rfl

theorem encode_map_eq_ok_iff {es : Entries} (hnamed : Named es) {t : List Char} :
    encode (.map es) = .ok t ↔
      ∃ ps, List.Forall₂ EntryText (sorted es) ps ∧ t = '\x7b' :: commas ps ++ ['\x7d'] := by
  have hentry (e : Scalar × Value) (p : List Char) :
      ((keyText e.1).bind fun k => (encode e.2).bind fun v =>
        .ok (encodeString k.toList ++ ':' :: v)) = .ok p ↔ EntryText e p := by
    simp only [EntryText, Result.bind_eq_ok_iff, Except.ok.injEq, eq_comm (a := p),
      exists_and_left]
  simp only [encode_map_eq hnamed, Result.bind_eq_ok_iff, Result.mapM_eq_ok_iff, hentry,
    Except.ok.injEq, eq_comm (a := t)]

/-! ## Reading a row of parts -/

/-- What stands behind the first part of a row, up to the closing bracket and further. -/
def behind (z : Char) (r : List Char) : List (List Char) → List Char
  | [] => z :: r
  | p :: ps => ',' :: (commas (p :: ps) ++ z :: r)

theorem commas_cons_append (z : Char) (r p : List Char) (ps : List (List Char)) :
    commas (p :: ps) ++ z :: r = p ++ behind z r ps := by
  cases ps with
  | nil => rfl
  | cons q ps => simp [commas, behind]

theorem stops_behind {z : Char} (hz : isPlain z = false) (r : List Char) (ps : List (List Char)) :
    Text.Stops isPlain (behind z r ps) := by
  cases ps with
  | nil => exact Text.stops_cons hz
  | cons p ps => exact Text.stops_cons rfl

/-- The text begins with a character that is not the given one. -/
def Opens (z : Char) (p : List Char) : Prop := ∃ c t, p = c :: t ∧ c ≠ z

/-- **A row of parts is read part by part**, if each part can be read before the characters that may
follow it. -/
theorem commas_append_inj {α β : Type} {P : α → List Char → Prop} {Q : β → List Char → Prop}
    {R : α → β → Prop} {z : Char} (hcomma : z ≠ ',') (hz : isPlain z = false)
    (hP : ∀ x p, P x p → Opens z p) (hQ : ∀ y q, Q y q → Opens z q)
    {xs : List α} {ys : List β}
    (hpart : ∀ x ∈ xs, ∀ y ∈ ys, ∀ p q r s, P x p → Q y q → Text.Stops isPlain r →
      Text.Stops isPlain s → p ++ r = q ++ s → R x y ∧ r = s)
    {ps qs : List (List Char)} (hps : List.Forall₂ P xs ps) (hqs : List.Forall₂ Q ys qs)
    {r s : List Char} (h : commas ps ++ z :: r = commas qs ++ z :: s) :
    List.Forall₂ R xs ys ∧ r = s := by
  induction hps generalizing ys qs with
  | nil =>
      cases hqs with
      | nil => exact ⟨.nil, (List.cons.inj h).2⟩
      | cons hy hqs =>
          obtain ⟨c, t, rfl, hc⟩ := hQ _ _ hy
          rw [commas_cons_append] at h
          exact absurd (List.cons.inj h).1.symm hc
  | cons hx hps ih =>
      rw [commas_cons_append] at h
      cases hqs with
      | nil =>
          obtain ⟨c, t, rfl, hc⟩ := hP _ _ hx
          exact absurd (List.cons.inj h).1 hc
      | cons hy hqs =>
          rw [commas_cons_append] at h
          obtain ⟨hfirst, hrest⟩ := hpart _ List.mem_cons_self _ List.mem_cons_self _ _ _ _ hx hy
            (stops_behind hz r _) (stops_behind hz s _) h
          have hmore := ih (fun x hx y hy => hpart x (List.mem_cons_of_mem _ hx) y
            (List.mem_cons_of_mem _ hy)) hqs
          cases hps <;> cases hqs
          · exact ⟨.cons hfirst .nil, (List.cons.inj hrest).2⟩
          · exact absurd (List.cons.inj hrest).1 hcomma
          · exact absurd (List.cons.inj hrest).1.symm hcomma
          · obtain ⟨hall, hrs⟩ := hmore (List.cons.inj hrest).2
            exact ⟨.cons hfirst hall, hrs⟩

/-! ## Reading values -/

/-- What a text may begin with. -/
def Starts : Value → Char → Prop
  | .scalar _, c => c = '\x22' ∨ isPlain c = true
  | .list _, c => c = '['
  | .map _, c => c = '\x7b'

theorem encode_starts {v : Value} {t : List Char} (h : encode v = .ok t) :
    ∃ c r, t = c :: r ∧ Starts v c := by
  cases v with
  | scalar s =>
      rcases encodeScalar_cases h with ⟨name, rfl, rfl⟩ | hatom
      · exact ⟨'\x22', _, rfl, Or.inl rfl⟩
      · obtain ⟨c, r, rfl⟩ := List.exists_cons_of_ne_nil hatom.ne_nil
        exact ⟨c, r, rfl, Or.inr (hatom.plain c List.mem_cons_self)⟩
  | list items =>
      obtain ⟨ps, -, rfl⟩ := encode_list_eq_ok_iff.mp h
      exact ⟨'[', _, rfl, rfl⟩
  | map es =>
      rw [encode, assemble] at h
      split at h
      · cases h
      · obtain ⟨ps, -, hps⟩ := Result.bind_eq_ok_iff.mp h
        exact ⟨'\x7b', _, (Except.ok.inj hps).symm, rfl⟩

/-- No value begins with a closing bracket. -/
theorem encode_opens {z : Char} (hz : z ∈ [']', '\x7d']) {v : Value} {t : List Char}
    (h : encode v = .ok t) : Opens z t := by
  obtain ⟨hplain, hother⟩ : isPlain z = false ∧ z ∉ ['\x22', '[', '\x7b'] := by
    simp only [List.mem_cons, List.not_mem_nil, or_false] at hz
    rcases hz with rfl | rfl <;> decide
  obtain ⟨c, r, rfl, hc⟩ := encode_starts h
  refine ⟨c, r, rfl, ?_⟩
  rintro rfl
  cases v with
  | scalar s =>
      rcases hc with rfl | hc
      · exact hother (by simp)
      · rw [hplain] at hc
        cases hc
  | list items => exact hother (by simp [show c = '[' from hc])
  | map es => exact hother (by simp [show c = '\x7b' from hc])

theorem EntryText.opens {e : Scalar × Value} {p : List Char} (h : EntryText e p) :
    Opens '\x7d' p := by
  obtain ⟨k, v, -, -, rfl⟩ := h
  exact ⟨'\x22', _, rfl, by decide⟩

/-- Values that begin alike are of one kind. -/
theorem starts_cases {a b : Value} {t u r s : List Char} (ht : encode a = .ok t)
    (hu : encode b = .ok u) (h : t ++ r = u ++ s) :
    (∃ x y, a = .scalar x ∧ b = .scalar y) ∨ (∃ x y, a = .list x ∧ b = .list y) ∨
      ∃ x y, a = .map x ∧ b = .map y := by
  obtain ⟨c, t, rfl, hc⟩ := encode_starts ht
  obtain ⟨d, u, rfl, hd⟩ := encode_starts hu
  obtain ⟨rfl, -⟩ := List.cons.inj h
  have hbracket : isPlain '[' = false ∧ isPlain '\x7b' = false := by decide
  cases a <;> cases b <;> simp_all [Starts]

theorem key_eq_of_keyText {k : Scalar} (h : ∃ name, k = .str name) {text : String}
    (hk : keyText k = .ok text) : k = .str text := by
  obtain ⟨name, rfl⟩ := h
  exact congrArg Scalar.str (Except.ok.inj hk)

/-- An entry is told by its text, if its value is. -/
theorem entryText_append_inj {e f : Scalar × Value} (he : ∃ name, e.1 = .str name)
    (hf : ∃ name, f.1 = .str name) {p q r s : List Char} (hp : EntryText e p) (hq : EntryText f q)
    (hvalue : ∀ {v w}, encode e.2 = .ok v → encode f.2 = .ok w → v ++ r = w ++ s →
      Same e.2 f.2 ∧ r = s)
    (h : p ++ r = q ++ s) : (e.1 = f.1 ∧ Same e.2 f.2) ∧ r = s := by
  obtain ⟨k, v, hk, hv, rfl⟩ := hp
  obtain ⟨l, w, hl, hw, rfl⟩ := hq
  rw [List.append_assoc, List.append_assoc] at h
  obtain ⟨hkey, hrest⟩ := encodeString_append_inj h
  obtain ⟨hsame, hrs⟩ := hvalue hv hw (List.cons.inj hrest).2
  refine ⟨⟨?_, hsame⟩, hrs⟩
  rw [key_eq_of_keyText he hk, key_eq_of_keyText hf hl, String.toList_injective hkey]

/-- Mappings are the same if their entries are in the order of their keys. -/
theorem same_map_of_sorted {es fs : Entries}
    (h : List.Forall₂ (fun e f => e.1 = f.1 ∧ Same e.2 f.2) (sorted es) (sorted fs)) :
    Same (.map es) (.map fs) := by
  have hcomp : Relation.Comp (List.Forall₂ fun e f => e.1 = f.1 ∧ Same e.2 f.2) List.Perm
      (sorted es) fs := ⟨sorted fs, h, sorted_perm fs⟩
  rw [List.forall₂_comp_perm_eq_perm_comp_forall₂] at hcomp
  obtain ⟨es', hperm, hall⟩ := hcomp
  refine .map ((sorted_perm es).symm.trans hperm) ?_ ?_
  · rw [Entries.keys, Entries.keys, ← List.forall₂_eq_eq_eq, List.forall₂_map_left_iff,
      List.forall₂_map_right_iff]
    exact hall.imp fun e f hef => hef.1
  · rw [List.forall₂_map_left_iff, List.forall₂_map_right_iff]
    exact hall.imp fun e f hef => hef.2

/-- **A value is told by its text**, where the text does not go on with a plain character. -/
theorem same_of_encode_append {a : Value} (ha : Document a) {b : Value} (hb : Document b)
    {t u r s : List Char} (ht : encode a = .ok t) (hu : encode b = .ok u)
    (hr : Text.Stops isPlain r) (hs : Text.Stops isPlain s) (h : t ++ r = u ++ s) :
    Same a b ∧ r = s := by
  have hkind := starts_cases ht hu h
  induction ha generalizing b t u r s with
  | scalar hscalar =>
      cases hb with
      | scalar hscalar' =>
          obtain ⟨rfl, hrest⟩ := scalar_append_inj ht hu hr hs h
          exact ⟨.scalar _, hrest⟩
      | list => simp at hkind
      | map => simp at hkind
  | list hitems ih =>
      cases hb with
      | scalar => simp at hkind
      | map => simp at hkind
      | list hitems' =>
          obtain ⟨ps, hps, rfl⟩ := encode_list_eq_ok_iff.mp ht
          obtain ⟨qs, hqs, rfl⟩ := encode_list_eq_ok_iff.mp hu
          simp only [List.cons_append, List.append_assoc, List.nil_append, List.cons.injEq,
            true_and] at h
          obtain ⟨hsame, hrest⟩ := commas_append_inj (R := Same) (by decide) (by decide)
            (fun _ _ => encode_opens (by decide)) (fun _ _ => encode_opens (by decide))
            (fun v hv w hw p q r s hp hq hr hs hpq =>
              ih v hv (hitems' w hw) hp hq hr hs hpq (starts_cases hp hq hpq)) hps hqs h
          exact ⟨.list hsame, hrest⟩
  | map named distinct hes ih =>
      cases hb with
      | scalar => simp at hkind
      | list => simp at hkind
      | map named' distinct' hes' =>
          obtain ⟨ps, hps, rfl⟩ := (encode_map_eq_ok_iff named).mp ht
          obtain ⟨qs, hqs, rfl⟩ := (encode_map_eq_ok_iff named').mp hu
          simp only [List.cons_append, List.append_assoc, List.nil_append, List.cons.injEq,
            true_and] at h
          obtain ⟨hsame, hrest⟩ := commas_append_inj (R := fun e f => e.1 = f.1 ∧ Same e.2 f.2)
            (by decide) (by decide) (fun _ _ => EntryText.opens) (fun _ _ => EntryText.opens)
            (fun e he f hf p q r s hp hq hr hs hpq => by
              have he := (sorted_perm _).mem_iff.mp he
              have hf := (sorted_perm _).mem_iff.mp hf
              exact entryText_append_inj (named e he) (named' f hf) hp hq
                (fun hv hw hvw => ih e he (hes' f hf) hv hw hr hs hvw (starts_cases hv hw hvw)) hpq)
            hps hqs h
          exact ⟨same_map_of_sorted hsame, hrest⟩

/-! ## Rearranged keys -/

theorem assemble_eq_of_perm {es fs : List (Scalar × Except WriteFault (List Char))}
    (named : Named es) (distinct : es.Pairwise fun a b => a.1 ≠ b.1) (h : es.Perm fs) :
    assemble es = assemble fs := by
  rw [assemble, assemble, named.unordered?, (named.of_perm h).unordered?,
    sorted_eq_of_perm named distinct h]

theorem map_encode_eq {vs ws : List Value} (h : List.Forall₂ Same vs ws)
    (hencode : ∀ v ∈ vs, ∀ w, Same v w → encode v = encode w) : vs.map encode = ws.map encode := by
  induction h with
  | nil => rfl
  | cons hvw _ ih =>
      rw [List.map_cons, List.map_cons, hencode _ List.mem_cons_self _ hvw,
        ih fun v hv => hencode v (List.mem_cons_of_mem _ hv)]

/-- **The order of keys does not count**, at any depth. -/
theorem encode_eq_of_same {a b : Value} (ha : Document a) (h : Same a b) : encode a = encode b := by
  induction ha generalizing b with
  | scalar =>
      cases h
      rfl
  | @list items hitems ih =>
      cases h with
      | list hsame =>
          have hmap := map_encode_eq hsame fun v hv w => ih v hv
          have hparts (vs : List Value) : encodeItems vs = (vs.map encode).mapM id := by
            rw [encodeItems_eq, List.mapM_map]
            rfl
          rw [encode, encode, hparts, hparts, hmap]
  | @map es named distinct hes ih =>
      cases h with
      | @map _ es' fs perm keys values =>
          have hmap := map_encode_eq values fun v hv w => by
            obtain ⟨e, he, rfl⟩ := List.mem_map.mp hv
            exact ih e (perm.mem_iff.mpr he)
          have hparts (gs : Entries) :
              encodeEntries gs = gs.keys.zip ((gs.map (·.2)).map encode) := by
            rw [encodeEntries_eq, Entries.keys, List.map_map, List.zip_map']
            rfl
          have hperm : (encodeEntries es).Perm (encodeEntries es') := by
            rw [encodeEntries_eq, encodeEntries_eq]
            exact perm.map _
          rw [encode, encode, assemble_eq_of_perm ?_ ?_ hperm, hparts, hparts fs, keys, hmap]
          · rw [encodeEntries_eq]
            exact named.map encode
          · rw [encodeEntries_eq, List.pairwise_map]
            exact distinct

/-! ## Documents that have a text -/

theorem exists_integerText_iff (n : Int) :
    (∃ t, integerText n = .ok t) ↔ (Nat.toDigits 10 n.natAbs).length ≤ Numeral.limit := by
  unfold integerText
  split <;> simp <;> omega

/-- **The documents that have a text** are those whose integers have one. -/
theorem exists_encode_iff {a : Value} (ha : Document a) : (∃ t, encode a = .ok t) ↔ Short a := by
  induction ha with
  | @scalar s hscalar =>
      rw [short_scalar_iff, encode]
      cases s with
      | int n =>
          simp only [encodeScalar, Result.map_eq_ok_iff, ← exists_integerText_iff]
          simp
      | date text => exact absurd rfl (hscalar text).1
      | moment text => exact absurd rfl (hscalar text).2
      | null => simp [encodeScalar]
      | bool b => simp [encodeScalar]
      | float x => simp [encodeScalar]
      | str name => simp [encodeScalar]
  | @list items hitems ih =>
      rw [short_list_iff]
      simp only [encode_list_eq_ok_iff]
      rw [exists_comm]
      simp only [exists_and_left, exists_eq, and_true, Result.exists_forall₂_iff]
      exact forall₂_congr ih
  | @map es named distinct hes ih =>
      rw [short_map_iff]
      simp only [encode_map_eq_ok_iff named]
      rw [exists_comm]
      simp only [exists_and_left, exists_eq, and_true, Result.exists_forall₂_iff,
        (sorted_perm es).mem_iff]
      refine forall₂_congr fun e he => ?_
      rw [← ih e he]
      obtain ⟨name, hname⟩ := named e he
      constructor
      · rintro ⟨p, k, v, hk, hv, rfl⟩
        exact ⟨v, hv⟩
      · rintro ⟨v, hv⟩
        exact ⟨_, name, v, by rw [hname]; rfl, hv, rfl⟩

/-! ## What the fingerprint is made of -/

/-- **A canonical text identifies a configuration up to the order of its keys.** A configuration has
one if its integers have, and the fingerprint is the digest of it. -/
theorem canonical_text_identifies {a b : Entries} (ha : Document (.map a)) (hb : Document (.map b)) :
    ((∃ text, write (.map a) = .ok text) ↔ Short (.map a)) ∧
      (∀ text, write (.map a) = .ok text →
        Config.fingerprint (.map a) = .ok (Sha256.ofString text)) ∧
      ∀ text text', write (.map a) = .ok text → write (.map b) = .ok text' →
        (text = text' ↔ Same (.map a) (.map b)) := by
  refine ⟨?_, fun text htext => ?_, fun text text' htext htext' => ?_⟩
  · rw [← exists_encode_iff ha]
    simp [write, Result.map_eq_ok_iff]
  · rw [Config.fingerprint, htext]
  · obtain ⟨t, ht, rfl⟩ := Result.map_eq_ok_iff.mp htext
    obtain ⟨u, hu, rfl⟩ := Result.map_eq_ok_iff.mp htext'
    constructor
    · intro heq
      have hlist := congrArg String.toList heq
      rw [String.toList_ofList, String.toList_ofList] at hlist
      subst hlist
      exact (same_of_encode_append ha hb ht hu Text.stops_nil Text.stops_nil rfl).1
    · intro hsame
      rw [encode_eq_of_same ha hsame, hu] at ht
      rw [Except.ok.inj ht]

/-- A configuration, and the same one with its keys in another order. -/
def settings : Entries := [
  (.str "watchdog", .map [(.str "interval_ms", .int 100), (.str "factor", .float (.zero true))]),
  (.str "tags", .list [.str "on/off", .null, .bool true])]

def rearranged : Entries := [
  (.str "tags", .list [.str "on/off", .null, .bool true]),
  (.str "watchdog", .map [(.str "factor", .float (.zero true)), (.str "interval_ms", .int 100)])]

theorem canonical_text_identifies_rearranged :
    (Document (.map settings) ∧ Document (.map rearranged)) ∧
      ∃ text, write (.map settings) = .ok text ∧ write (.map rearranged) = .ok text ∧
        Config.fingerprint (.map rearranged) = .ok (Sha256.ofString text) := by
  have hsettings : Document (.map settings) := by simp [settings, Named]
  have hrearranged : Document (.map rearranged) := by simp [rearranged, Named]
  have hsame : Same (.map settings) (.map rearranged) := by
    refine .map (.swap _ _ _) rfl (.cons ?_ (.cons ?_ .nil))
    · exact .list (.cons (.scalar _) (.cons (.scalar _) (.cons (.scalar _) .nil)))
    · exact .map (.swap _ _ _) rfl (.cons (.scalar _) (.cons (.scalar _) .nil))
  have hshort : Short (.map settings) := by
    simp [settings, Numeral.limit]
    decide
  have hshort' : Short (.map rearranged) := by
    simp [rearranged, Numeral.limit]
    decide
  obtain ⟨hexists, -, hiff⟩ := canonical_text_identifies hsettings hrearranged
  obtain ⟨hexists', hdigest, -⟩ := canonical_text_identifies hrearranged hsettings
  obtain ⟨text, htext⟩ := hexists.mpr hshort
  obtain ⟨text', htext'⟩ := hexists'.mpr hshort'
  obtain rfl := (hiff text text' htext htext').mpr hsame
  exact ⟨⟨hsettings, hrearranged⟩, text, htext, htext', hdigest text htext'⟩

end CommandShell.Json
