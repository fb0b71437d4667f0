import CommandShell.Markup.Reference

/-!
# Reading back what was written with references

A written text stands for the text that was written, whatever follows it
(`decode_encode_append`). Each character is read back for itself (`decode_written_append`):
a reference that is written ends in a semicolon, so nothing that follows becomes part of
it. Since only an ampersand begins a reference, a text without one stands for itself, and
what follows it is read as if it stood alone (`decode_append`). All other texts stand for
something as well, except where a decimal number is too long (`Readable.exists_decode`).
-/

namespace CommandShell.Markup.Reference

/-! ## References that are written -/

/-- What has been read with a reference is passed over. -/
theorem decodeFrom_length_append (used rest : List Char) :
    decodeFrom used.length (used ++ rest) = decode rest := by
  induction used with
  | nil => rfl
  | cons c used ih => exact ih

theorem decode_cons {c : Char} (h : c ≠ '&') (rest : List Char) :
    decode (c :: rest) = (decode rest).map (c :: ·) := by
  simp only [decode, decodeFrom, if_neg h]

/-- A reference that is read to its last character and no further gives its text. -/
theorem decode_reference (name text rest : List Char)
    (h : read? (name ++ rest) = .ok (some ⟨text, name.length⟩)) :
    decode ('&' :: name ++ rest) = (decode rest).map (text ++ ·) := by
  rw [decode, List.cons_append, decodeFrom, if_pos rfl, h]
  dsimp only
  rw [decodeFrom_length_append]

/-- **A written character is read back.** -/
theorem decode_written_append (c : Char) (rest : List Char) :
    decode (written c ++ rest) = (decode rest).map (c :: ·) := by
  unfold written
  split
  · exact decode_reference ['a', 'm', 'p', ';'] ['&'] rest rfl
  · exact decode_reference ['l', 't', ';'] ['<'] rest rfl
  · exact decode_reference ['g', 't', ';'] ['>'] rest rfl
  · exact decode_reference ['q', 'u', 'o', 't', ';'] ['\x22'] rest rfl
  · exact decode_reference ['#', 'x', '2', '7', ';'] ['\x27'] rest rfl
  · rename_i hamp _ _ _ _
    exact decode_cons hamp rest

/-! ## Texts -/

theorem map_map_append (r : Except Numeral.Fault (List Char)) (cs ds : List Char) :
    (r.map (ds ++ ·)).map (cs ++ ·) = r.map (cs ++ ds ++ ·) := by
  cases r with
  | error f => rfl
  | ok es => simp only [Except.map, List.append_assoc]

/-- **A written text is read back, whatever follows it.** -/
theorem decode_encode_append (cs rest : List Char) :
    decode (encode cs ++ rest) = (decode rest).map (cs ++ ·) := by
  induction cs with
  | nil => cases h : decode rest <;> simp [encode, h, Except.map]
  | cons c cs ih =>
      rw [encode, List.flatMap_cons, ← encode, List.append_assoc, decode_written_append, ih]
      exact map_map_append _ [c] cs

theorem decode_encode (cs : List Char) : decode (encode cs) = .ok cs := by
  have h := decode_encode_append cs []
  rw [List.append_nil] at h
  rw [h]
  simp [decode, decodeFrom, Except.map]

/-- A text without an ampersand stands for itself. -/
theorem decode_append {cs : List Char} (h : '&' ∉ cs) (rest : List Char) :
    decode (cs ++ rest) = (decode rest).map (cs ++ ·) := by
  induction cs with
  | nil => cases h : decode rest <;> simp [h, Except.map]
  | cons c cs ih =>
      obtain ⟨hc, hcs⟩ := not_or.mp (mt List.mem_cons.mpr h)
      rw [List.cons_append, decode_cons (Ne.symm hc), ih hcs]
      exact map_map_append _ [c] cs

/-! ## No mark is written -/

theorem lt_notMem_written (c : Char) : '<' ∉ written c := by
  unfold written
  split
  · decide
  · decide
  · decide
  · decide
  · decide
  · rename_i _ hlt _ _ _
    exact fun h => hlt (List.mem_singleton.mp h).symm

theorem lt_notMem_encode (cs : List Char) : '<' ∉ encode cs := by
  intro h
  obtain ⟨c, -, hc⟩ := List.mem_flatMap.mp h
  exact lt_notMem_written c hc

/-! ## Texts that can be decoded -/

/-- No reference by a decimal number has more digits than are converted. -/
def Readable (cs : List Char) : Prop :=
  ∀ before digits behind, cs = before ++ '&' :: '#' :: (digits ++ behind) →
    (∀ c ∈ digits, c.isDigit = true) → digits.length ≤ Numeral.limit

theorem Readable.tail {c : Char} {cs : List Char} (h : Readable (c :: cs)) : Readable cs := by
  rintro before digits behind rfl
  exact h (c :: before) digits behind rfl

theorem Readable.exists_read? {cs : List Char} (h : Readable ('&' :: cs)) :
    ∃ r, read? cs = .ok r := by
  unfold read?
  split
  · exact ⟨_, rfl⟩
  · exact ⟨_, rfl⟩
  · rename_i cs _ _
    have hdigits : ∀ c ∈ cs.takeWhile Char.isDigit, c.isDigit = true :=
      List.all_eq_true.mp List.all_takeWhile
    have hlimit := h [] (cs.takeWhile Char.isDigit) (cs.dropWhile Char.isDigit)
      (by rw [List.takeWhile_append_dropWhile]; rfl) hdigits
    dsimp only
    rw [if_neg (Nat.not_lt.mpr hlimit)]
    exact ⟨_, rfl⟩
  · exact ⟨_, rfl⟩

/-- Only a reference by too long a number cannot be decoded. -/
theorem Readable.exists_decode {cs : List Char} (h : Readable cs) :
    ∃ text, decode cs = .ok text := by
  -- what is passed over is part of the text, so the induction is on where the decoding stands
  have hfrom (n : Nat) : ∃ text, decodeFrom n cs = .ok text := by
    fun_induction decodeFrom n cs with
    | case1 => exact ⟨[], rfl⟩
    | case2 n c cs ih => exact ih h.tail
    | case3 cs f hread =>
        obtain ⟨r, hr⟩ := h.exists_read?
        rw [hread] at hr
        cases hr
    | case4 cs hread ih =>
        obtain ⟨text, htext⟩ := ih h.tail
        exact ⟨_, congrArg (Except.map _) htext⟩
    | case5 cs r hread ih =>
        obtain ⟨text, htext⟩ := ih h.tail
        exact ⟨_, congrArg (Except.map _) htext⟩
    | case6 c cs hc ih =>
        obtain ⟨text, htext⟩ := ih h.tail
        exact ⟨_, congrArg (Except.map _) htext⟩
  exact hfrom 0

end CommandShell.Markup.Reference
