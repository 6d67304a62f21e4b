import Calculator.Proofs.SourceLines

namespace Calculator

/-- An open character waits for a byte that no character starts with. -/
def OpenChar.Waits (p : OpenChar) : Prop := 0x80 ≤ p.low ∧ p.high ≤ 0xBF

theorem startChar_waits {b : Nat} {p : OpenChar} (h : (startChar b).2 = some p) : p.Waits := by
  unfold startChar at h
  split at h
  next => simp at h
  split at h
  next => simp at h
  split at h
  next =>
    simp only [Option.some.injEq] at h
    subst h
    exact ⟨by simp, by simp⟩
  split at h
  next =>
    simp only [Option.some.injEq] at h
    subst h
    exact ⟨by dsimp only; split <;> omega, by dsimp only; split <;> omega⟩
  split at h
  next =>
    simp only [Option.some.injEq] at h
    subst h
    exact ⟨by dsimp only; split <;> omega, by dsimp only; split <;> omega⟩
  next => simp at h

theorem decodeByte_waits {opened : Option OpenChar} {b : Nat} {p : OpenChar}
    (h : (decodeByte opened b).2 = some p) : p.Waits := by
  cases opened with
  | none => exact startChar_waits h
  | some q =>
    simp only [decodeByte] at h
    split at h
    next =>
      split at h
      next => simp at h
      next =>
        simp only [Option.some.injEq] at h
        subst h
        exact ⟨by simp, by simp⟩
    next => exact startChar_waits h

theorem decodeFrom_cons (opened : Option OpenChar) (b : UInt8) (rest : List UInt8) :
    decodeFrom opened (b :: rest) =
      (decodeByte opened b.toNat).1 ++ decodeFrom (decodeByte opened b.toNat).2 rest := rfl

theorem decodeFrom_append_start (before : List UInt8) {b : UInt8} (rest : List UInt8)
    (start : b.toNat < 0x80 ∨ 0xC0 ≤ b.toNat) (opened : Option OpenChar)
    (waits : ∀ p, opened = some p → p.Waits) :
    decodeFrom opened (before ++ b :: rest) =
      decodeFrom opened before ++ decodeFrom none (b :: rest) := by
  -- An open character may stand before each byte, but only one that waits for another kind of byte.
  induction before generalizing opened with
  | nil =>
    cases opened with
    | none => rfl
    | some p =>
      obtain ⟨low, high⟩ := waits p rfl
      have outside : ¬(p.low ≤ b.toNat ∧ b.toNat ≤ p.high) := by omega
      simp [decodeFrom, decodeByte, outside]
  | cons c before ih =>
    rw [List.cons_append, decodeFrom_cons, ih _ fun p hp => decodeByte_waits hp,
      decodeFrom_cons opened, List.append_assoc]

theorem decodeLossy_append_start (before : List UInt8) {b : UInt8} (rest : List UInt8)
    (start : b.toNat < 0x80 ∨ 0xC0 ≤ b.toNat) :
    decodeLossy (before ++ b :: rest) = decodeLossy before ++ decodeLossy (b :: rest) := by
  unfold decodeLossy
  rw [decodeFrom_append_start before rest start none (by simp), List.map_append]

theorem decodeLossy_newline (rest : List UInt8) : decodeLossy (10 :: rest) = '\n' :: decodeLossy rest := by
  rfl

theorem decodeLossy_line (line rest : List UInt8) :
    decodeLossy (line ++ 10 :: rest) = decodeLossy line ++ '\n' :: decodeLossy rest := by
  rw [decodeLossy_append_start line rest (by decide), decodeLossy_newline]

/-- Reading line by line reads the same text as reading all bytes at once. -/
theorem flatMap_decodeLossy_linesFrom (line bytes : List UInt8) :
    (linesFrom line bytes).flatMap decodeLossy = decodeLossy (line.reverse ++ bytes) := by
  induction bytes generalizing line with
  | nil =>
    unfold linesFrom
    split
    next h => simp_all [decodeLossy, decodeFrom]
    next => simp
  | cons b rest ih =>
    unfold linesFrom
    split
    next h =>
      subst h
      rw [List.flatMap_cons, ih, List.reverse_cons, decodeLossy_line, decodeLossy_line]
      simp [decodeLossy, decodeFrom]
    next => rw [ih, List.reverse_cons, List.append_assoc, List.singleton_append]

theorem linesFrom_pairwise (line bytes : List UInt8) :
    (linesFrom line bytes).Pairwise fun earlier _ => earlier.getLast? = some 10 := by
  induction bytes generalizing line with
  | nil =>
    unfold linesFrom
    split <;> simp
  | cons b rest ih =>
    unfold linesFrom
    split
    next h =>
      subst h
      refine List.pairwise_cons.mpr ⟨fun _ _ => ?_, ih []⟩
      simp
    next => exact ih (b :: line)

theorem decodeLossy_getLast {line : List UInt8} (h : line.getLast? = some 10) :
    (decodeLossy line).getLast? = some '\n' := by
  obtain ⟨front, rfl⟩ := List.getLast?_eq_some_iff.mp h
  rw [decodeLossy_line]
  simp [decodeLossy, decodeFrom]

theorem toNat_continuation (n : Nat) : (UInt8.ofNat (n % 0x40 + 0x80)).toNat = n % 0x40 + 0x80 := by
  rw [UInt8.toNat_ofNat']
  omega

theorem decodeFrom_last (bits n : Nat) (rest : List UInt8) :
    decodeFrom (some ⟨bits, 1, 0x80, 0xBF⟩) (UInt8.ofNat (n % 0x40 + 0x80) :: rest) =
      some (Char.ofNat (bits * 64 + n % 0x40)) :: decodeFrom none rest := by
  have inside : 0x80 ≤ n % 0x40 + 0x80 ∧ n % 0x40 + 0x80 ≤ 0xBF := by omega
  rw [decodeFrom_cons, toNat_continuation]
  simp only [decodeByte]
  rw [if_pos inside, if_pos (Nat.le_refl 1), Nat.add_sub_cancel]
  rfl

theorem decodeFrom_more {bits owed low high n : Nat} (rest : List UInt8) (owes : 1 < owed)
    (inside : low ≤ n % 0x40 + 0x80 ∧ n % 0x40 + 0x80 ≤ high) :
    decodeFrom (some ⟨bits, owed, low, high⟩) (UInt8.ofNat (n % 0x40 + 0x80) :: rest) =
      decodeFrom (some ⟨bits * 64 + n % 0x40, owed - 1, 0x80, 0xBF⟩) rest := by
  rw [decodeFrom_cons, toNat_continuation]
  simp only [decodeByte]
  rw [if_pos inside, if_neg (by omega), Nat.add_sub_cancel]
  rfl

theorem decodeFrom_encodeChar (c : Char) (rest : List UInt8) :
    decodeFrom none (String.utf8EncodeChar c ++ rest) = some c :: decodeFrom none rest := by
  have valid : c.val.toNat < 0xD800 ∨ 0xDFFF < c.val.toNat ∧ c.val.toNat < 0x110000 := c.valid
  have same : Char.ofNat c.val.toNat = c := Char.ofNat_toNat c
  unfold String.utf8EncodeChar
  generalize c.val.toNat = v at valid same
  dsimp only
  split
  next one =>
    have lead : (UInt8.ofNat v).toNat = v := by rw [UInt8.toNat_ofNat']; omega
    rw [List.singleton_append, decodeFrom_cons, lead]
    simp only [decodeByte, startChar]
    rw [if_pos (by omega), same]
    rfl
  split
  next one two =>
    have lead : (UInt8.ofNat (v / 64 % 0x20 + 0xc0)).toNat = v / 64 + 0xC0 := by
      rw [UInt8.toNat_ofNat']; omega
    rw [List.cons_append, decodeFrom_cons, lead]
    simp only [decodeByte, startChar]
    rw [if_neg (by omega), if_neg (by omega), if_pos (by omega), Nat.add_sub_cancel,
      List.nil_append, List.singleton_append, decodeFrom_last,
      show v / 64 * 64 + v % 0x40 = v by omega, same]
  split
  next one two three =>
    have lead : (UInt8.ofNat (v / 4096 % 0x10 + 0xe0)).toNat = v / 4096 + 0xE0 := by
      rw [UInt8.toNat_ofNat']; omega
    rw [List.cons_append, decodeFrom_cons, lead]
    simp only [decodeByte, startChar]
    rw [if_neg (by omega), if_neg (by omega), if_neg (by omega), if_pos (by omega),
      Nat.add_sub_cancel, List.nil_append, List.cons_append, List.singleton_append,
      decodeFrom_more _ (by omega) (by constructor <;> split <;> omega), decodeFrom_last,
      show (v / 4096 * 64 + v / 64 % 0x40) * 64 + v % 0x40 = v by omega, same]
  next one two three =>
    have lead : (UInt8.ofNat (v / 262144 % 0x08 + 0xf0)).toNat = v / 262144 + 0xF0 := by
      rw [UInt8.toNat_ofNat']; omega
    rw [List.cons_append, decodeFrom_cons, lead]
    simp only [decodeByte, startChar]
    rw [if_neg (by omega), if_neg (by omega), if_neg (by omega), if_neg (by omega),
      if_pos (by omega), Nat.add_sub_cancel, List.nil_append, List.cons_append, List.cons_append,
      List.singleton_append, decodeFrom_more _ (by omega) (by constructor <;> split <;> omega),
      decodeFrom_more _ (by omega) (by omega), decodeFrom_last,
      show ((v / 262144 * 64 + v / 4096 % 0x40) * 64 + v / 64 % 0x40) * 64 + v % 0x40 = v by omega,
      same]

theorem utf8EncodeChar_start (c : Char) : ∃ b more, String.utf8EncodeChar c = b :: more ∧
    (b.toNat < 0x80 ∨ 0xC0 ≤ b.toNat) := by
  unfold String.utf8EncodeChar
  generalize c.val.toNat = v
  dsimp only
  split
  next => exact ⟨_, _, rfl, Or.inl (by rw [UInt8.toNat_ofNat']; omega)⟩
  split
  next => exact ⟨_, _, rfl, Or.inr (by rw [UInt8.toNat_ofNat']; omega)⟩
  split
  next => exact ⟨_, _, rfl, Or.inr (by rw [UInt8.toNat_ofNat']; omega)⟩
  next => exact ⟨_, _, rfl, Or.inr (by rw [UInt8.toNat_ofNat']; omega)⟩

/-- A character written between any bytes, whole characters or not, is read between what is read
of these. -/
theorem decodeLossy_append_encodeChar (before : List UInt8) (c : Char) (rest : List UInt8) :
    decodeLossy (before ++ (String.utf8EncodeChar c ++ rest)) =
      decodeLossy before ++ c :: decodeLossy rest := by
  obtain ⟨b, more, written, start⟩ := utf8EncodeChar_start c
  have middle : decodeLossy (String.utf8EncodeChar c ++ rest) = c :: decodeLossy rest := by
    unfold decodeLossy
    rw [decodeFrom_encodeChar]
    rfl
  rw [← middle, written]
  exact decodeLossy_append_start before (more ++ rest) start

theorem decodeLossy_encodeUtf8 (text : String) : decodeLossy (encodeUtf8 text) = text.toList := by
  unfold encodeUtf8
  induction text.toList with
  | nil => rfl
  | cons c rest ih =>
    have first := decodeLossy_append_encodeChar [] c (rest.flatMap String.utf8EncodeChar)
    rw [List.nil_append, ih] at first
    exact first

namespace Source

theorem unread_ofBytes (bytes : List UInt8) : (ofBytes bytes none).unread = decodeLossy bytes := by
  have whole := flatMap_decodeLossy_linesFrom [] bytes
  simpa [unread, ofBytes, lines, List.flatMap_map] using whole

/-- A line that another comes behind ends with a newline. -/
theorem pairwise_pending_ofBytes (bytes : List UInt8) :
    (ofBytes bytes none).pending.Pairwise fun line _ => line.back? = some '\n' := by
  simp only [ofBytes, Option.isSome_none, Bool.false_eq_true, ↓reduceIte]
  apply List.Pairwise.map _ _ (linesFrom_pairwise [] bytes)
  intro line later newline
  simpa [Array.back?_eq_getElem?, List.getLast?_eq_getElem?] using decodeLossy_getLast newline

theorem whole_ofBytes (bytes : List UInt8) : (ofBytes bytes none).Whole := by
  refine List.pairwise_cons.mpr ⟨fun _ _ => Or.inr (Or.inl rfl), ?_⟩
  exact (pairwise_pending_ofBytes bytes).imp fun newline => Or.inr (Or.inr newline)

end Source

end Calculator
