import Calculator.Number.Text
import Calculator.Proofs.DoubleBits
import Calculator.Proofs.ExactRounding
import Calculator.Proofs.Numeral

namespace Calculator

theorem digitsValue_eq (digits : List Char) : digitsValue digits = Nat.ofDigitChars 10 digits 0 := by
  simp only [digitsValue, Nat.ofDigitChars_eq_foldl, Nat.mul_comm]

/-- The form `digits [. digits]`, and the decimal that it spells. -/
inductive Spells : List Char → Decimal → Prop where
  | whole {digits : List Char} (present : digits ≠ []) (all : ∀ c ∈ digits, c.isDigit) :
    Spells digits ⟨digitsValue digits, 0⟩
  | point {whole fraction : List Char} (present : whole ≠ []) (all : ∀ c ∈ whole, c.isDigit)
      (more : ∀ c ∈ fraction, c.isDigit) :
    Spells (whole ++ '.' :: fraction) ⟨digitsValue (whole ++ fraction), -fraction.length⟩

theorem Spells.parse? {text : List Char} {d : Decimal} (h : Spells text d) :
    Decimal.parse? text = some d := by
  cases h with
  | whole present all =>
    obtain ⟨front, tail⟩ := @digits_split _ [] all (by nofun)
    rw [List.append_nil] at front tail
    simp [Decimal.parse?, front, tail, present, exponentPart?]
  | @point whole fraction present all more =>
    have stop : ∀ c rest, '.' :: fraction = c :: rest → c.isDigit = false := by
      rintro c rest same
      cases same
      rfl
    obtain ⟨front, tail⟩ := digits_split all stop
    obtain ⟨inner, last⟩ := @digits_split _ [] more (by nofun)
    rw [List.append_nil] at inner last
    simp [Decimal.parse?, front, tail, inner, last, present, exponentPart?]

theorem Spells.numeral {text : List Char} {d : Decimal} (h : Spells text d) : Numeral text := by
  cases h with
  | whole present all =>
    obtain ⟨c, digits, rfl⟩ := List.exists_cons_of_ne_nil present
    exact ⟨c :: digits, [], [], by simp, all, .absent, .absent, c, by simp,
      all c List.mem_cons_self⟩
  | @point whole fraction present all more =>
    obtain ⟨c, digits, rfl⟩ := List.exists_cons_of_ne_nil present
    exact ⟨c :: digits, '.' :: fraction, [], by simp, all, .point more, .absent, c, by simp,
      all c List.mem_cons_self⟩

theorem isDigit_of_mem_digits {c : Char} {n : Nat} (h : c ∈ Nat.toDigits 10 n) : c.isDigit :=
  Nat.isDigit_of_mem_toDigits (by decide) (by decide) h

theorem isDigit_of_mem_zeros {c : Char} {n : Nat} (h : c ∈ List.replicate n '0') : c.isDigit := by
  rw [List.eq_of_mem_replicate h]
  rfl

namespace Decimal

/-- A decimal written in full spells a decimal of the same value. -/
theorem spells_positional (d : Decimal) : Spells d.positional
    (if 0 ≤ d.exponent then ⟨d.digits * 10 ^ d.exponent.toNat, 0⟩ else d) := by
  obtain ⟨digits, exponent⟩ := d
  unfold positional
  dsimp only
  have read := Nat.ofDigitChars_ten_toDigits (n := digits)
  have present := Nat.toDigits_ne_nil (n := digits) (b := 10)
  split
  next whole =>
    have value : digitsValue (Nat.toDigits 10 digits ++ List.replicate exponent.toNat '0') =
        digits * 10 ^ exponent.toNat := by
      rw [digitsValue_eq, Nat.ofDigitChars_append, read, Nat.ofDigitChars_replicate_zero,
        Nat.mul_comm]
    have spelled := Spells.whole (List.append_ne_nil_of_left_ne_nil present
      (List.replicate exponent.toNat '0')) (List.forall_mem_append.mpr
        ⟨fun c => isDigit_of_mem_digits, fun c => isDigit_of_mem_zeros⟩)
    rwa [value] at spelled
  next negative =>
    obtain ⟨places, hk⟩ := Int.eq_ofNat_of_zero_le (a := -exponent) (by omega)
    obtain rfl : exponent = -places := by omega
    rw [hk, Int.toNat_natCast]
    generalize hp : List.replicate (places + 1 - (Nat.toDigits 10 digits).length) '0' ++
      Nat.toDigits 10 digits = padded
    have all : ∀ c ∈ padded, c.isDigit := by
      rw [← hp]
      exact List.forall_mem_append.mpr
        ⟨fun c => isDigit_of_mem_zeros, fun c => isDigit_of_mem_digits⟩
    have value : digitsValue padded = digits := by
      rw [← hp, digitsValue_eq, Nat.ofDigitChars_append, Nat.ofDigitChars_replicate_zero,
        Nat.mul_zero, read]
    have long : places + 1 ≤ padded.length := by
      rw [← hp, List.length_append, List.length_replicate]
      omega
    have whole : padded.take (padded.length - places) ≠ [] := by
      rw [← List.length_pos_iff, List.length_take]
      omega
    have spelled := Spells.point whole (fun c hc => all c (List.mem_of_mem_take hc))
      (fun c hc => all c (List.mem_of_mem_drop (i := padded.length - places) hc))
    have fraction : (padded.drop (padded.length - places)).length = places := by
      rw [List.length_drop]
      omega
    rwa [List.take_append_drop, value, fraction] at spelled

theorem toBits_le (d : Decimal) : d.toBits ≤ infinityBits := by
  unfold toBits Ratio.toBits
  dsimp only
  split
  next => exact Nat.zero_le _
  next =>
    split
    next => exact Nat.le_refl _
    next =>
      split
      next => exact Nat.zero_le _
      next =>
        split
        next => exact Nat.zero_le _
        next => exact Nat.min_le_right _ _

/-- A decimal whose exponent is written out as zeros is rounded as before. -/
theorem toBits_written_out {digits : Nat} {exponent : Int} (whole : 0 ≤ exponent)
    (finite : (⟨digits, exponent⟩ : Decimal).toBits < infinityBits) :
    (⟨digits * 10 ^ exponent.toNat, 0⟩ : Decimal).toBits =
      (⟨digits, exponent⟩ : Decimal).toBits := by
  by_cases zero : digits = 0
  · rw [zero, Nat.zero_mul, toBits, toBits, if_pos rfl, if_pos rfl]
  · have small : exponent ≤ 310 := by
      by_contra large
      rw [toBits, if_neg zero, if_pos (Int.not_le.mp large)] at finite
      exact Nat.lt_irrefl _ finite
    have present : digits * 10 ^ exponent.toNat ≠ 0 :=
      Nat.mul_ne_zero zero (Nat.pow_pos (by decide)).ne'
    have ratio : toRatio ⟨digits * 10 ^ exponent.toNat, 0⟩ = toRatio ⟨digits, exponent⟩ := by
      simp [toRatio, Ratio.scaled, whole]
    have spelled := toBits_of_near (d := ⟨_, 0⟩) present (by dsimp only; omega)
      (by dsimp only; omega)
    have written := toBits_of_near (d := ⟨_, exponent⟩) zero small (by dsimp only; omega)
    rw [spelled, written, ratio]

/-- The text of a decimal reads back as the double that the decimal stands for. -/
theorem exists_spells_positional {d : Decimal} (finite : d.toBits < infinityBits) :
    ∃ e, Spells d.positional e ∧ e.toBits = d.toBits := by
  refine ⟨_, d.spells_positional, ?_⟩
  split
  next whole => exact toBits_written_out whole finite
  next => rfl

end Decimal

variable {bits : MagnitudeBits} {x : Float}

theorem exists_spells_magnitudeText (finite : bits < infinityBits) :
    ∃ d, Spells (magnitudeText bits) d ∧ d.toBits = bits := by
  unfold magnitudeText
  split
  next nothing =>
    have zero : Spells ['0'] ⟨digitsValue ['0'], 0⟩ :=
      .whole (by nofun) fun c listed => isDigit_of_mem_zeros (n := 1) listed
    exact ⟨_, zero, nothing.symm⟩
  next =>
    have shortest := toBits_shortestDecimal finite
    obtain ⟨d, spelled, same⟩ := Decimal.exists_spells_positional (shortest ▸ finite)
    exact ⟨d, spelled, same.trans shortest⟩

theorem toList_floatText (finite : isFiniteFloat x = true) : (floatText x).toList =
    if isNegative x then '-' :: magnitudeText (magnitudeBits x)
    else magnitudeText (magnitudeBits x) := by
  have bound : magnitudeBits x < infinityBits := of_decide_eq_true finite
  rw [floatText, signedText, if_neg (Nat.not_lt_of_lt bound), if_neg (Nat.ne_of_lt bound),
    String.toList_ofList]

/-- A negative number is written as a minus sign and its opposite. -/
theorem toList_floatText_negative (finite : isFiniteFloat x = true)
    (negative : isNegative x = true) :
    isNegative (-x) = false ∧ (floatText x).toList = '-' :: (floatText (-x)).toList := by
  obtain ⟨sign, magnitude⟩ := bits_neg (Nat.le_of_lt (of_decide_eq_true finite))
  rw [negative, Bool.not_true] at sign
  refine ⟨sign, ?_⟩
  rw [toList_floatText finite, toList_floatText (isFiniteFloat_neg finite), sign, negative,
    magnitude, if_pos rfl, if_neg Bool.false_ne_true]

/-- A number that is not negative is written as a numeral that stands for it. -/
theorem numeral_floatText (finite : isFiniteFloat x = true) (positive : isNegative x = false) :
    Numeral (floatText x).toList ∧ parseUnsigned? (floatText x).toList = some x := by
  have bound : magnitudeBits x < infinityBits := of_decide_eq_true finite
  have text := toList_floatText finite
  rw [positive, if_neg Bool.false_ne_true] at text
  have whole := floatOfBits_magnitudeBits finite
  obtain ⟨d, spelled, same⟩ := exists_spells_magnitudeText bound
  rw [text, parseUnsigned?, spelled.parse?, Option.map_some, same, ← positive, whole]
  exact ⟨spelled.numeral, rfl⟩

theorem isNegative_of_parseUnsigned? {text : List Char} (h : parseUnsigned? text = some x) :
    isNegative x = false := by
  obtain ⟨d, _, rfl⟩ := Option.map_eq_some_iff.mp h
  exact isNegative_floatOfBits d.toBits_le false

end Calculator
