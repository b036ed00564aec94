import Sidebar.Numeric.Shortest
import Mathlib.Data.List.TakeWhile
import Mathlib.Tactic.Lemma
import Mathlib.Tactic.Ring

/-!
# Reading numbers back

What reading a number takes from the front of a text does not depend on what follows, as long as
that does not go on with the number. Whole numbers are read back from their decimal digits. A
finite number of the binary format is read back from its spelling: from the shortest one that reads
back, or else from all its digits.
-/

namespace Sidebar

/-- The text does not go on with a number. -/
def StopsNumber (rest : List Char) : Prop :=
  ∀ c ∈ rest.head?, c.isDigit = false ∧ c ≠ '.' ∧ c ≠ 'e' ∧ c ≠ 'E' ∧ c ≠ '+' ∧ c ≠ '-'

namespace StopsNumber

variable {rest : List Char}

lemma isDigit (h : StopsNumber rest) : ∀ c ∈ rest.head?, c.isDigit = false :=
  fun c hc => (h c hc).1

end StopsNumber

lemma takeWhile_isDigit_append {rest : List Char} (h : ∀ c ∈ rest.head?, c.isDigit = false)
    (cs : List Char) : (cs ++ rest).takeWhile Char.isDigit = cs.takeWhile Char.isDigit := by
  induction cs with
  | nil =>
    cases rest with
    | nil => rfl
    | cons c rest => simp [h c rfl]
  | cons c cs ih =>
    by_cases hc : c.isDigit <;> simp [hc, ih]

lemma dropWhile_isDigit_append {rest : List Char} (h : ∀ c ∈ rest.head?, c.isDigit = false)
    (cs : List Char) : (cs ++ rest).dropWhile Char.isDigit = cs.dropWhile Char.isDigit ++ rest := by
  induction cs with
  | nil =>
    cases rest with
    | nil => rfl
    | cons c rest => simp [h c rfl]
  | cons c cs ih =>
    by_cases hc : c.isDigit <;> simp [hc, ih]

namespace Numeral

variable {rest : List Char}

/-- The parts of a number are scanned one after the other. -/
theorem scan_eq_some_iff {cs after : List Char} {n : Numeral} :
    scan cs = some (n, after) ↔
      ∃ afterWhole, scanWhole (scanSign cs).2 = some (n.whole, afterWhole) ∧
        n.negative = (scanSign cs).1 ∧ n.fraction = (scanFraction afterWhole).1 ∧
        n.exponent = (scanExponent (scanFraction afterWhole).2).1 ∧
        after = (scanExponent (scanFraction afterWhole).2).2 := by
  obtain ⟨negative, whole, fraction, exponent⟩ := n
  constructor
  · intro h
    obtain ⟨⟨whole', afterWhole⟩, hwhole, heq⟩ := Option.map_eq_some_iff.mp h
    simp only [Prod.mk.injEq, mk.injEq] at heq
    obtain ⟨⟨rfl, rfl, rfl, rfl⟩, rfl⟩ := heq
    exact ⟨afterWhole, hwhole, rfl, rfl, rfl, rfl⟩
  · rintro ⟨afterWhole, hwhole, rfl, rfl, rfl, rfl⟩
    exact Option.map_eq_some_iff.mpr ⟨_, hwhole, rfl⟩

/-! ### What follows a number -/

lemma scanSign_append {cs : List Char} (h : cs ≠ []) (rest : List Char) :
    scanSign (cs ++ rest) = ((scanSign cs).1, (scanSign cs).2 ++ rest) := by
  cases cs with
  | nil => exact absurd rfl h
  | cons c cs =>
    by_cases hc : c = '-'
    · subst hc
      rfl
    · simp [scanSign, hc]

lemma scanWhole_append (hrest : StopsNumber rest) {cs whole after : List Char}
    (h : scanWhole cs = some (whole, after)) :
    scanWhole (cs ++ rest) = some (whole, after ++ rest) := by
  cases cs with
  | nil => simp [scanWhole] at h
  | cons c cs =>
    rw [scanWhole] at h
    rw [List.cons_append, scanWhole, takeWhile_isDigit_append hrest.isDigit,
      dropWhile_isDigit_append hrest.isDigit]
    by_cases hzero : c = '0'
    · rw [if_pos hzero] at h ⊢
      obtain ⟨rfl, rfl⟩ := Prod.mk.inj (Option.some.inj h)
      rfl
    · rw [if_neg hzero] at h ⊢
      by_cases hdigit : c.isDigit
      · rw [if_pos hdigit] at h ⊢
        obtain ⟨rfl, rfl⟩ := Prod.mk.inj (Option.some.inj h)
        rfl
      · rw [if_neg hdigit] at h
        cases h

lemma scanFraction_append (hrest : StopsNumber rest) (cs : List Char) :
    scanFraction (cs ++ rest) = ((scanFraction cs).1, (scanFraction cs).2 ++ rest) := by
  have hnone : ∀ (c : Char) (cs : List Char), c ≠ '.' →
      scanFraction (c :: cs) = (none, c :: cs) := by
    intro c cs hc
    simp [scanFraction, hc]
  cases cs with
  | nil =>
    cases rest with
    | nil => rfl
    | cons c rest => exact hnone c rest (hrest c rfl).2.1
  | cons c cs =>
    by_cases hc : c = '.'
    · subst hc
      cases cs with
      | nil =>
        cases rest with
        | nil => rfl
        | cons c rest => simp [scanFraction, (hrest c rfl).1]
      | cons d cs =>
        by_cases hd : d.isDigit <;>
          simp [scanFraction, hd, takeWhile_isDigit_append hrest.isDigit,
            dropWhile_isDigit_append hrest.isDigit]
    · rw [List.cons_append, hnone c _ hc, hnone c _ hc, List.cons_append]

lemma scanPowerSign_append (hrest : StopsNumber rest) (cs : List Char) :
    scanPowerSign (cs ++ rest) = ((scanPowerSign cs).1, (scanPowerSign cs).2 ++ rest) := by
  cases cs with
  | nil =>
    cases rest with
    | nil => rfl
    | cons c rest =>
      have hc := hrest c rfl
      simp [scanPowerSign, hc]
  | cons c cs =>
    by_cases hplus : c = '+'
    · subst hplus
      rfl
    · by_cases hminus : c = '-'
      · subst hminus
        rfl
      · simp [scanPowerSign, hplus, hminus]

lemma scanExponent_append (hrest : StopsNumber rest) (cs : List Char) :
    scanExponent (cs ++ rest) = ((scanExponent cs).1, (scanExponent cs).2 ++ rest) := by
  cases cs with
  | nil =>
    cases rest with
    | nil => rfl
    | cons c rest =>
      have hc := hrest c rfl
      simp [scanExponent, hc]
  | cons mark cs =>
    by_cases hmark : mark = 'e' ∨ mark = 'E'
    · simp only [List.cons_append, scanExponent, hmark, Bool.or_eq_true, decide_eq_true_eq,
        if_true, scanPowerSign_append hrest, takeWhile_isDigit_append hrest.isDigit,
        dropWhile_isDigit_append hrest.isDigit]
      split <;> rfl
    · simp [scanExponent, hmark]

/-- What follows a number is left as it is. -/
theorem scan_append (hrest : StopsNumber rest) {cs after : List Char} {n : Numeral}
    (h : scan cs = some (n, after)) : scan (cs ++ rest) = some (n, after ++ rest) := by
  have hne : cs ≠ [] := by
    rintro rfl
    simp [scan, scanSign, scanWhole] at h
  obtain ⟨afterWhole, hwhole, hnegative, hfraction, hexponent, rfl⟩ := scan_eq_some_iff.mp h
  refine scan_eq_some_iff.mpr ⟨afterWhole ++ rest, ?_, ?_, ?_, ?_, ?_⟩
  · rw [scanSign_append hne]
    exact scanWhole_append hrest hwhole
  · rw [hnegative, scanSign_append hne]
  · rw [hfraction, scanFraction_append hrest]
  · rw [hexponent, scanFraction_append hrest, scanExponent_append hrest]
  · rw [scanFraction_append hrest, scanExponent_append hrest]

/-! ### Whole numbers -/

lemma head?_toDigits_ne_zero {n : Nat} (h : n ≠ 0) : (Nat.toDigits 10 n).head? ≠ some '0' := by
  induction n using Nat.strong_induction_on with
  | _ n ih =>
    by_cases hn : n < 10
    · rw [Nat.toDigits_of_lt_base hn]
      have hall : ∀ k < 10, k ≠ 0 → Nat.digitChar k ≠ '0' := by decide
      simpa using hall n hn h
    · have hlower := ih (n / 10) (by omega) (by omega)
      rw [Nat.toDigits_of_base_le (by decide) (by omega)]
      rw [List.head?_append]
      cases hhead : (Nat.toDigits 10 (n / 10)).head? with
      | none => exact absurd (List.head?_eq_none_iff.mp hhead) Nat.toDigits_ne_nil
      | some c => simpa [hhead] using hlower

/-- The digits of a number are read as a whole number. -/
lemma scanWhole_toDigits (n : Nat) {rest : List Char}
    (hrest : ∀ c ∈ rest.head?, c.isDigit = false) :
    scanWhole (Nat.toDigits 10 n ++ rest) = some (Nat.toDigits 10 n, rest) := by
  by_cases hn : n = 0
  · subst hn
    rfl
  · have hdigit : ∀ c ∈ Nat.toDigits 10 n, c.isDigit := fun c hc =>
      Nat.isDigit_of_mem_toDigits (by decide) (by decide) hc
    have hhead := head?_toDigits_ne_zero hn
    cases hdigits : Nat.toDigits 10 n with
    | nil => exact absurd hdigits Nat.toDigits_ne_nil
    | cons c cs =>
      rw [hdigits] at hdigit hhead
      have hc : c ≠ '0' := by simpa using hhead
      have hcs : ∀ d ∈ cs, d.isDigit := fun d hd => hdigit d (List.mem_cons_of_mem c hd)
      rw [List.cons_append, scanWhole, if_neg hc, if_pos (hdigit c List.mem_cons_self),
        takeWhile_isDigit_append hrest, dropWhile_isDigit_append hrest,
        List.takeWhile_eq_self_iff.mpr hcs, List.dropWhile_eq_nil_iff.mpr hcs, List.nil_append]

/-- A whole number as it is spelled. -/
def ofInt (i : Int) : Numeral := ⟨decide (i < 0), Nat.toDigits 10 i.natAbs, none, none⟩

@[simp] lemma toInt_ofInt (i : Int) : (ofInt i).toInt = i := by
  simp only [ofInt, toInt, decimalValue, Nat.ofDigitChars_ten_toDigits, decide_eq_true_eq]
  split <;> omega

lemma toList_toString (i : Int) :
    (toString i).toList =
      if i < 0 then '-' :: Nat.toDigits 10 i.natAbs else Nat.toDigits 10 i.natAbs := by
  cases i with
  | ofNat n =>
    have hn : ¬ (Int.ofNat n < 0) := Int.not_lt.mpr (Int.natCast_nonneg n)
    rw [if_neg hn]
    exact Nat.toList_repr
  | negSucc n =>
    rw [if_pos (Int.negSucc_lt_zero n)]
    have htext : toString (Int.negSucc n) = "-" ++ (n + 1).repr := rfl
    rw [htext, String.toList_append, Nat.toList_repr]
    rfl

lemma scanSign_of_isDigit {c : Char} (hc : c.isDigit) (cs : List Char) :
    scanSign (c :: cs) = (false, c :: cs) := by
  have hne : c ≠ '-' := by
    rintro rfl
    exact absurd hc (by decide)
  simp [scanSign, hne]

lemma scanSign_toDigits (n : Nat) (rest : List Char) :
    scanSign (Nat.toDigits 10 n ++ rest) = (false, Nat.toDigits 10 n ++ rest) := by
  have hdigit : ∀ c ∈ Nat.toDigits 10 n, c.isDigit := fun c hc =>
    Nat.isDigit_of_mem_toDigits (by decide) (by decide) hc
  cases hdigits : Nat.toDigits 10 n with
  | nil => exact absurd hdigits Nat.toDigits_ne_nil
  | cons c cs => exact scanSign_of_isDigit (hdigit c (hdigits ▸ List.mem_cons_self)) _

/-- A whole number is read back from its digits. -/
theorem scan_toString (i : Int) : scan (toString i).toList = some (ofInt i, []) := by
  have hwhole : scanWhole (Nat.toDigits 10 i.natAbs) = some (Nat.toDigits 10 i.natAbs, []) := by
    have h := @scanWhole_toDigits i.natAbs [] (fun _ hc => absurd hc (Option.not_mem_none _))
    rwa [List.append_nil] at h
  have hsign : scanSign (toString i).toList = (decide (i < 0), Nat.toDigits 10 i.natAbs) := by
    rw [toList_toString]
    split
    · next h => simp [scanSign, h]
    · next h => simpa [h] using scanSign_toDigits i.natAbs []
  refine scan_eq_some_iff.mpr ⟨[], ?_, ?_, rfl, rfl, rfl⟩
  · rw [hsign]
    exact hwhole
  · rw [hsign]
    rfl

/-- A number with so many digits is below the power of ten. -/
lemma decimalValue_lt {digits : List Char} (h : ∀ c ∈ digits, c.isDigit) :
    decimalValue digits < 10 ^ digits.length := by
  induction digits with
  | nil => simp [decimalValue]
  | cons c cs ih =>
    have hc : c.toNat - '0'.toNat ≤ 9 := by
      have := Char.isDigit_iff_toNat.mp (h c List.mem_cons_self)
      simp only [Char.reduceToNat] at this ⊢
      omega
    have hcs : Nat.ofDigitChars 10 cs 0 < 10 ^ cs.length :=
      ih fun d hd => h d (List.mem_cons_of_mem c hd)
    rw [decimalValue, Nat.ofDigitChars_cons, Nat.ofDigitChars_eq_ofDigitChars_zero,
      List.length_cons, Nat.pow_succ]
    calc 10 ^ cs.length * (10 * 0 + (c.toNat - '0'.toNat)) + Nat.ofDigitChars 10 cs 0
        < 10 ^ cs.length * (10 * 0 + (c.toNat - '0'.toNat)) + 10 ^ cs.length := by omega
      _ = 10 ^ cs.length * (c.toNat - '0'.toNat + 1) := by ring
      _ ≤ 10 ^ cs.length * 10 := Nat.mul_le_mul_left _ (by omega)

end Numeral

/-! ### Binary numbers -/

namespace Binary64

/-- A whole quotient is not rounded. -/
lemma roundHalfEven_mul (n : Nat) {den : Nat} (hden : 0 < den) :
    roundHalfEven (n * den) den = n := by
  simp [roundHalfEven, Nat.mul_div_cancel n hden, hden]

/-- The scale of a magnitude is found from the number of its binary digits. -/
lemma log2_units (m : Magnitude) : m.units.log2 - 52 = m.scale := by
  obtain ⟨significand, scale, hsignificand, -, hscale⟩ := m
  simp only [Magnitude.units]
  simp only [Nat.pow_eq] at *
  rcases hscale with rfl | hnormal
  · have hlog : significand.log2 < 53 ∨ significand = 0 := by
      by_cases hzero : significand = 0
      · exact Or.inr hzero
      · exact Or.inl ((Nat.log2_lt hzero).mpr hsignificand)
    rcases hlog with hlog | rfl
    · simp; omega
    · simp
  · have hlower : 2 ^ (52 + scale) ≤ significand * 2 ^ scale := by
      rw [Nat.pow_add]
      exact Nat.mul_le_mul_right _ hnormal
    have hupper : significand * 2 ^ scale < 2 ^ (53 + scale) := by
      rw [Nat.pow_add]
      exact Nat.mul_lt_mul_of_pos_right hsignificand (Nat.two_pow_pos scale)
    have hne : significand * 2 ^ scale ≠ 0 := by
      have := Nat.two_pow_pos (52 + scale)
      omega
    have h1 := (Nat.le_log2 hne).mpr hlower
    have h2 := (Nat.log2_lt hne).mpr hupper
    omega

/-- A quotient that is a magnitude is not rounded. -/
theorem ofUnits_units (negative : Bool) (m : Magnitude) {den : Nat} (hden : 0 < den) :
    ofUnits negative (m.units * den) den = .finite negative m := by
  have hscale : (m.units * den / den).log2 - 52 = m.scale := by
    rw [Nat.mul_div_cancel _ hden, log2_units]
  have hround : roundHalfEven (m.units * den) (den * Nat.pow 2 m.scale) = m.significand := by
    have hunits : m.units * den = m.significand * (den * Nat.pow 2 m.scale) := by
      rw [Magnitude.units]
      ring
    rw [hunits]
    exact roundHalfEven_mul _ (Nat.mul_pos hden (Nat.two_pow_pos _))
  have hne : m.significand ≠ Nat.pow 2 53 := Nat.ne_of_lt m.canonical.1
  simp only [ofUnits, hscale, hround, if_neg hne, ofParts]
  rw [dif_pos m.canonical]

end Binary64

namespace Numeral

/-- A number that is spelled by a whole text. -/
lemma readBinary64_eq_some_iff {cs : List Char} {b : Binary64} :
    readBinary64 cs = some b ↔ ∃ n, scan cs = some (n, []) ∧ n.toBinary64 = b := by
  rw [readBinary64]
  split
  · next n hn => simp [hn]
  · next hn => exact ⟨fun h => absurd h (by simp), fun ⟨n, hn', _⟩ => absurd hn' (hn n)⟩

lemma scanSign_of_false {cs : List Char} (h : (scanSign cs).1 = false) : (scanSign cs).2 = cs := by
  cases cs with
  | nil => rfl
  | cons c cs =>
    by_cases hc : c = '-'
    · subst hc
      exact absurd h (by simp [scanSign])
    · simp [scanSign, hc]

lemma scanFraction_of_none {cs : List Char} (h : (scanFraction cs).1 = none) :
    (scanFraction cs).2 = cs := by
  unfold scanFraction at *
  split at h
  · split at h
    · exact absurd h (by simp)
    · next hc => simp [hc]
  · rfl

lemma scanExponent_of_none {cs : List Char} (h : (scanExponent cs).1 = none) :
    (scanExponent cs).2 = cs := by
  cases cs with
  | nil => rfl
  | cons mark rest => grind [scanExponent]

lemma eq_of_scanWhole_nil {cs whole : List Char} (h : scanWhole cs = some (whole, [])) :
    ∀ c ∈ cs, c.isDigit := by
  cases cs with
  | nil => simp
  | cons c cs =>
    rw [scanWhole] at h
    split at h
    · next hc =>
      obtain ⟨-, rfl⟩ := Prod.mk.inj (Option.some.inj h)
      simp [hc]
    · split at h
      · next hc =>
        have hrest := (Prod.mk.inj (Option.some.inj h)).2
        intro d hd
        rcases List.mem_cons.mp hd with rfl | hd
        · exact hc
        · exact List.dropWhile_eq_nil_iff.mp hrest d hd
      · exact absurd h (by simp)

/-- A text that is read as a number without fraction and power of ten holds digits only, behind a
sign. -/
lemma eq_minus_or_isDigit_of_isWhole {cs : List Char} {n : Numeral} (h : scan cs = some (n, []))
    (hwhole : n.isWhole) : ∀ c ∈ cs, c = '-' ∨ c.isDigit := by
  obtain ⟨afterWhole, hscan, -, hfraction, hexponent, hrest⟩ := scan_eq_some_iff.mp h
  obtain ⟨hnofraction, hnoexponent⟩ : n.fraction = none ∧ n.exponent = none := by
    simpa [isWhole] using hwhole
  -- without fraction and power of ten nothing is taken behind the whole part
  have hafter : (scanFraction afterWhole).2 = afterWhole :=
    scanFraction_of_none (hfraction.symm.trans hnofraction)
  rw [hafter] at hexponent hrest
  have hnil : afterWhole = [] := by
    rw [← scanExponent_of_none (hexponent.symm.trans hnoexponent), ← hrest]
  subst hnil
  have hdigits := eq_of_scanWhole_nil hscan
  intro c hc
  cases cs with
  | nil => exact absurd hc List.not_mem_nil
  | cons d cs =>
    by_cases hd : d = '-'
    · subst hd
      rcases List.mem_cons.mp hc with rfl | hc
      · exact Or.inl rfl
      · exact Or.inr (hdigits c hc)
    · have hsign : scanSign (d :: cs) = (false, d :: cs) := by simp [scanSign, hd]
      rw [hsign] at hdigits
      exact Or.inr (hdigits c hc)

end Numeral

lemma Decimal.exists_mark_mem_text (d : Decimal) : ∃ c ∈ d.text, c = '.' ∨ c = 'e' := by
  rw [text]
  split
  · refine ⟨'.', ?_, Or.inl rfl⟩
    rw [positional]
    split
    · simp
    · split <;> simp
  · exact ⟨'e', by simp [scientific], Or.inr rfl⟩

namespace Magnitude

/-- All digits of a magnitude, as a whole number of units of `10 ^ -1074`, make the magnitude. The
exponent has a name, so that no large power is computed. -/
lemma ofDecimal_units (m : Magnitude) (h : m.significand ≠ 0) {k : Nat} (hk : k = 1074) :
    Binary64.ofDecimal false (m.units * Nat.pow 5 k) (-k) = .finite false m := by
  have hunits : 0 < m.units := Nat.mul_pos (Nat.pos_of_ne_zero h) (Nat.two_pow_pos _)
  have hlarge : 2 ^ (2 * k) ≤ m.units * Nat.pow 5 k := by
    calc 2 ^ (2 * k) = (2 ^ 2) ^ k := Nat.pow_mul 2 2 k
      _ ≤ Nat.pow 5 k := Nat.pow_le_pow_left (by decide) k
      _ ≤ m.units * Nat.pow 5 k := Nat.le_mul_of_pos_left _ hunits
  have hne : m.units * Nat.pow 5 k ≠ 0 :=
    Nat.ne_of_gt (Nat.lt_of_lt_of_le (Nat.two_pow_pos _) hlarge)
  have hlog : 2 * k ≤ (m.units * Nat.pow 5 k).log2 := (Nat.le_log2 hne).mpr hlarge
  have hquotient : m.units * Nat.pow 5 k * Nat.pow 2 k = m.units * Nat.pow 10 k := by
    rw [Nat.mul_assoc]
    exact congrArg _ (Nat.mul_pow 5 2 k).symm
  have hexponent : (-(-k : Int)).toNat = k := by omega
  rw [Binary64.ofDecimal, if_neg hne, if_neg (by omega), if_neg (by omega), if_neg (by omega),
    hexponent, ← hk, hquotient]
  exact Binary64.ofUnits_units false m (Nat.pow_pos (by decide))

/-- All digits of a magnitude are read back as the magnitude. -/
lemma readBinary64_exactText (m : Magnitude) (h : m.significand ≠ 0) :
    Numeral.readBinary64 m.exactText = some (.finite false m) := by
  have hscan : ∀ n, Numeral.scan (Nat.toDigits 10 n ++ ['e', '-', '1', '0', '7', '4']) =
      some (⟨false, Nat.toDigits 10 n, none, some (-1074)⟩, []) := by
    intro n
    refine Numeral.scan_eq_some_iff.mpr ⟨['e', '-', '1', '0', '7', '4'], ?_, ?_, rfl, rfl, rfl⟩
    · rw [Numeral.scanSign_toDigits]
      exact Numeral.scanWhole_toDigits n (by simp)
    · rw [Numeral.scanSign_toDigits]
  have hvalue : ∀ n, decimalValue (Nat.toDigits 10 n) = n := fun _ =>
    Nat.ofDigitChars_ten_toDigits
  obtain ⟨k, hk, htext⟩ : ∃ k, k = 1074 ∧
      m.exactText = Nat.toDigits 10 (m.units * Nat.pow 5 k) ++ ['e', '-', '1', '0', '7', '4'] :=
    ⟨_, rfl, rfl⟩
  rw [htext]
  refine Numeral.readBinary64_eq_some_iff.mpr ⟨_, hscan _, ?_⟩
  simp only [Numeral.toBinary64, Option.getD_none, List.append_nil, hvalue, Option.getD_some,
    List.length_nil]
  rw [← ofDecimal_units m h hk, hk]
  rfl

/-- The spelling of a magnitude is read back as the magnitude. -/
theorem readBinary64_text (m : Magnitude) :
    Numeral.readBinary64 m.text = some (.finite false m) := by
  rw [text]
  split
  · next h =>
    have hzero : m = .zero := by
      obtain ⟨significand, scale, hsignificand, hbound, hscale⟩ := m
      simp only at h
      subst h
      have hscale' : scale = 0 := hscale.resolve_right (by decide)
      subst hscale'
      rfl
    have hscan : Numeral.scan ['0', '.', '0'] = some (⟨false, ['0'], some ['0'], none⟩, []) := rfl
    rw [hzero]
    refine Numeral.readBinary64_eq_some_iff.mpr ⟨_, hscan, ?_⟩
    simp [Numeral.toBinary64, decimalValue, Nat.ofDigitChars, Binary64.ofDecimal]
  · next h =>
    cases hfind : m.spellings.find? fun s => Numeral.readBinary64 s = some (.finite false m) with
    | none =>
      rw [Option.getD_none]
      exact readBinary64_exactText m h
    | some s =>
      rw [Option.getD_some]
      simpa using List.find?_some hfind

/-- A magnitude is never spelled as a whole number. -/
lemma exists_mark_mem_text (m : Magnitude) : ∃ c ∈ m.text, c = '.' ∨ c = 'e' := by
  rw [text]
  split
  · exact ⟨'.', by simp, Or.inl rfl⟩
  · cases hfind : m.spellings.find? fun s => Numeral.readBinary64 s = some (.finite false m) with
    | none =>
      rw [Option.getD_none]
      exact ⟨'e', List.mem_append_right _ List.mem_cons_self, Or.inr rfl⟩
    | some s =>
      rw [Option.getD_some]
      obtain ⟨count, -, hs⟩ := List.mem_flatMap.mp (List.mem_of_find?_eq_some hfind)
      obtain ⟨d, -, rfl⟩ := List.mem_map.mp hs
      exact d.exists_mark_mem_text

end Magnitude

namespace Binary64

/-- The number with the given sign. -/
def withSign (negative : Bool) : Binary64 → Binary64
  | .finite _ m => .finite negative m
  | .infinite _ => .infinite negative
  | .nan => .nan

lemma ofParts_eq_withSign (negative other : Bool) (significand scale : Nat) :
    ofParts negative significand scale = (ofParts other significand scale).withSign negative := by
  unfold ofParts
  split <;> rfl

lemma ofUnits_eq_withSign (negative other : Bool) (num den : Nat) :
    ofUnits negative num den = (ofUnits other num den).withSign negative := by
  simp only [ofUnits]
  split <;> exact ofParts_eq_withSign negative other _ _

/-- The sign of a decimal is that of the number, and does not matter for the magnitude. -/
lemma ofDecimal_eq_withSign (negative other : Bool) (digits : Nat) (exponent : Int) :
    ofDecimal negative digits exponent = (ofDecimal other digits exponent).withSign negative := by
  simp only [ofDecimal]
  split
  · rfl
  split
  · rfl
  split
  · rfl
  split <;> exact ofUnits_eq_withSign negative other _ _

/-- A finite number is read back from its text, which is not that of a whole number. -/
theorem exists_scan_text (words : NumberWords) (negative : Bool) (m : Magnitude) :
    ∃ n, Numeral.scan ((finite negative m).text words) = some (n, []) ∧ n.isWhole = false ∧
      n.toBinary64 = .finite negative m := by
  obtain ⟨n, hscan, hvalue⟩ := Numeral.readBinary64_eq_some_iff.mp m.readBinary64_text
  have hwhole : n.isWhole = false := by
    rw [Bool.eq_false_iff]
    intro hwhole
    obtain ⟨c, hc, hmark⟩ := m.exists_mark_mem_text
    rcases Numeral.eq_minus_or_isDigit_of_isWhole hscan hwhole c hc with rfl | hdigit
    · exact absurd hmark (by decide)
    · rcases hmark with rfl | rfl <;> exact absurd hdigit (by decide)
  cases negative with
  | false => exact ⟨n, hscan, hwhole, hvalue⟩
  | true =>
    have hsign : n.negative = false := by
      rw [Numeral.toBinary64, ofDecimal_eq_withSign _ n.negative] at hvalue
      unfold withSign at hvalue
      split at hvalue
      · exact (Binary64.finite.inj hvalue).1
      · exact absurd hvalue (by simp)
      · exact absurd hvalue (by simp)
    refine ⟨{ n with negative := true }, ?_, hwhole, ?_⟩
    · obtain ⟨afterWhole, hscan, hnegative, hrest⟩ := Numeral.scan_eq_some_iff.mp hscan
      have hunsigned := Numeral.scanSign_of_false (hnegative.symm.trans hsign)
      rw [hunsigned] at hscan
      exact Numeral.scan_eq_some_iff.mpr ⟨afterWhole, hscan, rfl, hrest⟩
    · rw [Numeral.toBinary64, ofDecimal_eq_withSign _ n.negative]
      exact congrArg (withSign true) hvalue

end Binary64

end Sidebar
