import Sidebar.Text.WideText
import Mathlib.Data.List.Chain
import Mathlib.Tactic.Lemma

/-!
# Wide texts

The texts of the program are among the wide texts, each as itself. Joining the surrogates of a text
leaves no pairs of them, and the texts of the program have no surrogates to begin with.
-/

namespace Sidebar

namespace CodePoint

lemma char?_eq_some_iff {p : CodePoint} {c : Char} : p.char? = some c ↔ p = ofChar c := by
  rw [char?, Fin.ext_iff]
  by_cases h : p.val.isValidChar
  · rw [dif_pos h, Option.some_inj, ← Char.toNat_inj]
    rfl
  · rw [dif_neg h]
    refine iff_of_false (by simp) fun hp => h ?_
    rw [hp]
    exact c.valid

@[simp] lemma val_ofNat (n : Nat) : (ofNat n).val = n % 0x110000 := rfl

@[simp] lemma ofNat_val (p : CodePoint) : ofNat p.val = p := Fin.ext (Nat.mod_eq_of_lt p.isLt)

lemma isHighSurrogate_ofChar (c : Char) : (ofChar c).isHighSurrogate = false := by
  rw [isHighSurrogate, Bool.and_eq_false_iff, decide_eq_false_iff_not, decide_eq_false_iff_not]
  rcases (c.valid : c.toNat.isValidChar) with h | h
  · exact .inl (Nat.not_le.mpr h)
  · exact .inr (Nat.not_lt.mpr (Nat.le_of_lt (Nat.lt_trans (by decide) h.1)))

/-- What is no character is a surrogate, and lies in the first plane. -/
lemma val_lt_of_char?_eq_none {p : CodePoint} (h : p.char? = none) : p.val < 0x10000 := by
  have hvalid : ¬p.val.isValidChar := by
    intro hvalid
    rw [char?, dif_pos hvalid] at h
    cases h
  have hlt := p.isLt
  rw [Nat.isValidChar] at hvalid
  omega

/-- A pair of surrogates stands for a character, which lies beyond the first plane. -/
lemma val_join {high low : CodePoint} (hhigh : high.isHighSurrogate) (hlow : low.isLowSurrogate) :
    (high.join low).val = 0x10000 + (high.val - 0xD800) * 0x400 + (low.val - 0xDC00) := by
  simp only [isHighSurrogate, isLowSurrogate, Bool.and_eq_true, decide_eq_true_eq] at hhigh hlow
  rw [join, val_ofNat, Nat.mod_eq_of_lt (by omega)]

end CodePoint

namespace WideText

lemma narrow?_eq_some_iff {text : WideText} {s : String} :
    text.narrow? = some s ↔ text = ofString s := by
  have hmapM : ∀ (text : WideText) (cs : List Char),
      text.mapM CodePoint.char? = some cs ↔ text = cs.map .ofChar := by
    intro text
    induction text with
    | nil => intro cs; cases cs <;> simp
    | cons p rest ih =>
      intro cs
      rw [List.mapM_cons]
      simp only [Option.bind_eq_bind, Option.bind_eq_some_iff, Option.pure_def, Option.some.injEq,
        CodePoint.char?_eq_some_iff, ih]
      constructor
      · rintro ⟨c, rfl, others, rfl, rfl⟩
        rfl
      · intro h
        cases cs with
        | nil => cases h
        | cons c others =>
          obtain ⟨rfl, rfl⟩ := List.cons.inj h
          exact ⟨c, rfl, others, rfl, rfl⟩
  rw [narrow?, Option.map_eq_some_iff]
  constructor
  · rintro ⟨cs, hcs, rfl⟩
    rw [ofString, String.toList_ofList, ← hmapM]
    exact hcs
  · rintro rfl
    exact ⟨s.toList, (hmapM _ _).mpr rfl, String.ofList_toList⟩

@[simp] lemma narrow?_ofString (s : String) : (ofString s).narrow? = some s :=
  narrow?_eq_some_iff.mpr rfl

@[simp] lemma ofString_inj {s t : String} : ofString s = ofString t ↔ s = t := by
  rw [← narrow?_eq_some_iff, narrow?_ofString, Option.some_inj]

lemma ofString_injective : Function.Injective ofString := fun _ _ => ofString_inj.mp

@[simp] lemma ofString_eq_nil_iff {s : String} : ofString s = [] ↔ s = "" :=
  ofString_inj (t := "")

/-! ### The order of texts -/

lemma le_total (s t : WideText) : (le s t || le t s) = true := by
  induction s generalizing t with
  | nil => rfl
  | cons p rest ih =>
    cases t with
    | nil => rfl
    | cons q rest' =>
      rcases Nat.lt_trichotomy p.val q.val with h | h | h
      · simp [le, h]
      · obtain rfl := Fin.ext h
        simpa [le] using ih rest'
      · simp [le, h]

lemma le_trans {s t u : WideText} (hst : le s t) (htu : le t u) : le s u := by
  induction s generalizing t u with
  | nil => rfl
  | cons p rest ih =>
    cases t with
    | nil => cases hst
    | cons q rest' =>
      cases u with
      | nil => cases htu
      | cons r rest'' =>
        simp only [le, Bool.or_eq_true, Bool.and_eq_true, decide_eq_true_eq] at hst htu ⊢
        rcases hst with hpq | ⟨rfl, hst⟩
        · rcases htu with hqr | ⟨rfl, -⟩
          · exact .inl (Nat.lt_trans hpq hqr)
          · exact .inl hpq
        · rcases htu with hpr | ⟨rfl, htu⟩
          · exact .inl hpr
          · exact .inr ⟨rfl, ih hst htu⟩

lemma le_antisymm {s t : WideText} (hst : le s t) (hts : le t s) : s = t := by
  induction s generalizing t with
  | nil =>
    cases t with
    | nil => rfl
    | cons => cases hts
  | cons p rest ih =>
    cases t with
    | nil => cases hst
    | cons q rest' =>
      simp only [le, Bool.or_eq_true, Bool.and_eq_true, decide_eq_true_eq] at hst hts
      rcases hst with hpq | ⟨rfl, hst⟩
      · rcases hts with hqp | ⟨rfl, -⟩
        · exact absurd hqp (Nat.lt_asymm hpq)
        · exact absurd hpq (Nat.lt_irrefl _)
      · rcases hts with hpp | ⟨-, hts⟩
        · exact absurd hpp (Nat.lt_irrefl _)
        · rw [ih hst hts]

/-! ### Pairs of surrogates -/

/-- The code points are surrogates that stand for one character together. -/
def IsPair (high low : CodePoint) : Prop := high.isHighSurrogate ∧ low.isLowSurrogate

/-- No two neighbours are a pair of surrogates. -/
def Joined (text : WideText) : Prop := text.IsChain fun high low => ¬IsPair high low

lemma not_isPair_ofChar (c : Char) (p : CodePoint) : ¬IsPair (.ofChar c) p := by
  rw [IsPair, CodePoint.isHighSurrogate_ofChar]
  simp

lemma joined_ofString (s : String) : (ofString s).Joined := by
  rw [Joined, ofString, List.isChain_map]
  exact (List.pairwise_of_forall fun c _ => not_isPair_ofChar c _).isChain

/-- A pair that has been joined is no surrogate any more. -/
lemma not_isPair_join {high low : CodePoint} (h : IsPair high low) (p : CodePoint) :
    ¬IsPair (high.join low) p ∧ ¬IsPair p (high.join low) := by
  have hval := CodePoint.val_join h.1 h.2
  simp only [IsPair, CodePoint.isHighSurrogate, CodePoint.isLowSurrogate, Bool.and_eq_true,
    decide_eq_true_eq, hval]
  omega

/-- Joined texts begin with a code point of the text, or with a joined pair. -/
lemma head?_joinPairs (text : WideText) : ∀ p ∈ text.joinPairs.head?,
    p ∈ text.head? ∨ ∃ high low, IsPair high low ∧ p = high.join low := by
  fun_cases joinPairs text with
  | case1 high low rest hpair =>
    intro p hp
    exact .inr ⟨high, low, by simpa [IsPair] using hpair, (Option.some.inj hp).symm⟩
  | case2 high low rest hpair => exact fun p hp => .inl hp
  | case3 text hshort => exact fun p hp => .inl hp

/-- Nothing is left to join. -/
theorem joined_joinPairs (text : WideText) : text.joinPairs.Joined := by
  fun_induction joinPairs text with
  | case1 high low rest hpair ih =>
    refine List.isChain_cons.mpr ⟨fun p _ => ?_, ih⟩
    exact (not_isPair_join (by simpa [IsPair] using hpair) p).1
  | case2 high low rest hpair ih =>
    refine List.isChain_cons.mpr ⟨fun p hp => ?_, ih⟩
    rcases head?_joinPairs _ p hp with hp | ⟨high', low', hpair', rfl⟩
    · obtain rfl := Option.some.inj hp
      simpa [IsPair] using hpair
    · exact (not_isPair_join hpair' high).2
  | case3 text hshort =>
    match text with
    | [] => exact .nil
    | [p] => exact .singleton p
    | high :: low :: rest => exact absurd rfl (hshort high low rest)

/-- Where there are no pairs, nothing is joined. -/
lemma Joined.joinPairs_eq {text : WideText} (h : text.Joined) : text.joinPairs = text := by
  fun_induction joinPairs text with
  | case1 high low rest hpair ih =>
    exact absurd (by simpa [IsPair] using hpair) (List.isChain_cons_cons.mp h).1
  | case2 high low rest hpair ih => rw [ih (List.isChain_cons_cons.mp h).2]
  | case3 => rfl

end WideText

end Sidebar
