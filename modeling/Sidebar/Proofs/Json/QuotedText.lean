import Sidebar.Json.Printer
import Sidebar.Json.Token
import Sidebar.Proofs.Text.WideText

/-!
# Quoted text in JSON

A quoted text is written code point by code point and read the same way. But a character beyond the
first plane is written as two escapes, one for each of its surrogates, which reading joins. So are
two surrogates that stood side by side, and only texts without such pairs are read as they were.

Main statement: a quoted text is read as the text with its pairs joined, whatever follows the
closing quote.
-/

namespace Sidebar.Json

/-! ### Escapes -/

lemma hexDigit?_digitChar {n : Nat} (h : n < 16) : Token.hexDigit? (Nat.digitChar n) = some n := by
  have hall : ∀ k < 16, Token.hexDigit? (Nat.digitChar k) = some k := by decide
  exact hall n h

/-- An escape is read as its code point. -/
lemma scanPoints_escapedUnit {unit : Nat} (h : unit < 0x10000) (rest : List Char) :
    Token.scanPoints (escapedUnit unit ++ rest) =
      Token.pushPoint (some (.ofNat unit)) (Token.scanPoints rest) := by
  have hpoint : Token.hexPoint? (Nat.digitChar (unit / 16 / 16 / 16 % 16))
      (Nat.digitChar (unit / 16 / 16 % 16)) (Nat.digitChar (unit / 16 % 16))
      (Nat.digitChar (unit % 16)) = some (.ofNat unit) := by
    have hdigits : ((unit / 16 / 16 / 16 % 16 * 16 + unit / 16 / 16 % 16) * 16 +
        unit / 16 % 16) * 16 + unit % 16 = unit := by omega
    simp only [Token.hexPoint?, hexDigit?_digitChar (Nat.mod_lt _ (by decide : 0 < 16))]
    simp only [Option.pure_def, Option.bind_eq_bind, Option.bind_some, hdigits]
  simp only [escapedUnit, Text.hexDigits, List.nil_append, List.cons_append]
  rw [Token.scanPoints, hpoint]

/-! ### Code points -/

/-- The escapes of a code point, or the code point itself: one in the first plane, two surrogates
beyond it. -/
def spelled (p : CodePoint) : WideText :=
  if p.val < 0x10000 then [p]
  else [.ofNat (0xD800 + (p.val - 0x10000) / 0x400),
    .ofNat (0xDC00 + (p.val - 0x10000) % 0x400)]

/-- Puts the code points of a text in front of scanned ones. -/
def pushPoints (points : WideText) (scanned : Option (WideText × List Char)) :
    Option (WideText × List Char) :=
  scanned.map fun (more, after) => (points ++ more, after)

lemma pushPoint_some (point : CodePoint) (scanned : Option (WideText × List Char)) :
    Token.pushPoint (some point) scanned = pushPoints [point] scanned := by
  cases scanned <;> rfl

/-- A character that is no quote, backslash or control character stands for itself. -/
lemma scanPoints_of_plain {c : Char} (hquote : c ≠ '"') (hbackslash : c ≠ '\\')
    (hspace : ¬ c.toNat < 0x20) (rest : List Char) :
    Token.scanPoints (c :: rest) = Token.pushPoint (some (.ofChar c)) (Token.scanPoints rest) := by
  rw [Token.scanPoints, if_neg hspace]
  · exact hquote
  · intro _ _ _ _ _ h
    exact absurd h hbackslash
  · intro _ _ h
    exact absurd h hbackslash

/-- A character is read as it is spelled. -/
lemma scanPoints_writtenChar (c : Char) (rest : List Char) :
    Token.scanPoints (writtenChar c ++ rest) =
      pushPoints (spelled (.ofChar c)) (Token.scanPoints rest) := by
  have hspelled : c.toNat < 0x10000 → spelled (.ofChar c) = [.ofChar c] := fun h => if_pos h
  have hescape : ∀ {letter : Char}, letter ≠ 'u' → Token.escaped? letter = some c →
      c.toNat < 0x10000 →
      Token.scanPoints ('\\' :: letter :: rest) =
        pushPoints (spelled (.ofChar c)) (Token.scanPoints rest) := by
    intro letter hletter hc hplane
    rw [Token.scanPoints, hc, Option.map_some, pushPoint_some, hspelled hplane]
    intro a b c d rest hu
    exact absurd hu hletter
  unfold writtenChar
  split
  · next h =>
    rcases (by simpa using h : c = '"' ∨ c = '\\') with rfl | rfl <;>
      exact hescape (by decide) rfl (by decide)
  split
  · next h => subst h; exact hescape (by decide) rfl (by decide)
  split
  · next h => subst h; exact hescape (by decide) rfl (by decide)
  split
  · next h => subst h; exact hescape (by decide) rfl (by decide)
  split
  · next h => subst h; exact hescape (by decide) rfl (by decide)
  split
  · next h => subst h; exact hescape (by decide) rfl (by decide)
  split
  · next hquote _ _ _ _ _ hplain =>
    obtain ⟨hc, hc'⟩ : c ≠ '"' ∧ c ≠ '\\' := by simpa using hquote
    have hspace : ¬ c.toNat < 0x20 := by
      have hle : ' ' ≤ c := (by simpa using hplain : ' ' ≤ c ∧ c ≤ '~').1
      exact Nat.not_lt.mpr hle
    have hplane : c.toNat < 0x10000 := by
      have hle : c ≤ '~' := (by simpa using hplain : ' ' ≤ c ∧ c ≤ '~').2
      exact Nat.lt_of_le_of_lt hle (by decide)
    rw [List.cons_append, List.nil_append, scanPoints_of_plain hc hc' hspace, pushPoint_some,
      hspelled hplane]
  split
  · next hplane =>
    rw [scanPoints_escapedUnit hplane, pushPoint_some, hspelled hplane]
    congr 2
    exact CodePoint.ofNat_val (.ofChar c)
  · next hplane =>
    have := CodePoint.toNat_lt c
    have hbeyond : spelled (.ofChar c) = _ := if_neg hplane
    rw [List.append_assoc, scanPoints_escapedUnit (by omega), scanPoints_escapedUnit (by omega),
      pushPoint_some, pushPoint_some, hbeyond]
    cases Token.scanPoints rest <;> rfl

/-- A code point is read as it is spelled. A surrogate lies in the first plane. -/
lemma scanPoints_writtenPoint (p : CodePoint) (rest : List Char) :
    Token.scanPoints (writtenPoint p ++ rest) = pushPoints (spelled p) (Token.scanPoints rest) := by
  rw [writtenPoint]
  cases hchar : p.char? with
  | some c =>
    obtain rfl := CodePoint.char?_eq_some_iff.mp hchar
    exact scanPoints_writtenChar c rest
  | none =>
    have hplane := CodePoint.val_lt_of_char?_eq_none hchar
    have hspelled : spelled p = [p] := if_pos hplane
    rw [scanPoints_escapedUnit hplane, pushPoint_some, hspelled, CodePoint.ofNat_val]

/-- The surrogates of a character beyond the first plane are joined to the character. -/
lemma joinPairs_spelled {p : CodePoint} {points : WideText}
    (h : ∀ q ∈ points.head?, ¬WideText.IsPair p q) :
    (spelled p ++ points).joinPairs = p :: points.joinPairs := by
  rw [spelled]
  split
  · cases points with
    | nil => rfl
    | cons q points =>
      have hpair : ¬(p.isHighSurrogate && q.isLowSurrogate) := by
        simpa [WideText.IsPair] using h q rfl
      rw [List.cons_append, List.nil_append, WideText.joinPairs, if_neg hpair]
  · next hplane =>
    have hp := p.isLt
    have hpair : WideText.IsPair (.ofNat (0xD800 + (p.val - 0x10000) / 0x400))
        (.ofNat (0xDC00 + (p.val - 0x10000) % 0x400)) := by
      simp only [WideText.IsPair, CodePoint.isHighSurrogate, CodePoint.isLowSurrogate,
        Bool.and_eq_true, decide_eq_true_eq]
      rw [CodePoint.val_ofNat, CodePoint.val_ofNat]
      omega
    have hjoin : CodePoint.join (.ofNat (0xD800 + (p.val - 0x10000) / 0x400))
        (.ofNat (0xDC00 + (p.val - 0x10000) % 0x400)) = p := by
      apply Fin.ext
      rw [CodePoint.val_join hpair.1 hpair.2, CodePoint.val_ofNat, CodePoint.val_ofNat]
      omega
    rw [List.cons_append, List.cons_append, List.nil_append, WideText.joinPairs,
      if_pos (by simpa [WideText.IsPair] using hpair), hjoin]

/-- What a code point is spelled as begins with itself, or with a high surrogate. -/
lemma not_isPair_spelled {p q : CodePoint} (h : ¬WideText.IsPair p q) :
    ∀ first ∈ (spelled q).head?, ¬WideText.IsPair p first := by
  rw [spelled]
  split
  · intro first hfirst
    rwa [← Option.some.inj hfirst]
  · have hq := q.isLt
    intro first hfirst
    rw [← Option.some.inj hfirst]
    simp only [WideText.IsPair, CodePoint.isLowSurrogate, Bool.and_eq_true, decide_eq_true_eq]
    rw [CodePoint.val_ofNat]
    omega

/-! ### Texts -/

lemma scanPoints_writtenText (text : WideText) (rest : List Char) :
    Token.scanPoints (text.flatMap writtenPoint ++ '"' :: rest) =
      some (text.flatMap spelled, rest) := by
  induction text with
  | nil => rw [List.flatMap_nil, List.flatMap_nil, List.nil_append, Token.scanPoints]
  | cons p text ih =>
    rw [List.flatMap_cons, List.append_assoc, scanPoints_writtenPoint, ih, List.flatMap_cons]
    rfl

lemma joinPairs_flatMap (text : WideText) :
    WideText.joinPairs (text.flatMap spelled) = text.joinPairs := by
  have hhead : ∀ (p : CodePoint) (rest : WideText),
      ((p :: rest).flatMap spelled).head? = (spelled p).head? := by
    intro p rest
    have hne : spelled p ≠ [] := by
      rw [spelled]
      split <;> simp
    rw [List.flatMap_cons, List.head?_append_of_ne_nil _ hne]
  fun_induction WideText.joinPairs text with
  | case1 high low rest hpair ih =>
    -- a surrogate is spelled as itself
    have hsurrogates : high.val < 0x10000 ∧ low.val < 0x10000 := by
      simp only [CodePoint.isHighSurrogate, CodePoint.isLowSurrogate, Bool.and_eq_true,
        decide_eq_true_eq] at hpair
      omega
    rw [List.flatMap_cons, List.flatMap_cons, spelled, if_pos hsurrogates.1, spelled,
      if_pos hsurrogates.2]
    simp only [List.cons_append, List.nil_append]
    rw [WideText.joinPairs, if_pos hpair, ih]
  | case2 high low rest hpair ih =>
    rw [List.flatMap_cons, joinPairs_spelled, ih]
    intro first hfirst
    rw [hhead] at hfirst
    exact not_isPair_spelled (by simpa [WideText.IsPair] using hpair) first hfirst
  | case3 text hshort =>
    cases text with
    | nil => rfl
    | cons p rest =>
      cases rest with
      | nil => exact @joinPairs_spelled p [] (by simp)
      | cons q more => exact absurd rfl (hshort p q more)

/-- A quoted text is one token. It is read with its pairs of surrogates joined. -/
theorem tokens_writtenText (text : WideText) (rest : List Char) :
    tokens (writtenText text ++ rest) = .text text.joinPairs :: tokens rest := by
  have hscan : Token.scan '"' (text.flatMap writtenPoint ++ '"' :: rest) =
      (.text text.joinPairs, rest) := by
    simp only [Token.scan, scanPoints_writtenText, joinPairs_flatMap]
  have hopen : writtenText text ++ rest =
      '"' :: (text.flatMap writtenPoint ++ '"' :: rest) := by
    simp [writtenText]
  rw [hopen, tokens, if_neg (by decide), hscan]

end Sidebar.Json
