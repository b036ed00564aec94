import Sidebar.Text.Encoding
import Sidebar.Text.WideText
import Mathlib.Tactic.Lemma

/-!
# Texts in UTF-8

A character stands in one to four bytes: the first tells how many there are, and each of the others
holds six bits. It is written in the shortest form that holds it. Surrogates and numbers above
`0x10FFFF` are no characters, so no bytes stand for them.

The strict decoding accepts just the bytes that characters stand in one after another, and gives
these characters.
-/

namespace Sidebar.Text

/-- A byte behind the first one of a character. -/
def IsTail (b : UInt8) : Prop := 0x80 ≤ b.toNat ∧ b.toNat < 0xC0

/-- The six bits of a byte behind the first one. -/
def tailBits (b : UInt8) : Nat := b.toNat % 0x40

/-- The bytes that a character stands in. -/
inductive EncodesChar (c : Char) : List UInt8 → Prop
  | one {b : UInt8} (hb : b.toNat < 0x80) (hc : c.toNat = b.toNat) : EncodesChar c [b]
  | two {b t : UInt8} (hb : 0xC0 ≤ b.toNat) (hb' : b.toNat < 0xE0) (ht : IsTail t)
      (hc : c.toNat = b.toNat % 0x20 * 0x40 + tailBits t) (hmin : 0x80 ≤ c.toNat) :
      EncodesChar c [b, t]
  | three {b t u : UInt8} (hb : 0xE0 ≤ b.toNat) (hb' : b.toNat < 0xF0) (ht : IsTail t)
      (hu : IsTail u)
      (hc : c.toNat = b.toNat % 0x10 * 0x1000 + tailBits t * 0x40 + tailBits u)
      (hmin : 0x800 ≤ c.toNat) : EncodesChar c [b, t, u]
  | four {b t u v : UInt8} (hb : 0xF0 ≤ b.toNat) (hb' : b.toNat < 0xF8) (ht : IsTail t)
      (hu : IsTail u) (hv : IsTail v)
      (hc : c.toNat = b.toNat % 0x08 * 0x40000 + tailBits t * 0x1000 + tailBits u * 0x40 +
        tailBits v) (hmin : 0x10000 ≤ c.toNat) : EncodesChar c [b, t, u, v]

/-- The bytes of characters one after another. -/
inductive Encodes : List Char → List UInt8 → Prop
  | nil : Encodes [] []
  | cons {c : Char} {cs : List Char} {front back : List UInt8} (h : EncodesChar c front)
      (hrest : Encodes cs back) : Encodes (c :: cs) (front ++ back)

/-! ### One character -/

/-- The bytes by the size of the character. -/
lemma utf8EncodeChar_eq (c : Char) :
    String.utf8EncodeChar c =
      if c.toNat ≤ 0x7F then [UInt8.ofNat c.toNat]
      else if c.toNat ≤ 0x7FF then
        [UInt8.ofNat (c.toNat / 64 % 32 + 192), UInt8.ofNat (c.toNat % 64 + 128)]
      else if c.toNat ≤ 0xFFFF then
        [UInt8.ofNat (c.toNat / 4096 % 16 + 224), UInt8.ofNat (c.toNat / 64 % 64 + 128),
          UInt8.ofNat (c.toNat % 64 + 128)]
      else
        [UInt8.ofNat (c.toNat / 262144 % 8 + 240), UInt8.ofNat (c.toNat / 4096 % 64 + 128),
          UInt8.ofNat (c.toNat / 64 % 64 + 128), UInt8.ofNat (c.toNat % 64 + 128)] :=
  rfl

lemma isTail_ofNat (n : Nat) : IsTail (UInt8.ofNat (n % 64 + 128)) := by
  rw [IsTail, UInt8.toNat_ofNat']
  omega

lemma tailBits_ofNat (n : Nat) : tailBits (UInt8.ofNat (n % 64 + 128)) = n % 64 := by
  have hbyte := @UInt8.toNat_ofNat' (n % 64 + 128)
  unfold tailBits
  omega

/-- Every character stands in the bytes that it is written as. -/
lemma encodesChar_utf8EncodeChar (c : Char) : EncodesChar c (String.utf8EncodeChar c) := by
  have hmax := CodePoint.toNat_lt c
  rw [utf8EncodeChar_eq]
  split
  · refine .one ?_ ?_ <;> rw [UInt8.toNat_ofNat'] <;> omega
  split
  · refine .two ?_ ?_ (isTail_ofNat _) ?_ (by omega) <;>
      simp only [tailBits_ofNat, UInt8.toNat_ofNat'] <;> omega
  split
  · refine .three ?_ ?_ (isTail_ofNat _) (isTail_ofNat _) ?_ (by omega) <;>
      simp only [tailBits_ofNat, UInt8.toNat_ofNat'] <;> omega
  · refine .four ?_ ?_ (isTail_ofNat _) (isTail_ofNat _) (isTail_ofNat _) ?_ (by omega) <;>
      simp only [tailBits_ofNat, UInt8.toNat_ofNat'] <;> omega

/-- A character stands in no other bytes. -/
lemma EncodesChar.eq_utf8EncodeChar {c : Char} {bytes : List UInt8} (h : EncodesChar c bytes) :
    bytes = String.utf8EncodeChar c := by
  have hbyte : ∀ {b : UInt8} {n : Nat}, b.toNat = n → b = UInt8.ofNat n := by
    rintro b _ rfl
    exact UInt8.ofNat_toNat.symm
  -- the size of the character decides between the forms, and its bits are those of the bytes
  rw [utf8EncodeChar_eq]
  cases h with
  | one hb hc => rw [if_pos (by omega), ← hbyte hc.symm]
  | @two b t hb hb' ht hc hmin =>
    obtain ⟨ht, ht'⟩ := ht
    rw [tailBits] at hc
    rw [if_neg (by omega), if_pos (by omega), ← @hbyte b _ (by omega), ← @hbyte t _ (by omega)]
  | @three b t u hb hb' ht hu hc hmin =>
    obtain ⟨ht, ht'⟩ := ht
    obtain ⟨hu, hu'⟩ := hu
    rw [tailBits, tailBits] at hc
    rw [if_neg (by omega), if_neg (by omega), if_pos (by omega), ← @hbyte b _ (by omega),
      ← @hbyte t _ (by omega), ← @hbyte u _ (by omega)]
  | @four b t u v hb hb' ht hu hv hc hmin =>
    obtain ⟨ht, ht'⟩ := ht
    obtain ⟨hu, hu'⟩ := hu
    obtain ⟨hv, hv'⟩ := hv
    rw [tailBits, tailBits, tailBits] at hc
    rw [if_neg (by omega), if_neg (by omega), if_neg (by omega), ← @hbyte b _ (by omega),
      ← @hbyte t _ (by omega), ← @hbyte u _ (by omega), ← @hbyte v _ (by omega)]

/-! ### Many characters -/

/-- What characters are written as one after another is what they stand in, and nothing else is. -/
theorem encodes_iff {cs : List Char} {bytes : List UInt8} :
    Encodes cs bytes ↔ bytes = cs.flatMap String.utf8EncodeChar := by
  constructor
  · intro h
    induction h with
    | nil => rfl
    | cons h _ ih => rw [List.flatMap_cons, ← ih, ← h.eq_utf8EncodeChar]
  · rintro rfl
    induction cs with
    | nil => exact .nil
    | cons c cs ih => exact .cons (encodesChar_utf8EncodeChar c) ih

lemma data_toUTF8 (s : String) :
    s.toUTF8.data.toList = s.toList.flatMap String.utf8EncodeChar := by
  have hbytes : s.toUTF8 = s.toList.utf8Encode := by
    rw [← String.toByteArray_ofList, String.ofList_toList]
    rfl
  rw [hbytes, List.utf8Encode, List.data_toByteArray]

/-- A text stands in its bytes. -/
theorem encodes_toUTF8 (s : String) : Encodes s.toList s.toUTF8.data.toList :=
  encodes_iff.mpr (data_toUTF8 s)

lemma toUTF8_eq_iff {s : String} {bytes : ByteArray} :
    s.toUTF8 = bytes ↔ Encodes s.toList bytes.data.toList := by
  rw [encodes_iff, ← data_toUTF8, Array.toList_inj, eq_comm, ByteArray.ext_iff]

/-- The strict decoding gives the text that the bytes stand for. -/
theorem utf8?_eq_some_iff {bytes : ByteArray} {s : String} :
    utf8? bytes = some s ↔ Encodes s.toList bytes.data.toList := by
  rw [← toUTF8_eq_iff, utf8?, String.fromUTF8?]
  constructor
  · intro h
    split at h
    · obtain rfl := Option.some.inj h
      rfl
    · cases h
  · rintro rfl
    exact dif_pos s.isValidUTF8

end Sidebar.Text
