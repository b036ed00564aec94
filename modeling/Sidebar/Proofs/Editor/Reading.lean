import Sidebar.Editor.FileContent
import Sidebar.Proofs.FileSystem.Places
import Sidebar.Proofs.Text.Utf8

/-!
# Reading text files

A file is opened for one encoding after another, and read in the first that fits its bytes: strict
UTF-8, UTF-8 behind a mark, one character for each byte. The last of these fits all bytes, so what
would be done with a file that none of them fits makes no difference.

Bytes that are no UTF-8 are read one by one, but for a mark that ends too early: the second encoding
takes it for a mark with no text behind it.
-/

namespace Sidebar

namespace Text

variable {bytes : ByteArray} {s : String}

/-! ### Line ends -/

/-- The text with uniform line ends. -/
def withUnixNewlines (s : String) : String := String.ofList (unixNewlines s.toList)

lemma unixNewlines_eq_self {cs : List Char} (h : '\r' ∉ cs) : unixNewlines cs = cs := by
  fun_induction unixNewlines cs with
  | case1 rest ih => exact absurd List.mem_cons_self h
  | case2 rest _ ih => exact absurd List.mem_cons_self h
  | case3 c rest _ _ ih => rw [ih fun hmem => h (List.mem_cons_of_mem c hmem)]
  | case4 => rfl

lemma withUnixNewlines_eq_self (h : '\r' ∉ s.toList) : withUnixNewlines s = s := by
  rw [withUnixNewlines, unixNewlines_eq_self h, String.ofList_toList]

/-! ### Marks -/

/-- The bytes of a mark that ends too early. -/
def IsCutMark (bytes : List UInt8) : Prop := bytes = [0xEF] ∨ bytes = [0xEF, 0xBB]

/-- A mark is a character by itself. -/
lemma encodesChar_utf8Mark : EncodesChar '\uFEFF' utf8Mark :=
  .three (by decide) (by decide) ⟨by decide, by decide⟩ ⟨by decide, by decide⟩ (by decide)
    (by decide)

lemma utf8?_eq_none_iff :
    utf8? bytes = none ↔ ∀ s : String, ¬ Encodes s.toList bytes.data.toList := by
  rw [Option.eq_none_iff_forall_not_mem]
  exact forall_congr' fun s => not_congr utf8?_eq_some_iff

/-- The first byte of a mark begins a character of three bytes, so a cut mark holds none. -/
lemma IsCutMark.not_encodes {bytes : List UInt8} (h : IsCutMark bytes) (cs : List Char) :
    ¬ Encodes cs bytes := by
  intro hencodes
  cases hencodes with
  | nil => rcases h with h | h <;> cases h
  | cons hc hrest =>
    cases hc with
    | one hb =>
      rcases h with h | h <;> obtain ⟨rfl, -⟩ := List.cons.inj h <;> exact absurd hb (by decide)
    | two hb hb' =>
      rcases h with h | h <;> obtain ⟨rfl, -⟩ := List.cons.inj h <;> exact absurd hb' (by decide)
    | three => rcases h with h | h <;> cases h
    | four => rcases h with h | h <;> cases h

/-- The second encoding takes a cut mark for a mark with no text behind it. -/
lemma IsCutMark.markedUtf8?_eq (h : IsCutMark bytes.data.toList) : markedUtf8? bytes = some "" := by
  rw [markedUtf8?]
  rcases h with h | h <;> rw [h] <;> rfl

/-- But for a cut mark, what is no UTF-8 is none behind a mark either, since the mark is a character
by itself. -/
lemma markedUtf8?_eq_none (h : utf8? bytes = none) (hcut : ¬ IsCutMark bytes.data.toList) :
    markedUtf8? bytes = none := by
  have hnone := utf8?_eq_none_iff.mp h
  rw [markedUtf8?]
  split
  · next hmark =>
    obtain ⟨rest, hrest⟩ := List.isPrefixOf_iff_prefix.mp hmark
    have hbehind : (bytes.extract 3 bytes.size).data.toList = rest := by
      have hsize : (utf8Mark ++ rest).length = bytes.size := congrArg List.length hrest
      rw [ByteArray.data_extract, Array.toList_extract, ← hrest, ← hsize, List.extract_eq_take_drop]
      simp [utf8Mark]
    rw [utf8?_eq_none_iff]
    intro s hs
    refine hnone (String.ofList ('\uFEFF' :: s.toList)) ?_
    rw [String.toList_ofList, ← hrest]
    rw [hbehind] at hs
    exact .cons encodesChar_utf8Mark hs
  · next hmark =>
    split
    · next hprefix =>
      -- the bytes are empty, a cut mark or a whole one
      have hpart := List.isPrefixOf_iff_prefix.mp hprefix
      simp only [utf8Mark, List.prefix_cons_iff, List.prefix_nil] at hpart
      rcases hpart with hempty | ⟨_, hpart, rfl | ⟨_, rfl, rfl | ⟨_, rfl, rfl⟩⟩⟩
      · exact absurd (hempty ▸ .nil) (hnone "")
      · exact absurd (.inl hpart) hcut
      · exact absurd (.inr hpart) hcut
      · rw [hpart] at hmark
        exact absurd rfl hmark
    · exact h

/-! ### Texts of files -/

lemma ofFile_of_encodes (h : Encodes s.toList bytes.data.toList) :
    ofFile bytes = withUnixNewlines s := by
  rw [ofFile, decode, utf8?_eq_some_iff.mpr h]
  rfl

lemma ofFile_of_cutMark (h : IsCutMark bytes.data.toList) : ofFile bytes = "" := by
  have hnone : utf8? bytes = none := utf8?_eq_none_iff.mpr fun s => h.not_encodes s.toList
  rw [ofFile, decode, hnone, h.markedUtf8?_eq]
  rfl

lemma ofFile_of_eq_none (h : utf8? bytes = none) (hcut : ¬ IsCutMark bytes.data.toList) :
    ofFile bytes = withUnixNewlines (latin1 bytes) := by
  rw [ofFile, decode, h, markedUtf8?_eq_none h hcut]
  rfl

end Text

namespace Editor

open Text

/-! ### One encoding after another -/

section Reading

variable (fs : FileSystem) (p : Path) (lastResort : ByteArray → String)

/-- Opens the file for one encoding after another and reads it in the first that fits. If none does,
it is opened once more for the last resort. -/
def readFirst : List (ByteArray → Option String) → Except AccessError String
  | [] => do
    let bytes ← fs.bytesAt p
    return lastResort bytes
  | decode :: rest => do
    let bytes ← fs.bytesAt p
    match decode bytes with
    | some text => return withUnixNewlines text
    | none => readFirst rest

/-- The text of a file. -/
def readText : Except AccessError String :=
  readFirst fs p lastResort [utf8?, markedUtf8?, fun bytes => some (latin1 bytes)]

end Reading

variable {fs : FileSystem} {p : Path} {bytes : ByteArray} {lastResort : ByteArray → String}

/-- A file that can be opened once can be opened again, and holds the same bytes. -/
lemma readFirst_cons (h : fs.bytesAt p = .ok bytes) (decode : ByteArray → Option String)
    (rest : List (ByteArray → Option String)) :
    readFirst fs p lastResort (decode :: rest) =
      match decode bytes with
      | some text => .ok (withUnixNewlines text)
      | none => readFirst fs p lastResort rest := by
  rw [readFirst, h]
  rfl

/-- One encoding after another gives the text that is decoded at once. The last resort is never
used. -/
theorem readText_eq (fs : FileSystem) (p : Path) (lastResort : ByteArray → String) :
    readText fs p lastResort = (fs.bytesAt p).map ofFile := by
  cases h : fs.bytesAt p with
  | error e =>
    rw [readText, readFirst, h]
    rfl
  | ok bytes =>
    rw [readText, readFirst_cons h, readFirst_cons h, readFirst_cons h, Except.map, ofFile, decode]
    cases utf8? bytes with
    | some s => rfl
    | none => cases markedUtf8? bytes <;> rfl

/-- What the editor shows of a file that is no image is its text. -/
lemma loadFile_eq {lexers : Lexers} {path : String} (h : fs.bytesAt (.ofString path) = .ok bytes)
    (himage : isImage (Path.ofString path).name = false) :
    loadFile lexers fs path =
      .ok (.text (modeOf lexers (Path.ofString path).name (ofFile bytes)) (ofFile bytes)) := by
  simp only [loadFile, himage, h, Bool.false_eq_true, if_false]

/-- The text is what is read of a file that holds the bytes. -/
structure ReadsAs (fs : FileSystem) (p : Path) (bytes : ByteArray) (text : String) : Prop where
  read : ∀ lastResort, readText fs p lastResort = .ok text
  shown : ∀ lexers path, Path.ofString path = p → isImage p.name = false →
    loadFile lexers fs path = .ok (.text (modeOf lexers p.name text) text)
  utf8 : ∀ s : String, Encodes s.toList bytes.data.toList → text = withUnixNewlines s
  other : (∀ s : String, ¬ Encodes s.toList bytes.data.toList) →
    ¬ IsCutMark bytes.data.toList →
      markedUtf8? bytes = none ∧ text = withUnixNewlines (latin1 bytes)
  cutMark : IsCutMark bytes.data.toList →
    (∀ s : String, ¬ Encodes s.toList bytes.data.toList) ∧ markedUtf8? bytes = some "" ∧ text = ""
  readBack : ∀ s : String, s.toUTF8 = bytes → '\r' ∉ s.toList → text = s

/-- A file in UTF-8 is read as its text and any other file byte by byte, but for a cut mark, which
is read as nothing; in each case with uniform line ends. So a text without carriage returns is read
back from its bytes, with the mark that it may begin with. -/
theorem exists_readsAs (h : fs.bytesAt p = .ok bytes) : ∃ text, ReadsAs fs p bytes text := by
  refine ⟨ofFile bytes, ?_, ?_, fun s hs => ofFile_of_encodes hs, ?_, ?_, ?_⟩
  · intro lastResort
    rw [readText_eq, h]
    rfl
  · rintro lexers path rfl himage
    exact loadFile_eq h himage
  · intro hnone hcut
    rw [← utf8?_eq_none_iff] at hnone
    exact ⟨markedUtf8?_eq_none hnone hcut, ofFile_of_eq_none hnone hcut⟩
  · intro hcut
    exact ⟨fun s => hcut.not_encodes s.toList, hcut.markedUtf8?_eq, ofFile_of_cutMark hcut⟩
  · rintro s rfl hplain
    rw [ofFile_of_encodes (encodes_toUTF8 s), withUnixNewlines_eq_self hplain]

/-- A directory with one file. -/
def oneFile (bytes : List UInt8) : FileSystem := { entries := [("a", .file ⟨⟨bytes⟩⟩)] }

lemma bytesAt_oneFile (bytes : List UInt8) :
    (oneFile bytes).bytesAt ⟨.root, ["a"]⟩ = .ok ⟨⟨bytes⟩⟩ := by
  have hname : ValidName "a" := by simp [validName_iff]
  have hlink : ∀ target, (oneFile bytes).entries.lookup "a" ≠ some (.link target) := by
    simp [oneFile]
  rw [FileSystem.bytesAt, FileSystem.stat, FileSystem.locate_name hname (by decide) hlink]
  rfl

theorem exists_readsAs_markedFile :
    (oneFile [0xEF, 0xBB, 0xBF, 0x61, 0x0D]).bytesAt ⟨.root, ["a"]⟩ =
        .ok ⟨⟨[0xEF, 0xBB, 0xBF, 0x61, 0x0D]⟩⟩ ∧
      ∃ text, ReadsAs (oneFile [0xEF, 0xBB, 0xBF, 0x61, 0x0D]) ⟨.root, ["a"]⟩
        ⟨⟨[0xEF, 0xBB, 0xBF, 0x61, 0x0D]⟩⟩ text ∧ text = "\uFEFFa\n" := by
  refine ⟨bytesAt_oneFile _, ?_⟩
  obtain ⟨text, htext⟩ := exists_readsAs (bytesAt_oneFile [0xEF, 0xBB, 0xBF, 0x61, 0x0D])
  exact ⟨text, htext, htext.utf8 "\uFEFFa\r" (encodes_iff.mpr rfl)⟩

/-- A file that holds the first byte of a mark is no UTF-8, but the second encoding fits it. It is
read as nothing, and not as the character of its byte. -/
theorem readText_cutMark :
    (oneFile [0xEF]).bytesAt ⟨.root, ["a"]⟩ = .ok ⟨⟨[0xEF]⟩⟩ ∧
      (∀ s : String, ¬ Encodes s.toList [0xEF]) ∧ markedUtf8? ⟨⟨[0xEF]⟩⟩ = some "" ∧
      (∀ lastResort, readText (oneFile [0xEF]) ⟨.root, ["a"]⟩ lastResort = .ok "") ∧
      withUnixNewlines (latin1 ⟨⟨[0xEF]⟩⟩) = "ï" := by
  have hcut : IsCutMark [0xEF] := .inl rfl
  refine ⟨bytesAt_oneFile _, fun s => hcut.not_encodes s.toList, rfl, fun lastResort => ?_, rfl⟩
  rw [readText_eq, bytesAt_oneFile]
  exact congrArg Except.ok (ofFile_of_cutMark hcut)

end Editor

end Sidebar
