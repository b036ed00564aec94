import Sidebar.Settings
import Sidebar.Proofs.FileSystem.Places
import Sidebar.Proofs.FileSystem.Writing
import Sidebar.Proofs.Json.Parsed
import Sidebar.Proofs.Json.ReadBack

/-!
# Saved settings

What is saved in a file that can be written is loaded from it again, with its fields in the order
of their names. So saving what has been loaded does not change the file, and setting one of the
settings keeps the content of all others.
-/

namespace Sidebar

lemma Json.Same.rel_refl (v : Option Json) : Option.Rel Same v v := by
  cases v with
  | none => exact .none
  | some v => exact .some (.refl v)

namespace Fields

/-- The values with the given name have the same content, or there are none. -/
def SameAt (name : WideText) (fields fields' : Fields) : Prop :=
  Option.Rel Json.Same (get? fields name) (get? fields' name)

namespace SameAt

variable {name : WideText} {a b c : Fields}

lemma of_get?_eq (h : get? a name = get? b name) : SameAt name a b := by
  rw [SameAt, h]
  exact Json.Same.rel_refl _

lemma trans (hab : SameAt name a b) (hbc : SameAt name b c) : SameAt name a c := by
  rw [SameAt] at *
  generalize get? a name = a' at hab
  generalize get? b name = b' at hab hbc
  generalize get? c name = c' at hbc ⊢
  cases hab with
  | none => exact hbc
  | some hab =>
    cases hbc with
    | some hbc => exact .some (hab.trans hbc)

end SameAt

lemma sameAt_inOrder {fields : Fields} {levels : Nat} (h : Json.Storable levels (.obj fields))
    (name : WideText) : SameAt name fields (Json.inOrder fields) := by
  rw [SameAt, Json.get?_inOrder h.names]
  cases hget : get? fields name with
  | none => exact .none
  | some value =>
    cases h with
    | obj _ _ hvalue => exact .some (hvalue _ (mem_of_get?_eq_some hget)).same_sorted

end Fields

lemma Json.Same.get? {fields fields' : Fields} (h : Same (.obj fields) (.obj fields'))
    (name : WideText) : Fields.SameAt name fields fields' := by
  cases h with
  | refl => exact Fields.SameAt.of_get?_eq rfl
  | obj names value =>
    have hname := names name
    rw [Fields.SameAt]
    cases hget : Fields.get? fields name with
    | none =>
      rw [hget, Option.isSome_none, eq_comm, Option.isSome_eq_false_iff,
        Option.isNone_iff_eq_none] at hname
      rw [hname]
      exact .none
    | some v =>
      obtain ⟨w, hw⟩ := Option.isSome_iff_exists.mp (hname.symm.trans (by rw [hget]; rfl))
      rw [hw]
      exact .some (value name v w hget hw)

namespace Settings

/-! ### The values -/

lemma joined_sessionsKey : sessionsKey.Joined := WideText.joined_ofString "sessions"

lemma joined_showHiddenKey : showHiddenKey.Joined := WideText.joined_ofString "show_hidden"

lemma showHidden_congr {before after : Fields} (h : Fields.SameAt showHiddenKey before after) :
    showHidden after = showHidden before := by
  rw [Fields.SameAt] at h
  rw [showHidden, showHidden]
  generalize Fields.get? before showHiddenKey = v at h
  generalize Fields.get? after showHiddenKey = v' at h
  cases h with
  | none => rfl
  | some h => cases h <;> rfl

lemma maxTreeDepth_congr {before after : Fields} (h : Fields.SameAt maxTreeDepthKey before after) :
    maxTreeDepth after = maxTreeDepth before := by
  rw [Fields.SameAt] at h
  rw [maxTreeDepth, maxTreeDepth]
  generalize Fields.get? before maxTreeDepthKey = v at h
  generalize Fields.get? after maxTreeDepthKey = v' at h
  cases h with
  | none => rfl
  | some h => cases h <;> rfl

/-! ### The file -/

/-- The bytes of the file, if it can be read. -/
def content? (fs : FileSystem) (file : Path) : Option ByteArray := (fs.bytesAt file).toOption

/-- The settings that the bytes of a file hold. -/
def ofContent : Option ByteArray → Except Failure Fields
  | none => .ok []
  | some bytes =>
    match String.fromUTF8? bytes with
    | none => .ok []
    | some text => parse text

/-- Loading looks at nothing but the bytes of the file. -/
lemma load_eq_ofContent (fs : FileSystem) (file : Path) :
    load fs file = ofContent (content? fs file) := by
  rw [load, content?]
  cases fs.bytesAt file <;> rfl

/-- The directories that lead to the file can be created, and the file can be written. -/
def Writable (fs : FileSystem) (file : Path) : Prop :=
  ∃ prepared, fs.ensureDirectories file.parent = (prepared, .ok ()) ∧
    ∃ bytes saved, prepared.putFile file bytes = .ok saved

/-- A file that stands at the root can be written there, and so can one that is not there yet. -/
lemma writable_name {fs : FileSystem} {name : String} (hname : ValidName name)
    (hshort : name.utf8ByteSize ≤ FileSystem.maxNameBytes)
    (hfile : ∀ inode, fs.entries.lookup name = some inode → ∃ bytes, inode = .file bytes) :
    Writable fs ⟨.root, [name]⟩ := by
  refine ⟨fs, rfl, ByteArray.empty, fs.set [name] (.file ByteArray.empty), ?_⟩
  have hlink : ∀ target, fs.entries.lookup name ≠ some (.link target) := by
    intro target htarget
    obtain ⟨bytes, hbytes⟩ := hfile _ htarget
    cases hbytes
  rw [FileSystem.putFile, FileSystem.locate_name hname hshort hlink]
  cases hlookup : fs.entries.lookup name with
  | none => rfl
  | some inode =>
    obtain ⟨bytes, rfl⟩ := hfile inode hlookup
    rfl

lemma fromUTF8?_toUTF8 (s : String) : String.fromUTF8? s.toUTF8 = some s :=
  dif_pos s.isValidUTF8

section Save

variable {fs : FileSystem} {file : Path}

/-- A file that can be written holds what is saved, and can be written again. -/
theorem Writable.save (h : Writable fs file) (value : Json) :
    fs.GrowsTo (save fs file value) ∧
      (Settings.save fs file value).bytesAt file = .ok (written value).toUTF8 ∧
      Writable (Settings.save fs file value) file := by
  obtain ⟨prepared, hprepared, bytes, other, hput⟩ := h
  obtain ⟨saved, hsaved⟩ := FileSystem.exists_putFile hput (written value).toUTF8
  obtain ⟨hgrow, hagain⟩ := FileSystem.ensureDirectories_again hprepared
  obtain ⟨hgrow', place, hfound⟩ := FileSystem.exists_place_of_putFile hsaved
  have hsave : Settings.save fs file value = saved := by
    rw [Settings.save, hprepared]
    simp only [hsaved]
  rw [hsave]
  refine ⟨hgrow.trans hgrow', FileSystem.bytesAt_of_found hfound, ?_⟩
  exact ⟨saved, hagain saved hgrow', _, _, FileSystem.putFile_of_found hfound bytes⟩

lemma Writable.content?_save (h : Writable fs file) (value : Json) :
    content? (Settings.save fs file value) file = some (written value).toUTF8 := by
  rw [content?, (h.save value).2.1]
  rfl

/-- The text of storable settings is read as the settings. -/
lemma ofContent_written {fields : Fields} (h : Json.Storable Json.maxNesting (.obj fields)) :
    ofContent (some (written (.obj fields)).toUTF8) = .ok (Json.inOrder fields) := by
  rw [ofContent, fromUTF8?_toUTF8]
  simp only [written, parse, h.parse_written, Json.sorted_obj]

lemma Writable.load_save (h : Writable fs file) {fields : Fields}
    (hfields : Json.Storable Json.maxNesting (.obj fields)) :
    load (Settings.save fs file (.obj fields)) file = .ok (Json.inOrder fields) := by
  rw [load_eq_ofContent, h.content?_save, ofContent_written hfields]

/-- Settings that have been loaded can be saved and loaded again. -/
lemma storable_of_ofContent {content : Option ByteArray} {fields : Fields}
    (h : ofContent content = .ok fields) : Json.Storable Json.maxNesting (.obj fields) := by
  have hempty : Json.Storable Json.maxNesting (.obj []) := .empty
  cases content with
  | none => rwa [← Except.ok.inj h]
  | some bytes =>
    rw [ofContent] at h
    split at h
    · rwa [← Except.ok.inj h]
    · next text _ =>
      rw [parse] at h
      split at h
      · next fields' hparse =>
        obtain rfl := Except.ok.inj h
        exact Json.storable_of_parse hparse
      · rwa [← Except.ok.inj h]
      · rwa [← Except.ok.inj h]
      · simp at h

lemma storable_of_load {fields : Fields} (h : load fs file = .ok fields) :
    Json.Storable Json.maxNesting (.obj fields) :=
  storable_of_ofContent (load_eq_ofContent fs file ▸ h)

/-- The text that is written depends on the content only. -/
lemma written_congr {v w : Json} {levels levels' : Nat} (h : Json.Same v w)
    (hv : Json.Storable levels v) (hw : Json.Storable levels' w) : written v = written w := by
  rw [written, written, Json.print, Json.print, h.sorted_eq hv hw]

/-- What is saved is loaded with the same content. Whatever the order of its fields was, the text
is the same, so that saving what has been loaded leaves the file as it is. -/
theorem Writable.load_save_same (h : Writable fs file) {fields : Fields}
    (hfields : Json.Storable Json.maxNesting (.obj fields)) :
    (∃ loaded, load (Settings.save fs file (.obj fields)) file = .ok loaded ∧
      Json.Same (.obj fields) (.obj loaded) ∧
      (Settings.save (Settings.save fs file (.obj fields)) file (.obj loaded)).bytesAt file =
        (Settings.save fs file (.obj fields)).bytesAt file) ∧
    ∀ other : Fields, Json.Storable Json.maxNesting (.obj other) →
      Json.Same (.obj fields) (.obj other) → written (.obj other) = written (.obj fields) := by
  constructor
  · have hsame : Json.Same (.obj fields) (.obj (Json.inOrder fields)) := by
      have := hfields.same_sorted
      rwa [Json.sorted_obj] at this
    have hinOrder : Json.Storable Json.maxNesting (.obj (Json.inOrder fields)) := by
      have := hfields.sorted
      rwa [Json.sorted_obj] at this
    obtain ⟨-, hbytes, hagain⟩ := h.save (.obj fields)
    refine ⟨Json.inOrder fields, h.load_save hfields, hsame, ?_⟩
    rw [(hagain.save _).2.1, hbytes, written_congr hsame hfields hinOrder]
  · intro other hother hsame
    exact (written_congr hsame hfields hother).symm

/-- Settings whose fields are not in the order of their names. -/
def unordered : Fields := [("b", .int 1), ("a", .arr [.str "x", .null])]

theorem load_save_same_unordered :
    Writable {} (.absolute ["s.json"]) ∧ Json.Storable Json.maxNesting (.obj unordered) ∧
      ∃ loaded, load (Settings.save {} (.absolute ["s.json"]) (.obj unordered))
          (.absolute ["s.json"]) = .ok loaded ∧ Json.Same (.obj unordered) (.obj loaded) := by
  have hname : ValidName "s.json" := by simp [validName_iff]
  have hwritable : Writable {} (.absolute ["s.json"]) :=
    writable_name hname (by decide) fun inode hinode => by simp at hinode
  have hstorable : Json.Storable Json.maxNesting (.obj unordered) := by
    refine .obj (by decide) (fun field hfield => ?_) fun field hfield => ?_
    · rcases List.mem_cons.mp hfield with rfl | hfield
      · exact WideText.joined_ofString "b"
      · obtain rfl := List.mem_singleton.mp hfield
        exact WideText.joined_ofString "a"
    rcases List.mem_cons.mp hfield with rfl | hfield
    · refine .int (Nat.lt_of_lt_of_le (by decide : 1 < 10 ^ 1) ?_)
      exact Nat.pow_le_pow_right (by decide) (by decide)
    · obtain rfl := List.mem_singleton.mp hfield
      refine .arr fun v hv => ?_
      rcases List.mem_cons.mp hv with rfl | hv
      · exact .str (WideText.joined_ofString "x")
      · rw [List.mem_singleton.mp hv]
        exact .null
  obtain ⟨⟨loaded, hload, hsame, -⟩, -⟩ := hwritable.load_save_same hstorable
  exact ⟨hwritable, hstorable, loaded, hload, hsame⟩

/-- The settings have been saved: the file can be written again, and holds them. -/
structure Saved (file : Path) (fs saved : FileSystem) (loaded : Fields) : Prop where
  grow : fs.GrowsTo saved
  writable : Writable saved file
  load : load saved file = .ok loaded

/-- Setting one of the settings keeps the content of the others. -/
theorem Writable.exists_update (h : Writable fs file) {fields : Fields}
    (hload : load fs file = .ok fields) {value : Json}
    (hvalue : Json.Storable (Json.maxNesting - 1) value) {key : WideText} (hkey : key.Joined) :
    ∃ saved loaded, update fs file key value = .ok saved ∧ Saved file fs saved loaded ∧
      Fields.get? loaded key = some value.sorted ∧
      ∀ other, other ≠ key → Fields.SameAt other fields loaded := by
  have hput : Json.Storable Json.maxNesting (.obj (Fields.put key value fields)) :=
    Json.Storable.put (storable_of_load hload) hkey hvalue
  obtain ⟨hgrow, -, hagain⟩ := h.save (.obj (Fields.put key value fields))
  refine ⟨_, Json.inOrder (Fields.put key value fields), ?_, ⟨hgrow, hagain, h.load_save hput⟩, ?_,
    fun other hother => ?_⟩
  · rw [update, hload]
    rfl
  · rw [Json.get?_inOrder hput.names, Fields.get?_put_self, Option.map_some]
  · exact (Fields.SameAt.of_get?_eq (Fields.get?_put_of_ne hother value fields).symm).trans
      (Fields.sameAt_inOrder hput other)

end Save

end Settings

end Sidebar
