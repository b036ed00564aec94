import Sidebar.Proofs.CommandLine.Parallel
import Sidebar.Proofs.FileSystem.Replaced

/-!
# Damaged settings

A file of settings that holds no object is not seen: a run ends and prints as without it, and leaves
the same text when it saves, as long as it does not scan a directory that the file lies below. Nor
does a run see what is not of its kind in an object: it ends and prints the same when the settings
are replaced by sanitised ones.
-/

namespace Sidebar

open FileSystem

namespace Settings

/-! ### What a file holds -/

/-- The bytes are the text of an object that can be read: neither is it nested too deeply, nor has a
number in it too many digits. -/
def Holds (bytes : ByteArray) (fields : Fields) : Prop :=
  ∃ text, String.fromUTF8? bytes = some text ∧ Json.parse text = .ok (.obj fields)

/-- The bytes are the text of no object. Texts that are nested too deeply are not among them: they
are refused. -/
def HoldsNone (bytes : ByteArray) : Prop :=
  ∀ text, String.fromUTF8? bytes = some text →
    Json.parse text = .error .malformed ∨
      ∃ value, Json.parse text = .ok value ∧ isObject value = false

lemma Holds.ofContent {bytes : ByteArray} {fields : Fields} (h : Holds bytes fields) :
    ofContent (some bytes) = .ok fields := by
  obtain ⟨text, htext, hparse⟩ := h
  simp only [Settings.ofContent, htext, parse, hparse]

lemma HoldsNone.ofContent {bytes : ByteArray} (h : HoldsNone bytes) :
    ofContent (some bytes) = .ok [] := by
  rw [Settings.ofContent]
  cases htext : String.fromUTF8? bytes with
  | none => rfl
  | some text =>
    simp only [parse]
    rcases h text htext with hparse | ⟨value, hparse, hobject⟩
    · rw [hparse]
    · rw [hparse]
      cases value with
      | obj fields => cases hobject
      | _ => rfl

/-- The text of storable settings is that of an object with their content. -/
lemma exists_holds {fields : Fields} (h : Json.Storable Json.maxNesting (.obj fields)) :
    ∃ bytes fields', Holds bytes fields' ∧ Json.Same (.obj fields) (.obj fields') := by
  refine ⟨(written (.obj fields)).toUTF8, Json.inOrder fields,
    ⟨_, fromUTF8?_toUTF8 _, ?_⟩, ?_⟩
  · rw [written, h.parse_written, Json.sorted_obj]
  · have hsame := h.same_sorted
    rwa [Json.sorted_obj] at hsame

section File

variable {fs : FileSystem} {file : Path} {place : Place} {bytes : ByteArray}

lemma writable_of_found (h : fs.locate true file = .ok (.found place (.file bytes))) :
    Writable fs file :=
  ⟨fs, ensureDirectories_of_locate h, bytes, _, putFile_of_found h bytes⟩

/-- A file can be written where the path leads to it, or to where it is missing. -/
lemma writable_of_lands (h : Lands place (fs.locate true file)) : Writable fs file := by
  generalize houtcome : fs.locate true file = outcome at h
  cases h with
  | found bytes => exact writable_of_found houtcome
  | @missing directory name =>
    refine ⟨fs, ensureDirectories_of_locate houtcome, ByteArray.empty,
      fs.set (directory ++ [name]) (.file ByteArray.empty), ?_⟩
    rw [putFile, houtcome]
    rfl

lemma content?_of_found (h : fs.locate true file = .ok (.found place (.file bytes))) :
    content? fs file = some bytes := by
  rw [content?, bytesAt_of_found h]
  rfl

/-- A file that has been removed cannot be read. -/
lemma content?_erase (hproper : fs.Proper) (hstands : fs.Stands)
    (h : fs.locate true file = .ok (.found place (.file bytes))) :
    content? (fs.erase place) file = none := by
  have hat := at?_of_locate_found h
  have hlands := (differAt_erase hproper hstands hat).lands h
  generalize houtcome : (fs.erase place).locate true file = outcome at hlands
  cases hlands with
  | found bytes' =>
    have hfound := at?_of_locate_found houtcome
    rw [at?_erase hproper hat] at hfound
    cases hfound
  | missing =>
    rw [content?, bytesAt, stat, houtcome]
    rfl

lemma content?_set (h : fs.locate true file = .ok (.found place (.file bytes)))
    (bytes' : ByteArray) : content? (fs.set place (.file bytes')) file = some bytes' :=
  content?_of_found (locate_set_file h bytes').2

end File

end Settings

/-! ### Runs -/

/-- File systems that differ in one file answer alike, where the settings are read alike. -/
lemma FileSystem.DifferAt.parallel {place : Place} {fs fs' : FileSystem}
    (h : DifferAt place fs fs') {ctx : CommandLine.Context} {before before' : Fields}
    (hload : Settings.load fs ctx.settings = .ok before)
    (hload' : Settings.load fs' ctx.settings = .ok before')
    (halike : Settings.Alike before before') : CommandLine.Parallel ctx fs fs' where
  resolve := h.resolve_eq
  isDirectory := h.isDirectory_eq
  workingDirectory := by rw [workingDirectory, workingDirectory, h.cwd, h.lost]
  settings := ⟨before, before', hload, hload', halike⟩

namespace CommandLine

variable {fs : FileSystem} {ctx : Context} {place : Place} {bytes : ByteArray}

/-- The directory that a run scans is not one that the place lies below. -/
def ScansOutside (fs : FileSystem) (ctx : Context) (argv : List String) (place : Place) : Prop :=
  ∀ args root directory, parse argv = .ok args → openRoot fs ctx args = .ok root →
    fs.resolve root = .ok directory → fs.Outside place directory

/-- A file of settings without an object is not seen. -/
lemma run_erase (hproper : fs.Proper) (hstands : fs.Stands)
    (hfile : fs.locate true ctx.settings = .ok (.found place (.file bytes)))
    (hnone : Settings.HoldsNone bytes) {argv : List String}
    (houtside : ScansOutside fs ctx argv place) (output : Output) :
    Report.SameAnswer (runOn output fs ctx argv) (runOn output (fs.erase place) ctx argv) ∧
      ((⟨fs, ctx, argv, output⟩ : Invocation).Saves →
        (⟨fs.erase place, ctx, argv, output⟩ : Invocation).left =
          (⟨fs, ctx, argv, output⟩ : Invocation).left) := by
  have hdiffer := differAt_erase hproper hstands (at?_of_locate_found hfile)
  have hload : Settings.load fs ctx.settings = .ok [] := by
    rw [Settings.load_eq_ofContent, Settings.content?_of_found hfile, hnone.ofContent]
  have hload' : Settings.load (fs.erase place) ctx.settings = .ok [] := by
    rw [Settings.load_eq_ofContent, Settings.content?_erase hproper hstands hfile,
      Settings.ofContent]
  have hparallel : Parallel ctx fs (fs.erase place) := hdiffer.parallel hload hload' (.refl [])
  have hmirrored : Settings.Mirrored ctx.settings fs (fs.erase place) :=
    ⟨Settings.writable_of_found hfile,
      Settings.writable_of_lands (hdiffer.lands hfile), hload'.trans hload.symm⟩
  have hscans : ∀ args, parse argv = .ok args → ScansAlike ctx args fs (fs.erase place) := by
    intro args hparse root directory showHidden hroot hdirectory
    have hapart := houtside args root directory hparse hroot hdirectory
    exact hdiffer.scanned_eq_of_outside hapart showHidden
  exact ⟨(hparallel.run hscans hmirrored.writable hmirrored.writable').writtenTo output,
    hparallel.left_eq hscans hmirrored⟩

/-- Settings are not told apart from sanitised ones. -/
lemma run_set (hproper : fs.Proper) (hstands : fs.Stands)
    (hfile : fs.locate true ctx.settings = .ok (.found place (.file bytes)))
    {fields fields' : Fields} (hfields : Settings.Holds bytes fields) {bytes' : ByteArray}
    (hfields' : Settings.Holds bytes' fields')
    (hsame : Json.Same (.obj (Settings.sanitised fields)) (.obj fields')) (argv : List String)
    (output : Output) :
    Report.SameAnswer (runOn output fs ctx argv)
      (runOn output (fs.set place (.file bytes')) ctx argv) := by
  have hat := at?_of_locate_found hfile
  have hdiffer := differAt_set hproper hstands hat bytes'
  have hload : Settings.load fs ctx.settings = .ok fields := by
    rw [Settings.load_eq_ofContent, Settings.content?_of_found hfile, hfields.ofContent]
  have hload' : Settings.load (fs.set place (.file bytes')) ctx.settings = .ok fields' := by
    rw [Settings.load_eq_ofContent, Settings.content?_set hfile, hfields'.ofContent]
  have hstorable := Settings.storable_of_load hload
  have halike : Settings.Alike fields fields' :=
    (Settings.alike_sanitised hstorable).trans
      (.of_same hsame (Settings.storable_sanitised hstorable) (Settings.storable_of_load hload'))
  have hrun : Report.SameAnswer (run fs ctx argv)
      (run (fs.set place (.file bytes')) ctx argv) := (hdiffer.parallel hload hload' halike).run
    (fun _ _ _ _ showHidden _ _ => scanned_set hproper hstands hat bytes' showHidden)
    (Settings.writable_of_found hfile)
    (Settings.writable_of_lands (hdiffer.lands hfile))
  exact hrun.writtenTo output

/-- Damage to the settings cannot be seen. Where their file holds no object, every run that scans a
directory besides it ends and prints as if the file were removed, and leaves the same text when it
saves. Where the file holds an object, every run ends and prints as with the sanitised settings in
its place, in whatever form they are written. -/
theorem sameAnswer_of_damaged_settings (hproper : fs.Proper) (hstands : fs.Stands)
    (hfile : fs.locate true ctx.settings = .ok (.found place (.file bytes))) :
    (Settings.HoldsNone bytes →
      Settings.content? (fs.erase place) ctx.settings = none ∧
      ∀ argv, ScansOutside fs ctx argv place → ∀ output,
        Report.SameAnswer (runOn output fs ctx argv) (runOn output (fs.erase place) ctx argv) ∧
        ((⟨fs, ctx, argv, output⟩ : Invocation).Saves →
          (⟨fs.erase place, ctx, argv, output⟩ : Invocation).left =
            (⟨fs, ctx, argv, output⟩ : Invocation).left)) ∧
    ∀ fields, Settings.Holds bytes fields →
      (∃ bytes' fields', Settings.Holds bytes' fields' ∧
        Json.Same (.obj (Settings.sanitised fields)) (.obj fields')) ∧
      ∀ bytes' fields', Settings.Holds bytes' fields' →
        Json.Same (.obj (Settings.sanitised fields)) (.obj fields') →
        Settings.content? (fs.set place (.file bytes')) ctx.settings = some bytes' ∧
        ∀ argv output, Report.SameAnswer (runOn output fs ctx argv)
          (runOn output (fs.set place (.file bytes')) ctx argv) := by
  refine ⟨fun hnone => ⟨Settings.content?_erase hproper hstands hfile, fun argv houtside =>
    run_erase hproper hstands hfile hnone houtside⟩, fun fields hfields => ⟨?_, ?_⟩⟩
  · have hstorable := Settings.storable_of_ofContent hfields.ofContent
    exact Settings.exists_holds (Settings.storable_sanitised hstorable)
  · intro bytes' fields' hfields' hsame
    exact ⟨Settings.content?_set hfile bytes',
      run_set hproper hstands hfile hfields hfields' hsame⟩

/-- A workspace with a directory and a file in it, and settings beside it. -/
def withSettings (text : String) : FileSystem where
  entries := [
    ("w", .dir [("a", .dir [("b", .file ByteArray.empty)])]),
    ("s.json", .file text.toUTF8)]

/-- Settings in which hardly anything is of its kind. -/
def oddSettings : Fields := [
  ("show_hidden", .int 1), ("max_tree_depth", .bool true),
  ("sessions", .obj [
    ("/v", .int 2),
    ("/w", .obj [("open_paths", .arr [.str "/w/a", .int 3, .str ""]), ("current_file", .int 0)])]),
  ("x", .str [.ofNat 0xD800])]

def oddText : String :=
  "\x7b\"show_hidden\": 1, \"max_tree_depth\": true, \"sessions\": \x7b\"/v\": 2, " ++
  "\"/w\": \x7b\"open_paths\": [\"/w/a\", 3, \"\"], \"current_file\": 0\x7d\x7d, " ++
  "\"x\": \"\\ud800\"\x7d"

/-- The same without what is not of its kind. -/
def plainSettings : Fields :=
  [("sessions", .obj [("/w", .obj [("open_paths", .arr [.str "/w/a"])])]),
    ("x", .str [.ofNat 0xD800])]

def plainText : String :=
  "\x7b\"sessions\": \x7b\"/w\": \x7b\"open_paths\": [\"/w/a\"]\x7d\x7d, \"x\": \"\\ud800\"\x7d"

lemma parse_oddText : Json.parse oddText = .ok (.obj oddSettings) := by cbv

lemma parse_plainText : Json.parse plainText = .ok (.obj plainSettings) := by cbv

lemma sanitised_oddSettings : Settings.sanitised oddSettings = plainSettings := by rfl

lemma proper_withSettings (text : String) : (withSettings text).Proper := by
  simp [FileSystem.Proper, withSettings, Inode.Proper, Inode.ProperAll]

lemma stands_withSettings (text : String) : (withSettings text).Stands := ⟨_, Inode.at?_nil _⟩

lemma locate_withSettings (text : String) :
    (withSettings text).locate true rootSettings.settings =
      .ok (.found ["s.json"] (.file text.toUTF8)) := by
  cbv

/-- A text that is no value is as good as no settings, and a run sees nothing of the odd settings
but what is of its kind. -/
theorem sameAnswer_of_junk_and_oddSettings :
    let junk := withSettings "junk"
    let saving := ["/w", "--expand", "/w/a", "--save"]
    let odd := withSettings oddText
    let plain := odd.set ["s.json"] (.file plainText.toUTF8)
    let restoring := ["/w", "--restore"]
    (junk.Proper ∧ junk.Stands ∧
      junk.locate true rootSettings.settings =
        .ok (.found ["s.json"] (.file "junk".toUTF8)) ∧
      Settings.HoldsNone "junk".toUTF8 ∧ ScansOutside junk rootSettings saving ["s.json"] ∧
      Report.SameAnswer (runOn endless junk rootSettings saving)
        (runOn endless (junk.erase ["s.json"]) rootSettings saving) ∧
      (runOn endless junk rootSettings saving).out = "/w/a\n" ∧
      (⟨junk.erase ["s.json"], rootSettings, saving, endless⟩ : Invocation).left =
        (⟨junk, rootSettings, saving, endless⟩ : Invocation).left) ∧
    odd.Proper ∧ odd.Stands ∧
      odd.locate true rootSettings.settings = .ok (.found ["s.json"] (.file oddText.toUTF8)) ∧
      Settings.Holds oddText.toUTF8 oddSettings ∧
      Report.SameAnswer (runOn endless odd rootSettings restoring)
        (runOn endless plain rootSettings restoring) ∧
      (runOn endless odd rootSettings restoring).out = "/w/a\n" := by
  intro junk saving odd plain restoring
  obtain ⟨hjunk, -⟩ := sameAnswer_of_damaged_settings (proper_withSettings "junk")
    (stands_withSettings "junk") (locate_withSettings "junk")
  obtain ⟨-, hodd⟩ := sameAnswer_of_damaged_settings (proper_withSettings oddText)
    (stands_withSettings oddText) (locate_withSettings oddText)
  have hnone : Settings.HoldsNone "junk".toUTF8 := by
    intro text htext
    rw [Settings.fromUTF8?_toUTF8] at htext
    obtain rfl := Option.some.inj htext
    exact .inl (by cbv)
  have hsaving : parse saving = .ok
      { root := some "/w", expand := [some "/w/a"], save := true } := by cbv
  have houtside : ScansOutside junk rootSettings saving ["s.json"] := by
    intro args root directory hparse hroot hdirectory there inode hlocate hthere
    obtain rfl := Except.ok.inj (hsaving.symm.trans hparse)
    have hroot' : openRoot junk rootSettings
        { root := some "/w", expand := [some "/w/a"], save := true } = .ok (.absolute ["w"]) := by
      cbv
    obtain rfl := Except.ok.inj (hroot'.symm.trans hroot)
    have hdirectory' : junk.resolve (.absolute ["w"]) = .ok (.absolute ["w"]) := by cbv
    obtain rfl := Except.ok.inj (hdirectory'.symm.trans hdirectory)
    have hlocate' : junk.locate true (.absolute ["w"]) =
        .ok (.found ["w"] (.dir [("a", .dir [("b", .file ByteArray.empty)])])) := by cbv
    obtain ⟨rfl, -⟩ := Destination.found.inj (Except.ok.inj (hlocate'.symm.trans hlocate))
    exact absurd hthere (by decide)
  obtain ⟨hsame, hleft⟩ := (hjunk hnone).2 saving houtside endless
  have hprepare : ((prepare junk rootSettings
      { root := some "/w", expand := [some "/w/a"], save := true }).map
        fun w => answer junk w .listOpen) = .ok (.ok ["/w/a"]) := by cbv
  obtain ⟨w, hprepare, hanswer⟩ := map_eq_ok_iff.mp hprepare
  obtain ⟨hnormal, hout⟩ := run_of_answer hsaving hprepare hanswer fun _ =>
    Settings.writable_of_found (locate_withSettings "junk")
  rw [← runOn_of_takesAll takesAll_endless] at hnormal hout
  have hholds : Settings.Holds oddText.toUTF8 oddSettings :=
    ⟨oddText, Settings.fromUTF8?_toUTF8 oddText, parse_oddText⟩
  have hplain : Settings.Holds plainText.toUTF8 (Settings.sanitised oddSettings) := by
    rw [sanitised_oddSettings]
    exact ⟨plainText, Settings.fromUTF8?_toUTF8 plainText, parse_plainText⟩
  have hrestoring : parse restoring = .ok { root := some "/w", restore := true } := by cbv
  have hprepare' : ((prepare odd rootSettings { root := some "/w", restore := true }).map
      fun w => answer odd w .listOpen) = .ok (.ok ["/w/a"]) := by
    have hload : Settings.load odd rootSettings.settings = .ok oddSettings := by
      rw [Settings.load_eq_ofContent, Settings.content?_of_found (locate_withSettings oddText),
        hholds.ofContent]
    simp only [prepare_eq, loadWorkspace_eq, hiddenShown_eq hload, restore, Session.load, hload]
    cbv
  obtain ⟨w', hprepare', hanswer'⟩ := map_eq_ok_iff.mp hprepare'
  have hout' := (run_of_answer hrestoring hprepare' hanswer' fun hsave =>
    absurd hsave Bool.false_ne_true).2
  rw [← runOn_of_takesAll takesAll_endless] at hout'
  constructor
  · exact ⟨proper_withSettings _, stands_withSettings _, locate_withSettings _, hnone, houtside,
      hsame, hout, hleft ⟨hnormal, _, hsaving, rfl⟩⟩
  · exact ⟨proper_withSettings _, stands_withSettings _, locate_withSettings _, hholds,
      ((hodd _ hholds).2 _ _ hplain (.refl _)).2 restoring endless, hout'⟩

end CommandLine

end Sidebar
