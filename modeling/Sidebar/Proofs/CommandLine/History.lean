import Sidebar.Proofs.CommandLine.Run
import Sidebar.Proofs.Session.Saved

/-!
# Histories of runs

Runs that follow each other have nothing in common but the file of the settings: each finds it as
the last one left it, in a file system of its own. Each can write to the file, and prints what it
has to print. Then it changes the file only when it ends normally and was asked to save, and only in
the open directories of one session and in the preference for hidden files, if the arguments name
one.

Main statement: what a history of runs makes of the settings, by induction from what one run does.
-/

namespace Sidebar.CommandLine

variable {fs : FileSystem} {ctx : Context} {args : Arguments} {w : Workspace}

/-! ### One saving run -/

/-- The record of a session with other open paths. -/
def reopened (previous : Option SessionRecord) (openPaths : List String) : SessionRecord :=
  { previous.getD {} with openPaths := openPaths.map .ofString }

/-- Nothing has been set but the open paths under a name and, if one is given, the preference for
hidden files. -/
structure Sets (name : String) (openPaths : List String) (showHidden : Option Bool)
    (before after : Fields) : Prop where
  records : ∀ other, Session.record? after other =
    if other = (name : WideText) then some (reopened (Session.record? before name) openPaths)
    else Session.record? before other
  showHidden : Settings.showHidden after = showHidden.getD (Settings.showHidden before)
  others : ∀ key, key ≠ Settings.sessionsKey → key ≠ Settings.showHiddenKey →
    Fields.SameAt key before after

/-- A prepared workspace can be saved, if the file can be written. -/
theorem exists_save_of_prepare (hprepare : prepare fs ctx args = .ok w)
    (hwritable : Settings.Writable fs ctx.settings) {before : Fields}
    (hload : Settings.load fs ctx.settings = .ok before) :
    ∃ saved events name after, save fs ctx args w = .ok (saved, events) ∧
      Session.key fs w.root = .ok name ∧ Settings.Saved ctx.settings fs saved after ∧
      Sets name w.store.forest.openPaths args.showHidden before after := by
  obtain ⟨_, _, _, -, -, hscan, -, -⟩ := exists_scan_of_prepare hprepare
  obtain ⟨directory, hdirectory, -⟩ := FileSystem.exists_directory_of_scan hscan
  have hkey : Session.key fs w.root = .ok directory.toString := by
    rw [Session.key, hdirectory]
    rfl
  have hlasts : (SessionRecord.capture w.store.forest none
      (Session.record? before directory.toString)).Lasts :=
    Session.lasts_capture (openPaths_ne_empty hprepare)
      (fun t ht => absurd ht (Option.not_mem_none t)) (Settings.storable_of_load hload) _
  obtain ⟨session, after, hsession, hrecord, hsaved, hrecords, hothers⟩ :=
    Session.exists_save hwritable hload hkey w.store.forest none hlasts
  have hreopened : session.record =
      reopened (Session.record? before directory.toString) w.store.forest.openPaths := hrecord
  rw [hreopened] at hrecords
  rw [save, hsession]
  cases args.showHidden with
  | none =>
    refine ⟨session.fs, session.events, directory.toString, after, rfl, hkey, hsaved, hrecords, ?_,
      fun key hkey _ => hothers key hkey⟩
    exact Settings.showHidden_congr (hothers _ (by decide))
  | some value =>
    obtain ⟨hidden, final, hhidden, hfinal, hget, hkept⟩ :=
      hsaved.writable.exists_update hsaved.load (.bool value) Settings.joined_showHiddenKey
    refine ⟨hidden, session.events, directory.toString, final, ?_, hkey,
      ⟨hsaved.grow.trans hfinal.grow, hfinal.writable, hfinal.load⟩, ?_, ?_,
      fun key hkey hkey' => (hothers key hkey).trans (hkept key hkey')⟩
    · exact bind_eq_ok_iff.mpr ⟨session, rfl, bind_eq_ok_iff.mpr ⟨hidden, hhidden, rfl⟩⟩
    · intro other
      rw [← hrecords other]
      exact (Session.record?_congr (Settings.storable_of_load hsaved.load)
        (Settings.storable_of_load hfinal.load) (hkept _ (by decide)) other).symm
    · rw [Settings.showHidden, hget]
      rfl

/-- A run whose question has an answer ends normally and prints it line by line, if the file can be
written where that is asked for. -/
theorem exit_and_texts_of_answer {argv : List String} (hparse : parse argv = .ok args)
    (hprepare : prepare fs ctx args = .ok w) {lines : List String}
    (hanswer : answer fs w args.query = .ok lines)
    (hwritable : args.save = true → Settings.Writable fs ctx.settings) :
    (run fs ctx argv).exit = .normal ∧ (run fs ctx argv).texts = lines.map line := by
  rw [run_eq_conclude hparse hprepare, conclude, hanswer]
  by_cases hsave : args.save = true
  · obtain ⟨_, _, before, -, -, -, hload, -⟩ := exists_scan_of_prepare hprepare
    obtain ⟨saved, events, -, -, hsaved, -⟩ :=
      exists_save_of_prepare hprepare (hwritable hsave) hload
    simp only [hsave, if_true, hsaved, and_self]
  · simp only [hsave, Bool.false_eq_true, if_false, and_self]

lemma run_of_answer {argv : List String} (hparse : parse argv = .ok args)
    (hprepare : prepare fs ctx args = .ok w) {lines : List String}
    (hanswer : answer fs w args.query = .ok lines)
    (hwritable : args.save = true → Settings.Writable fs ctx.settings) :
    (run fs ctx argv).exit = .normal ∧ (run fs ctx argv).out = unlines lines := by
  obtain ⟨hexit, htexts⟩ := exit_and_texts_of_answer hparse hprepare hanswer hwritable
  exact ⟨hexit, congrArg String.join htexts⟩

/-- What a run leaves when it was asked to save. -/
lemma Report.Concludes.exists_sets {argv : List String} {report : Report}
    (h : report.Concludes fs ctx argv args w) (hasked : args.save = true)
    (hwritable : Settings.Writable fs ctx.settings) {before : Fields}
    (hload : Settings.load fs ctx.settings = .ok before) :
    ∃ name after, Session.key fs w.root = .ok name ∧
      Settings.Saved ctx.settings fs report.fs after ∧
      Sets name w.store.forest.openPaths args.showHidden before after := by
  obtain ⟨events, hsave⟩ := h.saved hasked
  obtain ⟨saved, events', name, after, hsave', hkey, hsaved, hsets⟩ :=
    exists_save_of_prepare h.prepared hwritable hload
  obtain rfl : saved = report.fs := congrArg Prod.fst (Except.ok.inj (hsave'.symm.trans hsave))
  exact ⟨name, after, hkey, hsaved, hsets⟩

/-! ### Invocations -/

/-- One run, with the file system and the output that it finds. -/
structure Invocation where
  fs : FileSystem
  ctx : Context
  argv : List String
  output : Output

/-- What a run saves: the open paths of one workspace, and the preference for hidden files if the
arguments name it. -/
structure Saving where
  name : String
  openPaths : List String
  showHidden : Option Bool

namespace Invocation

def report (i : Invocation) : Report := runOn i.output i.fs i.ctx i.argv

/-- The bytes of the settings before the run. -/
def found (i : Invocation) : Option ByteArray := Settings.content? i.fs i.ctx.settings

/-- The bytes of the settings after the run. -/
def left (i : Invocation) : Option ByteArray := Settings.content? i.report.fs i.ctx.settings

/-- The run ends normally and was asked to save. -/
def Saves (i : Invocation) : Prop :=
  i.report.exit = .normal ∧ ∃ args, parse i.argv = .ok args ∧ args.save = true

/-- What the run saves, if it does. -/
def saving? (i : Invocation) : Option Saving := do
  let args ← (parse i.argv).toOption
  let w ← (prepare i.fs i.ctx args).toOption
  let name ← (Session.key i.fs w.root).toOption
  if args.save ∧ i.report.exit = .normal then
    return ⟨name, w.store.forest.openPaths, args.showHidden⟩
  else none

variable {i : Invocation}

lemma saves_of_saving? {s : Saving} (h : i.saving? = some s) : i.Saves := by
  obtain ⟨args, hargs, h⟩ := Option.bind_eq_some_iff.mp h
  obtain ⟨w, -, h⟩ := Option.bind_eq_some_iff.mp h
  obtain ⟨name, -, h⟩ := Option.bind_eq_some_iff.mp h
  split at h
  · next hsaves => exact ⟨hsaves.2, args, toOption_eq_some_iff.mp hargs, hsaves.1⟩
  · cases h

lemma saving?_eq (hparse : parse i.argv = .ok args) (hprepare : prepare i.fs i.ctx args = .ok w)
    {name : String} (hkey : Session.key i.fs w.root = .ok name) (hasked : args.save = true)
    (hnormal : i.report.exit = .normal) :
    i.saving? = some ⟨name, w.store.forest.openPaths, args.showHidden⟩ := by
  rw [saving?, hparse]
  simp [hprepare, hkey, Except.toOption, hasked, hnormal]

lemma saving?_eq_none (h : ¬i.Saves) : i.saving? = none := by
  rw [Option.eq_none_iff_forall_ne_some]
  intro s hs
  exact h (saves_of_saving? hs)

lemma report_of_takesAll (h : i.output.TakesAll) : i.report = run i.fs i.ctx i.argv :=
  runOn_of_takesAll h i.fs i.ctx i.argv

/-- Nothing has been refused to a run that ends normally. -/
lemma report_of_normal (h : i.report.exit = .normal) : i.report = run i.fs i.ctx i.argv := by
  rcases runOn_cases i.output i.fs i.ctx i.argv with hrun | ⟨reason, front, back, -, -, hrefused⟩
  · exact hrun
  · rw [report, hrefused] at h
    cases h

/-- A run that saves nothing leaves everything as it is. -/
theorem fs_of_not_saves (htakes : i.output.TakesAll) (h : ¬i.Saves) : i.report.fs = i.fs := by
  have hreport := report_of_takesAll htakes
  rcases run_cases i.fs i.ctx i.argv with hearly | ⟨args, w, hconcludes⟩
  · rw [hreport, hearly.fs]
  · rw [hreport]
    refine hconcludes.unsaved (Bool.eq_false_iff.mpr fun hsave => h ?_)
    exact ⟨hreport ▸ hconcludes.exit, args, hconcludes.parsed, hsave⟩

/-- A run that does not end normally answers nothing. -/
theorem out_of_not_normal (htakes : i.output.TakesAll) (h : i.report.exit ≠ .normal) :
    i.report.out = "" ∨ parse i.argv = .error .help ∧ i.report.out = help := by
  rw [report_of_takesAll htakes] at h ⊢
  rcases run_cases i.fs i.ctx i.argv with hearly | ⟨args, w, hconcludes⟩
  · exact hearly.out
  · exact absurd hconcludes.exit h

/-- A run that saves sets what it was asked to save. -/
theorem Saves.exists_sets (h : i.Saves) (hwritable : Settings.Writable i.fs i.ctx.settings)
    {before : Fields} (hfound : Settings.ofContent i.found = .ok before) :
    ∃ s after, i.saving? = some s ∧ Settings.ofContent i.left = .ok after ∧
      Sets s.name s.openPaths s.showHidden before after := by
  obtain ⟨hnormal, args, hparse, hasked⟩ := h
  have hreport := report_of_normal hnormal
  obtain ⟨args', w, hconcludes⟩ := Report.Concludes.of_normal (hreport ▸ hnormal)
  obtain rfl : args' = args := Except.ok.inj (hconcludes.parsed.symm.trans hparse)
  have hload : Settings.load i.fs i.ctx.settings = .ok before := by
    rw [Settings.load_eq_ofContent]
    exact hfound
  obtain ⟨name, after, hkey, hsaved, hsets⟩ := hconcludes.exists_sets hasked hwritable hload
  refine ⟨⟨name, w.store.forest.openPaths, args'.showHidden⟩, after, ?_, ?_, hsets⟩
  · exact saving?_eq hparse hconcludes.prepared hkey hasked hnormal
  · rw [left, ← Settings.load_eq_ofContent, hreport]
    exact hsaved.load

end Invocation

/-! ### Histories -/

/-- Runs one after the other, from the bytes that the first finds to those that the last leaves.
Nothing else is common to them. Each can write the file, and its output takes what it prints. -/
inductive History (content : Option ByteArray) : List Invocation → Option ByteArray → Prop where
  | start : History content [] content
  | run {invocations : List Invocation} (i : Invocation)
      (earlier : History content invocations i.found)
      (writable : Settings.Writable i.fs i.ctx.settings) (takes : i.output.TakesAll) :
      History content (invocations ++ [i]) i.left

/-- The record of a session after savings: the open paths are those of the last saving of the
session, the tabs those from before. -/
def recordAfter (savings : List Saving) (before : Fields) (name : WideText) :
    Option SessionRecord :=
  match (savings.filter fun s => (s.name : WideText) = name).getLast? with
  | some s => some (reopened (Session.record? before name) s.openPaths)
  | none => Session.record? before name

/-- The preference for hidden files after savings: that of the last one that names it. -/
def showHiddenAfter (savings : List Saving) (before : Fields) : Bool :=
  (savings.filterMap Saving.showHidden).getLast?.getD (Settings.showHidden before)

/-- The settings are those from before with the savings in them. -/
structure Follows (savings : List Saving) (before after : Fields) : Prop where
  records : ∀ name, Session.record? after name = recordAfter savings before name
  showHidden : Settings.showHidden after = showHiddenAfter savings before
  others : ∀ key, key ≠ Settings.sessionsKey → key ≠ Settings.showHiddenKey →
    Fields.SameAt key before after

namespace Follows

variable {savings : List Saving} {before middle after : Fields}

lemma refl (before : Fields) : Follows [] before before where
  records _ := rfl
  showHidden := rfl
  others _ _ _ := Fields.SameAt.of_get?_eq rfl

lemma reopened_recordAfter (savings : List Saving) (before : Fields) (name : WideText)
    (openPaths : List String) :
    reopened (recordAfter savings before name) openPaths =
      reopened (Session.record? before name) openPaths := by
  rw [recordAfter]
  split <;> rfl

lemma recordAfter_snoc (savings : List Saving) (s : Saving) (before : Fields) (name : WideText) :
    recordAfter (savings ++ [s]) before name =
      if name = (s.name : WideText) then some (reopened (Session.record? before name) s.openPaths)
      else recordAfter savings before name := by
  rw [recordAfter, recordAfter, List.filter_append]
  by_cases hname : name = (s.name : WideText)
  · rw [if_pos hname, List.filter_singleton, decide_eq_true hname.symm, cond_true,
      List.getLast?_concat]
  · rw [if_neg hname, List.filter_singleton, decide_eq_false (Ne.symm hname), cond_false,
      List.append_nil]

lemma showHiddenAfter_snoc (savings : List Saving) (s : Saving) (before : Fields) :
    showHiddenAfter (savings ++ [s]) before =
      s.showHidden.getD (showHiddenAfter savings before) := by
  rw [showHiddenAfter, showHiddenAfter, List.filterMap_append]
  cases hvalue : s.showHidden with
  | none => rw [List.filterMap_cons_none hvalue, List.filterMap_nil, List.append_nil,
      Option.getD_none]
  | some value => rw [List.filterMap_cons_some hvalue, List.filterMap_nil, List.getLast?_concat,
      Option.getD_some, Option.getD_some]

lemma snoc (h : Follows savings before middle) {s : Saving}
    (hs : Sets s.name s.openPaths s.showHidden middle after) :
    Follows (savings ++ [s]) before after where
  records := by
    intro name
    rw [hs.records, recordAfter_snoc]
    by_cases hname : name = (s.name : WideText)
    · rw [if_pos hname, if_pos hname, h.records, reopened_recordAfter, hname]
    · rw [if_neg hname, if_neg hname, h.records]
  showHidden := by rw [hs.showHidden, h.showHidden, showHiddenAfter_snoc]
  others key hkey hkey' := (h.others key hkey hkey').trans (hs.others key hkey hkey')

end Follows

namespace History

variable {content final : Option ByteArray} {invocations : List Invocation} {before : Fields}

/-- By induction on the history: each run either saves, or leaves the settings as it found them. -/
lemma exists_follows (h : History content invocations final)
    (hbefore : Settings.ofContent content = .ok before) :
    ∃ after, Settings.ofContent final = .ok after ∧
      Follows (invocations.filterMap Invocation.saving?) before after := by
  induction h with
  | start => exact ⟨before, hbefore, .refl before⟩
  | run i earlier hwritable htakes ih =>
    obtain ⟨middle, hmiddle, hfollows⟩ := ih
    rw [List.filterMap_append]
    by_cases hsaves : i.Saves
    · obtain ⟨s, after, hs, hafter, hsets⟩ := hsaves.exists_sets hwritable hmiddle
      rw [List.filterMap_cons_some hs, List.filterMap_nil]
      exact ⟨after, hafter, hfollows.snoc hsets⟩
    · rw [List.filterMap_cons_none (Invocation.saving?_eq_none hsaves), List.filterMap_nil,
        List.append_nil, Invocation.left, Invocation.fs_of_not_saves htakes hsaves]
      exact ⟨middle, hmiddle, hfollows⟩

/-- The output of every run of a history takes what is printed. -/
lemma takesAll (h : History content invocations final) : ∀ i ∈ invocations, i.output.TakesAll := by
  induction h with
  | start => exact fun i hi => absurd hi List.not_mem_nil
  | run i earlier hwritable htakes ih =>
    intro j hj
    rcases List.mem_append.mp hj with hj | hj
    · exact ih j hj
    · obtain rfl := List.mem_singleton.mp hj
      exact htakes

/-- Every run of a history that was asked to save, and ends normally, does save. -/
lemma isSome_saving? (h : History content invocations final)
    (hbefore : Settings.ofContent content = .ok before) :
    ∀ i ∈ invocations, i.Saves → i.saving?.isSome := by
  induction h with
  | start => exact fun i hi => absurd hi List.not_mem_nil
  | run i earlier hwritable htakes ih =>
    intro j hj hsaves
    rcases List.mem_append.mp hj with hj | hj
    · exact ih j hj hsaves
    · obtain rfl := List.mem_singleton.mp hj
      obtain ⟨middle, hmiddle, -⟩ := earlier.exists_follows hbefore
      obtain ⟨s, -, hs, -⟩ := hsaves.exists_sets hwritable hmiddle
      rw [hs]
      rfl

/-- After a history the settings hold what its saving runs have saved, each where it is the last
one, and besides that what they held before. The other runs have changed nothing, and a run that
does not end normally has answered nothing. -/
theorem follows (h : History content invocations final)
    (hbefore : Settings.ofContent content = .ok before) :
    (∃ after, Settings.ofContent final = .ok after ∧
      Follows (invocations.filterMap Invocation.saving?) before after ∧
      ∀ fs file root name, Settings.content? fs file = final → Session.key fs root = .ok name →
        Session.load fs file root =
          .ok (recordAfter (invocations.filterMap Invocation.saving?) before name)) ∧
    ∀ i ∈ invocations, (i.Saves ↔ i.saving?.isSome) ∧ (¬i.Saves → i.report.fs = i.fs) ∧
      (i.report.exit ≠ .normal →
        i.report.out = "" ∨ parse i.argv = .error .help ∧ i.report.out = help) := by
  obtain ⟨after, hafter, hfollows⟩ := h.exists_follows hbefore
  refine ⟨⟨after, hafter, hfollows, fun fs file root name hcontent hkey => ?_⟩,
    fun i hi => ⟨⟨fun hsaves => ?_, fun hsome => ?_⟩,
      Invocation.fs_of_not_saves (h.takesAll i hi), Invocation.out_of_not_normal (h.takesAll i hi)⟩⟩
  · have hload : Settings.load fs file = .ok after := by
      rw [Settings.load_eq_ofContent, hcontent, hafter]
    rw [Session.load_eq_record? hload hkey, hfollows.records]
  · exact h.isSome_saving? hbefore i hi hsaves
  · obtain ⟨s, hs⟩ := Option.isSome_iff_exists.mp hsome
    exact Invocation.saves_of_saving? hs

end History

/-! ### A short history -/

/-- A directory in a workspace, and a file in the directory. -/
def oneDirectory : FileSystem where
  entries := [("w", .dir [("a", .dir [("b", .file ByteArray.empty)])])]

def rootSettings : Context := { settings := .absolute ["s.json"] }

lemma writable_oneDirectory : Settings.Writable oneDirectory rootSettings.settings := by
  have hname : ValidName "s.json" := by simp [validName_iff]
  exact Settings.writable_name hname (by decide) fun inode hinode => by cases hinode

/-- An output without limits. -/
def endless : Output := fun _ _ => none

lemma takesAll_endless : endless.TakesAll := fun _ _ => rfl

/-- A run whose root is missing, and one that opens the directory. -/
def failing : Invocation := ⟨oneDirectory, rootSettings, ["/x", "--save"], endless⟩

def opening : Invocation :=
  ⟨oneDirectory, rootSettings, ["/w", "--expand", "/w/a", "--show-hidden", "--save"], endless⟩

/-- Only the second run is left in the settings. -/
theorem follows_failing_opening :
    History none [failing, opening] opening.left ∧ Settings.ofContent none = .ok [] ∧
      ¬failing.Saves ∧ opening.saving? = some ⟨"/w", ["/w/a"], some true⟩ ∧
      ∃ after, Settings.ofContent opening.left = .ok after ∧
        Session.record? after "/w" = some ⟨["/w/a"], [], none⟩ ∧
        Settings.showHidden after = true := by
  have hwritable := writable_oneDirectory
  have hfailing : ¬failing.Saves := by
    rintro ⟨hnormal, -⟩
    have hexit : failing.report.exit = .message "Not a directory: /x" := by cbv
    rw [hexit] at hnormal
    cases hnormal
  have hparse : parse opening.argv = .ok
      { root := some "/w", showHidden := some true, expand := [some "/w/a"], save := true } := by
    cbv
  have hprepare : ((prepare oneDirectory rootSettings
      { root := some "/w", showHidden := some true, expand := [some "/w/a"], save := true }).map
        fun w => (Session.key oneDirectory w.root, w.store.forest.openPaths)) =
      .ok (.ok "/w", ["/w/a"]) := by cbv
  obtain ⟨w, hprepare, hw⟩ := map_eq_ok_iff.mp hprepare
  obtain ⟨hkey, hpaths⟩ := Prod.mk.inj hw
  have hnormal : opening.report.exit = .normal := by
    rw [Invocation.report_of_takesAll takesAll_endless]
    exact (run_of_answer hparse hprepare rfl fun _ => hwritable).1
  have hsaving : opening.saving? = some ⟨"/w", ["/w/a"], some true⟩ := by
    rw [Invocation.saving?_eq hparse hprepare hkey rfl hnormal, hpaths]
  have hhistory : History none [failing, opening] opening.left := by
    have hfound : failing.found = none := by cbv
    have hstart : History none [] failing.found := by
      rw [hfound]
      exact .start
    have hleft : failing.left = opening.found := by
      rw [Invocation.left, Invocation.fs_of_not_saves takesAll_endless hfailing]
      rfl
    have hfirst : History none [failing] opening.found := by
      rw [← hleft]
      exact .run failing hstart hwritable takesAll_endless
    exact .run opening hfirst hwritable takesAll_endless
  have hsavings : [failing, opening].filterMap Invocation.saving? =
      [⟨"/w", ["/w/a"], some true⟩] := by
    rw [List.filterMap_cons_none (Invocation.saving?_eq_none hfailing),
      List.filterMap_cons_some hsaving, List.filterMap_nil]
  obtain ⟨⟨after, hafter, hfollows, -⟩, -⟩ := hhistory.follows rfl
  rw [hsavings] at hfollows
  exact ⟨hhistory, rfl, hfailing, hsaving, after, hafter, hfollows.records "/w",
    hfollows.showHidden⟩

end Sidebar.CommandLine
