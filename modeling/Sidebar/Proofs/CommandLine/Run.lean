import Sidebar.CommandLine.Run
import Sidebar.Proofs.FileSystem.Scanning
import Sidebar.Proofs.Outcome
import Sidebar.Proofs.Session.Expanded

/-!
# How runs end

A run that does not end normally has written nothing and has answered nothing. One that does has
prepared a workspace and answered its question, and has written something only when it was asked to
save.

All this holds where the output takes the answer. An output that refuses a part of it comes too late
to keep anything from being saved.
-/

namespace Sidebar.CommandLine

variable {fs : FileSystem} {ctx : Context} {args : Arguments} {w : Workspace}

/-! ### Stages -/

/-- Whether hidden files are shown: as the arguments say, or else as the settings say. -/
def hiddenShown (fs : FileSystem) (ctx : Context) (args : Arguments) : Except Halt Bool :=
  match args.showHidden with
  | some value => .ok value
  | none => ((Settings.load fs ctx.settings).map Settings.showHidden).mapError (.ofFailure [])

lemma loadWorkspace_eq (fs : FileSystem) (ctx : Context) (args : Arguments) :
    loadWorkspace fs ctx args = do
      let root ← (openRoot fs ctx args).mapError fun exit => { exit := exit }
      let showHidden ← hiddenShown fs ctx args
      let scan ← (fs.scan root showHidden).mapError fun halt => .ofFailure halt.events halt.failure
      let store := Store.load {} scan.entries
      let events := scan.events ++ [.treeLoaded store.treeId store.forest.size]
      let bound ← ((Settings.load fs ctx.settings).map Settings.maxTreeDepth).mapError
        (.ofFailure events)
      return ⟨root, store, Navigator.clamp bound, events⟩ := by
  rw [loadWorkspace, hiddenShown]
  cases args.showHidden <;> rfl

lemma prepare_eq (fs : FileSystem) (ctx : Context) (args : Arguments) :
    prepare fs ctx args =
      loadWorkspace fs ctx args >>= fun loaded =>
        (if args.restore then restore fs ctx loaded else .ok loaded) >>= fun restored =>
          expandOperands fs restored args.expand := by
  rw [prepare]
  cases args.restore <;> rfl

/-! ### Early ends -/

/-- A failure is no normal end. -/
lemma failure_ne_normal {α : Type} {r : Except Failure α} {exit : Exit}
    (h : r.mapError Exit.failure = .error exit) : exit ≠ .normal := by
  obtain ⟨failure, -, rfl⟩ := mapError_eq_error_iff.mp h
  simp

lemma nodeOf_ne_normal {forest : Forest} {operand : Operand} {exit : Exit}
    (h : nodeOf fs forest operand = .error exit) : exit ≠ .normal := by
  rw [nodeOf, bind_eq_error_iff] at h
  rcases h with h | ⟨path, -, h⟩
  · exact failure_ne_normal h
  · split at h
    · simp [pure, Except.pure] at h
    · obtain rfl := Except.error.inj h
      simp

lemma ask_ne_normal {α : Type} {operand : Operand}
    {question : Navigator → Node → Except NavigationError α} {exit : Exit}
    (h : ask fs w operand question = .error exit) : exit ≠ .normal := by
  rw [ask, bind_eq_error_iff] at h
  rcases h with h | ⟨n, -, h⟩
  · exact nodeOf_ne_normal h
  · obtain ⟨error, -, rfl⟩ := mapError_eq_error_iff.mp h
    simp

lemma answer_ne_normal {query : Query} {exit : Exit} (h : answer fs w query = .error exit) :
    exit ≠ .normal := by
  have hask : ∀ {α : Type} {operand : Operand}
      {question : Navigator → Node → Except NavigationError α} {line : α → List String},
      (ask fs w operand question >>= fun a => pure (line a)) = Except.error exit →
      exit ≠ .normal := by
    intro α operand question line h
    rcases bind_eq_error_iff.mp h with h | ⟨a, -, h⟩
    · exact ask_ne_normal h
    · simp [pure, Except.pure] at h
  cases query with
  | find operand =>
    rw [answer, bind_eq_error_iff] at h
    rcases h with h | ⟨path, -, h⟩
    · exact failure_ne_normal h
    · simp [pure, Except.pure] at h
  | next operand => exact hask h
  | last operand => exact hask h
  | isBottom operand => exact hask h
  | visible => simp [answer, pure, Except.pure] at h
  | listOpen => simp [answer, pure, Except.pure] at h

lemma openRoot_ne_normal {exit : Exit} (h : openRoot fs ctx args = .error exit) :
    exit ≠ .normal := by
  rw [openRoot, bind_eq_error_iff] at h
  rcases h with h | ⟨standIn, -, h⟩
  · exact failure_ne_normal h
  rw [bind_eq_error_iff] at h
  rcases h with h | ⟨root, -, h⟩
  · exact failure_ne_normal h
  rw [bind_eq_error_iff] at h
  rcases h with h | ⟨isDir, -, h⟩
  · obtain ⟨error, -, rfl⟩ := mapError_eq_error_iff.mp h
    simp
  split at h
  · simp [pure, Except.pure] at h
  · obtain rfl := Except.error.inj h
    simp

/-- A failure behind some events is no normal end. -/
lemma ofFailure_ne_normal {α : Type} {r : Except Failure α} {events : List Event} {halt : Halt}
    (h : r.mapError (Halt.ofFailure events) = .error halt) : halt.exit ≠ .normal := by
  obtain ⟨failure, -, rfl⟩ := mapError_eq_error_iff.mp h
  simp [Halt.ofFailure]

lemma loadWorkspace_ne_normal {halt : Halt} (h : loadWorkspace fs ctx args = .error halt) :
    halt.exit ≠ .normal := by
  rw [loadWorkspace_eq, bind_eq_error_iff] at h
  rcases h with h | ⟨root, -, h⟩
  · obtain ⟨exit, hexit, rfl⟩ := mapError_eq_error_iff.mp h
    exact openRoot_ne_normal hexit
  rw [bind_eq_error_iff] at h
  rcases h with h | ⟨showHidden, -, h⟩
  · rw [hiddenShown] at h
    split at h
    · simp at h
    · exact ofFailure_ne_normal h
  rw [bind_eq_error_iff] at h
  rcases h with h | ⟨scan, -, h⟩
  · obtain ⟨scanHalt, -, rfl⟩ := mapError_eq_error_iff.mp h
    simp [Halt.ofFailure]
  rw [bind_eq_error_iff] at h
  rcases h with h | ⟨bound, -, h⟩
  · exact ofFailure_ne_normal h
  simp [pure, Except.pure] at h

lemma restore_ne_normal {halt : Halt} (h : restore fs ctx w = .error halt) :
    halt.exit ≠ .normal := by
  rw [restore, bind_eq_error_iff] at h
  rcases h with h | ⟨record, -, h⟩
  · exact ofFailure_ne_normal h
  · split at h <;> simp [pure, Except.pure] at h

lemma expandOperands_ne_normal {operands : List Operand} {halt : Halt}
    (h : expandOperands fs w operands = .error halt) : halt.exit ≠ .normal := by
  induction operands generalizing w with
  | nil => simp [expandOperands] at h
  | cons operand rest ih =>
    rw [expandOperands, bind_eq_error_iff] at h
    rcases h with h | ⟨n, -, h⟩
    · obtain ⟨exit, hexit, rfl⟩ := mapError_eq_error_iff.mp h
      exact nodeOf_ne_normal hexit
    · exact ih h

lemma prepare_ne_normal {halt : Halt} (h : prepare fs ctx args = .error halt) :
    halt.exit ≠ .normal := by
  rw [prepare_eq, bind_eq_error_iff] at h
  rcases h with h | ⟨loaded, -, h⟩
  · exact loadWorkspace_ne_normal h
  rw [bind_eq_error_iff] at h
  rcases h with h | ⟨restored, -, h⟩
  · split at h
    · exact restore_ne_normal h
    · simp at h
  · exact expandOperands_ne_normal h

/-! ### Prepared workspaces -/

/-- The tree of the workspace is that of the entries, with some of its directories open. -/
def Workspace.Shows (w : Workspace) (entries : List Entry) : Prop :=
  w.store.forest.Shows "files" entries

namespace Workspace.Shows

variable {entries : List Entry}

lemma expandOperands (h : w.Shows entries) {operands : List Operand} {after : Workspace}
    (hexpand : expandOperands fs w operands = .ok after) :
    after.Shows entries ∧ after.root = w.root := by
  induction operands generalizing w with
  | nil =>
    obtain rfl := Except.ok.inj hexpand
    exact ⟨h, rfl⟩
  | cons operand rest ih =>
    obtain ⟨n, hnode, hexpand⟩ := bind_eq_ok_iff.mp hexpand
    obtain ⟨path, -, hfind⟩ := bind_eq_ok_iff.mp (mapError_eq_ok_iff.mp hnode)
    split at hfind
    · next found hfound =>
      obtain rfl := Except.ok.inj hfind
      obtain ⟨tid, -, hn⟩ := Option.bind_eq_some_iff.mp hfound
      have hn : found ∈ w.store.forest.rows := List.mem_of_find?_eq_some hn
      have hshows : (w.store.expand found (some true)).forest.Shows "files" entries := by
        rw [Store.expand, Store.expanded?]
        by_cases hexpandable : found.isExpandable
        · rw [if_pos hexpandable]
          refine Forest.Shows.modify h _ fun m hm hkey => ?_
          rwa [h.wellFormed.eq_of_tid_eq hm hn (congrArg NodeKey.tid hkey)]
        · rw [if_neg hexpandable]
          exact h
      exact @ih { w with store := w.store.expand found (some true) } hshows hexpand
    · cases hfind

lemma restore (h : w.Shows entries) {after : Workspace}
    (hrestore : restore fs ctx w = .ok after) : after.Shows entries ∧ after.root = w.root := by
  obtain ⟨record, -, hrestore⟩ := bind_eq_ok_iff.mp hrestore
  cases record with
  | none =>
    obtain rfl := Except.ok.inj hrestore
    exact ⟨h, rfl⟩
  | some record =>
    obtain rfl := Except.ok.inj hrestore
    refine ⟨?_, rfl⟩
    have hforest : (record.expandIn w.store).store.forest =
        w.store.forest.openAt record.openPaths := (record.expands_expandIn h).forest
    rw [Workspace.Shows, hforest]
    exact Forest.Shows.openAt h record.openPaths

end Workspace.Shows

/-- A workspace is loaded from a scan of its root, with everything closed. -/
lemma exists_scan_of_loadWorkspace (h : loadWorkspace fs ctx args = .ok w) :
    ∃ showHidden scan settings, openRoot fs ctx args = .ok w.root ∧
      hiddenShown fs ctx args = .ok showHidden ∧ fs.scan w.root showHidden = .ok scan ∧
      Settings.load fs ctx.settings = .ok settings ∧ w.store = Store.load {} scan.entries := by
  rw [loadWorkspace_eq] at h
  obtain ⟨root, hroot, h⟩ := bind_eq_ok_iff.mp h
  obtain ⟨showHidden, hhidden, h⟩ := bind_eq_ok_iff.mp h
  obtain ⟨scan, hscan, h⟩ := bind_eq_ok_iff.mp h
  obtain ⟨bound, hbound, h⟩ := bind_eq_ok_iff.mp h
  obtain ⟨settings, hsettings, -⟩ := map_eq_ok_iff.mp (mapError_eq_ok_iff.mp hbound)
  obtain rfl := Except.ok.inj h
  exact ⟨showHidden, scan, settings, mapError_eq_ok_iff.mp hroot, hhidden,
    mapError_eq_ok_iff.mp hscan, hsettings, rfl⟩

/-- A prepared workspace shows the scan of its root. -/
theorem exists_scan_of_prepare (h : prepare fs ctx args = .ok w) :
    ∃ showHidden scan settings, openRoot fs ctx args = .ok w.root ∧
      hiddenShown fs ctx args = .ok showHidden ∧ fs.scan w.root showHidden = .ok scan ∧
      Settings.load fs ctx.settings = .ok settings ∧ w.Shows scan.entries := by
  rw [prepare_eq] at h
  obtain ⟨loaded, hloaded, h⟩ := bind_eq_ok_iff.mp h
  obtain ⟨restored, hrestored, h⟩ := bind_eq_ok_iff.mp h
  obtain ⟨showHidden, scan, settings, hroot, hhidden, hscan, hsettings, hstore⟩ :=
    exists_scan_of_loadWorkspace hloaded
  have hshows : loaded.Shows scan.entries := by
    rw [Workspace.Shows, hstore]
    exact Forest.shows_ofEntries _ _ _
  obtain ⟨hshows', hroot'⟩ : restored.Shows scan.entries ∧ restored.root = loaded.root := by
    split at hrestored
    · exact hshows.restore hrestored
    · obtain rfl := Except.ok.inj hrestored
      exact ⟨hshows, rfl⟩
  obtain ⟨hshows'', hroot''⟩ := hshows'.expandOperands h
  rw [hroot'', hroot']
  exact ⟨showHidden, scan, settings, hroot, hhidden, hscan, hsettings, hshows''⟩

/-- No open path of a prepared workspace is empty. -/
lemma openPaths_ne_empty (h : prepare fs ctx args = .ok w) :
    ∀ path ∈ w.store.forest.openPaths, path ≠ "" := by
  obtain ⟨_, scan, _, -, -, hscan, -, hshows⟩ := exists_scan_of_prepare h
  intro path hpath
  obtain ⟨n, hn, rfl⟩ := List.mem_map.mp hpath
  apply FileSystem.paths_scan hscan
  rw [← Forest.Shows.paths hshows]
  exact List.mem_map_of_mem (List.mem_of_mem_filter hn)

/-! ### Reports -/

lemma run_eq_conclude {argv : List String} (hparse : parse argv = .ok args)
    (hprepare : prepare fs ctx args = .ok w) : run fs ctx argv = conclude fs ctx args w := by
  rw [run, hparse]
  simp only [hprepare]

/-- The run has not ended normally: nothing is written, and no answer is given. -/
structure Report.IsEarly (fs : FileSystem) (argv : List String) (report : Report) : Prop where
  exit : report.exit ≠ .normal
  fs : report.fs = fs
  out : report.out = "" ∨ parse argv = .error .help ∧ report.out = help

/-- The run has ended normally with a workspace. -/
structure Report.Concludes (fs : FileSystem) (ctx : Context) (argv : List String)
    (args : Arguments) (w : Workspace) (report : Report) : Prop where
  exit : report.exit = .normal
  parsed : parse argv = .ok args
  prepared : prepare fs ctx args = .ok w
  out : ∃ lines, answer fs w args.query = .ok lines ∧ report.out = unlines lines
  saved : args.save = true → ∃ events, save fs ctx args w = .ok (report.fs, events)
  unsaved : args.save = false → report.fs = fs

theorem run_cases (fs : FileSystem) (ctx : Context) (argv : List String) :
    (run fs ctx argv).IsEarly fs argv ∨
      ∃ args w, (run fs ctx argv).Concludes fs ctx argv args w := by
  rw [run]
  split
  · next hparse => exact .inl ⟨by simp, rfl, .inr ⟨hparse, rfl⟩⟩
  · exact .inl ⟨by simp, rfl, .inl rfl⟩
  · next args hparse =>
    split
    · next halt hprepare => exact .inl ⟨prepare_ne_normal hprepare, rfl, .inl rfl⟩
    · next w hprepare =>
      rw [conclude]
      split
      · next exit hanswer => exact .inl ⟨answer_ne_normal hanswer, rfl, .inl rfl⟩
      · next lines hanswer =>
        split
        · next hsave =>
          split
          · exact .inl ⟨by simp, rfl, .inl rfl⟩
          · next saved events hsaved =>
            refine .inr ⟨args, w, rfl, hparse, hprepare, ⟨lines, hanswer, rfl⟩,
              fun _ => ⟨events, hsaved⟩, fun hunsaved => ?_⟩
            rw [hsave] at hunsaved
            exact absurd hunsaved (by simp)
        · next hsave =>
          refine .inr ⟨args, w, rfl, hparse, hprepare, ⟨lines, hanswer, rfl⟩, fun hsaved => ?_,
            fun _ => rfl⟩
          exact absurd hsaved hsave

/-- What a run concludes with is settled by its report. -/
lemma Report.Concludes.of_normal {argv : List String} (h : (run fs ctx argv).exit = .normal) :
    ∃ args w, (run fs ctx argv).Concludes fs ctx argv args w := by
  rcases run_cases fs ctx argv with hearly | hconcludes
  · exact absurd h hearly.exit
  · exact hconcludes

/-! ### Outputs -/

/-- The output takes whatever is written to it. -/
def Output.TakesAll (output : Output) : Prop := ∀ taken text, output taken text = none

lemma Output.TakesAll.write {output : Output} (h : output.TakesAll) (taken texts : List String) :
    output.write taken texts = (taken ++ texts, none) := by
  induction texts generalizing taken with
  | nil => rw [Output.write, List.append_nil]
  | cons text rest ih => rw [Output.write, h, ih, List.append_assoc, List.singleton_append]

lemma runOn_of_takesAll {output : Output} (h : output.TakesAll) (fs : FileSystem) (ctx : Context)
    (argv : List String) : runOn output fs ctx argv = run fs ctx argv := by
  rw [runOn, Report.writtenTo, h.write]

/-- A refused text leaves a first part of the texts, with at least one missing. -/
lemma Output.texts_of_write {output : Output} {taken texts taken' : List String} {reason : String}
    (h : output.write taken texts = (taken', some reason)) :
    ∃ front back, texts = front ++ back ∧ taken' = taken ++ front ∧ back ≠ [] := by
  induction texts generalizing taken with
  | nil => simp [Output.write] at h
  | cons text rest ih =>
    rw [Output.write] at h
    split at h
    · obtain ⟨front, back, rfl, rfl, hback⟩ := ih h
      exact ⟨text :: front, back, rfl, by simp, hback⟩
    · obtain ⟨rfl, -⟩ := Prod.mk.inj h
      exact ⟨[], text :: rest, rfl, (List.append_nil _).symm, List.cons_ne_nil _ _⟩

/-- With any output a run does what it does with one that takes all, or it ends abnormally with only
a part printed. Even then all is saved that there was to save. -/
theorem runOn_cases (output : Output) (fs : FileSystem) (ctx : Context) (argv : List String) :
    runOn output fs ctx argv = run fs ctx argv ∨
      ∃ reason front back, back ≠ [] ∧ (run fs ctx argv).texts = front ++ back ∧
        runOn output fs ctx argv =
          { run fs ctx argv with exit := .failure (.outputRefused reason), texts := front } := by
  rw [runOn, Report.writtenTo]
  split
  · exact .inl rfl
  · next taken reason hwrite =>
    obtain ⟨front, back, htexts, htaken, hback⟩ := Output.texts_of_write hwrite
    rw [List.nil_append] at htaken
    exact .inr ⟨reason, front, back, hback, htexts, by rw [htaken]⟩

end Sidebar.CommandLine
