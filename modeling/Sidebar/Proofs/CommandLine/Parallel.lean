import Sidebar.Proofs.CommandLine.Restored
import Sidebar.Proofs.Settings.Sanitised

/-!
# Parallel runs

Two runs of the same command line in file systems that answer alike and whose settings are read
alike. Stage by stage they do the same, so that they end alike and print the same; only the reports
of directories that cannot be read may differ. When their settings hold the same and both are saved,
they leave the same text.
-/

namespace Sidebar

namespace Settings

/-- Both files can be written, and the same is loaded from them. -/
structure Mirrored (file : Path) (fs fs' : FileSystem) : Prop where
  writable : Writable fs file
  writable' : Writable fs' file
  load : load fs' file = load fs file

/-- The same setting of both leaves the same text in them. -/
lemma Mirrored.update {file : Path} {fs fs' saved saved' : FileSystem}
    (h : Mirrored file fs fs') {key : String} {value : Json}
    (hsave : update fs file key value = .ok saved)
    (hsave' : update fs' file key value = .ok saved') :
    Mirrored file saved saved' ∧ content? saved' file = content? saved file := by
  obtain ⟨fields, hload, hsaved⟩ := bind_eq_ok_iff.mp hsave
  obtain ⟨fields', hload', hsaved'⟩ := bind_eq_ok_iff.mp hsave'
  obtain rfl : fields' = fields := Except.ok.inj (hload'.symm.trans (h.load.trans hload))
  obtain rfl := Except.ok.inj hsaved
  obtain rfl := Except.ok.inj hsaved'
  have hcontent : content? (Settings.save fs' file (.obj (Fields.put key value fields'))) file =
      content? (Settings.save fs file (.obj (Fields.put key value fields'))) file := by
    rw [h.writable.content?_save, h.writable'.content?_save]
  refine ⟨⟨(h.writable.save _).2.2, (h.writable'.save _).2.2, ?_⟩, hcontent⟩
  rw [load_eq_ofContent, load_eq_ofContent, hcontent]

end Settings

namespace CommandLine

/-! ### Stages -/

/-- What a run asks of its file system is answered alike, apart from what it scans. -/
structure Parallel (ctx : Context) (fs fs' : FileSystem) : Prop where
  resolve : ∀ p, fs'.resolve p = fs.resolve p
  isDirectory : ∀ p, fs'.isDirectory p = fs.isDirectory p
  workingDirectory : fs'.workingDirectory = fs.workingDirectory
  settings : ∃ before before', Settings.load fs ctx.settings = .ok before ∧
    Settings.load fs' ctx.settings = .ok before' ∧ Settings.Alike before before'

/-- The outcomes of a stage are the same but for the events. -/
inductive StagesAlike : Except Halt Workspace → Except Halt Workspace → Prop
  | ok (w : Workspace) (events : List Event) :
      StagesAlike (.ok w) (.ok { w with events := events })
  | error (exit : Exit) (events events' : List Event) :
      StagesAlike (.error ⟨exit, events⟩) (.error ⟨exit, events'⟩)

lemma StagesAlike.bind {x x' : Except Halt Workspace} (h : StagesAlike x x')
    {f f' : Workspace → Except Halt Workspace}
    (hf : ∀ w events, StagesAlike (f w) (f' { w with events := events })) :
    StagesAlike (x >>= f) (x' >>= f') := by
  cases h with
  | ok w events => exact hf w events
  | error exit events events' => exact .error exit events events'

/-- The directory that a run scans shows the same. -/
def ScansAlike (ctx : Context) (args : Arguments) (fs fs' : FileSystem) : Prop :=
  ∀ root directory showHidden, openRoot fs ctx args = .ok root → fs.resolve root = .ok directory →
    fs'.scanned directory showHidden = fs.scanned directory showHidden

namespace Parallel

variable {fs fs' : FileSystem} {ctx : Context} {args : Arguments}

lemma openRoot_eq (h : Parallel ctx fs fs') (args : Arguments) :
    openRoot fs' ctx args = openRoot fs ctx args := by
  simp only [openRoot, defaultRoot, h.workingDirectory, h.resolve, h.isDirectory]

lemma key_eq (h : Parallel ctx fs fs') (root : Path) :
    Session.key fs' root = Session.key fs root := by
  rw [Session.key, Session.key, h.resolve]

lemma sessionLoad_eq (h : Parallel ctx fs fs') (root : Path) :
    Session.load fs' ctx.settings root = Session.load fs ctx.settings root := by
  obtain ⟨before, before', hload, hload', halike⟩ := h.settings
  have hrecord : Session.record? before' = Session.record? before := funext halike.record
  have hmap : ∀ {fs : FileSystem} {fields : Fields}, Settings.load fs ctx.settings = .ok fields →
      Session.load fs ctx.settings root = (Session.key fs root).map (Session.record? fields) := by
    intro fs fields hload
    rw [Session.load, hload]
    cases Session.key fs root <;> rfl
  rw [hmap hload, hmap hload', h.key_eq, hrecord]

lemma resolveOperand_eq (h : Parallel ctx fs fs') (operand : Operand) :
    resolveOperand fs' operand = resolveOperand fs operand := by
  cases operand with
  | none => rfl
  | some text => rw [resolveOperand, resolveOperand, h.resolve]

lemma nodeOf_eq (h : Parallel ctx fs fs') (forest : Forest) (operand : Operand) :
    nodeOf fs' forest operand = nodeOf fs forest operand := by
  rw [nodeOf, nodeOf, h.resolveOperand_eq]

/-- The root is scanned with the same entries, or fails to be for the same reason. -/
lemma scan_cases (h : Parallel ctx fs fs') (hscans : ScansAlike ctx args fs fs') {root : Path}
    (hroot : openRoot fs ctx args = .ok root) (showHidden : Bool) :
    (∃ scan scan', fs.scan root showHidden = .ok scan ∧ fs'.scan root showHidden = .ok scan' ∧
        scan'.entries = scan.entries) ∨
      ∃ failure events events', fs.scan root showHidden = .error ⟨failure, events⟩ ∧
        fs'.scan root showHidden = .error ⟨failure, events'⟩ := by
  cases hresolve : fs.resolve root with
  | error failure =>
    have hfails : ∀ {fs : FileSystem}, fs.resolve root = .error failure →
        fs.scan root showHidden = .error ⟨failure, []⟩ := by
      intro fs hresolve
      rw [FileSystem.scan, hresolve]
      rfl
    exact .inr ⟨failure, [], [], hfails hresolve, hfails ((h.resolve root).trans hresolve)⟩
  | ok directory =>
    have hscanned := hscans root directory showHidden hroot hresolve
    have hresolve' := (h.resolve root).trans hresolve
    have hnesting : fs'.nesting directory showHidden = fs.nesting directory showHidden := by
      rw [FileSystem.nesting, FileSystem.nesting, hscanned]
    by_cases hfits : fs.nesting directory showHidden ≤ FileSystem.maxNestedDirectories
    · obtain ⟨scan, hscan, hentries⟩ := FileSystem.exists_scan hresolve hfits
      obtain ⟨scan', hscan', hentries'⟩ := FileSystem.exists_scan hresolve' (hnesting ▸ hfits)
      exact .inl ⟨scan, scan', hscan, hscan', by rw [hentries', hscanned, hentries]⟩
    · rw [Nat.not_le] at hfits
      obtain ⟨events, hhalt⟩ := FileSystem.exists_scan_eq_error hresolve hfits
      obtain ⟨events', hhalt'⟩ := FileSystem.exists_scan_eq_error hresolve' (hnesting ▸ hfits)
      exact .inr ⟨_, events, events', hhalt, hhalt'⟩

lemma loadWorkspace (h : Parallel ctx fs fs') (hscans : ScansAlike ctx args fs fs') :
    StagesAlike (loadWorkspace fs ctx args) (CommandLine.loadWorkspace fs' ctx args) := by
  obtain ⟨before, before', hload, hload', halike⟩ := h.settings
  rw [loadWorkspace_eq, loadWorkspace_eq, h.openRoot_eq, hiddenShown_eq hload,
    hiddenShown_eq hload', halike.showHidden, hload, hload']
  cases hroot : openRoot fs ctx args with
  | error exit => exact .error exit [] []
  | ok root =>
    rcases h.scan_cases hscans hroot (args.showHidden.getD (Settings.showHidden before)) with
      ⟨scan, scan', hscan, hscan', hentries⟩ | ⟨failure, events, events', hscan, hscan'⟩
    · simp only [mapError_ok, bind, Except.bind, hscan, hscan', Except.map, hentries,
        halike.maxTreeDepth]
      exact .ok _ _
    · simp only [mapError_ok, bind, Except.bind, hscan, hscan', mapError_error]
      exact .error _ _ _

lemma restore (h : Parallel ctx fs fs') (w : Workspace) (events : List Event) :
    StagesAlike (restore fs ctx w) (CommandLine.restore fs' ctx { w with events := events }) := by
  rw [CommandLine.restore, CommandLine.restore, h.sessionLoad_eq]
  cases Session.load fs ctx.settings w.root with
  | error failure => exact .error _ _ _
  | ok record =>
    cases record with
    | none => exact .ok w events
    | some record => exact .ok _ _

/-- By induction on the operands. -/
lemma expandOperands (h : Parallel ctx fs fs') (operands : List Operand) (w : Workspace)
    (events : List Event) :
    StagesAlike (expandOperands fs w operands)
      (CommandLine.expandOperands fs' { w with events := events } operands) := by
  induction operands generalizing w with
  | nil => exact .ok w events
  | cons operand rest ih =>
    rw [CommandLine.expandOperands, CommandLine.expandOperands, h.nodeOf_eq]
    cases nodeOf fs w.store.forest operand with
    | error exit => exact .error exit _ _
    | ok n => exact ih { w with store := w.store.expand n (some true) }

theorem prepare (h : Parallel ctx fs fs') (hscans : ScansAlike ctx args fs fs') :
    StagesAlike (prepare fs ctx args) (CommandLine.prepare fs' ctx args) := by
  rw [prepare_eq, prepare_eq]
  refine (h.loadWorkspace hscans).bind fun loaded events => ?_
  refine StagesAlike.bind ?_ fun restored events => h.expandOperands args.expand restored events
  split
  · exact h.restore loaded events
  · exact .ok loaded events

lemma ask_eq (h : Parallel ctx fs fs') {α : Type} (w : Workspace) (events : List Event)
    (operand : Operand) (question : Navigator → Node → Except NavigationError α) :
    ask fs' { w with events := events } operand question = ask fs w operand question := by
  rw [ask, ask, h.nodeOf_eq]
  rfl

theorem answer_eq (h : Parallel ctx fs fs') (w : Workspace) (events : List Event)
    (query : Query) : answer fs' { w with events := events } query = answer fs w query := by
  cases query with
  | find operand => rw [answer, answer, h.resolveOperand_eq]
  | next operand => rw [answer, answer, h.ask_eq]
  | last operand => rw [answer, answer, h.ask_eq]
  | isBottom operand => rw [answer, answer, h.ask_eq]
  | visible => rfl
  | listOpen => rfl

end Parallel

/-! ### Runs -/

/-- The runs end alike and print the same. -/
structure Report.SameAnswer (report report' : Report) : Prop where
  exit : report'.exit = report.exit
  texts : report'.texts = report.texts
  err : report'.err = report.err

/-- The same is refused to both. -/
lemma Report.SameAnswer.writtenTo {report report' : Report} (h : report.SameAnswer report')
    (output : Output) : (report.writtenTo output).SameAnswer (report'.writtenTo output) := by
  rw [Report.writtenTo, Report.writtenTo, h.texts]
  split
  · exact h
  · exact ⟨rfl, rfl, h.err⟩

lemma conclude_err (fs : FileSystem) (ctx : Context) (args : Arguments) (w : Workspace) :
    (conclude fs ctx args w).err = "" := by
  rw [conclude]
  split
  · rfl
  split
  · split <;> rfl
  · rfl

namespace Parallel

variable {fs fs' : FileSystem} {ctx : Context} {argv : List String}

/-- Where both files can be written, the runs end alike. -/
theorem run (h : Parallel ctx fs fs')
    (hscans : ∀ args, parse argv = .ok args → ScansAlike ctx args fs fs')
    (hwritable : Settings.Writable fs ctx.settings)
    (hwritable' : Settings.Writable fs' ctx.settings) :
    Report.SameAnswer (run fs ctx argv) (CommandLine.run fs' ctx argv) := by
  cases hparse : parse argv with
  | error stop =>
    rw [CommandLine.run, CommandLine.run, hparse]
    cases stop <;> exact ⟨rfl, rfl, rfl⟩
  | ok args =>
    have hprepared := h.prepare (hscans args hparse)
    generalize hprepare : CommandLine.prepare fs ctx args = prepared at hprepared
    generalize hprepare' : CommandLine.prepare fs' ctx args = prepared' at hprepared
    cases hprepared with
    | error exit events events' =>
      rw [CommandLine.run, CommandLine.run, hparse]
      simp only [hprepare, hprepare']
      exact ⟨rfl, rfl, rfl⟩
    | ok w events =>
      have hanswer' := h.answer_eq w events args.query
      cases hanswer : answer fs w args.query with
      | error exit =>
        rw [hanswer] at hanswer'
        rw [run_eq_conclude hparse hprepare, run_eq_conclude hparse hprepare', conclude, conclude,
          hanswer, hanswer']
        exact ⟨rfl, rfl, rfl⟩
      | ok lines =>
        rw [hanswer] at hanswer'
        obtain ⟨hexit, htexts⟩ :=
          exit_and_texts_of_answer hparse hprepare hanswer fun _ => hwritable
        obtain ⟨hexit', htexts'⟩ :=
          exit_and_texts_of_answer hparse hprepare' hanswer' fun _ => hwritable'
        refine ⟨hexit'.trans hexit.symm, htexts'.trans htexts.symm, ?_⟩
        rw [run_eq_conclude hparse hprepare, run_eq_conclude hparse hprepare', conclude_err,
          conclude_err]

/-- Where the settings hold the same, saving sessions leaves the same in them. -/
lemma sessionSave (h : Parallel ctx fs fs') (hmirrored : Settings.Mirrored ctx.settings fs fs')
    {root : Path} {forest : Forest} {saved saved' : Session.Saved}
    (hsave : Session.save fs ctx.settings root forest none = .ok saved)
    (hsave' : Session.save fs' ctx.settings root forest none = .ok saved') :
    Settings.Mirrored ctx.settings saved.fs saved'.fs ∧
      Settings.content? saved'.fs ctx.settings = Settings.content? saved.fs ctx.settings := by
  rw [Session.save, hmirrored.load, h.key_eq] at hsave'
  obtain ⟨fields, hload, hsave⟩ := bind_eq_ok_iff.mp hsave
  obtain ⟨name, hname, hsave⟩ := bind_eq_ok_iff.mp hsave
  obtain ⟨written, hwritten, hsave⟩ := bind_eq_ok_iff.mp hsave
  rw [hload] at hsave'
  simp only [hname, bind, Except.bind] at hsave'
  obtain ⟨written', hwritten', hsave'⟩ := bind_eq_ok_iff.mp hsave'
  obtain rfl := Except.ok.inj hsave
  obtain rfl := Except.ok.inj hsave'
  exact hmirrored.update hwritten hwritten'

lemma content?_save (h : Parallel ctx fs fs') (hmirrored : Settings.Mirrored ctx.settings fs fs')
    {args : Arguments} {w : Workspace} {saved saved' : FileSystem} {events events' : List Event}
    (hsave : save fs ctx args w = .ok (saved, events))
    (hsave' : save fs' ctx args w = .ok (saved', events')) :
    Settings.content? saved' ctx.settings = Settings.content? saved ctx.settings := by
  obtain ⟨session, hsession, hsave⟩ := bind_eq_ok_iff.mp hsave
  obtain ⟨session', hsession', hsave'⟩ := bind_eq_ok_iff.mp hsave'
  obtain ⟨hmirrored', hcontent⟩ := h.sessionSave hmirrored hsession hsession'
  cases hshow : args.showHidden with
  | none =>
    simp only [hshow] at hsave hsave'
    obtain ⟨rfl, -⟩ := Prod.mk.inj (Except.ok.inj hsave)
    obtain ⟨rfl, -⟩ := Prod.mk.inj (Except.ok.inj hsave')
    exact hcontent
  | some value =>
    simp only [hshow] at hsave hsave'
    obtain ⟨hidden, hhidden, hsave⟩ := bind_eq_ok_iff.mp hsave
    obtain ⟨hidden', hhidden', hsave'⟩ := bind_eq_ok_iff.mp hsave'
    obtain ⟨rfl, -⟩ := Prod.mk.inj (Except.ok.inj hsave)
    obtain ⟨rfl, -⟩ := Prod.mk.inj (Except.ok.inj hsave')
    exact (hmirrored'.update hhidden hhidden').2

/-- Where the settings hold the same, runs that save leave the same text in them. -/
theorem left_eq (h : Parallel ctx fs fs')
    (hscans : ∀ args, parse argv = .ok args → ScansAlike ctx args fs fs')
    (hmirrored : Settings.Mirrored ctx.settings fs fs')
    {output : Output} (hsaves : (⟨fs, ctx, argv, output⟩ : Invocation).Saves) :
    (⟨fs', ctx, argv, output⟩ : Invocation).left =
      (⟨fs, ctx, argv, output⟩ : Invocation).left := by
  obtain ⟨hnormal, args, hparse, hasked⟩ := hsaves
  have hsame := (h.run hscans hmirrored.writable hmirrored.writable').writtenTo output
  have hnormal' : (⟨fs', ctx, argv, output⟩ : Invocation).report.exit = .normal :=
    hsame.exit.trans hnormal
  have hreport := Invocation.report_of_normal hnormal
  have hreport' := Invocation.report_of_normal hnormal'
  obtain ⟨args₁, w, hconcludes⟩ := Report.Concludes.of_normal (hreport ▸ hnormal)
  obtain ⟨args₂, w', hconcludes'⟩ := Report.Concludes.of_normal (hreport' ▸ hnormal')
  obtain rfl := Except.ok.inj (hconcludes.parsed.symm.trans hparse)
  obtain rfl := Except.ok.inj (hconcludes'.parsed.symm.trans hparse)
  have hprepared := h.prepare (hscans _ hparse)
  rw [hconcludes.prepared, hconcludes'.prepared] at hprepared
  cases hprepared with
  | ok _ events' =>
    obtain ⟨_, hsave⟩ := hconcludes.saved hasked
    obtain ⟨_, hsave'⟩ := hconcludes'.saved hasked
    rw [Invocation.left, Invocation.left, hreport, hreport']
    exact h.content?_save hmirrored hsave hsave'

end Parallel

end CommandLine

end Sidebar
