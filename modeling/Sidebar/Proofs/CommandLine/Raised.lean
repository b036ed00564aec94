import Sidebar.Proofs.CommandLine.History
import Sidebar.Proofs.FileSystem.Loaded
import Sidebar.Proofs.Tree.Decoding

/-!
# Errors of the tree

A snapshot can be rejected, and a question about a node can have no answer. Here a run is told once
more with both as errors that are raised: the scan is handed to the store as a snapshot that the
store checks, and the navigator raises what it has no answer to. Only the question is asked where
such an error is caught; from any other stage it would escape.

None does. The snapshot of a scan is accepted whatever is scanned, so that nothing but a question
raises an error, and the run in which errors are raised and caught is the run itself.
-/

namespace Sidebar

/-! ### Snapshots of scans -/

namespace Entry

open Json

mutual

/-- Written entries keep all rules for entries where their paths are not empty. -/
theorem isEntry_of_mem_toJson : (entry : Entry) → (∀ path ∈ entry.paths, path ≠ "") →
    ∀ v ∈ Json.nested entry.toJson, IsEntry v
  | .file name path, h => by
    intro v hv
    obtain rfl : v = (Entry.file name path).toJson := by
      simpa [toJson, Json.nested, Json.nestedField, Json.nestedChildren, Json.nestedAll] using hv
    exact ⟨⟨rfl, h path List.mem_cons_self⟩, .file rfl, .blank rfl rfl⟩
  | .dir name path children, h => by
    intro v hv
    have hcases : v = (Entry.dir name path children).toJson ∨
        v ∈ Json.nestedAll (toItems children) := by
      simpa [toJson, Json.nested, Json.nestedField, Json.nestedChildren] using hv
    rcases hcases with rfl | hv
    · exact ⟨⟨rfl, h path List.mem_cons_self⟩, .dir rfl, .list rfl rfl⟩
    · exact isEntry_of_mem_toItems children
        (fun path hpath => h path (List.mem_cons_of_mem _ hpath)) v hv

theorem isEntry_of_mem_toItems : (entries : List Entry) → (∀ path ∈ pathsAll entries, path ≠ "") →
    ∀ v ∈ Json.nestedAll (toItems entries), IsEntry v
  | [], _ => by simp [toItems, Json.nestedAll]
  | entry :: rest, h => by
    intro v hv
    rw [toItems, Json.nestedAll, List.mem_append] at hv
    rcases hv with hv | hv
    · exact isEntry_of_mem_toJson entry (fun path hpath => h path (List.mem_append_left _ hpath))
        v hv
    · exact isEntry_of_mem_toItems rest (fun path hpath => h path (List.mem_append_right _ hpath))
        v hv

end

/-- The snapshot of entries with paths is accepted. -/
lemma exists_ofSnapshot {entries : List Entry} (h : ∀ path ∈ pathsAll entries, path ≠ "") :
    ∃ read, ofSnapshot (.arr (toItems entries)) = .ok read :=
  (decodes_ofItems (toItems entries)).ok_iff.mpr (isEntry_of_mem_toItems entries h)

end Entry

namespace CommandLine

/-! ### Raising and catching -/

/-- An error of the tree: a snapshot that is rejected, or a question without an answer. -/
inductive TreeError where
  | snapshot (error : SnapshotError)
  | navigation (error : NavigationError)

def TreeError.message : TreeError → String
  | .snapshot error => error.message
  | .navigation error => error.message

/-- What stops a stage of a run: a cause of its own, or an error of the tree. -/
inductive Raised (ε : Type) where
  | early (cause : ε)
  | tree (error : TreeError)

/-- How a run ends that catches what was raised. -/
def Raised.caught : Raised Exit → Exit
  | .early exit => exit
  | .tree error => .message error.message

namespace Raising

/-- Scans the workspace and loads the snapshot of the scan into a store. -/
def loadWorkspace (fs : FileSystem) (ctx : Context) (args : Arguments) :
    Except (Raised Halt) Workspace := do
  let root ← (openRoot fs ctx args).mapError fun exit => .early { exit := exit }
  let showHidden ← (hiddenShown fs ctx args).mapError .early
  let scan ← (fs.scan root showHidden).mapError fun halt =>
    .early (.ofFailure halt.events halt.failure)
  let store ← (Store.loadJson {} (.arr (Entry.toItems scan.entries))).mapError fun error =>
    .tree (.snapshot error)
  let events := scan.events ++ [.treeLoaded store.treeId store.forest.size]
  let bound ← ((Settings.load fs ctx.settings).map Settings.maxTreeDepth).mapError fun failure =>
    .early (.ofFailure events failure)
  return ⟨root, store, Navigator.clamp bound, events⟩

/-- The workspace as the question finds it. -/
def prepare (fs : FileSystem) (ctx : Context) (args : Arguments) :
    Except (Raised Halt) Workspace := do
  let loaded ← loadWorkspace fs ctx args
  let restored ← (if args.restore then restore fs ctx loaded else .ok loaded).mapError .early
  (expandOperands fs restored args.expand).mapError .early

/-- Asks the navigator, which raises what it has no answer to. -/
def ask {α : Type} (fs : FileSystem) (w : Workspace) (operand : Operand)
    (question : Navigator → Node → Except NavigationError α) : Except (Raised Exit) α := do
  let n ← (nodeOf fs w.store.forest operand).mapError .early
  (question w.navigator n).mapError fun error => .tree (.navigation error)

/-- The lines that answer a question. -/
def answer (fs : FileSystem) (w : Workspace) : Query → Except (Raised Exit) (List String)
  | .find operand => do
    let path ← (resolveOperand fs operand).mapError fun failure => .early (.failure failure)
    return [(w.store.forest.tidOfPath? path).getD absent]
  | .next operand => do
    let next ← ask fs w operand Navigator.nextVisible
    return [(next.map Node.path).getD absent]
  | .last operand => do
    let last ← ask fs w operand Navigator.lastVisible
    return [last.path]
  | .isBottom operand => do
    let isBottom ← ask fs w operand Navigator.isBottom
    return [if isBottom then "yes" else "no"]
  | .visible => return w.store.forest.visibleRows.map visibleLine
  | .listOpen => return w.store.forest.openPaths

/-- Answers the question, catching what it raises, and saves the session. -/
def conclude (fs : FileSystem) (ctx : Context) (args : Arguments) (w : Workspace) : Report :=
  match (answer fs w args.query).mapError Raised.caught with
  | .error exit => { exit := exit, fs := fs, events := w.events }
  | .ok lines =>
    if args.save then
      match save fs ctx args w with
      | .error failure => { exit := .failure failure, fs := fs, events := w.events }
      | .ok (saved, events) =>
        { exit := .normal, texts := lines.map line, fs := saved, events := w.events ++ events }
    else { exit := .normal, texts := lines.map line, fs := fs, events := w.events }

/-- Runs a command line. The run itself has no outcome when an error escapes from it. -/
def run (fs : FileSystem) (ctx : Context) (argv : List String) : Except TreeError Report :=
  match parse argv with
  | .error .help => .ok { exit := .status 0, texts := [help], fs := fs }
  | .error (.usage error) => .ok { exit := .status 2, err := usageReport error, fs := fs }
  | .ok args =>
    match prepare fs ctx args with
    | .error (.tree error) => .error error
    | .error (.early halt) => .ok { exit := halt.exit, fs := fs, events := halt.events }
    | .ok w => .ok (conclude fs ctx args w)

end Raising

/-! ### Stages that raise nothing -/

/-- The stage raises no error of the tree. -/
def RaisesNothing {ε α : Type} (x : Except (Raised ε) α) : Prop := ∀ error, x ≠ .error (.tree error)

namespace RaisesNothing

variable {ε ε' α β : Type}

lemma ok (a : α) : RaisesNothing (.ok a : Except (Raised ε) α) := fun _ h => by cases h

lemma mapError (x : Except ε α) (cause : ε → ε') :
    RaisesNothing (x.mapError fun e => Raised.early (cause e)) := by
  intro error h
  obtain ⟨e, -, he⟩ := mapError_eq_error_iff.mp h
  cases he

lemma bind {x : Except (Raised ε) α} (hx : RaisesNothing x) {f : α → Except (Raised ε) β}
    (hf : ∀ a, x = .ok a → RaisesNothing (f a)) : RaisesNothing (x >>= f) := by
  intro error h
  rcases bind_eq_error_iff.mp h with h | ⟨a, ha, h⟩
  · exact hx error h
  · exact hf a ha error h

end RaisesNothing

variable {fs : FileSystem} {ctx : Context} {args : Arguments}

/-- The store accepts the snapshot of every scan. -/
theorem raisesNothing_loadWorkspace (fs : FileSystem) (ctx : Context) (args : Arguments) :
    RaisesNothing (Raising.loadWorkspace fs ctx args) := by
  refine (RaisesNothing.mapError _ _).bind fun root _ => ?_
  refine (RaisesNothing.mapError _ _).bind fun showHidden _ => ?_
  refine (RaisesNothing.mapError _ _).bind fun scan hscan => ?_
  obtain ⟨entries, hread⟩ :=
    Entry.exists_ofSnapshot (FileSystem.paths_scan (mapError_eq_ok_iff.mp hscan))
  have hload : Store.loadJson {} (.arr (Entry.toItems scan.entries)) =
      .ok (Store.load {} entries) := by
    rw [Store.loadJson, hread]
    rfl
  rw [hload]
  refine (RaisesNothing.ok _).bind fun store _ => ?_
  exact (RaisesNothing.mapError _ _).bind fun bound _ => .ok _

/-- Opening the nodes of a record and of operands asks the navigator nothing. -/
theorem raisesNothing_prepare (fs : FileSystem) (ctx : Context) (args : Arguments) :
    RaisesNothing (Raising.prepare fs ctx args) := by
  refine (raisesNothing_loadWorkspace fs ctx args).bind fun loaded _ => ?_
  exact (RaisesNothing.mapError _ _).bind fun restored _ => .mapError _ _

/-! ### The same run -/

/-- In valid directories the snapshot is read as it was scanned. -/
lemma Raising.loadWorkspace_eq (hvalid : fs.Valid) :
    loadWorkspace fs ctx args = (CommandLine.loadWorkspace fs ctx args).mapError .early := by
  rw [loadWorkspace, CommandLine.loadWorkspace_eq]
  simp only [mapError_bind, mapError_mapError]
  refine congrArg (_ >>= ·) (funext fun root => ?_)
  refine congrArg (_ >>= ·) (funext fun showHidden => ?_)
  cases hscan : fs.scan root showHidden with
  | error failure => rfl
  | ok scan =>
    show (Store.loadJson {} (.arr (Entry.toItems scan.entries))).mapError _ >>= _ = _
    rw [FileSystem.loadJson_of_scan hvalid hscan]
    rfl

lemma Raising.prepare_eq (hvalid : fs.Valid) :
    prepare fs ctx args = (CommandLine.prepare fs ctx args).mapError .early := by
  rw [prepare, CommandLine.prepare_eq, loadWorkspace_eq hvalid, mapError_bind]
  simp only [mapError_bind]

lemma Raising.ask_caught {α : Type} (fs : FileSystem) (w : Workspace) (operand : Operand)
    (question : Navigator → Node → Except NavigationError α) :
    (ask fs w operand question).mapError Raised.caught =
      CommandLine.ask fs w operand question := by
  rw [ask, CommandLine.ask, mapError_bind, mapError_mapError]
  simp only [mapError_mapError]
  cases nodeOf fs w.store.forest operand <;> rfl

lemma Raising.answer_caught (fs : FileSystem) (w : Workspace) (query : Query) :
    (answer fs w query).mapError Raised.caught = CommandLine.answer fs w query := by
  cases query with
  | find operand =>
    rw [answer, CommandLine.answer, mapError_bind, mapError_mapError]
    rfl
  | next operand =>
    rw [answer, CommandLine.answer, mapError_bind, ask_caught]
    rfl
  | last operand =>
    rw [answer, CommandLine.answer, mapError_bind, ask_caught]
    rfl
  | isBottom operand =>
    rw [answer, CommandLine.answer, mapError_bind, ask_caught]
    rfl
  | visible => rfl
  | listOpen => rfl

lemma Raising.conclude_eq (fs : FileSystem) (ctx : Context) (args : Arguments) (w : Workspace) :
    conclude fs ctx args w = CommandLine.conclude fs ctx args w := by
  rw [conclude, answer_caught]
  rfl

/-- No error of the tree escapes from a run, whatever the arguments, the directories and the
settings are: no stage before the question raises one, and the run ends with the message of the one
that the question raises, with no answer and nothing written. In valid directories this is how the
run ends that has no errors to raise. -/
theorem exists_report_of_raising (fs : FileSystem) (ctx : Context) (argv : List String) :
    (∀ args error, Raising.prepare fs ctx args ≠ .error (.tree error)) ∧
      ∃ report, Raising.run fs ctx argv = .ok report ∧
        (fs.Valid → report = run fs ctx argv) ∧
        ∀ args w error, parse argv = .ok args → Raising.prepare fs ctx args = .ok w →
          Raising.answer fs w args.query = .error (.tree error) →
          report = { exit := .message error.message, fs := fs, events := w.events } := by
  refine ⟨raisesNothing_prepare fs ctx, ?_⟩
  rw [Raising.run, run]
  cases hparse : parse argv with
  | error stop =>
    cases stop with
    | help => exact ⟨_, rfl, fun _ => rfl, fun args w error h => by cases h⟩
    | usage error => exact ⟨_, rfl, fun _ => rfl, fun args w error h => by cases h⟩
  | ok args =>
    cases hprepare : Raising.prepare fs ctx args with
    | error raised =>
      cases raised with
      | tree error => exact absurd hprepare (raisesNothing_prepare fs ctx args error)
      | early halt =>
        simp only [hprepare]
        refine ⟨_, rfl, fun hvalid => ?_, fun args' w error h hprepared => ?_⟩
        · rw [Raising.prepare_eq hvalid] at hprepare
          obtain ⟨_, hhalt, hcause⟩ := mapError_eq_error_iff.mp hprepare
          cases hcause
          simp only [hhalt]
        · obtain rfl := Except.ok.inj h
          cases hprepare.symm.trans hprepared
    | ok w =>
      simp only [hprepare]
      refine ⟨_, rfl, fun hvalid => ?_, fun args' w' error h hprepared hraised => ?_⟩
      · rw [Raising.prepare_eq hvalid] at hprepare
        simp only [mapError_eq_ok_iff.mp hprepare]
        exact Raising.conclude_eq fs ctx args w
      · obtain rfl := Except.ok.inj h
        obtain rfl := Except.ok.inj (hprepare.symm.trans hprepared)
        rw [Raising.conclude, hraised]
        rfl

lemma valid_oneDirectory : oneDirectory.Valid where
  inodes := by
    simp [oneDirectory, Inode.Valid, Inode.ValidAll, validName_iff]
  cwd := fun _ => ⟨_, Inode.at?_nil _⟩

/-- The file has no last row below it, and the run ends with the message that says so. -/
theorem exists_report_of_raising_oneDirectory :
    oneDirectory.Valid ∧ ∃ report,
      Raising.run oneDirectory rootSettings ["/w", "--last", "/w/a/b"] = .ok report ∧
        report = run oneDirectory rootSettings ["/w", "--last", "/w/a/b"] ∧
        report.exit = .message "/w/a/b has no children" ∧ report.out = "" := by
  obtain ⟨-, report, hrun, hsame, hcaught⟩ :=
    exists_report_of_raising oneDirectory rootSettings ["/w", "--last", "/w/a/b"]
  have hparse : parse ["/w", "--last", "/w/a/b"] = .ok
      { root := some "/w", query := .last (some "/w/a/b") } := by cbv
  have hquestion : ((prepare oneDirectory rootSettings
      { root := some "/w", query := .last (some "/w/a/b") }).map
        fun w => Raising.answer oneDirectory w (.last (some "/w/a/b"))) =
      .ok (.error (.tree (.navigation (.noChildren "files_2" "/w/a/b")))) := by cbv
  obtain ⟨w, hprepare, hraised⟩ := map_eq_ok_iff.mp hquestion
  rw [← mapError_eq_ok_iff, ← Raising.prepare_eq valid_oneDirectory] at hprepare
  have hreport := hcaught _ w _ hparse hprepare hraised
  refine ⟨valid_oneDirectory, report, hrun, hsame valid_oneDirectory, ?_, ?_⟩
  · rw [hreport]
    rfl
  · rw [hreport]
    rfl

end CommandLine

end Sidebar
