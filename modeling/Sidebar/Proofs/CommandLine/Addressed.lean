import Sidebar.Proofs.CommandLine.Appended
import Sidebar.Proofs.CommandLine.History
import Sidebar.Proofs.FileSystem.Loaded
import Sidebar.Proofs.FileSystem.Places

/-!
# Rows addressed by their paths

A row shows the path that a scan has given to it, and a run takes a path to act on. That path is
resolved before its row is looked up, so a row can be addressed by its own path just when the path
is resolved to itself. This holds of files and directories, which a scan reaches through directories
alone. A link is shown under its own path as well, but following that leads to the target.

Main statement: which rows the options act on when they are given the path of a row.
-/

namespace Sidebar.CommandLine

variable {fs : FileSystem} {ctx : Context} {argv : List String} {args : Arguments} {w : Workspace}
  {n : Node}

/-! ### Reports of answered questions -/

/-- The report gives what the navigator has answered: the lines, or the message of its error. -/
def Report.Gives (report : Report) : Except NavigationError (List String) → Prop
  | .ok lines => report.exit = .normal ∧ report.out = unlines lines
  | .error error => report.exit = .message error.message ∧ report.out = ""

lemma run_gives (hparse : parse argv = .ok args) (hprepare : prepare fs ctx args = .ok w)
    {lines : Except NavigationError (List String)}
    (hanswer : answer fs w args.query = lines.mapError fun error => .message error.message)
    (hwritable : args.save = true → Settings.Writable fs ctx.settings) :
    (run fs ctx argv).Gives lines := by
  cases lines with
  | ok lines => exact run_of_answer hparse hprepare hanswer hwritable
  | error error =>
    have hrun : run fs ctx argv = conclude fs ctx args w := by
      rw [run, hparse]
      simp only [hprepare]
    rw [hrun, conclude, hanswer]
    exact ⟨rfl, rfl⟩

lemma expandOperands_append (operands : List Operand) (operand : Operand) :
    expandOperands fs w (operands ++ [operand]) =
      expandOperands fs w operands >>= fun w => expandOperands fs w [operand] := by
  induction operands generalizing w with
  | nil => rfl
  | cons first rest ih =>
    rw [List.cons_append, expandOperands, expandOperands]
    cases (nodeOf fs w.store.forest first).mapError fun exit => (⟨exit, w.events⟩ : Halt) with
    | error halt => rfl
    | ok n => exact ih

/-- A further operand is opened in the workspace that the other arguments prepare. -/
lemma prepare_expand (operand : Operand) :
    prepare fs ctx { args with expand := args.expand ++ [operand] } =
      prepare fs ctx args >>= fun w => expandOperands fs w [operand] := by
  have hload : loadWorkspace fs ctx { args with expand := args.expand ++ [operand] } =
      loadWorkspace fs ctx args := rfl
  rw [prepare_eq, prepare_eq, hload]
  simp only [expandOperands_append, bind_assoc]

/-! ### Rows of a prepared workspace -/

lemma anchor_of_openRoot {root : Path} (h : openRoot fs ctx args = .ok root) :
    root.anchor ≠ .relative := by
  obtain ⟨standIn, -, h⟩ := bind_eq_ok_iff.mp h
  obtain ⟨resolved, hresolved, h⟩ := bind_eq_ok_iff.mp h
  obtain ⟨isDir, -, h⟩ := bind_eq_ok_iff.mp h
  split at h
  · obtain rfl := Except.ok.inj h
    exact FileSystem.anchor_of_resolve (mapError_eq_ok_iff.mp hresolved)
  · cases h

lemma wellFormed_of_prepare (hprepare : prepare fs ctx args = .ok w) :
    w.store.forest.WellFormed "files" := by
  obtain ⟨_, _, _, -, -, -, -, hshows⟩ := exists_scan_of_prepare hprepare
  exact Forest.Shows.wellFormed hshows

/-- The paths of the rows differ. -/
lemma nodup_paths_of_prepare (hfs : fs.Valid) (hprepare : prepare fs ctx args = .ok w) :
    (w.store.forest.rows.map Node.path).Nodup := by
  obtain ⟨showHidden, scan, -, -, -, hscan, -, hshows⟩ := exists_scan_of_prepare hprepare
  obtain ⟨directory, -, -, hentries⟩ := FileSystem.exists_directory_of_scan hscan
  have hproper : fs.Proper := hfs.inodes.proper
  rw [Forest.Shows.paths hshows, hentries]
  exact hproper.nodup_scanned directory showHidden

/-- Each row shows what a scan of the root reaches. -/
lemma exists_reached_of_prepare (hfs : fs.Valid) (hprepare : prepare fs ctx args = .ok w)
    (hn : n ∈ w.store.forest.rows) :
    ∃ directory entries showHidden place inode, fs.resolve w.root = .ok directory ∧
      fs.entriesAt directory = .ok entries ∧ Reached showHidden directory entries place inode ∧
      n.path = (directory.below place).toString := by
  obtain ⟨showHidden, scan, -, -, -, hscan, -, hshows⟩ := exists_scan_of_prepare hprepare
  obtain ⟨directory, hdirectory, -, hscanned⟩ := FileSystem.exists_directory_of_scan hscan
  have hline : n.line ∈ Entry.linesAll 0 scan.entries := by
    rw [← Forest.Shows.lines hshows]
    exact List.mem_map_of_mem hn
  rw [hscanned, FileSystem.scanned] at hline
  cases hentries : fs.entriesAt directory with
  | error error => simp [hentries, shownBelow, Entry.linesAll] at hline
  | ok entries =>
    rw [hentries, shownBelow, Entry.mem_linesAll_sortEntries] at hline
    obtain ⟨place, inode, hreached, hn_line⟩ :=
      Inode.exists_reached_of_mem_lines (hfs.entriesAt hentries) hline
    exact ⟨directory, entries, showHidden, place, inode, hdirectory, hentries, hreached,
      congrArg Line.path hn_line⟩

/-- Unless following the root loops, each row shows what is at the place of its path. -/
lemma exists_place_of_prepare (hfs : fs.Valid) (hprepare : prepare fs ctx args = .ok w)
    (hroot : ¬fs.Loops w.root.names) (hn : n ∈ w.store.forest.rows) :
    ∃ place inode, fs.at? place = some inode ∧ n.path = (⟨.root, place⟩ : Path).toString := by
  obtain ⟨_, _, _, hopen, -⟩ := exists_scan_of_prepare hprepare
  obtain ⟨directory, entries, _, back, inode, hdirectory, hentries, hreached, hpath⟩ :=
    exists_reached_of_prepare hfs hprepare hn
  obtain ⟨-, -, hanchor, hsettled⟩ :=
    FileSystem.exists_resolved (anchor_of_openRoot hopen) hroot hdirectory
  obtain ⟨anchor, front⟩ := directory
  obtain rfl : anchor = .root := hanchor
  refine ⟨front ++ back, inode, ?_, hpath⟩
  have hat : (Inode.dir fs.entries).at? front = some (.dir entries) := hsettled.at? hentries
  rw [FileSystem.at?, Inode.at?_append, hat, Option.bind_some, hreached.leads]

/-! ### Addressing a row -/

/-- The options that take a path, given that of the node, act on the node: it is found, it is what
the navigator is asked about, and it is opened. -/
structure ActsOn (fs : FileSystem) (ctx : Context) (argv : List String) (w : Workspace) (n : Node) :
    Prop where
  find : (run fs ctx (argv ++ ["--find", n.path])).Gives (.ok [n.tid])
  next : (run fs ctx (argv ++ ["--next", n.path])).Gives
    ((w.navigator.nextVisible n).map fun next => [(next.map Node.path).getD absent])
  last : (run fs ctx (argv ++ ["--last", n.path])).Gives
    ((w.navigator.lastVisible n).map fun last => [last.path])
  isBottom : (run fs ctx (argv ++ ["--is-bottom", n.path])).Gives
    ((w.navigator.isBottom n).map fun isBottom => [if isBottom then "yes" else "no"])
  expand : (run fs ctx (argv ++ ["--expand", n.path])).Gives
    (.ok (w.store.expand n (some true)).forest.openPaths)

lemma nodeOf_of_resolve {forest : Forest} (hfound : forest.atPath? n.path = some n)
    {operand : Operand} (hresolve : resolveOperand fs operand = .ok n.path) :
    nodeOf fs forest operand = .ok n := by
  rw [nodeOf, hresolve]
  simp [hfound, bind, Except.bind, pure, Except.pure]

/-- The answer to a question about a path that is resolved to the path of a row. -/
lemma answer_of_resolve (hfound : w.store.forest.atPath? n.path = some n) {operand : Operand}
    (hresolve : resolveOperand fs operand = .ok n.path) {α : Type}
    (question : Navigator → Node → Except NavigationError α) (line : α → List String) :
    (ask fs w operand question >>= fun a => Except.ok (line a)) =
      ((question w.navigator n).map line).mapError fun error => .message error.message := by
  rw [ask, nodeOf_of_resolve hfound hresolve]
  cases hquestion : question w.navigator n <;>
    simp [hquestion, Except.map, bind, Except.bind]

/-- The ids of rows differ from the mark of an absent one. -/
lemma tid_ne_absent (hprepare : prepare fs ctx args = .ok w) (hn : n ∈ w.store.forest.rows) :
    n.tid ≠ absent := by
  have htid : n.tid ∈ w.store.forest.rows.map Node.tid := List.mem_map_of_mem hn
  rw [(wellFormed_of_prepare hprepare).tids] at htid
  obtain ⟨number, -, htid⟩ := List.mem_map.mp htid
  intro habsent
  have htext := congrArg String.toList (htid.trans habsent)
  simp [Node.tidOf, absent, String.toList_append] at htext

/-- An operand for which a run gives the id of a row is resolved to the path of that row. -/
lemma path_of_gives_tid (hprepare : prepare fs ctx args = .ok w) {n : Node}
    (hn : n ∈ w.store.forest.rows) {operand : Operand}
    (hparse : parse argv = .ok { args with query := .find operand })
    (hgives : (run fs ctx argv).Gives (.ok [n.tid])) :
    resolveOperand fs operand = .ok n.path := by
  obtain ⟨hexit, hout⟩ := hgives
  obtain ⟨args', w', hconcludes⟩ := Report.Concludes.of_normal hexit
  obtain rfl := Except.ok.inj (hconcludes.parsed.symm.trans hparse)
  obtain rfl := Except.ok.inj (hconcludes.prepared.symm.trans hprepare)
  obtain ⟨lines, hanswer, hlines⟩ := hconcludes.out
  obtain ⟨path, hpath, hanswer⟩ := bind_eq_ok_iff.mp hanswer
  obtain rfl := Except.ok.inj hanswer
  have hpath := mapError_eq_ok_iff.mp hpath
  have htid : (w'.store.forest.tidOfPath? path).getD absent = n.tid := by
    have hsame := hlines.symm.trans hout
    simpa [unlines, line, String.join] using hsame
  have hwell := wellFormed_of_prepare hprepare
  cases hfind : w'.store.forest.rows.find? fun m => m.path = path with
  | none =>
    rw [Forest.tidOfPath?, hfind] at htid
    exact absurd htid.symm (tid_ne_absent hprepare hn)
  | some m =>
    rw [Forest.tidOfPath?, hfind] at htid
    have hm_path : m.path = path := by simpa using List.find?_some hfind
    have hsame : m = n := hwell.eq_of_tid_eq (List.mem_of_find?_eq_some hfind) hn htid
    rw [hpath, ← hm_path, hsame]

/-- A row is addressed by its own path just when that is resolved to itself. -/
lemma actsOn_iff_resolve (hfs : fs.Valid) (hargv : OpenEnded argv args)
    (hprepare : prepare fs ctx args = .ok w)
    (hwritable : args.save = true → Settings.Writable fs ctx.settings)
    (hn : n ∈ w.store.forest.rows) :
    ActsOn fs ctx argv w n ↔ resolveOperand fs (some n.path) = .ok n.path := by
  have hwell := wellFormed_of_prepare hprepare
  have hpaths := nodup_paths_of_prepare hfs hprepare
  obtain ⟨rest, hslash⟩ : ∃ rest, n.path.toList = '/' :: rest := by
    obtain ⟨directory, _, _, place, _, hdirectory, -, -, hpath⟩ :=
      exists_reached_of_prepare hfs hprepare hn
    rw [hpath]
    apply Path.exists_slash
    show directory.anchor ≠ .relative
    exact FileSystem.anchor_of_resolve hdirectory
  have hparse := fun name hname => hargv.parse_append name hname hslash
  constructor
  · intro hacts
    exact path_of_gives_tid hprepare hn (hparse .find rfl) hacts.find
  · intro hresolve
    have hfound : w.store.forest.atPath? n.path = some n := hwell.atPath?_path hpaths hn
    have htid : w.store.forest.tidOfPath? n.path = some n.tid := hwell.tidOfPath?_path hpaths hn
    refine
      { find := run_gives (hparse .find rfl) hprepare ?_ hwritable
        next := run_gives (hparse .next rfl) hprepare (answer_of_resolve hfound hresolve _ _)
          hwritable
        last := run_gives (hparse .last rfl) hprepare (answer_of_resolve hfound hresolve _ _)
          hwritable
        isBottom := run_gives (hparse .isBottom rfl) hprepare
          (answer_of_resolve hfound hresolve _ _) hwritable
        expand := ?_ }
    · show answer fs w (.find (some n.path)) = .ok [n.tid]
      simp [answer, hresolve, htid, bind, Except.bind, pure, Except.pure]
    · have hopened : prepare fs ctx { args with expand := args.expand ++ [some n.path] } =
          .ok { w with store := w.store.expand n (some true) } := by
        rw [prepare_expand, hprepare]
        simp only [bind, Except.bind, expandOperands, nodeOf_of_resolve hfound hresolve,
          mapError_ok]
      refine run_gives (hparse .expand rfl) hopened ?_ hwritable
      show answer fs _ args.query = _
      rw [hargv.query]
      rfl

/-- The target of the link at an absolute path. -/
def linkOf? (fs : FileSystem) (path : String) : Option String :=
  fs.linkAt? ⟨.root, (Path.ofString path).names⟩

/-- The options that take a path act on the row that shows it just when the path is resolved to
itself. Unless following the root loops, this holds of all rows but those of links, and of a link it
holds only when following it loops. -/
theorem actsOn_own_path (hfs : fs.Valid) (hargv : OpenEnded argv args)
    (hprepare : prepare fs ctx args = .ok w)
    (hwritable : args.save = true → Settings.Writable fs ctx.settings)
    (hn : n ∈ w.store.forest.rows) :
    (ActsOn fs ctx argv w n ↔ resolveOperand fs (some n.path) = .ok n.path) ∧
      (¬fs.Loops w.root.names →
        (linkOf? fs n.path = none → ActsOn fs ctx argv w n) ∧
        (ActsOn fs ctx argv w n →
          linkOf? fs n.path = none ∨ fs.Loops (Path.ofString n.path).names)) := by
  have hacts := actsOn_iff_resolve hfs hargv hprepare hwritable hn
  refine ⟨hacts, fun hroot => ?_⟩
  obtain ⟨place, inode, hat, hpath⟩ := exists_place_of_prepare hfs hprepare hroot hn
  have hnames : ∀ name ∈ place, ValidName name := (hfs.inodes.of_at? hat).1
  have hread : Path.ofString n.path = ⟨.root, place⟩ := by
    rw [hpath]
    exact Path.ofString_toString hnames
  rw [hacts, linkOf?, hread]
  constructor
  · intro hlink
    rw [resolveOperand, hread, FileSystem.resolve_of_at? hnames hat hlink, hpath]
    rfl
  · intro hresolve
    rw [resolveOperand, hread, map_eq_ok_iff] at hresolve
    obtain ⟨q, hq, htext⟩ := hresolve
    exact FileSystem.linkAt?_of_resolve hnames hq (htext.trans hpath)

/-! ### A file and a link to it -/

/-- The arguments that name the workspace. -/
def linkedArguments : Arguments := { root := some "/w" }

lemma openEnded_linkedFile : OpenEnded ["/w"] linkedArguments where
  parsed := by cbv
  separator := by decide
  unasked := by
    intro kinds hkinds name value hmem
    have hword : classifyAll ["/w"] = .ok [.argument "/w"] := by cbv
    obtain rfl := Except.ok.inj (hword.symm.trans hkinds)
    simp at hmem

lemma exists_prepare_linkedFile :
    ∃ w a l, prepare .linkedFile rootSettings linkedArguments = .ok w ∧ w.root.names = ["w"] ∧
      w.store.forest.rows = [a, l] ∧ a.path = "/w/a" ∧ l.path = "/w/l" ∧ l.tid = "files_2" := by
  have hprepare : ((prepare .linkedFile rootSettings linkedArguments).map fun w =>
      (w.root.names, w.store.forest.rows.map fun n => (n.path, n.tid))) =
      .ok (["w"], [("/w/a", "files_1"), ("/w/l", "files_2")]) := by cbv
  obtain ⟨w, hprepare, hw⟩ := map_eq_ok_iff.mp hprepare
  obtain ⟨hroot, hrows⟩ := Prod.mk.inj hw
  obtain ⟨a, rest, hrows, ha, hrest⟩ := List.map_eq_cons_iff.mp hrows
  obtain ⟨l, rest, rfl, hl, hnil⟩ := List.map_eq_cons_iff.mp hrest
  obtain rfl := List.map_eq_nil_iff.mp hnil
  exact ⟨w, a, l, hprepare, hroot, hrows, congrArg Prod.fst ha, congrArg Prod.fst hl,
    congrArg Prod.snd hl⟩

/-- The link is a row of its own, but a run that is asked for its path finds the file. -/
theorem link_finds_file :
    FileSystem.linkedFile.Valid ∧
      ∃ w l, prepare .linkedFile rootSettings linkedArguments = .ok w ∧
        l ∈ w.store.forest.rows ∧ l.path = "/w/l" ∧ l.tid = "files_2" ∧
        (run .linkedFile rootSettings ["/w", "--find", "/w/l"]).out = "files_1\n" := by
  obtain ⟨w, a, l, hprepare, -, hrows, -, hpath, htid⟩ := exists_prepare_linkedFile
  refine ⟨FileSystem.valid_linkedFile, w, l, hprepare, ?_, hpath, htid, by cbv⟩
  rw [hrows]
  exact List.mem_cons_of_mem _ List.mem_cons_self

/-- The options act on the file when they are given its path, but not on the link. -/
theorem actsOn_own_path_linkedFile :
    FileSystem.linkedFile.Valid ∧ OpenEnded ["/w"] linkedArguments ∧
      ∃ w a l, prepare .linkedFile rootSettings linkedArguments = .ok w ∧
        w.store.forest.rows = [a, l] ∧ ActsOn .linkedFile rootSettings ["/w"] w a ∧
        ¬ActsOn .linkedFile rootSettings ["/w"] w l := by
  obtain ⟨w, a, l, hprepare, hroot, hrows, ha, hl, -⟩ := exists_prepare_linkedFile
  have hacts : ∀ n ∈ w.store.forest.rows, _ := fun n hn => actsOn_own_path
    FileSystem.valid_linkedFile openEnded_linkedFile hprepare
    (fun hsave => absurd hsave Bool.false_ne_true) hn
  have hroot : ¬FileSystem.linkedFile.Loops w.root.names := by
    rw [hroot]
    rintro ⟨way, hloops⟩
    have hfrom : FileSystem.linkedFile.resolveFrom FileSystem.maxNestedLinks [] [] ⟨.root, []⟩
        ["w"] = .resolved ⟨.root, ["w"]⟩ [] := by cbv
    rw [hfrom] at hloops
    cases hloops
  rw [hrows, List.forall_mem_cons, List.forall_mem_singleton] at hacts
  refine ⟨FileSystem.valid_linkedFile, openEnded_linkedFile, w, a, l, hprepare, hrows, ?_, ?_⟩
  · apply (hacts.1.2 hroot).1
    rw [ha]
    cbv
  · intro hlink
    rcases (hacts.2.2 hroot).2 hlink with hnone | ⟨way, hloops⟩
    · have htarget : linkOf? .linkedFile "/w/l" = some "a" := by cbv
      rw [hl, htarget] at hnone
      cases hnone
    · have hfrom : FileSystem.linkedFile.resolveFrom FileSystem.maxNestedLinks [] [] ⟨.root, []⟩
          (Path.ofString "/w/l").names =
          .resolved ⟨.root, ["w", "a"]⟩ [(⟨.root, ["w", "l"]⟩, ⟨.root, ["w", "a"]⟩)] := by cbv
      rw [hl, hfrom] at hloops
      cases hloops

end Sidebar.CommandLine
