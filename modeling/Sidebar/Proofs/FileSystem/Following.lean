import Sidebar.FileSystem.Resolve
import Sidebar.Proofs.FileSystem.Growth
import Sidebar.Proofs.FileSystem.Steps

/-!
# Following paths in a growing file system

What a path leads to stays while the file system grows. Only a path that leads nowhere may lead
somewhere later on, and a name that its directory lacked is found once it is there.

Main consequence: a path that is resolved in the grown file system was resolved to the same path
before. The converse can fail: a new directory can open a way into links that lead to each other.
-/

namespace Sidebar.FileSystem

/-! ### Following names -/

lemma at?_child {fs : FileSystem} {here : Place} {entries : List (String × Inode)}
    (h : fs.at? here = some (.dir entries)) (name : String) :
    fs.at? (here ++ [name]) = entries.lookup name := by
  rw [at?] at h ⊢
  rw [Inode.at?_append, h, Option.bind_some, Inode.at?_dir_cons]
  cases entries.lookup name with
  | none => rfl
  | some child => exact Inode.at?_nil child

section Follow

variable {fs : FileSystem} {followLast : Bool} {links : Nat} {here place : Place}
  {names : List String}

lemma at?_of_follow_found {inode : Inode}
    (h : fs.follow followLast links here names = .ok (.found place inode)) :
    fs.at? place = some inode := by
  rw [← leads_iff] at h
  generalize houtcome : Except.ok (Destination.found place inode) = outcome at h
  induction h with
  | arrives hat =>
    cases houtcome
    exact hat
  | linkItself _ hlook hlookup =>
    cases houtcome
    rw [at?_child hlook.dir, hlookup]
  | dot _ _ ih | up _ _ ih => exact ih houtcome
  | link _ _ _ _ ih | entry _ _ _ _ ih => exact ih houtcome
  | _ => cases houtcome

lemma at?_of_follow_missing {name : String}
    (h : fs.follow followLast links here names = .ok (.missing place name)) :
    ∃ entries, fs.at? place = some (.dir entries) ∧ entries.lookup name = none := by
  rw [← leads_iff] at h
  generalize houtcome : Except.ok (Destination.missing place name) = outcome at h
  induction h with
  | missing hlook hlookup =>
    cases houtcome
    exact ⟨_, hlook.dir, hlookup⟩
  | dot _ _ ih | up _ _ ih => exact ih houtcome
  | link _ _ _ _ ih | entry _ _ _ _ ih => exact ih houtcome
  | _ => cases houtcome

/-- Whether links are followed at the end makes no difference, unless there is a link. -/
lemma follow_false_eq (fs : FileSystem) (links : Nat) (here : Place) (names : List String) :
    (∃ place target, fs.follow false links here names = .ok (.found place (.link target))) ∨
      fs.follow false links here names = fs.follow true links here names := by
  have hleads : ∀ {outcome}, fs.Leads true links here names outcome →
      (∃ place target, fs.Leads false links here names (.ok (.found place (.link target)))) ∨
        fs.Leads false links here names outcome := by
    intro outcome h
    induction h with
    | arrives hat => exact .inr (.arrives hat)
    | nothing hat => exact .inr (.nothing hat)
    | blocked hat hdir => exact .inr (.blocked hat hdir)
    | dot hat _ ih =>
      exact ih.imp (fun ⟨place, target, h⟩ => ⟨place, target, .dot hat h⟩) (.dot hat)
    | up hat _ ih =>
      exact ih.imp (fun ⟨place, target, h⟩ => ⟨place, target, .up hat h⟩) (.up hat)
    | tooLong hat hdot hup hlong => exact .inr (.tooLong hat hdot hup hlong)
    | missing hlook hlookup => exact .inr (.missing hlook hlookup)
    | noWay hlook hlookup hrest => exact .inr (.noWay hlook hlookup hrest)
    | linkItself hlast => cases hlast
    | @linksSpent _ _ _ rest _ _ hlook hlookup =>
      -- a link at the end is not followed now, others are
      by_cases hrest : rest = []
      · subst hrest
        exact .inl ⟨_, _, .linkItself rfl hlook hlookup⟩
      · exact .inr (.linksSpent (absurd · hrest) hlook hlookup)
    | @link _ _ _ _ rest _ _ _ hlook hlookup _ ih =>
      by_cases hrest : rest = []
      · subst hrest
        exact .inl ⟨_, _, .linkItself rfl hlook hlookup⟩
      · exact ih.imp
          (fun ⟨place, target, h⟩ => ⟨place, target, .link (absurd · hrest) hlook hlookup h⟩)
          (.link (absurd · hrest) hlook hlookup)
    | entry hlook hlookup hlink _ ih =>
      exact ih.imp (fun ⟨place, target, h⟩ => ⟨place, target, .entry hlook hlookup hlink h⟩)
        (.entry hlook hlookup hlink)
  exact (hleads (fs.leads true links here names)).imp
    (fun ⟨place, target, h⟩ => ⟨place, target, h.eq⟩) Leads.eq

end Follow

/-! ### Outcomes -/

/-- What becomes of an outcome of following a path. -/
inductive OutcomeGrows (grown : FileSystem) :
    Except AccessError Destination → Except AccessError Destination → Prop
  | found (place : Place) {inode inode' : Inode} (grow : inode.GrowsTo inode') :
      OutcomeGrows grown (.ok (.found place inode)) (.ok (.found place inode'))
  | missing (directory : Place) (name : String) (absent : grown.at? (directory ++ [name]) = none) :
      OutcomeGrows grown (.ok (.missing directory name)) (.ok (.missing directory name))
  | created (directory : Place) (name : String) {inode : Inode}
      (present : grown.at? (directory ++ [name]) = some inode) :
      OutcomeGrows grown (.ok (.missing directory name)) (.ok (.found (directory ++ [name]) inode))
  | removed (place : Place) (lost : Nat) :
      OutcomeGrows grown (.ok (.removed place lost)) (.ok (.removed place lost))
  | noEntry (outcome : Except AccessError Destination) :
      OutcomeGrows grown (.error (.system .noEntry)) outcome
  | error (e : AccessError) : OutcomeGrows grown (.error e) (.error e)

namespace GrowsTo

variable {fs fs' : FileSystem}

lemma exists_at?_dir (h : fs.GrowsTo fs') {here : Place} {entries : List (String × Inode)}
    (hat : fs.at? here = some (.dir entries)) :
    ∃ entries', fs'.at? here = some (.dir entries') ∧ Inode.EntriesGrow entries entries' := by
  obtain ⟨inode', hat', hgrow⟩ := h.exists_at? hat
  cases hgrow with
  | dir grow => exact ⟨_, hat', grow⟩

/-- A name that is looked up in a directory is looked up in what the directory has become. -/
lemma looksUp (h : fs.GrowsTo fs') {here : Place} {entries : List (String × Inode)} {name : String}
    (hlook : fs.LooksUp here entries name) :
    ∃ entries', fs'.LooksUp here entries' name ∧ Inode.EntriesGrow entries entries' := by
  obtain ⟨entries', hat', hgrow⟩ := h.exists_at?_dir hlook.dir
  exact ⟨entries', ⟨hat', hlook.ne_dot, hlook.ne_up, hlook.short⟩, hgrow⟩

/-- A link stays the link that it is. -/
lemma looksUp_link (h : fs.GrowsTo fs') {here : Place} {entries : List (String × Inode)}
    {name target : String} (hlook : fs.LooksUp here entries name)
    (hlookup : entries.lookup name = some (.link target)) :
    ∃ entries', fs'.LooksUp here entries' name ∧
      entries'.lookup name = some (.link target) := by
  obtain ⟨entries', hlook', hgrow⟩ := h.looksUp hlook
  obtain ⟨inode', hlookup', hinode⟩ := hgrow.exists_lookup hlookup
  cases hinode
  exact ⟨entries', hlook', hlookup'⟩

/-- The way goes on through the same names. -/
theorem leads (h : fs.GrowsTo fs') {followLast : Bool} {links : Nat} {here : Place}
    {names : List String} {outcome : Except Errno Destination}
    (hleads : fs.Leads followLast links here names outcome) :
    ∃ outcome', fs'.Leads followLast links here names outcome' ∧
      OutcomeGrows fs' (outcome.mapError .system) (outcome'.mapError .system) := by
  induction hleads with
  | arrives hat =>
    obtain ⟨inode', hat', hgrow⟩ := h.exists_at? hat
    exact ⟨_, .arrives hat', .found _ hgrow⟩
  | nothing => exact ⟨_, fs'.leads _ _ _ _, .noEntry _⟩
  | blocked hat hdir =>
    obtain ⟨inode', hat', hgrow⟩ := h.exists_at? hat
    cases hgrow with
    | dir grow => exact absurd rfl (hdir _)
    | file bytes bytes' => exact ⟨_, .blocked hat' fun _ => Inode.noConfusion, .error _⟩
    | closed entries => exact ⟨_, .blocked hat' fun _ => Inode.noConfusion, .error _⟩
    | link target => exact ⟨_, .blocked hat' fun _ => Inode.noConfusion, .error _⟩
  | dot hat _ ih =>
    obtain ⟨entries', hat', -⟩ := h.exists_at?_dir hat
    obtain ⟨outcome', hleads', hgrow⟩ := ih
    exact ⟨outcome', .dot hat' hleads', hgrow⟩
  | up hat _ ih =>
    obtain ⟨entries', hat', -⟩ := h.exists_at?_dir hat
    obtain ⟨outcome', hleads', hgrow⟩ := ih
    exact ⟨outcome', .up hat' hleads', hgrow⟩
  | tooLong hat hdot hup hlong =>
    obtain ⟨entries', hat', -⟩ := h.exists_at?_dir hat
    exact ⟨_, .tooLong hat' hdot hup hlong, .error _⟩
  | @missing _ here name entries hlook hlookup =>
    obtain ⟨entries', hlook', -⟩ := h.looksUp hlook
    cases hlookup' : entries'.lookup name with
    | none =>
      exact ⟨_, .missing hlook' hlookup',
        .missing here name (by rw [at?_child hlook'.dir, hlookup'])⟩
    | some inode =>
      -- the name has been created, but not as a link
      have hat' := (at?_child hlook'.dir name).trans hlookup'
      have hlink : ∀ target, inode ≠ .link target := by
        rintro target rfl
        have hat := h.at?_eq_link hat'
        rw [at?_child hlook.dir, hlookup] at hat
        cases hat
      exact ⟨_, .entry hlook' hlookup' hlink (.arrives hat'), .created here name hat'⟩
  | noWay => exact ⟨_, fs'.leads _ _ _ _, .noEntry _⟩
  | linkItself hlast hlook hlookup =>
    obtain ⟨entries', hlook', hlookup'⟩ := h.looksUp_link hlook hlookup
    exact ⟨_, .linkItself hlast hlook' hlookup', .found _ (.link _)⟩
  | linksSpent hpast hlook hlookup =>
    obtain ⟨entries', hlook', hlookup'⟩ := h.looksUp_link hlook hlookup
    exact ⟨_, .linksSpent hpast hlook' hlookup', .error _⟩
  | link hpast hlook hlookup _ ih =>
    obtain ⟨entries', hlook', hlookup'⟩ := h.looksUp_link hlook hlookup
    obtain ⟨outcome', hleads', hgrow⟩ := ih
    exact ⟨outcome', .link hpast hlook' hlookup' hleads', hgrow⟩
  | entry hlook hlookup hlink _ ih =>
    obtain ⟨entries', hlook', hgrow⟩ := h.looksUp hlook
    obtain ⟨inode', hlookup', hinode⟩ := hgrow.exists_lookup hlookup
    obtain ⟨outcome', hleads', hgrow'⟩ := ih
    have hlink' : ∀ target, inode' ≠ .link target := by
      rintro target rfl
      cases hinode
      exact hlink target rfl
    exact ⟨outcome', .entry hlook' hlookup' hlink' hleads', hgrow'⟩

theorem follow (h : fs.GrowsTo fs') (followLast : Bool) (links : Nat) (here : Place)
    (names : List String) :
    OutcomeGrows fs' ((fs.follow followLast links here names).mapError .system)
      ((fs'.follow followLast links here names).mapError .system) := by
  obtain ⟨outcome', hleads', hgrow⟩ := h.leads (fs.leads followLast links here names)
  rwa [hleads'.eq]

theorem followLost (h : fs.GrowsTo fs') (followLast : Bool) (lost : Nat) (here : Place)
    (names : List String) :
    OutcomeGrows fs' ((fs.followLost followLast lost here names).mapError .system)
      ((fs'.followLost followLast lost here names).mapError .system) := by
  fun_induction FileSystem.followLost fs followLast lost here names with
  | case1 here names => rw [FileSystem.followLost]; exact h.follow followLast maxLinks here names
  | case2 lost here => rw [FileSystem.followLost]; exact .removed here (lost + 1)
  | case3 here lost _ ih => rw [FileSystem.followLost, if_pos rfl]; exact ih
  | case4 here lost _ hdot ih =>
    rw [FileSystem.followLost, if_neg hdot, if_pos rfl]
    exact ih
  | case5 => exact .noEntry _

theorem locate (h : fs.GrowsTo fs') (followLast : Bool) (p : Path) :
    OutcomeGrows fs' (fs.locate followLast p) (fs'.locate followLast p) := by
  rw [FileSystem.locate, FileSystem.locate, h.cwd, h.lost]
  split
  · exact .error _
  · split
    · exact .error _
    · split
      · exact h.followLost _ _ _ _
      · exact h.follow _ _ _ _

end GrowsTo

/-! ### Access -/

lemma stat_eq_ok_iff {fs : FileSystem} {p : Path} {inode : Inode} :
    fs.stat p = .ok inode ↔
      (∃ place, fs.locate true p = .ok (.found place inode)) ∨
        (∃ place lost, fs.locate true p = .ok (.removed place lost) ∧ inode = .dir []) := by
  rw [stat]
  cases fs.locate true p with
  | error e => simp [bind, Except.bind]
  | ok destination =>
    cases destination <;> simp [bind, Except.bind, pure, Except.pure, throw, throwThe,
      MonadExceptOf.throw, eq_comm]

lemma isDirectory_eq_true_iff {fs : FileSystem} {p : Path} :
    fs.isDirectory p = .ok true ↔ ∃ inode, fs.stat p = .ok inode ∧ inode.isDir = true := by
  rw [isDirectory]
  cases fs.stat p with
  | ok inode => simp
  | error e => cases e with
    | embeddedNul => simp
    | system errno => cases errno <;> simp

/-- Resolution looks at nothing but the links. -/
lemma resolveFrom_congr {fs fs' : FileSystem} (h : fs'.linkAt? = fs.linkAt?) (nesting : Nat)
    (active : List Way) (known : KnownLinks) (here : Way) (pieces : List String) :
    fs'.resolveFrom nesting active known here pieces =
      fs.resolveFrom nesting active known here pieces := by
  fun_induction FileSystem.resolveFrom fs nesting active known here pieces with
  | case1 => rw [FileSystem.resolveFrom]
  | _ =>
    rw [FileSystem.resolveFrom]
    simp_all [-List.lookup_eq_none_iff]

namespace GrowsTo

variable {fs fs' : FileSystem}

lemma exists_stat (h : fs.GrowsTo fs') {p : Path} {inode : Inode} (hstat : fs.stat p = .ok inode) :
    ∃ inode', fs'.stat p = .ok inode' ∧ inode.GrowsTo inode' := by
  have hlocate := h.locate true p
  rcases stat_eq_ok_iff.mp hstat with ⟨place, hfound⟩ | ⟨place, lost, hremoved, rfl⟩
  · rw [hfound] at hlocate
    generalize hlocate' : fs'.locate true p = outcome at hlocate
    cases hlocate with
    | found place grow => exact ⟨_, stat_eq_ok_iff.mpr (.inl ⟨place, hlocate'⟩), grow⟩
  · rw [hremoved] at hlocate
    generalize hlocate' : fs'.locate true p = outcome at hlocate
    cases hlocate with
    | removed place lost =>
      exact ⟨_, stat_eq_ok_iff.mpr (.inr ⟨place, lost, hlocate', rfl⟩), .refl _⟩

/-- An access that is refused stays refused, unless it is because there is nothing. -/
lemma stat_eq_error (h : fs.GrowsTo fs') {p : Path} {e : AccessError}
    (he : e ≠ .system .noEntry) (hstat : fs.stat p = .error e) : fs'.stat p = .error e := by
  have hlocate := h.locate true p
  rw [stat] at hstat ⊢
  generalize fs.locate true p = outcome at hlocate hstat
  generalize fs'.locate true p = outcome' at hlocate ⊢
  cases hlocate with
  | error e' => exact hstat
  | noEntry outcome => exact absurd (Except.error.inj hstat).symm he
  | missing directory name absent => exact absurd (Except.error.inj hstat).symm he
  | created directory name present => exact absurd (Except.error.inj hstat).symm he
  | found place grow => simp [bind, Except.bind, pure, Except.pure] at hstat
  | removed place lost => simp [bind, Except.bind, pure, Except.pure] at hstat

lemma isDirectory (h : fs.GrowsTo fs') {p : Path} (hdir : fs.isDirectory p = .ok true) :
    fs'.isDirectory p = .ok true := by
  obtain ⟨inode, hstat, hinode⟩ := isDirectory_eq_true_iff.mp hdir
  obtain ⟨inode', hstat', hgrow⟩ := h.exists_stat hstat
  refine isDirectory_eq_true_iff.mpr ⟨inode', hstat', ?_⟩
  cases hgrow with
  | dir grow => rfl
  | closed entries => rfl
  | file bytes bytes' => exact hinode
  | link target => exact hinode

/-! ### Resolution -/

lemma linkAt?_eq (h : fs.GrowsTo fs') : fs'.linkAt? = fs.linkAt? := by
  funext way
  have hplace : fs'.placeOf? way = fs.placeOf? way := by
    simp only [placeOf?, above?, h.cwd, h.lost]
  rw [linkAt?, linkAt?, hplace]
  split
  · rfl
  · cases fs.placeOf? way with
    | none => rfl
    | some place =>
      simp only [Option.bind_some]
      split
      · next target hat => rw [h.at?_eq_link hat]
      · next hnot =>
        split
        · next target hat =>
          obtain ⟨inode', hat', hgrow⟩ := h.exists_at? hat
          cases hgrow
          exact absurd hat' (hnot target)
        · rfl

lemma resolveFrom_eq (h : fs.GrowsTo fs') (nesting : Nat) (active : List Way) (known : KnownLinks)
    (here : Way) (pieces : List String) :
    fs'.resolveFrom nesting active known here pieces =
      fs.resolveFrom nesting active known here pieces :=
  resolveFrom_congr h.linkAt?_eq nesting active known here pieces

lemma resolveWay_eq (h : fs.GrowsTo fs') (p : Path) : fs'.resolveWay p = fs.resolveWay p := by
  simp only [resolveWay, h.resolveFrom_eq]

lemma absolutePath_eq (h : fs.GrowsTo fs') (way : Way) :
    fs'.absolutePath way = fs.absolutePath way := by
  simp only [absolutePath, workingDirectory, h.cwd, h.lost]

end GrowsTo

lemma resolve_eq_ok_iff {fs : FileSystem} {p q : Path} :
    fs.resolve p = .ok q ↔
      (fs.resolveWay p >>= fs.absolutePath) = .ok q ∧ fs.stat q ≠ .error .embeddedNul ∧
        fs.stat q ≠ .error (.system .tooManyLinks) := by
  rw [resolve]
  cases fs.resolveWay p with
  | error e => simp [bind, Except.bind]
  | ok way =>
    cases hpath : fs.absolutePath way with
    | error e => simp [hpath, bind, Except.bind]
    | ok resolved =>
      simp only [hpath, bind, Except.bind, Except.ok.injEq]
      split
      · next hstat =>
        constructor
        · intro hq
          cases hq
        · rintro ⟨rfl, hnul, -⟩
          exact absurd hstat hnul
      · next hstat =>
        constructor
        · intro hq
          cases hq
        · rintro ⟨rfl, -, hlinks⟩
          exact absurd hstat hlinks
      · next hnul hlinks =>
        constructor
        · intro hq
          obtain rfl := Except.ok.inj hq
          exact ⟨rfl, hnul, hlinks⟩
        · rintro ⟨rfl, -, -⟩
          rfl

/-- What is resolved in the grown file system was resolved to the same path before. -/
theorem GrowsTo.resolve {fs fs' : FileSystem} (h : fs.GrowsTo fs') {p q : Path}
    (hq : fs'.resolve p = .ok q) : fs.resolve p = .ok q := by
  obtain ⟨hway, hnul, hlinks⟩ := resolve_eq_ok_iff.mp hq
  rw [h.resolveWay_eq, funext h.absolutePath_eq] at hway
  refine resolve_eq_ok_iff.mpr ⟨hway, fun hstat => ?_, fun hstat => ?_⟩
  · exact hnul (h.stat_eq_error (by simp) hstat)
  · exact hlinks (h.stat_eq_error (by simp) hstat)

end Sidebar.FileSystem
