import Sidebar.Session
import Sidebar.Proofs.Editor.Tabs

/-!
# Every sequence of edits

What the tabs are after any sequence of openings, closings, changes of the current tab and restored
sessions, whatever nodes they are about and whatever the files turn out to be.

The tabs are followed beside a plain account of what was created and what of it was closed since.
The account does not look at the tabs: a node that is opened creates one when it is a file with a
text and none of the creations that are still open has its id. The list of tabs is what the account
still has open, step by step.
-/

namespace Sidebar.Editor

/-- What can be done to the tabs. Every edit names its own nodes, files and store, so the tree may
be loaded anew between any two of them. -/
inductive Edit where
  | openNode (load : Loader) (n : Node)
  | close (tid : String)
  | setCurrent (tid : String)
  | restore (load : Loader) (store : Store) (record : SessionRecord)

namespace Tabs

def edit (t : Tabs) : Edit → Tabs
  | .openNode load n => (t.openNode load n).tabs
  | .close tid => t.close tid
  | .setCurrent tid => t.setCurrent tid
  | .restore load store record => (record.applyTo load store t).1.tabs

def run (t : Tabs) (edits : List Edit) : Tabs := edits.foldl edit t

end Tabs

/-- A tab as it was created, and whether it was closed since. -/
structure Creation where
  tab : Tab
  isOpen : Bool := true

/-- What was created so far, first to last. -/
abbrev Creations := List Creation

namespace Creations

/-- The tabs that are still open, in the order in which they were created. -/
def stillOpen (c : Creations) : List Tab := (c.filter Creation.isOpen).map Creation.tab

/-- Opening a node asks for its file, unless it is a directory or its id has an open tab. -/
def Asks (c : Creations) (n : Node) : Prop :=
  n.row.isDir = false ∧ ∀ tab ∈ c.stillOpen, tab.tid ≠ n.tid

instance (c : Creations) (n : Node) : Decidable (c.Asks n) :=
  inferInstanceAs (Decidable (_ ∧ _))

def openNode (load : Loader) (c : Creations) (n : Node) : Creations :=
  if c.Asks n then
    match load n.path with
    | .ok (.text mode content) => c ++ [{ tab := ⟨n.tid, n.path, mode, content⟩ }]
    | _ => c
  else c

/-- Closes what is still open with an id. -/
def close (c : Creations) (tid : String) : Creations :=
  c.map fun made => if made.tab.tid = tid then { made with isOpen := false } else made

/-- Opens nodes one after the other, up to the first whose file cannot be asked for. -/
def openNodes (load : Loader) : Creations → List Node → Creations
  | c, [] => c
  | c, n :: rest =>
    if c.Asks n ∧ (load n.path).isOk = false then c
    else openNodes load (c.openNode load n) rest

def edit (c : Creations) : Edit → Creations
  | .openNode load n => c.openNode load n
  | .close tid => c.close tid
  | .setCurrent _ => c
  | .restore load store record =>
    c.openNodes load (record.filePaths.filterMap (record.expandIn store).store.forest.atSavedPath?)

def run (c : Creations) (edits : List Edit) : Creations := edits.foldl edit c

variable {c : Creations} {t : Tabs}

/-! ### What is still open after a step -/

lemma stillOpen_append (c : Creations) (tab : Tab) :
    stillOpen (c ++ [{ tab := tab }]) = c.stillOpen ++ [tab] := by
  simp [stillOpen]

lemma stillOpen_close (c : Creations) (tid : String) :
    (c.close tid).stillOpen = c.stillOpen.filter fun tab => tab.tid ≠ tid := by
  induction c with
  | nil => rfl
  | cons made rest ih =>
    rw [stillOpen, close] at ih
    rw [stillOpen, stillOpen, close, List.map_cons]
    by_cases htid : made.tab.tid = tid
    · cases hopen : made.isOpen <;> simp [htid, hopen, ih, stillOpen]
    · cases hopen : made.isOpen <;> simp [htid, hopen, ih, stillOpen]

end Creations

namespace Tabs

/-- An opening that leads to no tab leaves the tabs and the current one as they were. -/
lemma openNode_without_tab {t : Tabs} {load : Loader} {n : Node}
    (h : ∀ tab, (t.openNode load n).outcome ≠ .ok (.shown tab)) :
    (t.openNode load n).tabs = t := by
  rcases openNode_cases load t n with
    ⟨tab, -, -, -, -, hshown⟩ | ⟨mode, content, -, -, -, -, hshown⟩ | ⟨-, -, hsame, -⟩
  · exact absurd hshown (h _)
  · exact absurd hshown (h _)
  · exact hsame

/-- The tabs are those that an account of them still has open. -/
structure Follows (t : Tabs) (c : Creations) : Prop where
  wellFormed : t.WellFormed
  tabs : t.tabs = c.stillOpen

namespace Follows

variable {t : Tabs} {c : Creations}

theorem empty : Follows {} [] where
  wellFormed := wellFormed_empty
  tabs := rfl

/-! ### One edit -/

theorem setCurrent (h : t.Follows c) (tid : String) : (t.setCurrent tid).Follows c where
  wellFormed := h.wellFormed.setCurrent tid
  tabs := by rw [tabs_setCurrent, h.tabs]

theorem openNode (h : t.Follows c) (load : Loader) (n : Node) :
    (t.openNode load n).tabs.Follows (c.openNode load n) := by
  refine ⟨h.wellFormed.openNode load n, ?_⟩
  rw [Creations.openNode]
  rcases openNode_cases load t n with
    ⟨tab, htab, htid, -, htabs, -⟩ | ⟨mode, content, habsent, hfile, hload, htabs, -⟩ |
    ⟨habsent, hother, htabs, -⟩
  · -- its id has an open tab
    have hasks : ¬ c.Asks n := fun hasks => hasks.2 tab (h.tabs ▸ htab) htid
    rw [if_neg hasks, htabs]
    exact h.tabs
  · have hasks : c.Asks n := ⟨hfile, h.tabs ▸ habsent⟩
    rw [if_pos hasks, hload, Creations.stillOpen_append, htabs, push, h.tabs]
  · rw [htabs, h.tabs]
    by_cases hasks : c.Asks n
    · have htext := hother.resolve_left (by simp [hasks.1])
      rw [if_pos hasks]
      split
      · next mode content hload => exact absurd hload (htext mode content)
      · rfl
    · rw [if_neg hasks]

theorem close (h : t.Follows c) (tid : String) : (t.close tid).Follows (c.close tid) := by
  refine ⟨h.wellFormed.close tid, ?_⟩
  rw [Creations.stillOpen_close, ← h.tabs]
  by_cases htid : ∃ tab ∈ t.tabs, tab.tid = tid
  · obtain ⟨tab, htab, rfl⟩ := htid
    obtain ⟨front, back, htabs, hfront⟩ := h.wellFormed.exists_cut htab
    have hback : ∀ other ∈ back, other.tid ≠ tab.tid := by
      have hnodup := h.wellFormed.nodup
      rw [htabs, List.map_append, List.map_cons, List.nodup_append, List.nodup_cons] at hnodup
      intro other hother heq
      exact hnodup.2.1.1 (heq ▸ List.mem_map_of_mem hother)
    have hkeep : ∀ tabs : List Tab, (∀ other ∈ tabs, other.tid ≠ tab.tid) →
        tabs.filter (fun other => other.tid ≠ tab.tid) = tabs := by
      intro tabs htabs
      exact List.filter_eq_self.mpr fun other hother => by simpa using htabs other hother
    rw [close_eq htabs hfront, htabs, List.filter_append, List.filter_cons, hkeep front hfront,
      hkeep back hback]
    simp
  · push Not at htid
    rw [close_of_notMem htid]
    exact (List.filter_eq_self.mpr fun other hother => by simpa using htid other hother).symm

/-- Opening a node fails when its file is asked for in vain. -/
lemma fails_iff (h : t.Follows c) (load : Loader) (n : Node) :
    (c.Asks n ∧ (load n.path).isOk = false) ↔ (t.openNode load n).outcome.isOk = false := by
  rw [Creations.Asks, ← h.tabs, Tabs.openNode]
  cases hfind : t.find? n.tid with
  | some tab =>
    obtain ⟨htab, htid⟩ := mem_of_find?_eq_some hfind
    refine iff_of_false (fun hasks => hasks.1.2 tab htab htid) ?_
    simp [Except.isOk, Except.toBool]
  | none =>
    have habsent := find?_eq_none_iff.mp hfind
    by_cases hdir : n.row.isDir
    · simp [hdir, Except.isOk, Except.toBool]
    · cases hload : load n.path with
      | error failure => simpa [hdir, Except.isOk, Except.toBool] using habsent
      | ok loaded => cases loaded <;> simp [hdir, Except.isOk, Except.toBool]

lemma openNodes_of_error (h : t.Follows c) {load : Loader} {n : Node} {failure : Failure}
    (houtcome : (t.openNode load n).outcome = .error failure) (rest : List Node) :
    c.openNodes load (n :: rest) = c := by
  have hfails := (h.fails_iff load n).mpr (by rw [houtcome]; rfl)
  rw [Creations.openNodes, if_pos hfails]

lemma openNodes_of_ok (h : t.Follows c) {load : Loader} {n : Node} {opened : Opened}
    (houtcome : (t.openNode load n).outcome = .ok opened) (rest : List Node) :
    c.openNodes load (n :: rest) = (c.openNode load n).openNodes load rest := by
  have hsucceeds := mt (h.fails_iff load n).mp (by rw [houtcome]; simp [Except.isOk, Except.toBool])
  rw [Creations.openNodes, if_neg hsucceeds]

/-- The nodes that the paths lead to are opened one after the other. -/
theorem reopenPaths (load : Loader) (currentFile : Option WideText) {r : Restored}
    (h : r.tabs.Follows c) (current : Option String) (paths : List WideText) :
    (Restored.reopenPaths load currentFile r current paths).1.tabs.Follows
      (c.openNodes load (paths.filterMap r.store.forest.atSavedPath?)) := by
  induction paths generalizing r c current with
  | nil => exact h
  | cons path rest ih =>
    rw [Restored.reopenPaths]
    cases hpath : r.store.forest.atSavedPath? path with
    | none =>
      rw [List.filterMap_cons_none hpath]
      apply ih
      exact h
    | some n =>
      rw [List.filterMap_cons_some hpath]
      have hopened := h.openNode load n
      cases houtcome : (r.tabs.openNode load n).outcome with
      | error failure =>
        have hsame : (r.tabs.openNode load n).tabs = r.tabs :=
          openNode_without_tab fun tab => by simp [houtcome]
        rw [h.openNodes_of_error houtcome]
        simpa only [houtcome, hsame] using h
      | ok opened =>
        rw [h.openNodes_of_ok houtcome]
        simp only [houtcome]
        cases opened with
        | shown tab => exact ih hopened _
        | nothing => exact ih hopened _
        | failed reason => exact ih hopened _

theorem applyTo (h : t.Follows c) (load : Loader) (store : Store) (record : SessionRecord) :
    (record.applyTo load store t).1.tabs.Follows
      (c.openNodes load
        (record.filePaths.filterMap (record.expandIn store).store.forest.atSavedPath?)) := by
  have hreopened := reopenPaths load record.currentFile
    (r := { record.expandIn store with tabs := t }) h none record.filePaths
  rw [SessionRecord.applyTo]
  split
  · next r failure hreopen =>
    rw [hreopen] at hreopened
    exact hreopened
  · next r current hreopen =>
    rw [hreopen] at hreopened
    cases current with
    | none => exact hreopened
    | some tid => exact hreopened.setCurrent tid

/-! ### Every run -/

theorem edit (h : t.Follows c) (e : Edit) : (t.edit e).Follows (c.edit e) := by
  cases e with
  | openNode load n => exact h.openNode load n
  | close tid => exact h.close tid
  | setCurrent tid => exact h.setCurrent tid
  | restore load store record => exact h.applyTo load store record

theorem run (h : t.Follows c) (edits : List Edit) : (t.run edits).Follows (c.run edits) := by
  induction edits generalizing t c with
  | nil => exact h
  | cons e edits ih => exact ih (h.edit e)

end Follows

/-! ### What every run keeps -/

/-- What holds of the tabs beside an account of what was created in them. -/
structure Kept (t : Tabs) (c : Creations) : Prop where
  nodup : (t.tabs.map Tab.tid).Nodup
  current_eq_none_iff : t.currentTid = none ↔ t.tabs = []
  current_mem : ∀ tid, t.currentTid = some tid → ∃ tab ∈ t.tabs, tab.tid = tid
  /-- The tabs are the creations that are still open, as they were created and in that order. -/
  tabs_eq : t.tabs = c.stillOpen
  openNode_without_tab : ∀ load n, (∀ tab, (t.openNode load n).outcome ≠ .ok (.shown tab)) →
    (t.openNode load n).tabs = t
  /-- The tab in front of the current one takes over from it. -/
  close_behind : ∀ front before tab back, t.tabs = front ++ before :: tab :: back →
    t.currentTid = some tab.tid → t.close tab.tid = ⟨front ++ before :: back, some before.tid⟩
  /-- The new first tab takes over from a current one that was first. -/
  close_first : ∀ tab next back, t.tabs = tab :: next :: back →
    t.currentTid = some tab.tid → t.close tab.tid = ⟨next :: back, some next.tid⟩
  close_only : ∀ tab, t.tabs = [tab] → t.close tab.tid = ⟨[], none⟩
  close_other : ∀ tid, t.currentTid ≠ some tid → (t.close tid).currentTid = t.currentTid

section

variable {t : Tabs}

lemma close_first {tab : Tab} {back : List Tab} (htabs : t.tabs = tab :: back)
    (hcurrent : t.currentTid = some tab.tid) :
    t.close tab.tid = ⟨back, back.head?.map Tab.tid⟩ := by
  have hcut : t.tabs = [] ++ tab :: back := htabs
  rw [close_eq hcut (by simp), if_pos hcurrent]
  rfl

namespace WellFormed

lemma current_eq_none_iff (h : t.WellFormed) : t.currentTid = none ↔ t.tabs = [] := by
  constructor
  · exact h.empty
  · intro htabs
    rw [Option.eq_none_iff_forall_ne_some]
    intro tid htid
    obtain ⟨tab, htab, -⟩ := h.current tid htid
    simp [htabs] at htab

lemma close_behind (h : t.WellFormed) {front back : List Tab} {before tab : Tab}
    (htabs : t.tabs = front ++ before :: tab :: back) (hcurrent : t.currentTid = some tab.tid) :
    t.close tab.tid = ⟨front ++ before :: back, some before.tid⟩ := by
  have hcut : t.tabs = (front ++ [before]) ++ tab :: back := by simpa using htabs
  have hfront : ∀ other ∈ front ++ [before], other.tid ≠ tab.tid := by
    have hnodup := h.nodup
    rw [hcut, List.map_append, List.nodup_append] at hnodup
    intro other hother
    exact hnodup.2.2 _ (List.mem_map_of_mem hother) _ List.mem_cons_self
  rw [close_eq hcut hfront, if_pos hcurrent]
  simp

lemma close_only (h : t.WellFormed) {tab : Tab} (htabs : t.tabs = [tab]) :
    t.close tab.tid = ⟨[], none⟩ := by
  have hne : t.tabs ≠ [] := by simp [htabs]
  obtain ⟨other, hother, hcurrent, -⟩ := h.exists_current hne
  obtain rfl : other = tab := by simpa [htabs] using hother
  exact close_first htabs hcurrent

lemma close_other (h : t.WellFormed) {tid : String} (hcurrent : t.currentTid ≠ some tid) :
    (t.close tid).currentTid = t.currentTid := by
  by_cases htid : ∃ tab ∈ t.tabs, tab.tid = tid
  · obtain ⟨tab, htab, rfl⟩ := htid
    obtain ⟨front, back, htabs, hfront⟩ := h.exists_cut htab
    rw [close_eq htabs hfront]
    exact if_neg hcurrent
  · push Not at htid
    rw [close_of_notMem htid]

end WellFormed

theorem Follows.kept {c : Creations} (h : t.Follows c) : t.Kept c where
  nodup := h.wellFormed.nodup
  current_eq_none_iff := h.wellFormed.current_eq_none_iff
  current_mem := h.wellFormed.current
  tabs_eq := h.tabs
  openNode_without_tab := fun _ _ => openNode_without_tab
  close_behind := fun _ _ _ _ => h.wellFormed.close_behind
  close_first := fun _ _ _ => close_first
  close_only := fun _ => h.wellFormed.close_only
  close_other := fun _ => h.wellFormed.close_other

/-- Whatever is done from no tabs on, ids tell the tabs apart, one of them is current unless there
are none, and they are what was created and not closed since, first to last. From there an opening
that leads to no tab changes nothing, and a closing moves the current tab to its neighbour. -/
theorem run_kept (edits : List Edit) : (run {} edits).Kept (Creations.run [] edits) :=
  (Follows.empty.run edits).kept

end

/-- The last tab is current and closed, then the first one: the one that is left is current. -/
example :
    let file (tid : String) : Node :=
      .node ⟨⟨1, tid⟩, tid, "/" ++ tid, false, 0, none, false, false⟩ []
    let shows : Loader := fun _ => .ok (.text "text" "")
    let edits : List Edit := [
      .openNode shows (file "a"), .openNode shows (file "b"), .openNode shows (file "c"),
      .close "c", .close "a"]
    (run {} edits).currentTid = some "b" := by
  decide +kernel

end Tabs

end Sidebar.Editor
