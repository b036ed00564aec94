import Sidebar.Proofs.Workbench.Stale

/-!
# What was picked

Clicks, keys and plain selections pick a node. The store remembers no more of it than its id, does
not ask whether it is in the tree, and forgets the id at the next load. Nodes of earlier builds
share their ids with rows of the tree, so one that is picked lets another row appear as selected.

The picks are recorded beside the workbench here. What is selected follows from the last of them
since the last load.
-/

namespace Sidebar

/-! ### Picks -/

lemma Store.selectedTid_expand (s : Store) (n : Node) (expand : Option Bool) :
    (s.expand n expand).selectedTid = s.selectedTid := by
  rw [Store.expand]
  cases expanded? n expand <;> rfl

lemma Store.selectedTid_expandIn (record : SessionRecord) (s : Store) :
    (record.expandIn s).store.selectedTid = s.selectedTid :=
  record.expandIn_induction (motive := fun s' => s'.selectedTid = s.selectedTid) rfl
    fun s' _ n h _ => (selectedTid_expand s' n _).trans h

namespace Workbench

/-- The identity of the row on which a step ends. -/
def arrival? : Except NavigationError (Workbench × Option Node) → Option NodeKey
  | .ok (_, target) => target.map Node.key
  | .error _ => none

/-- The identity of the node that an action gives to the store to select. -/
def picks? (w : Workbench) : Action → Option NodeKey
  | .select key | .click key | .rightClick key => (w.store.node? key).map Node.key
  | .selectDown => arrival? w.selectDown
  | .selectUp => arrival? w.selectUp
  | _ => none

/-- Whether an action replaces the tree. -/
def reloads (w : Workbench) : Action → Bool
  | .load snapshot => (w.store.loadJson snapshot).isOk
  | _ => false

lemma selectedTid_step (w : Workbench)
    (move : Navigator → Node → Except NavigationError (Option Node)) :
    (w.settle (w.step move)).store.selectedTid =
      ((arrival? (w.step move)).map NodeKey.tid <|> w.store.selectedTid) := by
  have hlanded : ∀ target : Option Node, (w.landed target).1.store.selectedTid =
      ((target.map Node.key).map NodeKey.tid <|> w.store.selectedTid) := by
    rintro (_ | n) <;> rfl
  have hok : ∀ target : Option Node, arrival? (.ok (w.landed target)) = target.map Node.key := by
    rintro (_ | n) <;> rfl
  cases hselected : w.selectedNode? with
  | none => rw [step_of_none hselected, settle, hlanded, hok]
  | some n =>
    rw [step_of_some hselected]
    cases move w.navigator n with
    | error e => rfl
    | ok target => simp only [Except.map, settle, hlanded, hok]

/-- An action that replaces the tree forgets the selected id. Any other one puts the id of the node
that it picks in its place, if it picks one. -/
theorem selectedTid_act (w : Workbench) (a : Action) :
    (w.act a).store.selectedTid =
      if w.reloads a then none
      else ((w.picks? a).map NodeKey.tid <|> w.store.selectedTid) := by
  have keep : ∀ key (f : Node → Workbench),
      (∀ n, (f n).store.selectedTid = w.store.selectedTid) →
        (w.onNode key f).store.selectedTid = w.store.selectedTid :=
    fun key f hf => onNode_induction
      (motive := fun w' => w'.store.selectedTid = w.store.selectedTid) rfl fun n _ => hf n
  have pick : ∀ key (f : Node → Workbench),
      (∀ n, (f n).store.selectedTid = some n.tid) →
        (w.onNode key f).store.selectedTid =
          (((w.store.node? key).map Node.key).map NodeKey.tid <|> w.store.selectedTid) := by
    intro key f hf
    rw [onNode]
    cases w.store.node? key with
    | none => rfl
    | some n => exact hf n
  cases a with
  | load snapshot =>
    rw [act, reloads]
    cases hload : w.store.loadJson snapshot with
    | error e => rfl
    | ok s =>
      obtain ⟨entries, -, rfl⟩ := Store.exists_load_of_loadJson hload
      rfl
  | expand key expand => exact keep key _ fun n => Store.selectedTid_expand w.store n expand
  | select key => exact pick key _ fun n => rfl
  | click key => exact pick key _ fun n => rfl
  | rightClick key => exact pick key _ fun n => rfl
  | doubleClick load key => exact keep key _ fun n => rfl
  | selectDown => exact selectedTid_step w _
  | selectUp => exact selectedTid_step w _
  | openNode load key => exact keep key _ fun n => rfl
  | restore record => exact Store.selectedTid_expandIn record w.store
  | restoreWithTabs load record =>
    have hstore := SessionRecord.store_applyTo record load w.store w.tabs
    rw [act, hstore]
    exact Store.selectedTid_expandIn record w.store
  | expandAll | closeTab | setCurrentTab => rfl

end Workbench

/-! ### The record of the picks -/

/-- A workbench together with the node that was picked last: ever, and since the last load. -/
structure Picking where
  workbench : Workbench
  picked : Option NodeKey := none
  sinceLoad : Option NodeKey := none

namespace Picking

variable {treeId : String} {p : Picking}

def act (p : Picking) (a : Action) : Picking where
  workbench := p.workbench.act a
  picked := p.workbench.picks? a <|> p.picked
  sinceLoad :=
    if p.workbench.reloads a then none else p.workbench.picks? a <|> p.sinceLoad

def run (p : Picking) (actions : List Action) : Picking := actions.foldl act p

/-- Some run from an empty store leads to the workbench and to the picks. -/
def Reachable (treeId : String) (p : Picking) : Prop :=
  ∃ (start : Workbench) (actions : List Action),
    p = run { workbench := start.emptied treeId } actions

lemma workbench_run (p : Picking) (actions : List Action) :
    (p.run actions).workbench = p.workbench.run actions := by
  induction actions generalizing p with
  | nil => rfl
  | cons a actions ih => exact ih (p.act a)

/-- The record of the picks changes nothing about a run. -/
lemma Reachable.workbench (h : p.Reachable treeId) : p.workbench.Reachable treeId := by
  obtain ⟨start, actions, rfl⟩ := h
  exact ⟨start, actions, workbench_run _ actions⟩

/-- The store keeps the id of the node that was picked since the last load, and no node was picked
later than that one. -/
structure Tracked (p : Picking) : Prop where
  selected : p.workbench.store.selectedTid = p.sinceLoad.map NodeKey.tid
  last : ∀ key, p.sinceLoad = some key → p.picked = some key

lemma Tracked.act (h : p.Tracked) (a : Action) : (p.act a).Tracked where
  selected := by
    rw [Picking.act, Workbench.selectedTid_act, h.selected]
    split
    · rfl
    · cases p.workbench.picks? a <;> rfl
  last := by
    intro key hkey
    rw [Picking.act] at hkey ⊢
    split at hkey
    · cases hkey
    · cases hpick : p.workbench.picks? a with
      | none =>
        rw [hpick] at hkey
        exact h.last key hkey
      | some picked =>
        rw [hpick] at hkey
        exact hkey

lemma Tracked.run (h : p.Tracked) (actions : List Action) : (p.run actions).Tracked := by
  induction actions generalizing p with
  | nil => exact h
  | cons a actions ih => exact ih (h.act a)

lemma Reachable.tracked (h : p.Reachable treeId) : p.Tracked := by
  obtain ⟨start, actions, rfl⟩ := h
  have hstart : Tracked { workbench := start.emptied treeId } := ⟨rfl, nofun⟩
  exact hstart.run actions

lemma Reachable.selected?_eq (h : p.Reachable treeId) :
    p.workbench.store.selected? =
      p.sinceLoad.bind fun key => p.workbench.store.forest.find? key.tid := by
  rw [Store.selected?, h.tracked.selected]
  cases p.sinceLoad <;> rfl

/-- The node that was picked since the last load is not in the tree, but one of its rows has the id
of that node. -/
def Misleads (p : Picking) : Prop :=
  ∃ key, p.sinceLoad = some key ∧ (∀ n ∈ p.workbench.store.forest.rows, n.key ≠ key) ∧
    ∃ n ∈ p.workbench.store.forest.rows, n.tid = key.tid

lemma Reachable.forall_picked_iff (h : p.Reachable treeId) :
    (∀ n, p.workbench.store.selected? = some n → p.picked = some n.key) ↔ ¬p.Misleads := by
  have hform := h.workbench.sound.wellFormed
  rw [h.selected?_eq]
  constructor
  · rintro hall ⟨key, hkey, hstale, n, hn, htid⟩
    have hshown : p.workbench.store.forest.find? key.tid = some n := htid ▸ hform.found n hn
    have hpicked : p.picked = some n.key := hall n (by rw [hkey, Option.bind_some, hshown])
    exact hstale n hn (Option.some.inj ((h.tracked.last key hkey).symm.trans hpicked)).symm
  · intro hmisleads n hn
    obtain ⟨key, hkey, hfind⟩ := Option.bind_eq_some_iff.mp hn
    have hrow := List.mem_of_find?_eq_some hfind
    have htid : n.tid = key.tid := by simpa using List.find?_some hfind
    by_contra hother
    -- The row has the id of the node, so no row is that node unless this one is.
    refine hmisleads ⟨key, hkey, fun m hm hmkey => hother ?_, n, hrow, htid⟩
    have hsame : m = n :=
      hform.eq_of_tid_eq hm hrow ((congrArg NodeKey.tid hmkey).trans htid.symm)
    rw [h.tracked.last key hkey, ← hmkey, hsame]

/-- After a load nothing is selected until a node is picked. A node of the tree that is picked is
selected from then on. In place of a node that is not in the tree the row with its id is selected,
if there is one, and only then what is selected is not the node that was picked last. -/
theorem Reachable.selected?_picked_iff (h : p.Reachable treeId) :
    (p.sinceLoad = none → p.workbench.store.selected? = none) ∧
    (∀ key, p.sinceLoad = some key →
      p.picked = some key ∧
      (∀ n ∈ p.workbench.store.forest.rows, n.key = key →
        p.workbench.store.selected? = some n) ∧
      ((∀ n ∈ p.workbench.store.forest.rows, n.key ≠ key) →
        p.workbench.store.selected? = p.workbench.store.forest.find? key.tid)) ∧
    ((∀ n, p.workbench.store.selected? = some n → p.picked = some n.key) ↔ ¬p.Misleads) := by
  refine ⟨fun hnone => ?_, fun key hkey => ?_, h.forall_picked_iff⟩
  · rw [h.selected?_eq, hnone, Option.bind_none]
  · have hfind : p.workbench.store.selected? = p.workbench.store.forest.find? key.tid := by
      rw [h.selected?_eq, hkey, Option.bind_some]
    refine ⟨h.tracked.last key hkey, ?_, fun _ => hfind⟩
    rintro n hn rfl
    exact hfind.trans (h.workbench.sound.wellFormed.found n hn)

/-! ### A row that was never picked -/

/-- A file of a tree that was replaced is clicked. -/
def staleClick : Picking :=
  run { workbench := Workbench.emptied {} "files" } [
    .load (.arr [.obj [("path", .str "/a")]]),
    .load Workbench.otherSnapshot,
    .click ⟨1, "files_1"⟩]

/-- The other file that has its id appears as selected. -/
theorem selected?_staleClick :
    staleClick.Reachable "files" ∧ staleClick.picked = some ⟨1, "files_1"⟩ ∧
      staleClick.workbench.store.selected? = some Workbench.otherRow ∧
      Workbench.otherRow.key ≠ ⟨1, "files_1"⟩ :=
  ⟨⟨{}, _, rfl⟩, by decide +kernel, by decide +kernel, by decide +kernel⟩

theorem selected?_picked_iff_staleClick :
    staleClick.Reachable "files" ∧ staleClick.sinceLoad = some ⟨1, "files_1"⟩ ∧
      (∀ n ∈ staleClick.workbench.store.forest.rows, n.key ≠ ⟨1, "files_1"⟩) ∧
      staleClick.workbench.store.selected? =
        staleClick.workbench.store.forest.find? "files_1" := by
  have hreachable : staleClick.Reachable "files" := ⟨{}, _, rfl⟩
  have hpicked : staleClick.sinceLoad = some ⟨1, "files_1"⟩ := by decide +kernel
  have hstale : ∀ n ∈ staleClick.workbench.store.forest.rows, n.key ≠ ⟨1, "files_1"⟩ := by
    decide +kernel
  exact ⟨hreachable, hpicked, hstale,
    ((Reachable.selected?_picked_iff hreachable).2.1 _ hpicked).2.2 hstale⟩

end Picking

end Sidebar
