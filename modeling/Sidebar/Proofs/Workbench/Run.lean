import Sidebar.Session
import Sidebar.Proofs.Store.Sound

/-!
# Runs of a workbench

A run is a list of actions: loads, changes of the tree, clicks and keys, tabs, and saved sessions
that are applied. An action that fails, or that names a node which never was, leaves the workbench
as it was; what a failing one has done up to then stays.

Each action keeps the store sound, so the tree is a well-formed forest after every run.
-/

namespace Sidebar

open Editor

/-- What can be done at a workbench. Nodes are named by their identity, so that those of earlier
builds can be meant too. Each action that asks for files has a loader of its own. -/
inductive Action where
  | load (snapshot : Json String)
  | expand (node : NodeKey) (expand : Option Bool)
  | expandAll (expand : Bool)
  | select (node : NodeKey)
  | click (node : NodeKey)
  | rightClick (node : NodeKey)
  | doubleClick (load : Loader) (node : NodeKey)
  | selectDown
  | selectUp
  | openNode (load : Loader) (node : NodeKey)
  | closeTab (tid : String)
  | setCurrentTab (tid : String)
  | restore (record : SessionRecord)
  | restoreWithTabs (load : Loader) (record : SessionRecord)

namespace Workbench

/-- Does something to a node, if there is one with the identity. -/
def onNode (w : Workbench) (key : NodeKey) (f : Node → Workbench) : Workbench :=
  match w.store.node? key with
  | some n => f n
  | none => w

/-- The workbench after a step, or as it was where there is no step. -/
def settle (w : Workbench) : Except NavigationError (Workbench × Option Node) → Workbench
  | .ok (moved, _) => moved
  | .error _ => w

def act (w : Workbench) : Action → Workbench
  | .load snapshot =>
    match w.store.loadJson snapshot with
    | .ok store => { w with store := store }
    | .error _ => w
  | .expand key expand => w.onNode key fun n => { w with store := w.store.expand n expand }
  | .expandAll expand => { w with store := w.store.expandAll expand }
  | .select key => w.onNode key fun n => { w with store := w.store.select n }
  | .click key => w.onNode key w.click
  | .rightClick key => w.onNode key fun n => (w.rightClick n).1
  | .doubleClick load key => w.onNode key fun n => (w.doubleClick load n).workbench
  | .selectDown => w.settle w.selectDown
  | .selectUp => w.settle w.selectUp
  | .openNode load key => w.onNode key fun n => { w with tabs := (w.tabs.openNode load n).tabs }
  | .closeTab tid => { w with tabs := w.tabs.close tid }
  | .setCurrentTab tid => { w with tabs := w.tabs.setCurrent tid }
  | .restore record => { w with store := (record.expandIn w.store).store }
  | .restoreWithTabs load record =>
    let restored := (record.applyTo load w.store w.tabs).1
    { w with store := restored.store, tabs := restored.tabs }

def run (w : Workbench) (actions : List Action) : Workbench := actions.foldl act w

/-- The workbench with an empty store in place of its own. -/
def emptied (w : Workbench) (treeId : String) : Workbench :=
  { w with store := { treeId := treeId } }

/-- Some run from an empty store leads to the workbench. -/
def Reachable (treeId : String) (w : Workbench) : Prop :=
  ∃ (start : Workbench) (actions : List Action), w = (start.emptied treeId).run actions

end Workbench

/-! ### What restoring does to the store -/

namespace Restored

lemma store_reopenPaths (load : Loader) (currentFile : Option WideText) (r : Restored)
    (current : Option String) (paths : List WideText) :
    (reopenPaths load currentFile r current paths).1.store = r.store := by
  fun_induction reopenPaths load currentFile r current paths with
  | case1 => rfl
  | case2 _ _ _ _ _ ih => exact ih
  | case3 => rfl
  | case4 _ _ _ _ _ _ _ _ _ _ ih => exact ih
  | case5 _ _ _ _ _ _ _ _ _ _ _ ih => exact ih

lemma store_focus (r : Restored) (current : Option String) :
    (r.focus current).store = r.store := by
  cases current <;> rfl

end Restored

namespace SessionRecord

/-- What the opening of a row keeps, a record that is applied keeps. -/
lemma expandIn_induction {motive : Store → Prop} (record : SessionRecord) {s : Store} (h : motive s)
    (hexpand : ∀ s path n, motive s → s.forest.atPath? path = some n →
      motive (s.expand n (some true))) :
    motive (record.expandIn s).store := by
  have hfold : ∀ (paths : List WideText) (r : Restored), motive r.store →
      motive (paths.foldl Restored.expandPath r).store := by
    intro paths
    induction paths with
    | nil => exact fun _ hr => hr
    | cons path rest ih =>
      intro r hr
      refine ih _ ?_
      rw [Restored.expandPath]
      split
      · next n hfind =>
        split
        · obtain ⟨text, -, hfind⟩ := Option.bind_eq_some_iff.mp hfind
          exact hexpand _ text n hr hfind
        · exact hr
      · exact hr
  exact hfold record.openPaths { store := s } h

lemma store_applyTo (record : SessionRecord) (load : Loader) (store : Store) (tabs : Tabs) :
    (record.applyTo load store tabs).1.store = (record.expandIn store).store := by
  have hreopen := Restored.store_reopenPaths load record.currentFile
    { record.expandIn store with tabs := tabs } none record.filePaths
  rw [applyTo]
  split
  · next h => rw [h] at hreopen; exact hreopen
  · next h => rw [h] at hreopen; rw [Restored.store_focus]; exact hreopen

end SessionRecord

/-! ### Soundness -/

namespace Store.Sound

variable {treeId : String}

theorem expandIn {s : Store} (h : s.Sound treeId) (record : SessionRecord) :
    (record.expandIn s).store.Sound treeId := by
  refine record.expandIn_induction h fun s path n hs hfind => ?_
  rw [hs.wellFormed.atPath?_eq] at hfind
  exact hs.expand (holds_of_mem_rows (List.mem_of_find?_eq_some hfind)) (some true)

end Store.Sound

namespace Workbench

variable {treeId : String} {w : Workbench}

/-- What holds before and after something is done to a node also holds where there is no such
node. -/
lemma onNode_induction {motive : Workbench → Prop} {key : NodeKey} {f : Node → Workbench}
    (h : motive w) (hf : ∀ n, w.store.node? key = some n → motive (f n)) :
    motive (w.onNode key f) := by
  rw [onNode]
  cases hfind : w.store.node? key with
  | none => exact h
  | some n => exact hf n hfind

/-- A step changes nothing, or selects the row that it leads to. -/
lemma settle_step (w : Workbench)
    (move : Navigator → Node → Except NavigationError (Option Node)) :
    w.settle (w.step move) = w ∨ ∃ n, w.settle (w.step move) = w.click n := by
  rw [step]
  cases w.selectedNode? with
  | none =>
    cases hroot : w.store.forest.roots.head? with
    | none => exact Or.inl rfl
    | some n => exact Or.inr ⟨n, rfl⟩
  | some n =>
    cases hmove : move w.navigator n with
    | error e => simp only [hmove]; exact Or.inl rfl
    | ok target =>
      simp only [hmove]
      cases target with
      | none => exact Or.inl rfl
      | some m => exact Or.inr ⟨m, rfl⟩

lemma sound_step (h : w.store.Sound treeId)
    (move : Navigator → Node → Except NavigationError (Option Node)) :
    (w.settle (w.step move)).store.Sound treeId := by
  rcases settle_step w move with heq | ⟨n, heq⟩
  · rwa [heq]
  · rw [heq]
    exact h.select n

/-- Every action keeps the store sound. -/
theorem sound_act (h : w.store.Sound treeId) (a : Action) : (w.act a).store.Sound treeId := by
  have onNode : ∀ key (f : Node → Workbench),
      (∀ n, w.store.Holds n → (f n).store.Sound treeId) → (w.onNode key f).store.Sound treeId :=
    fun key f hf => onNode_induction (motive := fun w => w.store.Sound treeId) h fun n hfind =>
      hf n (h.node?_eq_some_iff.mp hfind).1
  cases a with
  | load snapshot =>
    rw [act]
    cases hload : w.store.loadJson snapshot with
    | error e => exact h
    | ok store => exact h.loadJson hload
  | expand key expand => exact onNode key _ fun n hn => h.expand hn expand
  | expandAll expand => exact h.expandAll expand
  | select key => exact onNode key _ fun n _ => h.select n
  | click key => exact onNode key _ fun n _ => h.select n
  | rightClick key => exact onNode key _ fun n _ => h.select n
  | doubleClick load key => exact onNode key _ fun n _ => h
  | selectDown => exact sound_step h _
  | selectUp => exact sound_step h _
  | openNode load key => exact onNode key _ fun n _ => h
  | closeTab tid => exact h
  | setCurrentTab tid => exact h
  | restore record => exact h.expandIn record
  | restoreWithTabs load record =>
    have := h.expandIn record
    rwa [← SessionRecord.store_applyTo record load w.store w.tabs] at this

theorem sound_run (h : w.store.Sound treeId) (actions : List Action) :
    (w.run actions).store.Sound treeId := by
  induction actions generalizing w with
  | nil => exact h
  | cons a actions ih => exact ih (sound_act h a)

theorem Reachable.sound (h : w.Reachable treeId) : w.store.Sound treeId := by
  obtain ⟨start, actions, rfl⟩ := h
  exact sound_run (Store.sound_empty treeId) actions

/-- After every run from an empty store, whatever is loaded, opened, selected or restored in it, the
tree is a well-formed forest. -/
theorem wellFormed_run (start : Workbench) (treeId : String) (actions : List Action) :
    ((start.emptied treeId).run actions).store.forest.WellFormed treeId :=
  (sound_run (Store.sound_empty treeId) actions).wellFormed

end Workbench

end Sidebar
