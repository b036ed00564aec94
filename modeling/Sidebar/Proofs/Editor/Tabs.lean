import Sidebar.Editor.Tabs
import Sidebar.Proofs.Tree.WellFormed

/-!
# Open tabs

Ids tell the open tabs apart, and one of the tabs is current as long as there are any. Opening,
showing and closing keep it so.

What each operation can do is said once: for an opening by its cases, for a closing by cutting the
list at the tab that is closed.
-/

namespace Sidebar.Editor.Tabs

/-- Ids tell the tabs apart, and one of them is current unless there are none. -/
structure WellFormed (t : Tabs) : Prop where
  nodup : (t.tabs.map Tab.tid).Nodup
  current : ∀ tid, t.currentTid = some tid → ∃ tab ∈ t.tabs, tab.tid = tid
  empty : t.currentTid = none → t.tabs = []

theorem wellFormed_empty : WellFormed {} where
  nodup := List.nodup_nil
  current := fun _ h => absurd h (by simp)
  empty := fun _ => rfl

variable {t : Tabs} {tid : String}

/-! ### Lookup -/

lemma find?_eq_none_iff : t.find? tid = none ↔ ∀ tab ∈ t.tabs, tab.tid ≠ tid := by
  simp [find?]

lemma isNone_find?_iff : (t.find? tid).isNone ↔ ∀ tab ∈ t.tabs, tab.tid ≠ tid := by
  rw [Option.isNone_iff_eq_none, find?_eq_none_iff]

lemma mem_of_find?_eq_some {tab : Tab} (h : t.find? tid = some tab) :
    tab ∈ t.tabs ∧ tab.tid = tid :=
  ⟨List.mem_of_find?_eq_some h, by simpa using List.find?_some h⟩

lemma WellFormed.find?_tid (h : t.WellFormed) {tab : Tab} (htab : tab ∈ t.tabs) :
    t.find? tab.tid = some tab :=
  find?_eq_some_of_nodup Tab.tid h.nodup htab

lemma setCurrent_of_mem {tab : Tab} (h : tab ∈ t.tabs) :
    t.setCurrent tab.tid = { t with currentTid := some tab.tid } := by
  have hfound : (t.find? tab.tid).isSome := by
    rw [Option.isSome_iff_ne_none]
    intro hnone
    exact find?_eq_none_iff.mp hnone tab h rfl
  rw [setCurrent, if_pos hfound]

lemma setCurrent_of_notMem (h : ∀ tab ∈ t.tabs, tab.tid ≠ tid) : t.setCurrent tid = t := by
  rw [setCurrent, find?_eq_none_iff.mpr h]
  rfl

@[simp] lemma tabs_setCurrent (t : Tabs) (tid : String) : (t.setCurrent tid).tabs = t.tabs := by
  rw [setCurrent]
  split <;> rfl

lemma mem_of_mem_close {tab : Tab} (h : tab ∈ (t.close tid).tabs) : tab ∈ t.tabs := by
  rw [close] at h
  split at h
  · exact h
  · exact List.mem_of_mem_eraseIdx h

/-! ### What the operations do -/

/-- Opening a node shows the tab of its id, adds a tab for a text file, or shows no tab and leaves
the tabs as they are. -/
theorem openNode_cases (load : Loader) (t : Tabs) (n : Node) :
    (∃ tab ∈ t.tabs, tab.tid = n.tid ∧ t.find? n.tid = some tab ∧
      (t.openNode load n).tabs = { t with currentTid := some n.tid } ∧
      (t.openNode load n).outcome = .ok (.shown tab)) ∨
    (∃ mode content, (∀ tab ∈ t.tabs, tab.tid ≠ n.tid) ∧ n.row.isDir = false ∧
      load n.path = .ok (.text mode content) ∧
      (t.openNode load n).tabs = t.push ⟨n.tid, n.path, mode, content⟩ ∧
      (t.openNode load n).outcome = .ok (.shown ⟨n.tid, n.path, mode, content⟩)) ∨
    ((∀ tab ∈ t.tabs, tab.tid ≠ n.tid) ∧
      (n.row.isDir ∨ ∀ mode content, load n.path ≠ .ok (.text mode content)) ∧
      (t.openNode load n).tabs = t ∧
      ∀ tab, (t.openNode load n).outcome ≠ .ok (.shown tab)) := by
  rw [openNode]
  cases hfind : t.find? n.tid with
  | some tab =>
    obtain ⟨htab, htid⟩ := mem_of_find?_eq_some hfind
    left
    exact ⟨tab, htab, htid, rfl, htid ▸ setCurrent_of_mem htab, rfl⟩
  | none =>
    have habsent := find?_eq_none_iff.mp hfind
    right
    by_cases hdir : n.row.isDir
    · right
      simpa [hdir] using habsent
    · simp only [hdir]
      cases hload : load n.path with
      | error failure =>
        right
        simpa using habsent
      | ok loaded =>
        cases loaded with
        | text mode content =>
          left
          exact ⟨mode, content, habsent, by simp, rfl, rfl, rfl⟩
        | image =>
          right
          simpa using habsent
        | unreadable reason =>
          right
          simpa using habsent

lemma close_of_notMem (h : ∀ tab ∈ t.tabs, tab.tid ≠ tid) : t.close tid = t := by
  have hindex : t.index? tid = none := by
    simpa [index?, List.findIdx?_eq_none_iff] using h
  rw [close, hindex]

/-- Closing takes a tab out of the list. If it was current, the one in front of it becomes current,
and behind no other the one that came after it. -/
theorem close_eq {front back : List Tab} {tab : Tab} (htabs : t.tabs = front ++ tab :: back)
    (hfront : ∀ other ∈ front, other.tid ≠ tab.tid) :
    t.close tab.tid =
      ⟨front ++ back,
        if t.currentTid = some tab.tid then (front.getLast?.or back.head?).map Tab.tid
        else t.currentTid⟩ := by
  have hindex : t.index? tab.tid = some front.length := by
    have hnone : front.findIdx? (fun other => other.tid = tab.tid) = none := by
      simpa [List.findIdx?_eq_none_iff] using hfront
    simp [index?, htabs, List.findIdx?_append, hnone, List.findIdx?_cons]
  have hrest : t.tabs.eraseIdx front.length = front ++ back := by
    rw [htabs, List.eraseIdx_append_of_length_le (Nat.le_refl _)]
    simp
  have hnext : (front ++ back)[front.length - 1]? = front.getLast?.or back.head? := by
    cases hlast : front.getLast? with
    | none =>
      rw [List.getLast?_eq_none_iff] at hlast
      simp [hlast, List.head?_eq_getElem?]
    | some last =>
      rw [List.getLast?_eq_getElem?] at hlast
      have hlength : front.length - 1 < front.length := (List.getElem?_eq_some_iff.mp hlast).1
      rw [List.getElem?_append_left hlength, hlast]
      rfl
  rw [close, hindex]
  simp only [hrest, hnext]

/-! ### Well-formedness -/

namespace WellFormed

theorem push (h : t.WellFormed) {tab : Tab} (habsent : ∀ other ∈ t.tabs, other.tid ≠ tab.tid) :
    (t.push tab).WellFormed where
  nodup := by
    rw [Tabs.push, List.map_append, List.map_singleton, List.nodup_append]
    refine ⟨h.nodup, List.nodup_singleton _, ?_⟩
    intro tid htid tid' htid'
    obtain ⟨other, hother, rfl⟩ := List.mem_map.mp htid
    rw [List.mem_singleton.mp htid']
    exact habsent other hother
  current := by
    intro tid htid
    exact ⟨tab, List.mem_append_right _ (List.mem_singleton_self tab), Option.some.inj htid⟩
  empty := fun htid => absurd htid (by simp [Tabs.push])

lemma focus (h : t.WellFormed) {tab : Tab} (htab : tab ∈ t.tabs) :
    WellFormed { t with currentTid := some tab.tid } where
  nodup := h.nodup
  current := fun _ htid => ⟨tab, htab, Option.some.inj htid⟩
  empty := fun htid => absurd htid (by simp)

theorem setCurrent (h : t.WellFormed) (tid : String) : (t.setCurrent tid).WellFormed := by
  by_cases htid : ∃ tab ∈ t.tabs, tab.tid = tid
  · obtain ⟨tab, htab, rfl⟩ := htid
    rw [setCurrent_of_mem htab]
    exact h.focus htab
  · push Not at htid
    rwa [setCurrent_of_notMem htid]

theorem openNode (h : t.WellFormed) (load : Loader) (n : Node) :
    (t.openNode load n).tabs.WellFormed := by
  rcases openNode_cases load t n with
    ⟨tab, htab, htid, -, htabs, -⟩ | ⟨mode, content, habsent, -, -, htabs, -⟩ | ⟨-, -, htabs, -⟩
  · rw [htabs, ← htid]
    exact h.focus htab
  · rw [htabs]
    exact h.push habsent
  · rwa [htabs]

/-- The list cut at one of its tabs. -/
lemma exists_cut (h : t.WellFormed) {tab : Tab} (htab : tab ∈ t.tabs) :
    ∃ front back, t.tabs = front ++ tab :: back ∧ ∀ other ∈ front, other.tid ≠ tab.tid := by
  obtain ⟨front, back, htabs⟩ := List.append_of_mem htab
  have hnodup := h.nodup
  rw [htabs, List.map_append, List.nodup_append] at hnodup
  refine ⟨front, back, htabs, ?_⟩
  intro other hother
  exact hnodup.2.2 _ (List.mem_map_of_mem hother) _ List.mem_cons_self

theorem close (h : t.WellFormed) (tid : String) : (t.close tid).WellFormed := by
  by_cases htid : ∃ tab ∈ t.tabs, tab.tid = tid
  · obtain ⟨tab, htab, rfl⟩ := htid
    obtain ⟨front, back, htabs, hfront⟩ := h.exists_cut htab
    have hsublist : (front ++ back).Sublist t.tabs := by
      rw [htabs]
      exact (List.Sublist.refl front).append (List.sublist_cons_self tab back)
    rw [close_eq htabs hfront]
    constructor
    · exact (hsublist.map Tab.tid).nodup h.nodup
    · intro tid htid
      simp only at htid ⊢
      split at htid
      · obtain ⟨next, hnext, rfl⟩ := Option.map_eq_some_iff.mp htid
        refine ⟨next, ?_, rfl⟩
        rcases Option.or_eq_some_iff.mp hnext with hlast | ⟨-, hhead⟩
        · exact List.mem_append_left _ (List.mem_of_getLast? hlast)
        · exact List.mem_append_right _ (List.mem_of_head? hhead)
      · next hcurrent =>
        -- another tab is current, and stays
        obtain ⟨other, hother, rfl⟩ := h.current tid htid
        refine ⟨other, ?_, rfl⟩
        rw [htabs, List.mem_append, List.mem_cons] at hother
        rcases hother with hother | rfl | hother
        · exact List.mem_append_left _ hother
        · exact absurd htid hcurrent
        · exact List.mem_append_right _ hother
    · intro hnone
      simp only at hnone ⊢
      split at hnone
      · rw [Option.map_eq_none_iff, Option.or_eq_none_iff] at hnone
        rw [List.getLast?_eq_none_iff.mp hnone.1, List.head?_eq_none_iff.mp hnone.2]
        rfl
      · have := h.empty hnone
        simp [htabs] at this
  · push Not at htid
    rwa [close_of_notMem htid]

/-- As long as there are tabs, the current one is one of them. -/
lemma exists_current (h : t.WellFormed) (htabs : t.tabs ≠ []) :
    ∃ tab ∈ t.tabs, t.currentTid = some tab.tid ∧ t.current? = some tab := by
  cases hcurrent : t.currentTid with
  | none => exact absurd (h.empty hcurrent) htabs
  | some tid =>
    obtain ⟨tab, htab, rfl⟩ := h.current tid hcurrent
    refine ⟨tab, htab, rfl, ?_⟩
    rw [current?, hcurrent]
    exact h.find?_tid htab

end WellFormed

end Sidebar.Editor.Tabs
