import Sidebar.Store
import Sidebar.Proofs.Tree.Shows

/-!
# Sound stores

A store holds the forest of the current build and those of earlier builds, whose nodes can still be
in use. In a sound store each of them shows a snapshot, and later builds have higher numbers. So the
identity of a node leads to that node, and to no other.

Every operation of a store keeps it sound.
-/

namespace Sidebar

open Node

namespace Store

/-- The forests that the store holds, the current one first. -/
def forests (s : Store) : List Forest := s.forest :: s.retired

/-- Every forest shows a snapshot, and builds are numbered upwards. -/
structure Sound (treeId : String) (s : Store) : Prop where
  tree : s.treeId = treeId
  shows : ∀ f ∈ s.forests, ∃ entries, f.Shows treeId entries
  builds : s.forests.Pairwise fun f g => g.build < f.build

/-- Whether the store holds a node, of the current build or an earlier one. -/
def Holds (s : Store) (n : Node) : Prop := ∃ f ∈ s.forests, n ∈ f.rows

theorem sound_empty (treeId : String) : Sound treeId { treeId := treeId } where
  tree := rfl
  shows := by
    intro f hf
    rw [List.mem_singleton.mp hf]
    exact ⟨[], Forest.shows_empty treeId⟩
  builds := List.pairwise_singleton _ _

lemma holds_of_mem_rows {s : Store} {n : Node} (hn : n ∈ s.forest.rows) : s.Holds n :=
  ⟨s.forest, List.mem_cons_self, hn⟩

/-- Loading a snapshot puts a new forest in front of those that the store holds. -/
lemma exists_load_of_loadJson {s s' : Store} {snapshot : Json String}
    (h : s.loadJson snapshot = .ok s') :
    ∃ entries, Entry.ofSnapshot snapshot = .ok entries ∧ s' = s.load entries := by
  rw [loadJson] at h
  cases hentries : Entry.ofSnapshot snapshot with
  | error e => simp [hentries, Except.map] at h
  | ok entries => exact ⟨entries, rfl, by simpa [hentries, Except.map, eq_comm] using h⟩

/-- Nodes of earlier builds are still held after a load. -/
lemma Holds.loadJson {s s' : Store} {n : Node} (hn : s.Holds n) {snapshot : Json String}
    (hload : s.loadJson snapshot = .ok s') : s'.Holds n := by
  obtain ⟨entries, -, rfl⟩ := exists_load_of_loadJson hload
  obtain ⟨f, hf, hn⟩ := hn
  exact ⟨f, List.mem_cons_of_mem _ hf, hn⟩

namespace Sound

variable {treeId : String} {s : Store} {n : Node}

lemma exists_shows (h : s.Sound treeId) : ∃ entries, s.forest.Shows treeId entries :=
  h.shows s.forest List.mem_cons_self

theorem wellFormed (h : s.Sound treeId) : s.forest.WellFormed treeId :=
  have ⟨_, hshows⟩ := h.exists_shows
  hshows.wellFormed

/-! ### Identities -/

lemma nodup_builds (h : s.Sound treeId) : (s.forests.map Forest.build).Nodup := by
  rw [List.nodup_iff_pairwise_ne, List.pairwise_map]
  exact h.builds.imp fun hlt => Nat.ne_of_gt hlt

/-- Nodes with the same identity are the same. -/
lemma eq_of_key_eq (h : s.Sound treeId) {m : Node} {f g : Forest} (hf : f ∈ s.forests)
    (hg : g ∈ s.forests) (hn : n ∈ f.rows) (hm : m ∈ g.rows) (hkey : n.key = m.key) : n = m := by
  obtain ⟨_, hshows⟩ := h.shows f hf
  obtain ⟨_, hshows'⟩ := h.shows g hg
  have hbuild : f.build = g.build := by
    rw [← hshows.build n hn, ← hshows'.build m hm, hkey]
  have hsame : f = g := List.inj_on_of_nodup_map h.nodup_builds hf hg hbuild
  subst hsame
  exact hshows.wellFormed.eq_of_tid_eq hn hm (congrArg NodeKey.tid hkey)

lemma eq_of_holds (h : s.Sound treeId) {m : Node} (hn : s.Holds n) (hm : s.Holds m)
    (hkey : n.key = m.key) : n = m := by
  obtain ⟨f, hf, hn⟩ := hn
  obtain ⟨g, hg, hm⟩ := hm
  exact h.eq_of_key_eq hf hg hn hm hkey

/-- The store finds exactly the nodes that it holds. -/
theorem node?_eq_some_iff (h : s.Sound treeId) {key : NodeKey} :
    s.node? key = some n ↔ s.Holds n ∧ n.key = key := by
  constructor
  · intro hfind
    obtain ⟨f, hf, hn⟩ := Option.bind_eq_some_iff.mp hfind
    have hmem := List.mem_of_find?_eq_some hf
    have hbuild : f.build = key.build := by simpa using List.find?_some hf
    have hrow := List.mem_of_find?_eq_some hn
    have htid : n.tid = key.tid := by simpa using List.find?_some hn
    obtain ⟨_, hshows⟩ := h.shows f hmem
    refine ⟨⟨f, hmem, hrow⟩, ?_⟩
    rw [NodeKey.mk.injEq]
    exact ⟨(hshows.build n hrow).trans hbuild, htid⟩
  · rintro ⟨⟨f, hf, hn⟩, rfl⟩
    obtain ⟨_, hshows⟩ := h.shows f hf
    have hbuild := find?_eq_some_of_nodup Forest.build h.nodup_builds hf
    have hfound := hshows.wellFormed.found n hn
    rw [← hshows.build n hn] at hbuild
    exact Option.bind_eq_some_iff.mpr ⟨f, hbuild, hfound⟩

/-! ### Operations -/

theorem load (h : s.Sound treeId) (entries : List Entry) : (s.load entries).Sound treeId where
  tree := h.tree
  shows := by
    intro f hf
    rcases List.mem_cons.mp hf with rfl | hf
    · exact ⟨entries, h.tree ▸ Forest.shows_ofEntries s.treeId _ entries⟩
    · exact h.shows f hf
  builds := by
    refine List.pairwise_cons.mpr ⟨fun f hf => ?_, h.builds⟩
    rcases List.mem_cons.mp hf with rfl | hf
    · exact Nat.lt_succ_self _
    · exact Nat.lt_succ_of_lt ((List.pairwise_cons.mp h.builds).1 f hf)

theorem loadJson (h : s.Sound treeId) {s' : Store} {snapshot : Json String}
    (hload : s.loadJson snapshot = .ok s') : s'.Sound treeId := by
  obtain ⟨entries, -, rfl⟩ := exists_load_of_loadJson hload
  exact h.load entries

/-- Opening, closing and toggling a node that the store holds, also one of an earlier build. -/
theorem expand (h : s.Sound treeId) (hn : s.Holds n) (expand : Option Bool) :
    (s.expand n expand).Sound treeId := by
  rw [Store.expand, expanded?]
  by_cases hexpandable : n.isExpandable
  · rw [if_pos hexpandable]
    obtain ⟨f, hf, hn⟩ := hn
    have hforests : (s.modify n.key fun row =>
          { row with isOpen := expand.getD (!n.isOpen) }).forests =
        s.forests.map (Forest.modify n.key fun row =>
          { row with isOpen := expand.getD (!n.isOpen) }) := rfl
    refine ⟨h.tree, ?_, ?_⟩
    · intro g' hg'
      rw [hforests, List.mem_map] at hg'
      obtain ⟨g, hg, rfl⟩ := hg'
      obtain ⟨entries, hshows⟩ := h.shows g hg
      refine ⟨entries, hshows.modify _ fun m hm hkey => ?_⟩
      rwa [h.eq_of_key_eq hg hf hm hn hkey]
    · rw [hforests, List.pairwise_map]
      exact h.builds
  · rw [if_neg hexpandable]
    exact h

/-- Another forest of the same build takes the place of the current one. -/
lemma withForest (h : s.Sound treeId) {f : Forest} {entries : List Entry}
    (hshows : f.Shows treeId entries) (hbuild : f.build = s.forest.build) :
    Sound treeId { s with forest := f } where
  tree := h.tree
  shows := by
    intro g hg
    rcases List.mem_cons.mp hg with rfl | hg
    · exact ⟨entries, hshows⟩
    · exact h.shows g (List.mem_cons_of_mem _ hg)
  builds := by
    have hbuilds := List.pairwise_cons.mp h.builds
    exact List.pairwise_cons.mpr ⟨fun g hg => hbuild ▸ hbuilds.1 g hg, hbuilds.2⟩

theorem expandAll (h : s.Sound treeId) (expand : Bool) : (s.expandAll expand).Sound treeId :=
  have ⟨_, hshows⟩ := h.exists_shows
  h.withForest (hshows.expandAll expand) rfl

theorem select (h : s.Sound treeId) (n : Node) : (s.select n).Sound treeId :=
  ⟨h.tree, h.shows, h.builds⟩

end Sound

end Store

end Sidebar
