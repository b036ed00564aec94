import Sidebar.Proofs.Tree.Decoding
import Sidebar.Proofs.Tree.Shows

/-!
# Paths of trees

The rows of a tree have the paths of the entries that it shows, in the same order. An entry of a
snapshot must have a path, so no row of a snapshot has an empty one.
-/

namespace Sidebar

/-! ### Snapshots -/

namespace Entry

mutual

/-- The paths of an entry and of all below it, in pre-order. -/
def paths : Entry → List String
  | .file _ path => [path]
  | .dir _ path children => path :: pathsAll children

def pathsAll : List Entry → List String
  | [] => []
  | entry :: rest => entry.paths ++ pathsAll rest

end

lemma Heading.path_ne_empty {fields : Fields String} {heading : Heading}
    (h : Heading.ofFields fields = .ok heading) : heading.path ≠ "" :=
  (Heading.of_ofFields h).1.2

lemma paths_entry {heading : Heading} {children : List Entry} {path : String}
    (h : path ∈ (heading.entry children).paths) :
    path = heading.path ∨ path ∈ pathsAll children := by
  rw [Heading.entry] at h
  split at h
  · rwa [paths, List.mem_cons] at h
  · rw [paths, List.mem_singleton] at h
    exact Or.inl h

mutual

theorem paths_ofJson : (v : Json String) → {entry : Entry} → ofJson v = .ok entry →
    ∀ path ∈ entry.paths, path ≠ ""
  | .obj fields, entry, h => by
    rw [ofJson] at h
    obtain ⟨heading, hheading, h⟩ := bind_eq_ok_iff.mp h
    obtain ⟨children, hchildren, h⟩ := bind_eq_ok_iff.mp h
    obtain rfl := Except.ok.inj h
    intro path hpath
    rcases paths_entry hpath with rfl | hpath
    · exact Heading.path_ne_empty hheading
    · exact paths_ofChildrenField fields hchildren path hpath
  | .null, _, h | .bool _, _, h | .int _, _, h | .float _, _, h | .str _, _, h | .arr _, _, h => by
    simp [ofJson] at h

theorem paths_ofItems : (items : List (Json String)) → {entries : List Entry} →
    ofItems items = .ok entries → ∀ path ∈ pathsAll entries, path ≠ ""
  | [], entries, h => by
    obtain rfl := Except.ok.inj h
    simp [pathsAll]
  | v :: rest, entries, h => by
    rw [ofItems] at h
    obtain ⟨entry, hentry, h⟩ := bind_eq_ok_iff.mp h
    obtain ⟨others, hrest, h⟩ := bind_eq_ok_iff.mp h
    obtain rfl := Except.ok.inj h
    intro path hpath
    rcases List.mem_append.mp hpath with hpath | hpath
    · exact paths_ofJson v hentry path hpath
    · exact paths_ofItems rest hrest path hpath

theorem paths_ofChildrenField : (fields : List (String × Json String)) → {entries : List Entry} →
    ofChildrenField fields = .ok entries → ∀ path ∈ pathsAll entries, path ≠ ""
  | [], entries, h => by
    obtain rfl := Except.ok.inj h
    simp [pathsAll]
  | (name, v) :: rest, entries, h => by
    rw [ofChildrenField] at h
    split at h
    · exact paths_ofChildren v h
    · exact paths_ofChildrenField rest h

theorem paths_ofChildren : (v : Json String) → {entries : List Entry} → ofChildren v = .ok entries →
    ∀ path ∈ pathsAll entries, path ≠ ""
  | .arr items, entries, h => paths_ofItems items h
  | .null, _, h | .bool _, _, h | .int _, _, h | .float _, _, h | .str _, _, h | .obj _, _, h => by
    obtain rfl := Except.ok.inj h
    simp [pathsAll]

end

/-- A snapshot that is accepted names the path of each entry. -/
theorem paths_ofSnapshot {v : Json String} {entries : List Entry} (h : ofSnapshot v = .ok entries) :
    ∀ path ∈ pathsAll entries, path ≠ "" := by
  cases v with
  | arr items => exact paths_ofItems items h
  | obj fields => exact paths_ofItems _ h
  | str text => exact paths_ofItems _ h
  | _ => simp [ofSnapshot] at h

end Entry

/-! ### Rows -/

namespace Node

mutual

theorem paths_ofEntry (treeId : String) (build number : Nat) (level : Int)
    (parentTid : Option String) (isLast : Bool) :
    (entry : Entry) →
      (ofEntry treeId build number level parentTid isLast entry).preorder.map path = entry.paths
  | .file name path => by simp [ofEntry, preorder, preorderAll, Entry.paths, Node.path]
  | .dir name path children => by
    simp [ofEntry, preorder, Entry.paths, Node.path, paths_ofEntries treeId build _ _ _ children]

/-- The rows have the paths of the entries, in the same order. -/
theorem paths_ofEntries (treeId : String) (build number : Nat) (level : Int)
    (parentTid : Option String) :
    (entries : List Entry) →
      (preorderAll (ofEntries treeId build number level parentTid entries)).map path =
        Entry.pathsAll entries
  | [] => by simp [ofEntries, preorderAll, Entry.pathsAll]
  | entry :: rest => by
    rw [ofEntries, preorderAll, List.map_append, paths_ofEntry treeId build _ _ _ _ entry,
      paths_ofEntries treeId build _ _ _ rest, Entry.pathsAll]

end

end Node

namespace Forest

lemma paths_ofEntries (treeId : String) (build : Nat) (entries : List Entry) :
    (ofEntries treeId build entries).rows.map Node.path = Entry.pathsAll entries := by
  rw [rows_eq_preorderAll]
  exact Node.paths_ofEntries treeId build 1 0 none entries

end Forest

/-- The paths of the rows are those of the entries. -/
lemma Forest.Shows.paths {f : Forest} {treeId : String} {entries : List Entry}
    (h : f.Shows treeId entries) : f.rows.map Node.path = Entry.pathsAll entries := by
  rw [h.paths_congr (shows_ofEntries treeId 0 entries), paths_ofEntries]

end Sidebar
