import Sidebar.Proofs.FileSystem.Walking
import Sidebar.Proofs.Tree.Paths

/-!
# Lines

What a row tells about its entry: name, path, kind and level. A build shows the lines of its
snapshot in pre-order, and siblings in the order in which the snapshot has them. A snapshot whose
entries have names and paths is read back as it is written.
-/

namespace Sidebar

structure Line where
  name : String
  path : String
  isDir : Bool
  level : Int
deriving DecidableEq

/-- A sibling may stand before another one: directories before files, and each group in the order of
the small forms of the names. -/
structure Precedes (isDir : Bool) (name : String) (isDir' : Bool) (name' : String) : Prop where
  kind : isDir = false → isDir' = false
  name : isDir = isDir' → Text.lower name ≤ Text.lower name'

lemma siblingsLe_iff {isDir isDir' : Bool} {name name' : String} :
    siblingsLe isDir name isDir' name' ↔ Precedes isDir name isDir' name' := by
  rw [siblingsLe]
  constructor
  · intro h
    split at h
    · next hkind => exact ⟨fun hfile => hkind ▸ hfile, fun _ => of_decide_eq_true h⟩
    · next hkind => exact ⟨fun hfile => by simp [hfile] at h, fun heq => absurd heq hkind⟩
  · rintro ⟨hkind, hname⟩
    split
    · next heq => exact decide_eq_true (hname heq)
    · next hne =>
      cases isDir with
      | true => rfl
      | false => exact absurd (hkind rfl).symm hne

def Node.line (n : Node) : Line := ⟨n.row.name, n.path, n.row.isDir, n.row.level⟩

namespace Entry

mutual

/-- The lines of an entry and of all below it, in pre-order. -/
def lines (level : Int) : Entry → List Line
  | .file name path => [⟨name, path, false, level⟩]
  | .dir name path children => ⟨name, path, true, level⟩ :: linesAll (level + 1) children

def linesAll (level : Int) : List Entry → List Line
  | [] => []
  | entry :: rest => entry.lines level ++ linesAll level rest

end

lemma linesAll_eq_flatMap (level : Int) (entries : List Entry) :
    linesAll level entries = entries.flatMap (lines level) := by
  induction entries with
  | nil => rfl
  | cons entry rest ih => rw [linesAll, ih, List.flatMap_cons]

/-- Display order does not change which lines there are. -/
lemma mem_linesAll_sortEntries {level : Int} {entries : List Entry} {l : Line} :
    l ∈ linesAll level (sortEntries entries) ↔ l ∈ linesAll level entries := by
  rw [linesAll_eq_flatMap, linesAll_eq_flatMap]
  exact ((List.mergeSort_perm _ _).flatMap_right _).mem_iff

mutual

/-- The levels of the directories give the height. -/
lemma height_le_iff (levels : Nat) (level : Int) :
    (entry : Entry) →
      (entry.height ≤ levels ↔ ∀ l ∈ entry.lines level, l.isDir → l.level < level + levels)
  | .file name path => by simp [height, lines]
  | .dir name path children => by
    rw [height, lines, List.forall_mem_cons]
    cases levels with
    | zero => simp
    | succ levels =>
      rw [Nat.succ_le_succ_iff, heightAll_le_iff_lines levels (level + 1) children]
      push_cast
      simp only [forall_const, show level < level + (levels + 1) by omega, true_and,
        show level + 1 + (levels : Int) = level + (levels + 1) by omega]

lemma heightAll_le_iff_lines (levels : Nat) (level : Int) :
    (entries : List Entry) →
      (heightAll entries ≤ levels ↔
        ∀ l ∈ linesAll level entries, l.isDir → l.level < level + levels)
  | [] => by simp [heightAll, linesAll]
  | entry :: rest => by
    rw [heightAll, Nat.max_le, linesAll, List.forall_mem_append,
      height_le_iff levels level entry, heightAll_le_iff_lines levels level rest]

end

mutual

/-- In and below the entry, siblings are in order. -/
def Ordered : Entry → Prop
  | .file _ _ => True
  | .dir _ _ children =>
    (children.Pairwise fun a b => Precedes a.isDir a.name b.isDir b.name) ∧ OrderedAll children

def OrderedAll : List Entry → Prop
  | [] => True
  | entry :: rest => entry.Ordered ∧ OrderedAll rest

end

lemma orderedAll_iff {entries : List Entry} :
    OrderedAll entries ↔ ∀ entry ∈ entries, entry.Ordered := by
  induction entries with
  | nil => simp [OrderedAll]
  | cons entry rest ih => rw [OrderedAll, ih, List.forall_mem_cons]

end Entry

/-! ### Lines of a build -/

namespace Node

section

variable (treeId : String) (build : Nat)

mutual

theorem lines_ofEntry (number : Nat) (level : Int) (parentTid : Option String) (isLast : Bool) :
    (entry : Entry) →
      (ofEntry treeId build number level parentTid isLast entry).preorder.map line =
        entry.lines level
  | .file name path => by simp [ofEntry, preorder, preorderAll, Entry.lines, line, Node.path]
  | .dir name path children => by
    simp [ofEntry, preorder, Entry.lines, line, Node.path, lines_ofEntries _ _ _ children]

/-- The rows have the lines of the entries, in the same order. -/
theorem lines_ofEntries (number : Nat) (level : Int) (parentTid : Option String) :
    (entries : List Entry) →
      (preorderAll (ofEntries treeId build number level parentTid entries)).map line =
        Entry.linesAll level entries
  | [] => by simp [ofEntries, preorderAll, Entry.linesAll]
  | entry :: rest => by
    rw [ofEntries, preorderAll, List.map_append, lines_ofEntry _ _ _ _ entry,
      lines_ofEntries _ _ _ rest, Entry.linesAll]

end

lemma kinds_ofEntries (number : Nat) (level : Int) (parentTid : Option String)
    (entries : List Entry) :
    (ofEntries treeId build number level parentTid entries).map
        (fun n => (n.row.isDir, n.row.name)) =
      entries.map fun entry => (entry.isDir, entry.name) := by
  induction entries generalizing number with
  | nil => rfl
  | cons entry rest ih => rw [ofEntries, List.map_cons, List.map_cons, ih, row_ofEntry]

lemma pairwise_ofEntries (number : Nat) (level : Int) (parentTid : Option String)
    {entries : List Entry}
    (h : entries.Pairwise fun a b => Precedes a.isDir a.name b.isDir b.name) :
    (ofEntries treeId build number level parentTid entries).Pairwise fun a b =>
      Precedes a.row.isDir a.row.name b.row.isDir b.row.name := by
  have hkinds : ((ofEntries treeId build number level parentTid entries).map
      fun n => (n.row.isDir, n.row.name)).Pairwise fun x y => Precedes x.1 x.2 y.1 y.2 := by
    rw [kinds_ofEntries, List.pairwise_map]
    exact h
  exact List.pairwise_map.mp hkinds

mutual

theorem ordered_ofEntry (number : Nat) (level : Int) (parentTid : Option String) (isLast : Bool) :
    (entry : Entry) → entry.Ordered →
      ∀ n ∈ (ofEntry treeId build number level parentTid isLast entry).preorder,
        n.children.Pairwise fun a b => Precedes a.row.isDir a.row.name b.row.isDir b.row.name
  | .file name path, _ => by simp [ofEntry, preorder, preorderAll]
  | .dir name path children, h => by
    intro n hn
    rw [ofEntry, preorder, List.mem_cons] at hn
    rcases hn with rfl | hn
    · exact pairwise_ofEntries treeId build _ _ _ h.1
    · exact ordered_ofEntries _ _ _ children h.2 n hn

/-- Where the entries are in order, the children of every row are. -/
theorem ordered_ofEntries (number : Nat) (level : Int) (parentTid : Option String) :
    (entries : List Entry) → Entry.OrderedAll entries →
      ∀ n ∈ preorderAll (ofEntries treeId build number level parentTid entries),
        n.children.Pairwise fun a b => Precedes a.row.isDir a.row.name b.row.isDir b.row.name
  | [], _ => by simp [ofEntries, preorderAll]
  | entry :: rest, h => by
    intro n hn
    rw [ofEntries, preorderAll, List.mem_append] at hn
    rcases hn with hn | hn
    · exact ordered_ofEntry _ _ _ _ entry h.1 n hn
    · exact ordered_ofEntries _ _ _ rest h.2 n hn

end

end

end Node

/-- The rows have the lines of the entries that the forest shows. -/
lemma Forest.Shows.lines {f : Forest} {treeId : String} {entries : List Entry}
    (h : f.Shows treeId entries) : f.rows.map Node.line = Entry.linesAll 0 entries := by
  have hbare : ∀ n : Node, (n.map Node.bareRow).line = n.line := by
    intro n
    simp [Node.line, Node.path, Node.bareRow]
  rw [h.map_rows_congr (shows_ofEntries treeId 0 entries) Node.line hbare, rows_eq_preorderAll]
  exact Node.lines_ofEntries treeId 0 1 0 none entries

/-! ### Reading a snapshot back -/

namespace Entry

lemma Heading.ofFields_written {name path : String} (hname : name ≠ "") (hpath : path ≠ "")
    (isDir : Bool) {children : List (Json String)} (hchildren : isDir = false → children = []) :
    Heading.ofFields [("name", .str name), ("path", .str path),
      ("type", .str (if isDir then "d" else "f")), ("children", .arr children)] =
      .ok ⟨name, path, isDir⟩ := by
  generalize hfields : [("name", Json.str name), ("path", Json.str path),
    ("type", Json.str (if isDir then "d" else "f")), ("children", Json.arr children)] = fields
  have hget_name : Fields.get? fields "name" = some (.str name) := by rw [← hfields]; rfl
  have hget_path : Fields.get? fields "path" = some (.str path) := by rw [← hfields]; rfl
  have hget_type : Fields.get? fields "type" = some (.str (if isDir then "d" else "f")) := by
    rw [← hfields]
    rfl
  have hget_children : Fields.get? fields "children" = some (.arr children) := by
    rw [← hfields]
    rfl
  have hpath' : Heading.path? fields = .ok path := by
    simp [Heading.path?, hget_path, Json.nonEmptyText?, hpath]
  have hdir : Heading.isDir? path fields = .ok isDir := by
    rw [Heading.isDir?, hget_type]
    cases isDir <;> rfl
  have hcheck : Heading.checkChildren path isDir fields = .ok () := by
    cases isDir with
    | false => simp [Heading.checkChildren, hget_children, hchildren rfl, Json.isBlank]
    | true => simp [Heading.checkChildren, hget_children]
  have hname' : Heading.nameOf path fields = name := by
    simp [Heading.nameOf, hget_name, Json.nonEmptyText?, hname]
  simp only [Heading.ofFields, hpath', hdir, hcheck, hname', bind, Except.bind, pure, Except.pure]

/-- Entries that all have names and paths. -/
def Filled (lines : List Line) : Prop := ∀ l ∈ lines, l.name ≠ "" ∧ l.path ≠ ""

mutual

theorem ofJson_toJson (level : Int) : (entry : Entry) → Filled (entry.lines level) →
    ofJson entry.toJson = .ok entry
  | .file name path, h => by
    obtain ⟨hname, hpath⟩ := h _ List.mem_cons_self
    have hheading := Heading.ofFields_written hname hpath false fun _ => rfl
    rw [toJson, ofJson]
    simp only [Bool.false_eq_true, if_false] at hheading
    rw [hheading]
    simp [ofChildrenField, ofChildren, ofItems, Heading.entry, bind, Except.bind, pure, Except.pure]
  | .dir name path children, h => by
    obtain ⟨hname, hpath⟩ := h _ List.mem_cons_self
    have hchildren := ofItems_toItems (level + 1) children fun l hl =>
      h l (List.mem_cons_of_mem _ hl)
    have hheading : Heading.ofFields [("name", .str name), ("path", .str path), ("type", .str "d"),
        ("children", .arr (toItems children))] = .ok ⟨name, path, true⟩ :=
      Heading.ofFields_written hname hpath true fun hfile => by cases hfile
    rw [toJson, ofJson, hheading]
    simp [ofChildrenField, ofChildren, hchildren, Heading.entry, bind, Except.bind, pure,
      Except.pure]

/-- Entries with names and paths are read as they are written. -/
theorem ofItems_toItems (level : Int) : (entries : List Entry) → Filled (linesAll level entries) →
    ofItems (toItems entries) = .ok entries
  | [], _ => rfl
  | entry :: rest, h => by
    have hentry := ofJson_toJson level entry fun l hl => h l (List.mem_append_left _ hl)
    have hrest := ofItems_toItems level rest fun l hl => h l (List.mem_append_right _ hl)
    rw [toItems, ofItems, hentry, hrest]
    rfl

end

end Entry

end Sidebar
