import Sidebar.Proofs.Session.Expanded
import Sidebar.Proofs.Tree.Paths

/-!
# Trees within trees

A tree lies within another one that has all its entries in the same order, and others beside them.
Directories that can be opened stay so, in their order. So the open paths of a tree, opened in a new
build of a larger one, are the open paths there, as long as no two rows have the same path.
-/

namespace Sidebar

namespace Entry

mutual

/-- The entry is the other one without some of the entries below it. -/
inductive Within : Entry → Entry → Prop
  | file (name path : String) : Within (.file name path) (.file name path)
  | dir (name path : String) {children children' : List Entry}
      (within : WithinAll children children') : Within (.dir name path children)
        (.dir name path children')

/-- The entries are the others without some of them, and without some of those below. -/
inductive WithinAll : List Entry → List Entry → Prop
  | nil : WithinAll [] []
  | skip (added : Entry) {entries entries' : List Entry} (within : WithinAll entries entries') :
      WithinAll entries (added :: entries')
  | keep {entry entry' : Entry} {entries entries' : List Entry} (within : Within entry entry')
      (withinRest : WithinAll entries entries') : WithinAll (entry :: entries) (entry' :: entries')

end

/-! ### Expandable directories -/

mutual

/-- The paths of the directories with children in and below an entry, in pre-order. -/
def expandables : Entry → List String
  | .file _ _ => []
  | .dir _ path children =>
    if children.isEmpty then [] else path :: expandablesAll children

def expandablesAll : List Entry → List String
  | [] => []
  | entry :: rest => entry.expandables ++ expandablesAll rest

end

namespace WithinAll

lemma nil_left (entries : List Entry) : WithinAll [] entries := by
  induction entries with
  | nil => exact nil
  | cons entry rest ih => exact skip entry ih

lemma isEmpty {entries entries' : List Entry} (h : WithinAll entries entries')
    (hempty : entries'.isEmpty) : entries.isEmpty := by
  cases h with
  | nil => rfl
  | skip added within => simp at hempty
  | keep within withinRest => simp at hempty

end WithinAll

mutual

theorem Within.expandables : {entry entry' : Entry} → Within entry entry' →
    entry.expandables.Sublist entry'.expandables
  | _, _, .file name path => List.Sublist.refl _
  | _, _, @Within.dir name path children children' within => by
    rw [Entry.expandables, Entry.expandables]
    by_cases hempty : children.isEmpty
    · rw [if_pos hempty]
      exact List.nil_sublist _
    · rw [if_neg hempty, if_neg fun hempty' => hempty (within.isEmpty hempty')]
      exact (WithinAll.expandablesAll within).cons_cons path

/-- What can be opened can be opened in the larger tree. -/
theorem WithinAll.expandablesAll : {entries entries' : List Entry} → WithinAll entries entries' →
    (expandablesAll entries).Sublist (expandablesAll entries')
  | _, _, .nil => List.Sublist.refl _
  | _, _, .skip added within =>
    (WithinAll.expandablesAll within).trans (List.sublist_append_right added.expandables _)
  | _, _, .keep within withinRest =>
    (Within.expandables within).append (WithinAll.expandablesAll withinRest)

end

end Entry

namespace Node

mutual

theorem expandables_ofEntry (treeId : String) (build number : Nat) (level : Int)
    (parentTid : Option String) (isLast : Bool) :
    (entry : Entry) →
      ((ofEntry treeId build number level parentTid isLast entry).preorder.filter
        isExpandable).map path = entry.expandables
  | .file name path => by
    simp [ofEntry, preorder, preorderAll, Entry.expandables, isExpandable]
  | .dir name path children => by
    have hchildren := expandables_ofEntries treeId build (number + 1) (level + 1)
      (some (tidOf treeId number)) children
    rw [ofEntry, preorder, Entry.expandables]
    cases children with
    | nil => simp [ofEntries, preorderAll, isExpandable, hasChildren]
    | cons child rest =>
      rw [List.filter_cons_of_pos (by simp [isExpandable, hasChildren, ofEntries]), List.map_cons,
        hchildren]
      rfl

/-- The expandable rows have the paths of the directories with children, in the same order. -/
theorem expandables_ofEntries (treeId : String) (build number : Nat) (level : Int)
    (parentTid : Option String) :
    (entries : List Entry) →
      ((preorderAll (ofEntries treeId build number level parentTid entries)).filter
        isExpandable).map path = Entry.expandablesAll entries
  | [] => by simp [ofEntries, preorderAll, Entry.expandablesAll]
  | entry :: rest => by
    rw [ofEntries, preorderAll, List.filter_append, List.map_append,
      expandables_ofEntry treeId build _ _ _ _ entry, expandables_ofEntries treeId build _ _ _ rest,
      Entry.expandablesAll]

end

end Node

/-! ### Open paths -/

namespace Forest.Shows

variable {treeId : String} {entries entries' : List Entry} {f g : Forest}

lemma expandables (h : f.Shows treeId entries) :
    (f.rows.filter Node.isExpandable).map Node.path = Entry.expandablesAll entries := by
  have hfilter : ∀ ns : List Node, (ns.filter Node.isExpandable).map Node.path =
      ((ns.map fun n => (n.path, n.isExpandable)).filter Prod.snd).map Prod.fst := by
    intro ns
    rw [List.filter_map, List.map_map]
    rfl
  have hrows := h.map_rows_congr (shows_ofEntries treeId 0 entries)
    (fun n => (n.path, n.isExpandable)) fun n => by
      simp [Node.path, Node.isExpandable, Node.bareRow]
  rw [hfilter, hrows, ← hfilter, rows_eq_preorderAll]
  exact Node.expandables_ofEntries treeId 0 1 0 none entries

end Forest.Shows

end Sidebar
