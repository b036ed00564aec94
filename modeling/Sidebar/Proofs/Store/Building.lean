import Sidebar.Proofs.Store.IdTable
import Sidebar.Proofs.Tree.Decoding

/-!
# Loads in one pass

A snapshot can be checked while its tree is built. Then nodes have been made, numbered and entered
into a table when a fault is met, and siblings are marked when the last of them is known. The tree
of the store and the table of its ids are replaced at the end alone.

Such a load does what decoding and building one after the other do: it leads to the same tree, with
the table that lists its rows, or reports the same fault with the store and its table as they were.
-/

namespace Sidebar

open Node

/-- A load under way: the store that it is for, with the table of its tree, and the number of nodes
made, with the table of these. -/
structure Building where
  store : Store
  table : IdTable
  made : Nat := 0
  filled : IdTable := []

/-- The identity of the node with a number. -/
def Building.keyAt (b : Building) (number : Nat) : NodeKey :=
  ⟨b.store.forest.build + 1, tidOf b.store.treeId number⟩

abbrev Builder := EStateM SnapshotError Building

namespace Builder

/-- The identity of the next node, which is entered into the table at once. -/
def newKey : Builder NodeKey := do
  let b ← get
  let key := b.keyAt (b.made + 1)
  set { b with made := b.made + 1, filled := b.filled.enter key }
  return key

/-- Marks the last one of siblings. -/
def markLast : List Node → List Node
  | [] => []
  | [n] => [.node { n.row with isLast := true } n.children]
  | n :: next :: rest => n :: markLast (next :: rest)

mutual

/-- Makes the node of an entry. It is numbered before its children are looked at. -/
def entry (level : Int) (parentTid : Option String) : Json String → Builder Node
  | .obj fields => do
    let path ← ofExcept (Entry.Heading.path? fields)
    let isDir ← ofExcept (Entry.Heading.isDir? path fields)
    let key ← newKey
    ofExcept (Entry.Heading.checkChildren path isDir fields)
    let children ← childrenField (level + 1) (some key.tid) fields
    let name := Entry.Heading.nameOf path fields
    return .node ⟨key, name, path, isDir, level, parentTid, false, false⟩ (markLast children)
  | value => throw (.notMapping value)

/-- Makes the nodes of siblings, none of them marked. -/
def items (level : Int) (parentTid : Option String) : List (Json String) → Builder (List Node)
  | [] => return []
  | value :: rest => do
    let n ← entry level parentTid value
    let ns ← items level parentTid rest
    return n :: ns

def childrenField (level : Int) (parentTid : Option String) :
    List (String × Json String) → Builder (List Node)
  | [] => return []
  | (name, value) :: rest =>
    if name = "children" then children level parentTid value
    else childrenField level parentTid rest

def children (level : Int) (parentTid : Option String) : Json String → Builder (List Node)
  | .arr values => items level parentTid values
  | _ => return []

end

/-- Builds the tree of a snapshot and puts it into the store, together with its table. -/
def load (snapshot : Json String) : Builder Unit := do
  match snapshot.listed? with
  | none => throw (.notEntries snapshot)
  | some values =>
    let roots ← items 0 none values
    modify fun b =>
      { b with
        store :=
          { b.store with
            forest := ⟨b.store.forest.build + 1, markLast roots⟩
            retired := b.store.forest :: b.store.retired
            selectedTid := none }
        table := b.filled }

end Builder

namespace Building

/-- The building with more nodes made. -/
def add (b : Building) (count : Nat) : Building :=
  { b with
    made := b.made + count
    filled := ((List.range' (b.made + 1) count).map b.keyAt).foldl IdTable.enter b.filled }

@[simp] lemma store_add (b : Building) (k : Nat) : (b.add k).store = b.store := rfl

@[simp] lemma keyAt_add (b : Building) (k : Nat) : (b.add k).keyAt = b.keyAt := rfl

@[simp] lemma add_add (b : Building) (k l : Nat) : (b.add k).add l = b.add (k + l) := by
  have hnumbers : List.range' (b.made + 1) k ++ List.range' (b.made + k + 1) l =
      List.range' (b.made + 1) (k + l) := by
    rw [Nat.add_right_comm b.made k 1, List.range'_append_1]
  rw [add, keyAt_add, add, add, ← hnumbers, List.map_append, List.foldl_append, Nat.add_assoc]

/-- The node of an entry that is numbered next. -/
def nodeOf (b : Building) (level : Int) (parentTid : Option String) (isLast : Bool)
    (entry : Entry) : Node :=
  ofEntry b.store.treeId (b.store.forest.build + 1) (b.made + 1) level parentTid isLast entry

/-- The nodes of siblings of which the first is numbered next. -/
def nodesOf (b : Building) (level : Int) (parentTid : Option String) (entries : List Entry) :
    List Node :=
  ofEntries b.store.treeId (b.store.forest.build + 1) (b.made + 1) level parentTid entries

lemma nodesOf_cons (b : Building) (level : Int) (parentTid : Option String) (entry : Entry)
    (rest : List Entry) :
    b.nodesOf level parentTid (entry :: rest) =
      b.nodeOf level parentTid rest.isEmpty entry ::
        (b.add entry.count).nodesOf level parentTid rest := by
  rw [nodesOf, ofEntries, nodeOf, nodesOf, add, Nat.add_right_comm]

end Building

/-! ### Marks of last siblings -/

namespace Node

/-- A node without the mark of a last sibling. -/
def unmarked (n : Node) : Node := .node { n.row with isLast := false } n.children

end Node

lemma Building.unmarked_nodeOf (b : Building) (level : Int) (parentTid : Option String)
    (isLast : Bool) (entry : Entry) :
    (b.nodeOf level parentTid isLast entry).unmarked = b.nodeOf level parentTid false entry := by
  cases entry <;> simp [nodeOf, ofEntry, unmarked]

/-- The mark is all that siblings lack until the last of them is known. -/
lemma Builder.markLast_unmarked (b : Building) (level : Int) (parentTid : Option String)
    (entries : List Entry) :
    markLast ((b.nodesOf level parentTid entries).map unmarked) =
      b.nodesOf level parentTid entries := by
  induction entries generalizing b with
  | nil => rfl
  | cons entry rest ih =>
    rw [Building.nodesOf_cons, List.map_cons]
    cases rest with
    | nil =>
      cases entry <;> rfl
    | cons next rest =>
      have hrest := ih (b.add entry.count)
      rw [Building.nodesOf_cons] at hrest ⊢
      rw [List.map_cons, markLast, ← List.map_cons, hrest, Building.unmarked_nodeOf]
      rfl

namespace Entry

lemma ofChildrenField_eq (fields : Fields String) :
    ofChildrenField fields = ofChildren ((Fields.get? fields "children").getD .null) := by
  induction fields with
  | nil => rfl
  | cons field rest ih =>
    obtain ⟨name, value⟩ := field
    rw [ofChildrenField, Fields.get?, List.lookup_cons]
    by_cases hname : name = "children"
    · simp [hname]
    · have hne : ("children" == name) = false := by simpa using Ne.symm hname
      rw [if_neg hname, hne]
      exact ih

/-- What passes the check of a file lists no children. -/
lemma children_eq_nil {fields : Fields String} {path : String} {children : List Entry}
    (hcheck : Heading.checkChildren path false fields = .ok ())
    (hchildren : ofChildrenField fields = .ok children) : children = [] := by
  rw [ofChildrenField_eq] at hchildren
  rw [Heading.checkChildren] at hcheck
  generalize (Fields.get? fields "children").getD .null = value at hcheck hchildren
  cases value with
  | arr items =>
    cases items with
    | nil => exact (Except.ok.inj hchildren).symm
    | cons item rest => cases hcheck
  | _ => exact (Except.ok.inj hchildren).symm

end Entry

/-! ### One pass or two -/

/-- What becomes of a building `b` when a builder does the work of a decoding. Where that succeeds,
so does the builder, and `P` says which value it gives and how many nodes it has made; where it
fails, the builder reports the same fault, and nothing but the count and its table has changed. -/
inductive Building.Follows {α β : Type} (b : Building) (P : β → α → Nat → Prop) :
    Except SnapshotError β → EStateM.Result SnapshotError Building α → Prop
  | ok {y : β} {a : α} {made : Nat} (h : P y a made) : Follows b P (.ok y) (.ok a (b.add made))
  | error {e : SnapshotError} (made : Nat) : Follows b P (.error e) (.error e (b.add made))

namespace Building.Follows

variable {α β γ δ : Type} {b : Building} {P : β → α → Nat → Prop} {R : δ → γ → Nat → Prop}
  {x : Except SnapshotError β} {g : β → Except SnapshotError δ}

lemma of_ok {y : β} {r : EStateM.Result SnapshotError Building α} (h : b.Follows P (.ok y) r) :
    ∃ a made, r = .ok a (b.add made) ∧ P y a made := by
  cases h with
  | ok h => exact ⟨_, _, rfl, h⟩

lemma of_error {e : SnapshotError} {r : EStateM.Result SnapshotError Building α}
    (h : b.Follows P (.error e) r) : ∃ made, r = .error e (b.add made) := by
  cases h with
  | error made => exact ⟨made, rfl⟩

/-- The work that is left once some nodes have been made. -/
lemma of_add (made : Nat) {z : Except SnapshotError δ}
    {r : EStateM.Result SnapshotError Building γ}
    (h : (b.add made).Follows (fun z c more => R z c (made + more)) z r) : b.Follows R z r := by
  cases h with
  | ok h => rw [add_add]; exact .ok h
  | error more => rw [add_add]; exact .error (made + more)

/-- One piece of work after another. -/
lemma bind {m : Builder α} {f : α → Builder γ} (hm : b.Follows P x (m b))
    (hf : ∀ y a made, x = .ok y → P y a made →
      (b.add made).Follows (fun z c more => R z c (made + more)) (g y) (f a (b.add made))) :
    b.Follows R (x >>= g) ((m >>= f) b) := by
  show b.Follows R (x >>= g) (EStateM.bind m f b)
  rw [EStateM.bind]
  generalize m b = r at hm ⊢
  cases hm with
  | ok h => exact of_add _ (hf _ _ _ rfl h)
  | error made => exact .error made

/-- A check that makes no node. -/
lemma ofExcept_bind {f : β → Builder γ} (hf : ∀ y, x = .ok y → b.Follows R (g y) (f y b)) :
    b.Follows R (x >>= g) (((ofExcept x : Builder β) >>= f) b) := by
  cases x with
  | ok y => exact hf y rfl
  | error e => exact .error 0

lemma pure {y : β} {a : α} (h : P y a 0) : b.Follows P (.ok y) (Pure.pure (f := Builder) a b) :=
  .ok h

end Building.Follows

namespace Builder

mutual

theorem follows_entry (level : Int) (parentTid : Option String) (b : Building) : (v : Json String) →
    b.Follows (fun e n made => n = b.nodeOf level parentTid false e ∧ made = e.count)
      (Entry.ofJson v) (entry level parentTid v b)
  | .obj fields => by
    rw [Entry.ofJson, Entry.Heading.ofFields, entry]
    simp only [bind_assoc]
    refine Building.Follows.ofExcept_bind fun path _ => ?_
    refine Building.Follows.ofExcept_bind fun isDir _ => ?_
    -- the node has its number before its children are checked
    refine Building.Follows.of_add 1 ?_
    refine Building.Follows.ofExcept_bind fun _ hcheck => ?_
    refine (follows_childrenField (level + 1) _ (b.add 1) fields).bind ?_
    rintro children _ _ hchildren ⟨rfl, rfl⟩
    refine .pure ?_
    rw [markLast_unmarked]
    cases isDir with
    | true => exact ⟨rfl, rfl⟩
    | false =>
      obtain rfl := Entry.children_eq_nil hcheck hchildren
      exact ⟨rfl, rfl⟩
  | .null | .bool _ | .int _ | .float _ | .str _ | .arr _ => by
    simp only [Entry.ofJson, entry]
    exact .error 0

theorem follows_items (level : Int) (parentTid : Option String) (b : Building) :
    (vs : List (Json String)) →
    b.Follows (fun es ns made => ns = (b.nodesOf level parentTid es).map unmarked ∧
      made = Entry.countAll es) (Entry.ofItems vs) (items level parentTid vs b)
  | [] => .pure ⟨rfl, rfl⟩
  | v :: rest => by
    rw [Entry.ofItems, items]
    refine (follows_entry level parentTid b v).bind ?_
    rintro first _ _ - ⟨rfl, rfl⟩
    refine (follows_items level parentTid (b.add first.count) rest).bind ?_
    rintro others _ _ - ⟨rfl, rfl⟩
    refine .pure ⟨?_, by rw [Entry.countAll, Nat.add_zero]⟩
    rw [Building.nodesOf_cons, List.map_cons, Building.unmarked_nodeOf]

theorem follows_childrenField (level : Int) (parentTid : Option String) (b : Building) :
    (fields : List (String × Json String)) →
    b.Follows (fun es ns made => ns = (b.nodesOf level parentTid es).map unmarked ∧
      made = Entry.countAll es) (Entry.ofChildrenField fields)
      (childrenField level parentTid fields b)
  | [] => .pure ⟨rfl, rfl⟩
  | (name, v) :: rest => by
    rw [Entry.ofChildrenField, childrenField]
    split
    · exact follows_children level parentTid b v
    · exact follows_childrenField level parentTid b rest

theorem follows_children (level : Int) (parentTid : Option String) (b : Building) :
    (v : Json String) →
    b.Follows (fun es ns made => ns = (b.nodesOf level parentTid es).map unmarked ∧
      made = Entry.countAll es) (Entry.ofChildren v) (children level parentTid v b)
  | .arr values => follows_items level parentTid b values
  | .null | .bool _ | .int _ | .float _ | .str _ | .obj _ => .pure ⟨rfl, rfl⟩

end

/-! ### Loads -/

lemma size_load (s : Store) (entries : List Entry) :
    (s.load entries).forest.size = Entry.countAll entries := by
  have htids := congrArg List.length
    (tids_ofEntries s.treeId (s.forest.build + 1) 1 0 none entries)
  rw [List.length_map, List.length_map, List.length_range', length_preorderAll] at htids
  exact htids

/-- The table is filled with the rows of the tree. -/
lemma filled_add (s : Store) (table : IdTable) (entries : List Entry) :
    ((Building.mk s table 0 []).add (Entry.countAll entries)).filled =
      (s.load entries).forest.idTable := by
  have hshows : (s.load entries).forest.Shows s.treeId entries :=
    Forest.shows_ofEntries s.treeId _ entries
  -- all nodes are of one build, so their ids say which they are
  have hkeys : ∀ n ∈ (s.load entries).forest.rows,
      (n.tid, n.key) = (n.tid, ⟨s.forest.build + 1, n.tid⟩) := by
    intro n hn
    have hbuild : n.key.build = s.forest.build + 1 := hshows.build n hn
    rw [← hbuild]
    rfl
  have htids := hshows.wellFormed.tids
  rw [size_load] at htids
  have hrows : (s.load entries).forest.idTable =
      ((s.load entries).forest.rows.map tid).map fun t => (t, ⟨s.forest.build + 1, t⟩) := by
    rw [Forest.idTable, List.map_congr_left hkeys, List.map_map]
    rfl
  have hnew : ((List.range' 1 (Entry.countAll entries)).map
      (Building.mk s table 0 []).keyAt).map NodeKey.tid =
        (List.range' 1 (Entry.countAll entries)).map (tidOf s.treeId) := by
    rw [List.map_map]
    rfl
  have hnodup : (([] : IdTable).map Prod.fst ++ ((List.range' 1 (Entry.countAll entries)).map
      (Building.mk s table 0 []).keyAt).map NodeKey.tid).Nodup := by
    rw [hnew]
    exact nodup_tids_range' s.treeId 1 _
  rw [Building.add, IdTable.foldl_enter hnodup, hrows, htids, List.nil_append, List.map_map,
    List.map_map]
  rfl

/-- A load in one pass puts the tree of the snapshot into the store, with its table. -/
lemma load_of_ok {snapshot : Json String} (s : Store) (table : IdTable) {entries : List Entry}
    (h : Entry.ofSnapshot snapshot = .ok entries) :
    load snapshot ⟨s, table, 0, []⟩ =
      .ok () ⟨s.load entries, (s.load entries).forest.idTable, (s.load entries).forest.size,
        (s.load entries).forest.idTable⟩ := by
  rw [Entry.ofSnapshot_eq] at h
  rw [load]
  cases hlisted : snapshot.listed? with
  | none => simp [hlisted] at h
  | some values =>
    simp only [hlisted] at h
    have hitems := follows_items 0 none ⟨s, table, 0, []⟩ values
    rw [h] at hitems
    obtain ⟨roots, made, hroots, rfl, rfl⟩ := hitems.of_ok
    show EStateM.bind (items 0 none values) _ _ = _
    rw [EStateM.bind, hroots, size_load]
    show EStateM.Result.ok () (Building.mk _ _ (0 + Entry.countAll entries) _) = _
    rw [markLast_unmarked, filled_add, Nat.zero_add]
    rfl

/-- A load in one pass that meets a fault has not touched the store or its table. -/
lemma load_of_error {snapshot : Json String} (s : Store) (table : IdTable) {e : SnapshotError}
    (h : Entry.ofSnapshot snapshot = .error e) :
    ∃ made filled, load snapshot ⟨s, table, 0, []⟩ = .error e ⟨s, table, made, filled⟩ := by
  rw [Entry.ofSnapshot_eq] at h
  rw [load]
  cases hlisted : snapshot.listed? with
  | none =>
    simp only [hlisted] at h
    obtain rfl := Except.error.inj h
    exact ⟨0, [], rfl⟩
  | some values =>
    simp only [hlisted] at h
    have hitems := follows_items 0 none ⟨s, table, 0, []⟩ values
    rw [h] at hitems
    obtain ⟨made, hmade⟩ := hitems.of_error
    refine ⟨made, ((Building.mk s table 0 []).add made).filled, ?_⟩
    show EStateM.bind (items 0 none values) _ _ = _
    rw [EStateM.bind, hmade, Building.add, Nat.zero_add]

end Builder

namespace Store

lemma exists_loadJson_iff (s : Store) (v : Json String) :
    (∃ s', s.loadJson v = .ok s') ↔ ∃ entries, Entry.ofSnapshot v = .ok entries := by
  rw [loadJson]
  cases Entry.ofSnapshot v <;> simp [Except.map]

lemma loadJson_eq_error_iff (s : Store) (v : Json String) (e : SnapshotError) :
    s.loadJson v = .error e ↔ Entry.ofSnapshot v = .error e := by
  rw [loadJson]
  cases Entry.ofSnapshot v <;> simp [Except.map]

/-- Loading succeeds exactly when the value lists something and all that is listed in it, at any
depth, is an entry. Otherwise the first that is no entry is reported with the first rule that it
breaks. In one pass over the value the same comes about: a load that succeeds replaces the tree
together with its table, which lists the rows, and a load that fails leaves both as they were,
however many nodes have been made for it. -/
theorem loadJson_cases (s : Store) (v : Json String) :
    ((∃ s', s.loadJson v = .ok s') ↔
      ∃ items, v.listed? = some items ∧ ∀ entry ∈ Json.nestedAll items, entry.IsEntry) ∧
    (∀ items, v.listed? = some items →
      ∀ e, s.loadJson v = .error e ↔ Json.FirstBreaks (Json.nestedAll items) e) ∧
    (v.listed? = none → s.loadJson v = .error (.notEntries v)) ∧
    (∀ s', s.loadJson v = .ok s' → ∀ table, Builder.load v ⟨s, table, 0, []⟩ =
      .ok () ⟨s', s'.forest.idTable, s'.forest.size, s'.forest.idTable⟩) ∧
    ∀ e, s.loadJson v = .error e → ∀ table, ∃ made filled,
      Builder.load v ⟨s, table, 0, []⟩ = .error e ⟨s, table, made, filled⟩ := by
  have hsnapshot := Entry.ofSnapshot_eq v
  refine ⟨?_, ?_, ?_, ?_, ?_⟩
  · rw [exists_loadJson_iff, hsnapshot]
    cases v.listed? with
    | none => simp
    | some items => simpa using (Entry.decodes_ofItems items).ok_iff
  · intro items hlisted e
    rw [hlisted] at hsnapshot
    rw [loadJson_eq_error_iff, hsnapshot]
    exact (Entry.decodes_ofItems items).error_iff
  · intro hlisted
    rw [hlisted] at hsnapshot
    exact (loadJson_eq_error_iff s v _).mpr hsnapshot
  · intro s' hload table
    obtain ⟨entries, hentries, rfl⟩ := exists_load_of_loadJson hload
    exact Builder.load_of_ok s table hentries
  · intro e hload table
    exact Builder.load_of_error s table ((loadJson_eq_error_iff s v e).mp hload)

end Store

end Sidebar
