import Sidebar.Proofs.Store.Building
import Sidebar.Proofs.Tree.LastSegment
import Sidebar.Proofs.Tree.Lines

/-!
# Snapshots in the tree

The tree of a snapshot mirrors it. Written down as entries again, its nodes stand as the entries of
the snapshot do, in the same order and below the same parents, with the same paths, and with what
the snapshot has left out: the type of a file, a list of no children, and the last segment of the
path as the name.

What is written down is itself a snapshot. It has no gaps to fill, so it gives the same tree.
-/

namespace Sidebar

open Node

/-! ### Trees as snapshots -/

namespace Json

/-- An entry of a snapshot that leaves nothing out. -/
def fullEntry (name path : String) (isDir : Bool) (children : List (Json String)) : Json String :=
  .obj [("name", .str name), ("path", .str path), ("type", .str (if isDir then "d" else "f")),
    ("children", .arr children)]

end Json

namespace Node

mutual

/-- The node and all below it as an entry. -/
def described : Node → Json String
  | .node row children => Json.fullEntry row.name row.path row.isDir (describedAll children)

def describedAll : List Node → List (Json String)
  | [] => []
  | n :: rest => n.described :: describedAll rest

end

section

variable (treeId : String) (build : Nat)

mutual

lemma described_ofEntry (number : Nat) (level : Int) (parentTid : Option String) (isLast : Bool) :
    (entry : Entry) →
      (ofEntry treeId build number level parentTid isLast entry).described = entry.toJson
  | .file name path => rfl
  | .dir name path children => by
    rw [ofEntry, described, describedAll_ofEntries _ _ _ children]
    rfl

lemma describedAll_ofEntries (number : Nat) (level : Int) (parentTid : Option String) :
    (entries : List Entry) →
      describedAll (ofEntries treeId build number level parentTid entries) = Entry.toItems entries
  | [] => rfl
  | entry :: rest => by
    rw [ofEntries, describedAll, described_ofEntry _ _ _ _ entry, describedAll_ofEntries _ _ _ rest,
      Entry.toItems]

end

end

end Node

/-! ### Filling gaps -/

namespace Json

/-- The name of an entry is the one that it gives, if that is not empty, and else the last segment
of its path. -/
inductive HasName (fields : Fields String) (path : String) : String → Prop
  | given {name : String} (h : Fields.get? fields "name" = some (.str name)) (hfull : name ≠ "") :
      HasName fields path name
  | segment {name : String}
      (h : ∀ given, Fields.get? fields "name" = some (.str given) → given = "")
      (hsegment : LastSegment path name) : HasName fields path name

mutual

/-- The second value is the entry that the first one is, without gaps at any depth. -/
inductive Mirrors : Json String → Json String → Prop
  | entry {fields : Fields String} {name path : String} {isDir : Bool}
      {children : List (Json String)}
      (hname : HasName fields path name) (hpath : HasPath fields path)
      (htype : HasType fields isDir)
      (hchildren : MirrorsChildren (Fields.get? fields "children") children) :
      Mirrors (.obj fields) (fullEntry name path isDir children)

/-- The children that a field lists. There are none if it is absent or counts as absent. -/
inductive MirrorsChildren : Option (Json String) → List (Json String) → Prop
  | absent : MirrorsChildren none []
  | blank {v : Json String} (h : v.isBlank) : MirrorsChildren (some v) []
  | list {items children : List (Json String)} (h : MirrorsAll items children) :
      MirrorsChildren (some (.arr items)) children

/-- Entries one by one, in the same order. -/
inductive MirrorsAll : List (Json String) → List (Json String) → Prop
  | nil : MirrorsAll [] []
  | cons {v w : Json String} {vs ws : List (Json String)} (h : Mirrors v w)
      (hrest : MirrorsAll vs ws) :
      MirrorsAll (v :: vs) (w :: ws)

end

lemma MirrorsChildren.exists_mirrorsAll {field : Option (Json String)}
    {children : List (Json String)}
    (h : MirrorsChildren field children) : ∃ items, MirrorsAll items children := by
  cases h with
  | absent => exact ⟨[], .nil⟩
  | blank => exact ⟨[], .nil⟩
  | list h => exact ⟨_, h⟩

/-! ### One way to fill them -/

section Unique

variable {fields : Fields String} {name name' path path' : String} {isDir isDir' : Bool}

lemma HasPath.unique (h : HasPath fields path) (h' : HasPath fields path') : path = path' :=
  Json.str.inj (Option.some.inj (h.1.symm.trans h'.1))

lemma HasType.unique (h : HasType fields isDir) (h' : HasType fields isDir') : isDir = isDir' := by
  cases h <;> cases h' <;> simp_all

lemma HasName.unique (h : HasName fields path name) (h' : HasName fields path name') :
    name = name' := by
  cases h with
  | given hname hfull =>
    cases h' with
    | given hname' => exact Json.str.inj (Option.some.inj (hname.symm.trans hname'))
    | segment hnone => exact absurd (hnone name hname) hfull
  | segment hnone hsegment =>
    cases h' with
    | given hname' hfull' => exact absurd (hnone name' hname') hfull'
    | segment _ hsegment' => rw [hsegment.eq_defaultName, hsegment'.eq_defaultName]

lemma HasName.ne_empty (h : HasName fields path name) (hpath : HasPath fields path) :
    name ≠ "" := by
  cases h with
  | given _ hfull => exact hfull
  | segment _ hsegment => exact hsegment.ne_empty hpath.2

/-- A list that counts as absent has no items. -/
lemma MirrorsAll.eq_nil_of_blank {items children : List (Json String)}
    (h : MirrorsAll items children)
    (hblank : (Json.arr items).isBlank) : children = [] := by
  cases h with
  | nil => rfl
  | cons => cases hblank

mutual

/-- There is one way to fill the gaps. -/
lemma Mirrors.unique {v w w' : Json String} : Mirrors v w → Mirrors v w' → w = w'
  | .entry hname hpath htype hchildren, .entry hname' hpath' htype' hchildren' => by
    obtain rfl := hpath.unique hpath'
    obtain rfl := hname.unique hname'
    obtain rfl := htype.unique htype'
    rw [hchildren.unique hchildren']

lemma MirrorsChildren.unique {field : Option (Json String)}
    {children children' : List (Json String)} :
    MirrorsChildren field children → MirrorsChildren field children' → children = children'
  | .absent, .absent => rfl
  | .blank _, .blank _ => rfl
  | .blank hblank, .list hlist => (hlist.eq_nil_of_blank hblank).symm
  | .list hlist, .blank hblank => hlist.eq_nil_of_blank hblank
  | .list hlist, .list hlist' => hlist.unique hlist'

lemma MirrorsAll.unique {vs ws ws' : List (Json String)} :
    MirrorsAll vs ws → MirrorsAll vs ws' → ws = ws'
  | .nil, .nil => rfl
  | .cons h hrest, .cons h' hrest' => by rw [h.unique h', hrest.unique hrest']

end

end Unique

end Json

/-! ### What decoding fills in -/

lemma Json.ChildrenFit.blank_or_list {fields : Fields String} {isDir : Bool}
    (h : ChildrenFit fields isDir)
    (v : Json String) (hv : Fields.get? fields "children" = some v) :
    v.isBlank ∨ ∃ items, v = .arr items := by
  cases h with
  | absent h => cases h.symm.trans hv
  | blank h hblank =>
    obtain rfl := Option.some.inj (h.symm.trans hv)
    exact .inl hblank
  | list h => exact .inr ⟨_, Option.some.inj (hv.symm.trans h)⟩

namespace Entry

open Json

lemma Heading.hasName_nameOf (path : String) (fields : Fields String) :
    HasName fields path (nameOf path fields) := by
  rw [nameOf]
  cases hname : (Fields.get? fields "name").bind nonEmptyText? with
  | some name =>
    obtain ⟨v, hget, htext⟩ := Option.bind_eq_some_iff.mp hname
    obtain ⟨rfl, hfull⟩ := nonEmptyText?_eq_some_iff.mp htext
    exact .given hget hfull
  | none =>
    refine .segment (fun given hget => ?_) (.of_defaultName path)
    simpa [hget, nonEmptyText?] using hname

lemma toJson_entry (heading : Heading) {children : List Entry}
    (h : heading.isDir = false → children = []) :
    (heading.entry children).toJson =
      fullEntry heading.name heading.path heading.isDir (toItems children) := by
  obtain ⟨name, path, isDir⟩ := heading
  cases isDir with
  | true => rfl
  | false =>
    obtain rfl := h rfl
    rfl

mutual

theorem mirrors_ofJson : (v : Json String) → {entry : Entry} → ofJson v = .ok entry →
    Mirrors v entry.toJson
  | .obj fields, entry, h => by
    obtain ⟨heading, hheading, h⟩ := bind_eq_ok_iff.mp h
    obtain ⟨children, hchildren, h⟩ := bind_eq_ok_iff.mp h
    obtain rfl := Except.ok.inj h
    obtain ⟨hpath, htype, hfit, hnameOf⟩ := Heading.of_ofFields hheading
    have hname := Heading.hasName_nameOf heading.path fields
    rw [← hnameOf] at hname
    have hmirrors := mirrorsChildren_ofChildrenField fields hfit.blank_or_list hchildren
    have hfile : heading.isDir = false → children = [] := by
      intro hfile
      rw [hfile] at hfit
      have hcheck : Heading.checkChildren heading.path false fields = .ok () :=
        Heading.checkChildren_of_fit hfit
      exact children_eq_nil hcheck hchildren
    rw [toJson_entry heading hfile]
    exact .entry hname hpath htype hmirrors
  | .null, _, h | .bool _, _, h | .int _, _, h | .float _, _, h | .str _, _, h | .arr _, _, h => by
    cases h

/-- Decoded entries mirror what they have been read from. -/
theorem mirrorsAll_ofItems : (vs : List (Json String)) → {entries : List Entry} →
    ofItems vs = .ok entries → MirrorsAll vs (toItems entries)
  | [], _, h => by
    obtain rfl := Except.ok.inj h
    exact .nil
  | v :: rest, _, h => by
    obtain ⟨entry, hentry, h⟩ := bind_eq_ok_iff.mp h
    obtain ⟨entries, hentries, h⟩ := bind_eq_ok_iff.mp h
    obtain rfl := Except.ok.inj h
    exact .cons (mirrors_ofJson v hentry) (mirrorsAll_ofItems rest hentries)

theorem mirrorsChildren_ofChildrenField : (fields : List (String × Json String)) →
    {entries : List Entry} →
    (∀ v, Fields.get? fields "children" = some v → v.isBlank ∨ ∃ items, v = .arr items) →
      ofChildrenField fields = .ok entries →
        MirrorsChildren (Fields.get? fields "children") (toItems entries)
  | [], _, _, h => by
    obtain rfl := Except.ok.inj h
    exact .absent
  | (name, v) :: rest, _, hfit, h => by
    rw [ofChildrenField] at h
    rw [Fields.get?, List.lookup_cons] at hfit ⊢
    by_cases hname : name = "children"
    · rw [if_pos hname] at h
      rw [hname, beq_self_eq_true] at hfit ⊢
      exact mirrorsChildren_ofChildren v (hfit v rfl) h
    · have hne : ("children" == name) = false := by simpa using Ne.symm hname
      rw [if_neg hname] at h
      rw [hne] at hfit ⊢
      exact mirrorsChildren_ofChildrenField rest hfit h

theorem mirrorsChildren_ofChildren : (v : Json String) → {entries : List Entry} →
    (v.isBlank ∨ ∃ items, v = .arr items) → ofChildren v = .ok entries →
      MirrorsChildren (some v) (toItems entries)
  | .arr items, _, _, h => .list (mirrorsAll_ofItems items h)
  | .null, _, hfit, h | .bool _, _, hfit, h | .int _, _, hfit, h | .float _, _, hfit, h
  | .str _, _, hfit, h | .obj _, _, hfit, h => by
    obtain rfl := Except.ok.inj h
    exact .blank (hfit.resolve_right fun ⟨_, harr⟩ => by cases harr)

end

/-! ### Nothing left out -/

/-- What mirrors something has names and paths. -/
lemma of_mirrors_fullEntry {v : Json String} {name path : String} {isDir : Bool}
    {children : List (Json String)}
    (h : Mirrors v (fullEntry name path isDir children)) :
    (name ≠ "" ∧ path ≠ "") ∧ ∃ items, MirrorsAll items children := by
  generalize hw : fullEntry name path isDir children = w at h
  cases h with
  | entry hname hpath _ hchildren =>
    simp only [Json.fullEntry, Json.obj.injEq, List.cons.injEq, Prod.mk.injEq, Json.str.injEq,
      Json.arr.injEq, true_and, and_true] at hw
    obtain ⟨rfl, rfl, -, rfl⟩ := hw
    exact ⟨⟨hname.ne_empty hpath, hpath.2⟩, hchildren.exists_mirrorsAll⟩

mutual

theorem filled_of_mirrors (level : Int) : (entry : Entry) → {v : Json String} →
    Mirrors v entry.toJson → Filled (entry.lines level)
  | .file name path, v, h => by
    obtain ⟨hfull, -⟩ := @of_mirrors_fullEntry v name path false [] h
    rintro l hl
    obtain rfl := List.mem_singleton.mp hl
    exact hfull
  | .dir name path children, v, h => by
    obtain ⟨hfull, items, hchildren⟩ := @of_mirrors_fullEntry v name path true (toItems children) h
    rintro l hl
    rcases List.mem_cons.mp hl with rfl | hl
    · exact hfull
    · exact filledAll_of_mirrors (level + 1) children hchildren l hl

theorem filledAll_of_mirrors (level : Int) : (entries : List Entry) → {vs : List (Json String)} →
    MirrorsAll vs (toItems entries) → Filled (linesAll level entries)
  | [], _, _ => fun l hl => absurd hl List.not_mem_nil
  | entry :: rest, _, .cons h hrest => by
    intro l hl
    rcases List.mem_append.mp hl with hl | hl
    · exact filled_of_mirrors level entry h l hl
    · exact filledAll_of_mirrors level rest hrest l hl

end

end Entry

/-! ### Loaded trees -/

namespace Store

variable {s s' : Store} {snapshot : Json String}

/-- The tree of a snapshot mirrors the entries that it lists, in the only way in which they can be
mirrored, and every node has a name. Loaded again under the same tree id, what the tree is written
down as gives the same tree but for the number of the build. -/
theorem loadJson_mirrors (h : s.loadJson snapshot = .ok s') :
    ∃ items, snapshot.listed? = some items ∧
      Json.MirrorsAll items (describedAll s'.forest.roots) ∧
      (∀ children, Json.MirrorsAll items children → children = describedAll s'.forest.roots) ∧
      (∀ n ∈ s'.forest.rows, n.row.name ≠ "") ∧
      ∀ other : Store, other.treeId = s.treeId →
        ∃ other', other.loadJson (.arr (describedAll s'.forest.roots)) = .ok other' ∧
          mapAll bareRow other'.forest.roots = mapAll bareRow s'.forest.roots := by
  obtain ⟨entries, hentries, rfl⟩ := exists_load_of_loadJson h
  have hroots : describedAll (s.load entries).forest.roots = Entry.toItems entries :=
    describedAll_ofEntries s.treeId (s.forest.build + 1) 1 0 none entries
  rw [Entry.ofSnapshot_eq] at hentries
  cases hlisted : snapshot.listed? with
  | none => simp [hlisted] at hentries
  | some items =>
    simp only [hlisted] at hentries
    have hmirrors := Entry.mirrorsAll_ofItems items hentries
    have hfilled := Entry.filledAll_of_mirrors 0 entries hmirrors
    rw [hroots]
    refine ⟨items, rfl, hmirrors, fun children hchildren => hchildren.unique hmirrors, ?_, ?_⟩
    · intro n hn
      have hline : n.line ∈ Entry.linesAll 0 entries := by
        rw [← (Forest.shows_ofEntries s.treeId (s.forest.build + 1) entries).lines]
        exact List.mem_map_of_mem hn
      exact (hfilled _ hline).1
    · intro other htree
      have hread : Entry.ofSnapshot (.arr (Entry.toItems entries)) = .ok entries :=
        Entry.ofItems_toItems 0 entries hfilled
      refine ⟨other.load entries, by rw [loadJson, hread]; rfl, ?_⟩
      calc mapAll bareRow (other.load entries).forest.roots
        _ = ofEntries other.treeId 0 1 0 none entries :=
          mapAll_bareRow_ofEntries _ _ 1 0 none entries
        _ = ofEntries s.treeId 0 1 0 none entries := by rw [htree]
        _ = mapAll bareRow (s.load entries).forest.roots :=
          (mapAll_bareRow_ofEntries _ _ 1 0 none entries).symm

/-- A snapshot that leaves out types, names and children. -/
def gappedSnapshot : Json String :=
  .arr [
    .obj [("path", .str "/w/a//"), ("type", .str "d"), ("name", .str ""), ("children", .arr [
      .obj [("path", .str "b"), ("children", .null)],
      .obj [("path", .str "//"), ("name", .int 3), ("children", .bool false)]])],
    .obj [("path", .str "/c"), ("name", .str "d"), ("type", .str "f")]]

lemma loadJson_gappedSnapshot :
    Store.loadJson {} gappedSnapshot =
      .ok (Store.load {} [.dir "a" "/w/a//" [.file "b" "b", .file "//" "//"], .file "d" "/c"]) :=
  rfl

theorem loadJson_mirrors_gappedSnapshot :
    ∃ s' : Store, Store.loadJson {} gappedSnapshot = .ok s' ∧
      describedAll s'.forest.roots =
        [.fullEntry "a" "/w/a//" true [.fullEntry "b" "b" false [], .fullEntry "//" "//" false []],
          .fullEntry "d" "/c" false []] ∧
      ∃ items, gappedSnapshot.listed? = some items ∧
        Json.MirrorsAll items (describedAll s'.forest.roots) ∧
        (∀ children, Json.MirrorsAll items children → children = describedAll s'.forest.roots) ∧
        (∀ n ∈ s'.forest.rows, n.row.name ≠ "") ∧
        ∀ other : Store, other.treeId = "files" →
          ∃ other', other.loadJson (.arr (describedAll s'.forest.roots)) = .ok other' ∧
            mapAll bareRow other'.forest.roots = mapAll bareRow s'.forest.roots :=
  ⟨_, loadJson_gappedSnapshot, rfl, loadJson_mirrors loadJson_gappedSnapshot⟩

end Store

end Sidebar
