import Sidebar.Proofs.Json.Content
import Sidebar.Proofs.Outcome
import Sidebar.Tree.Snapshot

/-!
# Which values are snapshots

A value is a snapshot when something in it can be listed and everything listed, at any depth, is an
entry: it is an object that names its path, and its type and children fit. What is checked of one
entry does not depend on the others.

Decoding accepts exactly these values. Of any other value it reports the first entry in pre-order
that is none, with the first rule that this one breaks.
-/

namespace Sidebar

namespace Json

/-- What a value lists: the items of an array, the names of the fields of an object, the characters
of a text. -/
def listed? : Json String → Option (List (Json String))
  | .arr items => some items
  | .obj fields => some (fields.map fun field => .str field.1)
  | .str text => some (text.toList.map fun c => .str (String.singleton c))
  | _ => none

/-! ### Rules for one entry -/

def HasPath (fields : Fields String) (path : String) : Prop :=
  Fields.get? fields "path" = some (.str path) ∧ path ≠ ""

/-- An entry is a directory or a file, and a file when it has no type. -/
inductive HasType (fields : Fields String) : Bool → Prop
  | untyped (h : Fields.get? fields "type" = none) : HasType fields false
  | file (h : Fields.get? fields "type" = some (.str "f")) : HasType fields false
  | dir (h : Fields.get? fields "type" = some (.str "d")) : HasType fields true

/-- Children are a list in a directory; anywhere they may be absent, or count as absent. -/
inductive ChildrenFit (fields : Fields String) (isDir : Bool) : Prop
  | absent (h : Fields.get? fields "children" = none)
  | blank {v : Json String} (h : Fields.get? fields "children" = some v) (hblank : v.isBlank)
  | list {items : List (Json String)} (h : Fields.get? fields "children" = some (.arr items))
      (hdir : isDir = true)

/-- The value keeps all rules for an entry. What its children are does not matter here. -/
inductive IsEntry : Json String → Prop
  | intro {fields : Fields String} {path : String} {isDir : Bool} (hpath : HasPath fields path)
      (htype : HasType fields isDir) (hchildren : ChildrenFit fields isDir) :
      IsEntry (.obj fields)

/-- The value breaks a rule for entries, and keeps those before it. -/
inductive Breaks : Json String → SnapshotError → Prop
  | notMapping {v : Json String} (h : ∀ fields, v ≠ .obj fields) : Breaks v (.notMapping v)
  | noPath {fields : Fields String} (h : ∀ path, ¬ HasPath fields path) :
      Breaks (.obj fields) (.noPath (.obj fields))
  | unknownType {fields : Fields String} {path : String} {type : Json String}
      (hpath : HasPath fields path)
      (htype : Fields.get? fields "type" = some type) (h : ∀ isDir, ¬ HasType fields isDir) :
      Breaks (.obj fields) (.unknownType path type)
  | childrenNotList {fields : Fields String} {path : String} {isDir : Bool} {v : Json String}
      (hpath : HasPath fields path) (htype : HasType fields isDir)
      (hchildren : Fields.get? fields "children" = some v) (hfull : ¬ v.isBlank)
      (h : ∀ items, v ≠ .arr items) : Breaks (.obj fields) (.childrenNotList path)
  | fileWithChildren {fields : Fields String} {path : String} {items : List (Json String)}
      (hpath : HasPath fields path) (htype : HasType fields false)
      (hchildren : Fields.get? fields "children" = some (.arr items)) (hfull : items ≠ []) :
      Breaks (.obj fields) (.fileWithChildren path)

/-- The first of the values that is no entry breaks the rule. -/
inductive FirstBreaks : List (Json String) → SnapshotError → Prop
  | here {v : Json String} {rest : List (Json String)} {e : SnapshotError} (h : Breaks v e) :
      FirstBreaks (v :: rest) e
  | later {v : Json String} {rest : List (Json String)} {e : SnapshotError} (h : IsEntry v)
      (hrest : FirstBreaks rest e) : FirstBreaks (v :: rest) e

/-! ### Entries in entries -/

mutual

/-- A value with all that is listed as children in it and below, each in front of its children. -/
def nested : Json String → List (Json String)
  | .obj fields => .obj fields :: nestedField fields
  | value => [value]

def nestedAll : List (Json String) → List (Json String)
  | [] => []
  | value :: rest => nested value ++ nestedAll rest

def nestedField : List (String × Json String) → List (Json String)
  | [] => []
  | (name, value) :: rest => if name = "children" then nestedChildren value else nestedField rest

def nestedChildren : Json String → List (Json String)
  | .arr items => nestedAll items
  | _ => []

end

end Json

namespace Json

variable {fields : Fields String} {path : String} {isDir : Bool} {e : SnapshotError}

/-- Where an entry has a path and a type, its children fit or break a rule. -/
lemma isEntry_or_breaks_of_type (hpath : HasPath fields path) (htype : HasType fields isDir) :
    IsEntry (.obj fields) ∨ ∃ e, Breaks (.obj fields) e := by
  cases hchildren : Fields.get? fields "children" with
  | none => exact Or.inl ⟨hpath, htype, .absent hchildren⟩
  | some v =>
    by_cases hblank : v.isBlank
    · exact Or.inl ⟨hpath, htype, .blank hchildren hblank⟩
    by_cases harr : ∃ items, v = .arr items
    · obtain ⟨items, rfl⟩ := harr
      cases isDir with
      | true => exact Or.inl ⟨hpath, htype, .list hchildren rfl⟩
      | false =>
        have hfull : items ≠ [] := by simpa [isBlank] using hblank
        exact Or.inr ⟨_, .fileWithChildren hpath htype hchildren hfull⟩
    · exact Or.inr ⟨_, .childrenNotList hpath htype hchildren hblank (not_exists.mp harr)⟩

/-- Every value is an entry or breaks a rule for entries. -/
theorem isEntry_or_breaks (v : Json String) : IsEntry v ∨ ∃ e, Breaks v e := by
  by_cases hobj : ∃ fields, v = .obj fields
  · obtain ⟨fields, rfl⟩ := hobj
    by_cases hpath : ∃ path, HasPath fields path
    · obtain ⟨path, hpath⟩ := hpath
      by_cases htype : ∃ isDir, HasType fields isDir
      · obtain ⟨isDir, htype⟩ := htype
        exact isEntry_or_breaks_of_type hpath htype
      · rw [not_exists] at htype
        cases hget : Fields.get? fields "type" with
        | none => exact absurd (.untyped hget) (htype false)
        | some type => exact Or.inr ⟨_, .unknownType hpath hget htype⟩
    · exact Or.inr ⟨_, .noPath (not_exists.mp hpath)⟩
  · exact Or.inr ⟨_, .notMapping (not_exists.mp hobj)⟩

/-- Among values some of which are no entries, one is the first of them. -/
lemma forall_isEntry_or_firstBreaks (vs : List (Json String)) :
    (∀ v ∈ vs, IsEntry v) ∨ ∃ e, FirstBreaks vs e := by
  induction vs with
  | nil => exact Or.inl fun v hv => absurd hv List.not_mem_nil
  | cons v rest ih =>
    rcases isEntry_or_breaks v with hv | ⟨e, hv⟩
    · rcases ih with hrest | ⟨e, hrest⟩
      · exact Or.inl (List.forall_mem_cons.mpr ⟨hv, hrest⟩)
      · exact Or.inr ⟨e, .later hv hrest⟩
    · exact Or.inr ⟨e, .here hv⟩

/-- The first of two lists of values in a row that is no entry is in the first list, or in the
second behind entries alone. -/
lemma FirstBreaks.append_cases {vs ws : List (Json String)} (h : FirstBreaks (vs ++ ws) e) :
    FirstBreaks vs e ∨ (∀ v ∈ vs, IsEntry v) ∧ FirstBreaks ws e := by
  induction vs with
  | nil => exact Or.inr ⟨fun v hv => absurd hv List.not_mem_nil, h⟩
  | cons v rest ih =>
    cases h with
    | here h => exact Or.inl (.here h)
    | later hv hrest =>
      rcases ih hrest with hrest | ⟨hall, hws⟩
      · exact Or.inl (.later hv hrest)
      · exact Or.inr ⟨List.forall_mem_cons.mpr ⟨hv, hall⟩, hws⟩

/-! ### What decoding leads to -/

/-- A decoding of values succeeds when they are all entries; otherwise it reports the first that is
none. -/
structure Decodes {α : Type} (vs : List (Json String)) (x : Except SnapshotError α) : Prop where
  ok_of_entries : (∀ v ∈ vs, IsEntry v) → ∃ a, x = .ok a
  error_of_firstBreaks : ∀ e, FirstBreaks vs e → x = .error e

namespace Decodes

variable {α β : Type} {vs ws : List (Json String)} {x : Except SnapshotError α}

lemma nil (a : α) : Decodes [] (.ok a) where
  ok_of_entries := fun _ => ⟨a, rfl⟩
  error_of_firstBreaks := fun _ h => by cases h

/-- One decoding after another. -/
lemma bind (hx : Decodes vs x) {f : α → Except SnapshotError β} (hf : ∀ a, Decodes ws (f a)) :
    Decodes (vs ++ ws) (x >>= f) where
  ok_of_entries := by
    intro hall
    obtain ⟨a, rfl⟩ := hx.ok_of_entries fun v hv => hall v (List.mem_append_left _ hv)
    exact (hf a).ok_of_entries fun v hv => hall v (List.mem_append_right _ hv)
  error_of_firstBreaks := by
    intro e hfirst
    rcases hfirst.append_cases with hfirst | ⟨hall, hfirst⟩
    · rw [hx.error_of_firstBreaks e hfirst]
      rfl
    · obtain ⟨a, rfl⟩ := hx.ok_of_entries hall
      exact (hf a).error_of_firstBreaks e hfirst

lemma bind_pure (hx : Decodes vs x) (f : α → β) : Decodes vs (x >>= fun a => pure (f a)) := by
  have hend : Decodes (vs ++ []) (x >>= fun a => pure (f a)) := hx.bind fun a => nil (f a)
  rwa [List.append_nil] at hend

/-- A value by itself that is no object. -/
lemma notMapping {v : Json String} (h : ∀ fields, v ≠ .obj fields) :
    Decodes [v] (.error (.notMapping v) : Except SnapshotError α) where
  ok_of_entries := by
    intro hall
    cases hall v (List.mem_singleton_self v) with
    | intro => exact absurd rfl (h _)
  error_of_firstBreaks := by
    intro e hfirst
    cases hfirst with
    | here hbreaks =>
      cases hbreaks with
      | notMapping => rfl
      | _ => exact absurd rfl (h _)
    | later _ hrest => cases hrest

theorem ok_iff (h : Decodes vs x) : (∃ a, x = .ok a) ↔ ∀ v ∈ vs, IsEntry v := by
  refine ⟨?_, h.ok_of_entries⟩
  rintro ⟨a, rfl⟩
  refine (forall_isEntry_or_firstBreaks vs).resolve_right ?_
  rintro ⟨e, hfirst⟩
  cases h.error_of_firstBreaks e hfirst

theorem error_iff (h : Decodes vs x) : x = .error e ↔ FirstBreaks vs e := by
  refine ⟨?_, h.error_of_firstBreaks e⟩
  rintro rfl
  rcases forall_isEntry_or_firstBreaks vs with hall | ⟨e', hfirst⟩
  · obtain ⟨a, ha⟩ := h.ok_of_entries hall
    cases ha
  · cases h.error_of_firstBreaks e' hfirst
    exact hfirst

end Decodes

end Json

namespace Entry

open Json

variable {fields : Fields String} {path : String} {isDir : Bool} {v : Json String}
  {e : SnapshotError}

/-! ### One entry -/

namespace Heading

lemma path?_of_hasPath (h : HasPath fields path) : path? fields = .ok path := by
  simp [path?, h.1, nonEmptyText?, h.2]

lemma path?_of_forall_not (h : ∀ path, ¬ HasPath fields path) :
    path? fields = .error (.noPath (.obj fields)) := by
  rw [path?]
  split
  · next path hfound =>
    obtain ⟨v, hget, htext⟩ := Option.bind_eq_some_iff.mp hfound
    obtain ⟨rfl, hfull⟩ := nonEmptyText?_eq_some_iff.mp htext
    exact absurd ⟨hget, hfull⟩ (h path)
  · rfl

lemma isDir?_of_hasType (h : HasType fields isDir) : isDir? path fields = .ok isDir := by
  rw [isDir?]
  cases h with
  | untyped h => rw [h]
  | file h => rw [h]; rfl
  | dir h => rw [h]; rfl

lemma isDir?_of_forall_not {type : Json String} (htype : Fields.get? fields "type" = some type)
    (h : ∀ isDir, ¬ HasType fields isDir) :
    isDir? path fields = .error (.unknownType path type) := by
  rw [isDir?]
  split
  · next hnone => exact absurd (.untyped hnone) (h false)
  · next hfile => exact absurd (.file hfile) (h false)
  · next hdir => exact absurd (.dir hdir) (h true)
  · next other hother => rw [Option.some.inj (hother.symm.trans htype)]

lemma checkChildren_of_fit (h : ChildrenFit fields isDir) :
    checkChildren path isDir fields = .ok () := by
  rw [checkChildren]
  cases h with
  | absent h => rw [h]; rfl
  | blank h hblank => rw [h]; exact if_pos hblank
  | list h hdir => rw [h, hdir]; exact ite_self _

/-- Once the path and the type are known, the children decide. -/
lemma ofFields_eq (hpath : HasPath fields path) (htype : HasType fields isDir) :
    ofFields fields =
      (checkChildren path isDir fields).map fun _ => ⟨nameOf path fields, path, isDir⟩ := by
  rw [ofFields, path?_of_hasPath hpath]
  show (isDir? path fields >>= _) = _
  rw [isDir?_of_hasType htype]
  show (checkChildren path isDir fields >>= _) = _
  cases checkChildren path isDir fields <;> rfl

/-- What is read of an entry by itself. -/
theorem decodes_ofFields (fields : Fields String) : Decodes [.obj fields] (ofFields fields) where
  ok_of_entries := by
    intro hall
    cases hall _ (List.mem_singleton_self _) with
    | intro hpath htype hchildren =>
      rw [ofFields_eq hpath htype, checkChildren_of_fit hchildren]
      exact ⟨_, rfl⟩
  error_of_firstBreaks := by
    intro e hfirst
    cases hfirst with
    | later _ hrest => cases hrest
    | here h =>
      cases h with
      | notMapping h => exact absurd rfl (h fields)
      | noPath h => rw [ofFields, path?_of_forall_not h]; rfl
      | unknownType hpath htype h =>
        rw [ofFields, path?_of_hasPath hpath]
        show (isDir? _ fields >>= _) = _
        rw [isDir?_of_forall_not htype h]
        rfl
      | childrenNotList hpath htype hchildren hfull h =>
        rw [ofFields_eq hpath htype, checkChildren, hchildren, Option.getD_some, if_neg hfull]
        split
        · next items => exact absurd rfl (h items)
        · rfl
      | fileWithChildren hpath htype hchildren hfull =>
        rw [ofFields_eq hpath htype, checkChildren, hchildren, Option.getD_some,
          if_neg (by simpa [isBlank] using hfull)]
        rfl

/-- What an entry says about itself once it has passed the checks. -/
lemma of_ofFields {heading : Heading} (h : ofFields fields = .ok heading) :
    HasPath fields heading.path ∧ HasType fields heading.isDir ∧
      ChildrenFit fields heading.isDir ∧ heading.name = nameOf heading.path fields := by
  have hentry := (decodes_ofFields fields).ok_iff.mp ⟨heading, h⟩ _ (List.mem_singleton_self _)
  cases hentry with
  | intro hpath htype hchildren =>
    rw [ofFields_eq hpath htype, checkChildren_of_fit hchildren] at h
    obtain rfl := Except.ok.inj h
    exact ⟨hpath, htype, hchildren, rfl⟩

end Heading

/-! ### Entries at every depth -/

mutual

theorem decodes_ofJson : (v : Json String) → Decodes (nested v) (ofJson v)
  | .obj fields => by
    rw [nested, ofJson]
    exact (Heading.decodes_ofFields fields).bind fun heading =>
      (decodes_ofChildrenField fields).bind_pure heading.entry
  | .null | .bool _ | .int _ | .float _ | .str _ | .arr _ => by
    simp only [nested, ofJson]
    exact .notMapping fun fields hobj => by cases hobj

/-- Decoding reads all that is listed at any depth, in pre-order. -/
theorem decodes_ofItems : (vs : List (Json String)) → Decodes (nestedAll vs) (ofItems vs)
  | [] => .nil []
  | v :: rest => by
    rw [nestedAll, ofItems]
    exact (decodes_ofJson v).bind fun entry => (decodes_ofItems rest).bind_pure (entry :: ·)

theorem decodes_ofChildrenField : (fields : List (String × Json String)) →
    Decodes (nestedField fields) (ofChildrenField fields)
  | [] => .nil []
  | (name, v) :: rest => by
    rw [nestedField, ofChildrenField]
    split
    · exact decodes_ofChildren v
    · exact decodes_ofChildrenField rest

theorem decodes_ofChildren : (v : Json String) → Decodes (nestedChildren v) (ofChildren v)
  | .arr items => decodes_ofItems items
  | .null | .bool _ | .int _ | .float _ | .str _ | .obj _ => .nil []

end

/-- A whole snapshot is read as what it lists; a value that lists nothing is none. -/
theorem ofSnapshot_eq (v : Json String) :
    ofSnapshot v =
      match v.listed? with
      | some items => ofItems items
      | none => .error (.notEntries v) := by
  cases v <;> rfl

end Entry

end Sidebar
