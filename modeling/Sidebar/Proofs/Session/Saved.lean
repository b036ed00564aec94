import Sidebar.Session
import Sidebar.Proofs.Settings.Saved
import Sidebar.Proofs.Workbench.Paths
import Mathlib

/-!
# Saved sessions

The record of a workspace is read from its object by content alone, so that neither the order of
fields nor the dropping of values that are no records can be seen in it.

Main statement: what is saved for a workspace is found under its name, and the records of all other
workspaces and all other settings stay what they were.
-/

namespace Sidebar

open Editor

namespace SessionRecord

/-! ### Reading a record -/

lemma nonEmptyText?_congr {v w : Json} (h : Json.Same v w) :
    v.nonEmptyText? = w.nonEmptyText? := by
  cases h <;> rfl

lemma pathsOf_congr {v w : Option Json} (h : Option.Rel Json.Same v w) : pathsOf v = pathsOf w := by
  cases h with
  | none => rfl
  | some h =>
    cases h with
    | refl => rfl
    | obj => rfl
    | @arr items items' length item =>
      have hitems : items.map Json.nonEmptyText? = items'.map Json.nonEmptyText? := by
        refine List.ext_getElem? fun i => ?_
        rw [List.getElem?_map, List.getElem?_map]
        by_cases hi : i < items.length
        · have hv := List.getElem?_eq_getElem hi
          have hw := List.getElem?_eq_getElem (length ▸ hi)
          rw [hv, hw, Option.map_some, Option.map_some, nonEmptyText?_congr (item i _ _ hv hw)]
        · rw [List.getElem?_eq_none (Nat.le_of_not_lt hi),
            List.getElem?_eq_none (length ▸ Nat.le_of_not_lt hi)]
      have hfilter : ∀ l : List Json,
          l.filterMap Json.nonEmptyText? = (l.map Json.nonEmptyText?).filterMap id := by
        intro l
        rw [List.filterMap_map, Function.id_comp]
      rw [pathsOf, pathsOf, hfilter, hfilter, hitems]

/-- A record is read by content. -/
lemma ofFields_congr {fields fields' : Fields} (h : ∀ name, Fields.SameAt name fields fields') :
    ofFields fields = ofFields fields' := by
  have hcurrent : (Fields.get? fields "current_file").bind Json.nonEmptyText? =
      (Fields.get? fields' "current_file").bind Json.nonEmptyText? := by
    have := h "current_file"
    rw [Fields.SameAt] at this
    generalize Fields.get? fields "current_file" = v at this
    generalize Fields.get? fields' "current_file" = w at this
    cases this with
    | none => rfl
    | some hsame => exact nonEmptyText?_congr hsame
  rw [ofFields, ofFields, pathsOf_congr (h "open_paths"), pathsOf_congr (h "file_paths"), hcurrent]

/-! ### Writing a record -/

/-- A path is read back as it has been written: it is not empty, and no surrogates in it are a
pair. -/
structure IsLasting (path : WideText) : Prop where
  full : path ≠ ∅
  joined : path.Joined

lemma isLasting_ofString {path : String} (h : path ≠ "") : IsLasting path :=
  ⟨fun hempty => h (WideText.ofString_eq_nil_iff.mp hempty), WideText.joined_ofString path⟩

/-- Each path of the record is read back as it has been written. -/
structure Lasts (r : SessionRecord) : Prop where
  openPaths : ∀ path ∈ r.openPaths, IsLasting path
  filePaths : ∀ path ∈ r.filePaths, IsLasting path
  currentFile : ∀ path ∈ r.currentFile, IsLasting path

lemma isLasting_of_nonEmptyText? {levels : Nat} {v : Json} (h : Json.Storable levels v)
    {path : WideText} (hpath : v.nonEmptyText? = some path) : IsLasting path := by
  obtain ⟨rfl, hfull⟩ := Json.nonEmptyText?_eq_some_iff.mp hpath
  cases h with
  | str joined => exact ⟨hfull, joined⟩

lemma isLasting_of_mem_pathsOf {levels : Nat} {v : Json} (h : Json.Storable levels v)
    {path : WideText} (hpath : path ∈ pathsOf (some v)) : IsLasting path := by
  cases h with
  | arr item =>
    obtain ⟨v, hv, hpath⟩ := List.mem_filterMap.mp hpath
    exact isLasting_of_nonEmptyText? (item v hv) hpath
  | _ => simp [pathsOf] at hpath

/-- Records that have been read can be written and read again. -/
lemma lasts_ofFields {levels : Nat} {fields : Fields}
    (h : Json.Storable (levels + 1) (.obj fields)) : (ofFields fields).Lasts := by
  have hpaths : ∀ {name path : WideText}, path ∈ pathsOf (Fields.get? fields name) →
      IsLasting path := by
    intro name path hpath
    cases hget : Fields.get? fields name with
    | none => simp [hget, pathsOf] at hpath
    | some v => exact isLasting_of_mem_pathsOf (h.of_get? hget) (hget ▸ hpath)
  refine ⟨fun _ => hpaths, fun _ => hpaths, fun path hpath => ?_⟩
  obtain ⟨v, hget, hv⟩ := Option.bind_eq_some_iff.mp hpath
  exact isLasting_of_nonEmptyText? (h.of_get? hget) hv

lemma nonEmptyText?_str {path : WideText} (h : IsLasting path) :
    (Json.str path).nonEmptyText? = some path :=
  Json.nonEmptyText?_eq_some_iff.mpr ⟨rfl, h.full⟩

lemma pathsOf_strs {paths : List WideText} (h : ∀ path ∈ paths, IsLasting path) :
    pathsOf (some (.arr (paths.map .str))) = paths := by
  induction paths with
  | nil => rfl
  | cons path rest ih =>
    have hrest := ih fun other hother => h other (List.mem_cons_of_mem path hother)
    rw [pathsOf] at hrest ⊢
    rw [List.map_cons, List.filterMap_cons_some (nonEmptyText?_str (h path List.mem_cons_self)),
      hrest]

/-- The record is read back from what it is written as. -/
theorem Lasts.ofJson_toJson {r : SessionRecord} (h : r.Lasts) : ofJson r.toJson = .ok r := by
  have hcurrent : (some ((r.currentFile.map Json.str).getD .null)).bind Json.nonEmptyText? =
      r.currentFile := by
    cases hcurrent : r.currentFile with
    | none => rfl
    | some path => exact nonEmptyText?_str (h.currentFile path hcurrent)
  have hfields : ofJson r.toJson =
      .ok ⟨pathsOf (some (.arr (r.openPaths.map .str))),
        pathsOf (some (.arr (r.filePaths.map .str))),
        (some ((r.currentFile.map Json.str).getD .null)).bind Json.nonEmptyText?⟩ := rfl
  rw [hfields, pathsOf_strs h.openPaths, pathsOf_strs h.filePaths, hcurrent]

lemma Lasts.storable_toJson {r : SessionRecord} (h : r.Lasts) {levels : Nat}
    (hlevels : 2 ≤ levels) : Json.Storable levels r.toJson := by
  have hpaths : ∀ {paths : List WideText}, (∀ path ∈ paths, IsLasting path) →
      Json.Storable 1 (.arr (paths.map .str)) := by
    intro paths hpaths
    refine .arr fun v hv => ?_
    obtain ⟨path, hpath, rfl⟩ := List.mem_map.mp hv
    exact .str (hpaths path hpath).joined
  have hnames : (["open_paths", "file_paths", "current_file"] : List WideText).Nodup := by decide
  have hrecord : Json.Storable 2 r.toJson := by
    rw [toJson]
    refine .obj hnames (fun field hfield => ?_) fun field hfield => ?_
    · rcases List.mem_cons.mp hfield with rfl | hfield
      · exact WideText.joined_ofString _
      rcases List.mem_cons.mp hfield with rfl | hfield
      · exact WideText.joined_ofString _
      rw [List.mem_singleton.mp hfield]
      exact WideText.joined_ofString _
    · rcases List.mem_cons.mp hfield with rfl | hfield
      · exact hpaths h.openPaths
      rcases List.mem_cons.mp hfield with rfl | hfield
      · exact hpaths h.filePaths
      rw [List.mem_singleton.mp hfield]
      cases hcurrent : r.currentFile with
      | none => exact .null
      | some path => exact .str (h.currentFile path hcurrent).joined
  exact hrecord.mono hlevels

/-- The record in a value, if it is one. -/
def of? (v : Json) : Option SessionRecord := (ofJson v).toOption

lemma of?_congr {v w : Json} (h : Json.Same v w) : of? v = of? w := by
  cases h with
  | refl => rfl
  | arr => rfl
  | obj names value =>
    rw [of?, ofJson, of?, ofJson, ofFields_congr (Json.Same.get? (.obj names value))]

lemma of?_eq_none_iff {v : Json} : of? v = none ↔ Settings.isObject v = false := by
  cases v <;> simp [of?, ofJson, Except.toOption, Settings.isObject]

end SessionRecord

namespace Session

/-! ### Records by name -/

lemma find?_eq_bind (records : Fields) (name : WideText) :
    find? records name = (Fields.get? records name).bind SessionRecord.of? := by
  rw [find?]
  cases Fields.get? records name with
  | none => rfl
  | some v => cases v <;> rfl

/-- Values that are no objects are dropped without a trace. -/
lemma find?_filter_isObject {records : Fields} (h : (records.map Prod.fst).Nodup)
    (name : WideText) :
    find? (records.filter fun record => Settings.isObject record.2) name = find? records name := by
  have hfilter : ((records.filter fun record => Settings.isObject record.2).map Prod.fst).Nodup :=
    (List.filter_sublist.map Prod.fst).nodup h
  rw [find?_eq_bind, find?_eq_bind]
  cases hget : Fields.get? records name with
  | none =>
    have hnone : Fields.get? (records.filter fun record => Settings.isObject record.2) name =
        none := by
      rw [← Option.not_isSome_iff_eq_none, Fields.isSome_get?_iff]
      intro hmem
      have := (List.filter_sublist.map Prod.fst).subset hmem
      rw [← Fields.isSome_get?_iff, hget] at this
      simp at this
    rw [hnone]
  | some v =>
    have hv := (Fields.get?_eq_some_iff h).mp hget
    by_cases hobject : Settings.isObject v
    · rw [(Fields.get?_eq_some_iff hfilter).mpr (List.mem_filter.mpr ⟨hv, hobject⟩)]
    · rw [Option.bind_some, SessionRecord.of?_eq_none_iff.mpr (by simpa using hobject)]
      cases hget' : Fields.get? (records.filter fun record => Settings.isObject record.2) name with
      | none => rfl
      | some w =>
        obtain ⟨hw, hobject'⟩ := List.mem_filter.mp (Fields.mem_of_get?_eq_some hget')
        have hsame := (Fields.get?_eq_some_iff h).mpr hw
        rw [hget] at hsame
        rw [← Option.some.inj hsame] at hobject'
        exact absurd hobject' hobject

/-- The record that the settings hold under a name. -/
def record? (fields : Fields) (name : WideText) : Option SessionRecord :=
  find? (Settings.sessions fields) name

lemma record?_eq {levels : Nat} {fields : Fields} (h : Json.Storable levels (.obj fields))
    (name : WideText) :
    record? fields name =
      ((Fields.get? fields Settings.sessionsKey).bind fun v => v.field? name).bind
        SessionRecord.of? := by
  rw [record?, Settings.sessions]
  cases hget : Fields.get? fields Settings.sessionsKey with
  | none => rfl
  | some v =>
    cases v with
    | obj records =>
      cases h with
      | obj _ _ hvalue =>
        have hrecords := (hvalue _ (Fields.mem_of_get?_eq_some hget)).names
        simp only [find?_filter_isObject hrecords, find?_eq_bind]
        rfl
    | _ => rfl

lemma record?_congr {levels levels' : Nat} {fields fields' : Fields}
    (h : Json.Storable levels (.obj fields)) (h' : Json.Storable levels' (.obj fields'))
    (hsame : Fields.SameAt Settings.sessionsKey fields fields') (name : WideText) :
    record? fields name = record? fields' name := by
  rw [record?_eq h, record?_eq h']
  rw [Fields.SameAt] at hsame
  generalize Fields.get? fields Settings.sessionsKey = v at hsame
  generalize Fields.get? fields' Settings.sessionsKey = w at hsame
  cases hsame with
  | none => rfl
  | @some v w hsame =>
    have hname : Option.Rel Json.Same (v.field? name) (w.field? name) := by
      cases hsame with
      | refl => exact Json.Same.rel_refl (v.field? name)
      | arr => exact .none
      | obj names value => exact Json.Same.get? (.obj names value) name
    rw [Option.bind_some, Option.bind_some]
    generalize v.field? name = r at hname
    generalize w.field? name = r' at hname
    cases hname with
    | none => rfl
    | some hrecord => exact SessionRecord.of?_congr hrecord

/-- The settings may hold the records with one of them set. -/
lemma storable_put {fields : Fields} (h : Json.Storable Json.maxNesting (.obj fields))
    {name : WideText} (hname : name.Joined) {r : SessionRecord} (hr : r.Lasts) :
    Json.Storable (Json.maxNesting - 1)
      (.obj (Fields.put name r.toJson (Settings.sessions fields))) := by
  have hsessions : Json.Storable (Json.maxNesting - 1) (.obj (Settings.sessions fields)) := by
    rw [Settings.sessions]
    split
    · next records hget =>
      have hrecords : Json.Storable (Json.maxNesting - 1) (.obj records) := h.of_get? hget
      cases hrecords with
      | obj names joined value =>
        exact .obj ((List.filter_sublist.map Prod.fst).nodup names)
          (fun field hfield => joined field (List.mem_of_mem_filter hfield))
          fun field hfield => value field (List.mem_of_mem_filter hfield)
    · exact .empty
  exact hsessions.put hname (hr.storable_toJson (by decide))

/-- The records after one of them has been set. -/
lemma record?_of_put {levels : Nat} {fields fields' : Fields}
    (h : Json.Storable Json.maxNesting (.obj fields)) (h' : Json.Storable levels (.obj fields'))
    {r : SessionRecord} (hr : r.Lasts) {name : WideText} (hname : name.Joined)
    (hget : Fields.get? fields' Settings.sessionsKey =
      some (Json.sorted (.obj (Fields.put name r.toJson (Settings.sessions fields)))))
    (other : WideText) :
    record? fields' other = if other = name then some r else record? fields other := by
  have hput := storable_put h hname hr
  have hsorted : ∀ v, Json.Storable Json.maxNesting v →
      SessionRecord.of? v.sorted = SessionRecord.of? v := fun v hv =>
    SessionRecord.of?_congr hv.same_sorted.symm
  rw [record?_eq h', hget, Json.sorted_obj, Option.bind_some, Json.field?,
    Json.get?_inOrder hput.names]
  by_cases hother : other = name
  · subst hother
    rw [if_pos rfl, Fields.get?_put_self, Option.map_some, Option.bind_some,
      hsorted _ (hr.storable_toJson (by decide)), SessionRecord.of?, hr.ofJson_toJson]
    rfl
  · rw [if_neg hother, Fields.get?_put_of_ne hother, record?, find?_eq_bind]
    cases hold : Fields.get? (Settings.sessions fields) other with
    | none => rfl
    | some v =>
      cases hput with
      | obj _ _ hvalue =>
        rw [Option.map_some, Option.bind_some, Option.bind_some]
        refine hsorted v (Json.Storable.mono (hvalue (other, v) ?_) (by decide))
        apply Fields.mem_of_get?_eq_some
        rw [Fields.get?_put_of_ne hother, hold]

/-! ### Saving a session -/

/-- What a session is saved as is found under its name. All other records and settings keep their
content. -/
theorem exists_save {fs : FileSystem} {file root : Path} (hwritable : Settings.Writable fs file)
    {fields : Fields} (hload : Settings.load fs file = .ok fields) {name : String}
    (hkey : key fs root = .ok name) (forest : Forest) (tabs : Option Tabs)
    (hlasts : (SessionRecord.capture forest tabs (record? fields name)).Lasts) :
    ∃ saved loaded, save fs file root forest tabs = .ok saved ∧
      saved.record = SessionRecord.capture forest tabs (record? fields name) ∧
      Settings.Saved file fs saved.fs loaded ∧
      (∀ other, record? loaded other =
        if other = name then some saved.record else record? fields other) ∧
      ∀ other, other ≠ Settings.sessionsKey → Fields.SameAt other fields loaded := by
  set r := SessionRecord.capture forest tabs (record? fields name) with hr
  have hstorable := Settings.storable_of_load hload
  obtain ⟨saved, loaded, hsave, hsaved, hget, hothers⟩ :=
    hwritable.exists_update hload (storable_put hstorable (WideText.joined_ofString name) hlasts)
      Settings.joined_sessionsKey
  refine ⟨⟨saved, r, [.sessionSaved root.toString r.openPaths.length]⟩, loaded, ?_, rfl, hsaved,
    record?_of_put hstorable (Settings.storable_of_load hsaved.load) hlasts
      (WideText.joined_ofString name) hget, hothers⟩
  rw [save, hload, hkey]
  simp only [bind, Except.bind, Settings.saveSessions]
  rw [← record?, ← hr, hsave]
  rfl

lemma lasts_of_record? {levels : Nat} {fields : Fields} (h : Json.Storable levels (.obj fields))
    {name : WideText} {r : SessionRecord} (hr : record? fields name = some r) : r.Lasts := by
  rw [record?_eq h] at hr
  obtain ⟨v, hv, hr⟩ := Option.bind_eq_some_iff.mp hr
  obtain ⟨sessions, hsessions, hv⟩ := Option.bind_eq_some_iff.mp hv
  -- each value is inside one container more, which is taken off its levels
  cases h with
  | obj _ _ values =>
    have hsessions := values _ (Fields.mem_of_get?_eq_some hsessions)
    cases sessions with
    | obj records =>
      cases hsessions with
      | obj _ _ values =>
        have hrecord := values _ (Fields.mem_of_get?_eq_some hv)
        cases v with
        | obj fields =>
          obtain rfl := Option.some.inj hr
          cases hrecord with
          | obj names joined values =>
            exact SessionRecord.lasts_ofFields (.obj names joined values)
        | _ => simp [SessionRecord.of?, SessionRecord.ofJson, Except.toOption] at hr
    | _ => simp [Json.field?] at hv

/-- A captured record can be written and read again, whether its tabs are captured or kept from
before. -/
lemma lasts_capture {forest : Forest} (hopen : ∀ path ∈ forest.openPaths, path ≠ "")
    {tabs : Option Tabs} (htabs : ∀ t ∈ tabs, ∀ tab ∈ t.tabs, tab.path ≠ "") {levels : Nat}
    {fields : Fields} (hfields : Json.Storable levels (.obj fields)) (name : WideText) :
    (SessionRecord.capture forest tabs (record? fields name)).Lasts := by
  have hopen' : ∀ path ∈ SessionRecord.openTexts forest, SessionRecord.IsLasting path := by
    intro path hpath
    obtain ⟨text, htext, rfl⟩ := List.mem_map.mp hpath
    exact SessionRecord.isLasting_ofString (hopen text htext)
  cases tabs with
  | some t =>
    refine ⟨hopen', fun path hpath => ?_, fun path hpath => ?_⟩
    · obtain ⟨tab, hmem, rfl⟩ := List.mem_map.mp hpath
      exact SessionRecord.isLasting_ofString (htabs t rfl tab hmem)
    · obtain ⟨tab, hcurrent, rfl⟩ := Option.map_eq_some_iff.mp hpath
      obtain ⟨tid, -, hfind⟩ := Option.bind_eq_some_iff.mp hcurrent
      exact SessionRecord.isLasting_ofString (htabs t rfl tab (Tabs.mem_of_find?_eq_some hfind).1)
  | none =>
    cases hprevious : record? fields name with
    | none =>
      exact ⟨hopen', fun path hpath => absurd hpath List.not_mem_nil,
        fun path hpath => absurd hpath (Option.not_mem_none path)⟩
    | some previous =>
      have hlasts := lasts_of_record? hfields hprevious
      exact ⟨hopen', hlasts.filePaths, hlasts.currentFile⟩

lemma load_eq_record? {fs : FileSystem} {file root : Path} {fields : Fields}
    (hload : Settings.load fs file = .ok fields) {name : String} (hkey : key fs root = .ok name) :
    load fs file root = .ok (record? fields name) := by
  rw [load, hload, hkey]
  rfl

end Session

end Sidebar
