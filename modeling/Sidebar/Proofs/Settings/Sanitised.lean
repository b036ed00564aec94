import Sidebar.Proofs.Session.Saved

/-!
# Sanitised settings

Settings can be rid of all that reading them passes over: a preference for hidden files that is not
true, a bound that is no positive number, sessions that are no object, records that are none, and
items that are no paths. Whoever reads the preference, the bound and the records cannot tell the
settings from those before.
-/

namespace Sidebar

/-! ### Refined fields -/

namespace Fields

variable {change : WideText → Json → Option Json} {fields : Fields}

/-- Changes the value of each field, or drops the field. -/
def refine (change : WideText → Json → Option Json) (fields : Fields) : Fields :=
  fields.filterMap fun field => (change field.1 field.2).map fun value => (field.1, value)

lemma refine_cons (change : WideText → Json → Option Json) (field : WideText × Json)
    (rest : Fields) :
    refine change (field :: rest) =
      ((change field.1 field.2).map fun value => (field.1, value)).toList ++
        refine change rest := by
  rw [refine, List.filterMap_cons]
  cases change field.1 field.2 <;> rfl

lemma names_refine_sublist (change : WideText → Json → Option Json) (fields : Fields) :
    ((refine change fields).map Prod.fst).Sublist (fields.map Prod.fst) := by
  induction fields with
  | nil => exact List.nil_sublist _
  | cons field rest ih =>
    rw [refine_cons, List.map_append, List.map_cons]
    cases change field.1 field.2 with
    | none => exact ih.cons _
    | some value => exact ih.cons_cons _

/-- Where names differ, a name finds what its field has become. -/
lemma get?_refine (h : (fields.map Prod.fst).Nodup) (name : WideText) :
    get? (refine change fields) name = (get? fields name).bind (change name) := by
  induction fields with
  | nil => rfl
  | cons field rest ih =>
    rw [List.map_cons, List.nodup_cons] at h
    rw [refine_cons, get?_cons]
    by_cases hname : name = field.1
    · subst hname
      rw [if_pos rfl, Option.bind_some]
      cases hvalue : change field.1 field.2 with
      | none =>
        have hnotMem : field.1 ∉ (refine change rest).map Prod.fst := fun hmem =>
          h.1 ((names_refine_sublist change rest).subset hmem)
        rwa [← isSome_get?_iff, Option.not_isSome_iff_eq_none] at hnotMem
      | some value =>
        show get? ((field.1, value) :: refine change rest) field.1 = some value
        rw [get?_cons, if_pos rfl]
    · rw [if_neg hname, ← ih h.2]
      cases change field.1 field.2 with
      | none => rfl
      | some value =>
        show get? ((field.1, value) :: refine change rest) name = _
        rw [get?_cons, if_neg hname]

end Fields

lemma Json.Storable.refine {levels : Nat} {fields : Fields}
    (h : Storable (levels + 1) (.obj fields)) {change : WideText → Json → Option Json}
    (hchange : ∀ name v w, change name v = some w → Storable levels v → Storable levels w) :
    Storable (levels + 1) (.obj (Fields.refine change fields)) := by
  have hnames := (Fields.names_refine_sublist change fields).nodup h.names
  cases h with
  | obj _ hjoined hvalues =>
    refine .obj hnames (fun field hfield => ?_) fun field hfield => ?_
    all_goals
      obtain ⟨old, hold, hfield⟩ := List.mem_filterMap.mp hfield
      obtain ⟨value, hvalue, rfl⟩ := Option.map_eq_some_iff.mp hfield
    · exact hjoined old hold
    · exact hchange old.1 old.2 value hvalue (hvalues old hold)

/-! ### Records -/

namespace SessionRecord

/-- A value that is a path, which is a text that is not empty. -/
def path? (value : Json) : Option Json := if value.nonEmptyText?.isSome then some value else none

/-- The items of a list that are paths. -/
def onlyPaths : Json → Json
  | .arr items => .arr (items.filterMap path?)
  | value => value

/-- A field of a record, rid of what is no path. -/
def sanitisedField (name : WideText) (value : Json) : Option Json :=
  if name = "current_file" then path? value
  else if name = "open_paths" ∨ name = "file_paths" then some (onlyPaths value)
  else some value

/-- A record, rid of what is no path. -/
def sanitised? : Json → Option Json
  | .obj fields => some (.obj (Fields.refine sanitisedField fields))
  | _ => none

lemma path?_bind (value : Json) : (path? value).bind Json.nonEmptyText? = value.nonEmptyText? := by
  rw [path?]
  cases hvalue : value.nonEmptyText? with
  | none => rfl
  | some text => exact hvalue

lemma pathsOf_onlyPaths (value : Json) :
    pathsOf (some (onlyPaths value)) = pathsOf (some value) := by
  cases value with
  | arr items =>
    rw [onlyPaths, pathsOf, pathsOf, List.filterMap_filterMap]
    exact congrArg (items.filterMap ·) (funext path?_bind)
  | _ => rfl

lemma pathsOf_sanitisedField {name : WideText} (hname : name = "open_paths" ∨ name = "file_paths")
    (value : Option Json) : pathsOf (value.bind (sanitisedField name)) = pathsOf value := by
  have hcurrent : name ≠ "current_file" := by
    rcases hname with rfl | rfl <;> decide
  cases value with
  | none => rfl
  | some value =>
    rw [Option.bind_some, sanitisedField, if_neg hcurrent, if_pos hname, pathsOf_onlyPaths]

/-- Nothing that is read from a record has been dropped. -/
lemma ofFields_sanitised {fields : Fields} (h : (fields.map Prod.fst).Nodup) :
    ofFields (Fields.refine sanitisedField fields) = ofFields fields := by
  have hcurrent : ((Fields.get? fields "current_file").bind (sanitisedField "current_file")).bind
      Json.nonEmptyText? = (Fields.get? fields "current_file").bind Json.nonEmptyText? := by
    cases Fields.get? fields "current_file" with
    | none => rfl
    | some value => exact path?_bind value
  rw [ofFields, ofFields, Fields.get?_refine h, Fields.get?_refine h, Fields.get?_refine h,
    pathsOf_sanitisedField (.inl rfl), pathsOf_sanitisedField (.inr rfl), hcurrent]

lemma of?_sanitised {levels : Nat} {value : Json} (h : Json.Storable levels value) :
    (sanitised? value).bind of? = of? value := by
  cases value with
  | obj fields =>
    rw [sanitised?, Option.bind_some, of?, of?, ofJson, ofJson, ofFields_sanitised h.names]
  | _ => rfl

lemma storable_path? {levels : Nat} {v w : Json} (h : path? v = some w)
    (hv : Json.Storable levels v) : Json.Storable levels w := by
  rw [path?] at h
  split at h
  · rwa [← Option.some.inj h]
  · cases h

lemma storable_onlyPaths {levels : Nat} {v : Json} (h : Json.Storable levels v) :
    Json.Storable levels (onlyPaths v) := by
  cases h with
  | arr hitems =>
    refine .arr fun item hitem => ?_
    obtain ⟨old, hold, hpath⟩ := List.mem_filterMap.mp hitem
    exact storable_path? hpath (hitems old hold)
  | null => exact .null
  | bool value => exact .bool value
  | int digits => exact .int digits
  | float value => exact .float value
  | str joined => exact .str joined
  | obj names joined value => exact .obj names joined value

lemma storable_sanitisedField {levels : Nat} {name : WideText} {v w : Json}
    (h : sanitisedField name v = some w) (hv : Json.Storable levels v) :
    Json.Storable levels w := by
  rw [sanitisedField] at h
  split at h
  · exact storable_path? h hv
  split at h
  · rw [← Option.some.inj h]
    exact storable_onlyPaths hv
  · rwa [← Option.some.inj h]

lemma storable_sanitised? {levels : Nat} {v w : Json} (h : sanitised? v = some w)
    (hv : Json.Storable levels v) : Json.Storable levels w := by
  cases v with
  | obj fields =>
    obtain rfl := Option.some.inj h
    cases levels with
    | zero => cases hv
    | succ levels => exact hv.refine fun _ _ _ => storable_sanitisedField
  | _ => cases h

end SessionRecord

/-! ### Settings -/

namespace Settings

/-- The preference, if it is true. -/
def preference? : Json → Option Json
  | .bool true => some (.bool true)
  | _ => none

/-- The bound, if it is a positive whole number. -/
def bound? : Json → Option Json
  | .int bound => if 0 < bound then some (.int bound) else none
  | _ => none

/-- The records that are objects, each rid of what is no path. -/
def records? : Json → Option Json
  | .obj records => some (.obj (Fields.refine (fun _ => SessionRecord.sanitised?) records))
  | _ => none

/-- One of the settings, rid of what reading it passes over. -/
def sanitisedField (name : WideText) : Json → Option Json :=
  if name = showHiddenKey then preference?
  else if name = maxTreeDepthKey then bound?
  else if name = sessionsKey then records?
  else some

/-- The settings, rid of what reading them passes over. -/
def sanitised (fields : Fields) : Fields := Fields.refine sanitisedField fields

/-- A run reads the same from both settings. -/
structure Alike (fields fields' : Fields) : Prop where
  showHidden : showHidden fields' = showHidden fields
  maxTreeDepth : maxTreeDepth fields' = maxTreeDepth fields
  record : ∀ name, Session.record? fields' name = Session.record? fields name

namespace Alike

variable {a b c : Fields}

lemma refl (fields : Fields) : Alike fields fields := ⟨rfl, rfl, fun _ => rfl⟩

lemma trans (hab : Alike a b) (hbc : Alike b c) : Alike a c where
  showHidden := hbc.showHidden.trans hab.showHidden
  maxTreeDepth := hbc.maxTreeDepth.trans hab.maxTreeDepth
  record name := (hbc.record name).trans (hab.record name)

/-- Settings are read by content. -/
lemma of_same {levels levels' : Nat} (h : Json.Same (.obj a) (.obj b))
    (ha : Json.Storable levels (.obj a)) (hb : Json.Storable levels' (.obj b)) : Alike a b where
  showHidden := showHidden_congr (h.get? showHiddenKey)
  maxTreeDepth := maxTreeDepth_congr (h.get? maxTreeDepthKey)
  record name := (Session.record?_congr ha hb (h.get? sessionsKey) name).symm

end Alike

section Sanitised

variable {levels : Nat} {fields : Fields}

lemma storable_preference? {v w : Json} (h : preference? v = some w)
    (hv : Json.Storable levels v) : Json.Storable levels w := by
  cases v with
  | bool value =>
    cases value with
    | true => rwa [← Option.some.inj h]
    | false => cases h
  | _ => cases h

lemma storable_bound? {v w : Json} (h : bound? v = some w) (hv : Json.Storable levels v) :
    Json.Storable levels w := by
  cases v with
  | int bound =>
    rw [bound?] at h
    split at h
    · rwa [← Option.some.inj h]
    · cases h
  | _ => cases h

lemma storable_records? {v w : Json} (h : records? v = some w) (hv : Json.Storable levels v) :
    Json.Storable levels w := by
  cases v with
  | obj records =>
    obtain rfl := Option.some.inj h
    cases levels with
    | zero => cases hv
    | succ levels => exact hv.refine fun _ _ _ => SessionRecord.storable_sanitised?
  | _ => cases h

lemma storable_sanitised (h : Json.Storable levels (.obj fields)) :
    Json.Storable levels (.obj (sanitised fields)) := by
  cases levels with
  | zero => cases h
  | succ levels =>
    refine h.refine fun name v w hw hv => ?_
    rw [sanitisedField] at hw
    split at hw
    · exact storable_preference? hw hv
    split at hw
    · exact storable_bound? hw hv
    split at hw
    · exact storable_records? hw hv
    · rwa [← Option.some.inj hw]

lemma showHidden_sanitised (h : (fields.map Prod.fst).Nodup) :
    showHidden (sanitised fields) = showHidden fields := by
  have hkey : sanitisedField showHiddenKey = preference? := rfl
  rw [showHidden, showHidden, sanitised, Fields.get?_refine h, hkey]
  cases Fields.get? fields showHiddenKey with
  | none => rfl
  | some value =>
    cases value with
    | bool value => cases value <;> rfl
    | _ => rfl

lemma maxTreeDepth_sanitised (h : (fields.map Prod.fst).Nodup) :
    maxTreeDepth (sanitised fields) = maxTreeDepth fields := by
  have hkey : sanitisedField maxTreeDepthKey = bound? := rfl
  rw [maxTreeDepth, maxTreeDepth, sanitised, Fields.get?_refine h, hkey]
  cases Fields.get? fields maxTreeDepthKey with
  | none => rfl
  | some value =>
    cases value with
    | int bound =>
      rw [Option.bind_some, bound?]
      by_cases hbound : 0 < bound
      · simp only [if_pos hbound]
      · simp only [if_neg hbound]
    | _ => rfl

lemma record?_sanitised (h : Json.Storable levels (.obj fields)) (name : WideText) :
    Session.record? (sanitised fields) name = Session.record? fields name := by
  have hkey : sanitisedField sessionsKey = records? := rfl
  rw [Session.record?_eq (storable_sanitised h), Session.record?_eq h, sanitised,
    Fields.get?_refine h.names, hkey]
  cases hget : Fields.get? fields sessionsKey with
  | none => rfl
  | some value =>
    cases value with
    | obj records =>
      obtain ⟨below, hrecords⟩ : ∃ below, Json.Storable below (.obj records) := by
        cases h with
        | obj _ _ hvalues => exact ⟨_, hvalues _ (Fields.mem_of_get?_eq_some hget)⟩
      rw [Option.bind_some, records?, Option.bind_some, Option.bind_some, Json.field?, Json.field?,
        Fields.get?_refine hrecords.names]
      cases hrecord : Fields.get? records name with
      | none => rfl
      | some record =>
        cases hrecords with
        | obj _ _ hvalues =>
          exact SessionRecord.of?_sanitised (hvalues _ (Fields.mem_of_get?_eq_some hrecord))
    | _ => rfl

/-- Sanitised settings are read like those before. -/
theorem alike_sanitised (h : Json.Storable levels (.obj fields)) :
    Alike fields (sanitised fields) where
  showHidden := showHidden_sanitised h.names
  maxTreeDepth := maxTreeDepth_sanitised h.names
  record := record?_sanitised h

end Sanitised

end Settings

end Sidebar
