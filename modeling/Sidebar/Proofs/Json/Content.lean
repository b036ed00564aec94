import Sidebar.Json.Parser
import Sidebar.Proofs.Text.WideText
import Mathlib.Algebra.Group.Nat.Defs
import Mathlib.Data.List.Nodup
import Mathlib.Data.List.Perm.Basic
import Mathlib.Tactic.Lemma

/-!
# The content of values

Two values have the same content when they differ in nothing but the order in which objects name
their fields. A value is storable when no object names a field twice, no number has too many
digits, no text holds a pair of surrogates, and no more than so many containers lie inside each
other.

Main statement: the sorted form of a storable value has the same content, and values with the same
content have the same sorted form.
-/

namespace Sidebar

namespace Fields

variable {τ : Type} [DecidableEq τ]

/-! ### Lookup -/

lemma get?_cons (field : τ × Json τ) (fields : Fields τ) (name : τ) :
    get? (field :: fields) name = if name = field.1 then some field.2 else get? fields name := by
  obtain ⟨other, value⟩ := field
  by_cases h : name = other
  · simp [get?, h]
  · have hb : (name == other) = false := by simpa using h
    simp [get?, List.lookup_cons, hb, h]

lemma mem_of_get?_eq_some {fields : Fields τ} {name : τ} {value : Json τ}
    (h : get? fields name = some value) : (name, value) ∈ fields := by
  obtain ⟨front, back, rfl, -⟩ := List.lookup_eq_some_iff.mp h
  exact List.mem_append_right front List.mem_cons_self

lemma isSome_get?_iff {fields : Fields τ} {name : τ} :
    (get? fields name).isSome ↔ name ∈ fields.map Prod.fst := by
  induction fields with
  | nil => simp [get?]
  | cons field rest ih =>
    rw [get?_cons, List.map_cons, List.mem_cons, ← ih]
    by_cases hname : name = field.1
    · simp [hname]
    · simp [hname]

/-- Where names differ, a field is found by its name. -/
lemma get?_eq_some_iff {fields : Fields τ} (h : (fields.map Prod.fst).Nodup) {name : τ}
    {value : Json τ} : get? fields name = some value ↔ (name, value) ∈ fields := by
  refine ⟨mem_of_get?_eq_some, fun hmem => ?_⟩
  induction fields with
  | nil => simp at hmem
  | cons field rest ih =>
    rw [List.map_cons, List.nodup_cons] at h
    rw [get?_cons]
    rcases List.mem_cons.mp hmem with rfl | hmem
    · simp
    · have hne : name ≠ field.1 := by
        rintro rfl
        exact h.1 (List.mem_map.mpr ⟨_, hmem, rfl⟩)
      rw [if_neg hne, ih h.2 hmem]

lemma get?_perm {fields fields' : Fields τ} (h : (fields.map Prod.fst).Nodup)
    (hperm : fields.Perm fields') (name : τ) : get? fields name = get? fields' name := by
  have h' : (fields'.map Prod.fst).Nodup := (hperm.map Prod.fst).nodup_iff.mp h
  rw [Option.ext_iff]
  intro value
  rw [get?_eq_some_iff h, get?_eq_some_iff h', hperm.mem_iff]

lemma get?_map (f : Json τ → Json τ) (fields : Fields τ) (name : τ) :
    get? (fields.map fun field => (field.1, f field.2)) name = (get? fields name).map f := by
  induction fields with
  | nil => rfl
  | cons field rest ih =>
    rw [List.map_cons, get?_cons, get?_cons, ih]
    split <;> rfl

/-! ### Setting a field -/

lemma names_put (name : τ) (value : Json τ) (fields : Fields τ) :
    (put name value fields).map Prod.fst =
      if name ∈ fields.map Prod.fst then fields.map Prod.fst
      else fields.map Prod.fst ++ [name] := by
  induction fields with
  | nil => rfl
  | cons field rest ih =>
    obtain ⟨other, old⟩ := field
    by_cases h : other = name
    · simp [put, h]
    · rw [put, if_neg h, List.map_cons, ih]
      by_cases hmem : name ∈ rest.map Prod.fst <;> simp [hmem, Ne.symm h]

lemma nodup_names_put {fields : Fields τ} (h : (fields.map Prod.fst).Nodup) (name : τ)
    (value : Json τ) : ((put name value fields).map Prod.fst).Nodup := by
  rw [names_put]
  split
  · exact h
  · next hmem =>
    rw [← List.concat_eq_append]
    exact h.concat hmem

lemma mem_put {name : τ} {value : Json τ} {fields : Fields τ} {field : τ × Json τ}
    (h : field ∈ put name value fields) : field = (name, value) ∨ field ∈ fields := by
  induction fields with
  | nil => simpa [put] using h
  | cons other rest ih =>
    rw [put] at h
    split at h
    · rcases List.mem_cons.mp h with h | h
      · exact Or.inl h
      · exact Or.inr (List.mem_cons_of_mem _ h)
    · rcases List.mem_cons.mp h with h | h
      · exact Or.inr (h ▸ List.mem_cons_self)
      · exact (ih h).imp_right (List.mem_cons_of_mem _)

lemma put_of_notMem {name : τ} (value : Json τ) {fields : Fields τ}
    (h : name ∉ fields.map Prod.fst) : put name value fields = fields ++ [(name, value)] := by
  induction fields with
  | nil => rfl
  | cons field rest ih =>
    obtain ⟨other, old⟩ := field
    rw [List.map_cons, List.mem_cons, not_or] at h
    rw [put, if_neg (Ne.symm h.1), ih h.2, List.cons_append]

end Fields

namespace Json

/-- The values agree in all but the order of fields. -/
inductive Same : Json → Json → Prop
  | refl (value : Json) : Same value value
  | arr {items items' : List Json} (length : items.length = items'.length)
      (item : ∀ (i : Nat) v w, items[i]? = some v → items'[i]? = some w → Same v w) :
      Same (.arr items) (.arr items')
  | obj {fields fields' : Fields}
      (names : ∀ name, (Fields.get? fields name).isSome = (Fields.get? fields' name).isSome)
      (value : ∀ name v w,
        Fields.get? fields name = some v → Fields.get? fields' name = some w → Same v w) :
      Same (.obj fields) (.obj fields')

/-- The value can be written and read again inside all but `levels` of the containers that may be
open at once. -/
inductive Storable : Nat → Json → Prop
  | null {levels : Nat} : Storable levels .null
  | bool {levels : Nat} (value : Bool) : Storable levels (.bool value)
  | int {levels : Nat} {value : Int} (digits : value.natAbs < 10 ^ Token.maxDigits) :
      Storable levels (.int value)
  | float {levels : Nat} (value : Binary64) : Storable levels (.float value)
  | str {levels : Nat} {text : WideText} (joined : text.Joined) : Storable levels (.str text)
  | arr {levels : Nat} {items : List Json} (item : ∀ v ∈ items, Storable levels v) :
      Storable (levels + 1) (.arr items)
  | obj {levels : Nat} {fields : Fields} (names : (fields.map Prod.fst).Nodup)
      (joined : ∀ field ∈ fields, field.1.Joined)
      (value : ∀ field ∈ fields, Storable levels field.2) :
      Storable (levels + 1) (.obj fields)

lemma nonEmptyText?_eq_some_iff {τ : Type} [DecidableEq τ] [EmptyCollection τ] {v : Json τ}
    {text : τ} : v.nonEmptyText? = some text ↔ v = .str text ∧ text ≠ ∅ := by
  cases v with
  | str other =>
    rw [nonEmptyText?, Json.str.injEq]
    split
    · next hempty =>
      refine iff_of_false (by simp) ?_
      rintro ⟨rfl, hfull⟩
      exact absurd hempty hfull
    · next hfull =>
      rw [Option.some_inj]
      refine ⟨?_, fun h => h.1⟩
      rintro rfl
      exact ⟨rfl, hfull⟩
  | _ => simp [nonEmptyText?]

/-! ### Sorted forms -/

lemma sortedItems_eq_map (items : List Json) : sortedItems items = items.map sorted := by
  induction items with
  | nil => rfl
  | cons v rest ih => rw [sortedItems, ih, List.map_cons]

lemma sortedFields_eq_map (fields : Fields) :
    sortedFields fields = fields.map fun field => (field.1, field.2.sorted) := by
  induction fields with
  | nil => rfl
  | cons field rest ih =>
    obtain ⟨name, value⟩ := field
    rw [sortedFields, ih, List.map_cons]

/-- The fields in the order of their names, with sorted values. -/
def inOrder (fields : Fields) : Fields :=
  (fields.map fun field => (field.1, field.2.sorted)).mergeSort fun a b => WideText.le a.1 b.1

@[simp] lemma sorted_arr (items : List Json) : (arr items).sorted = .arr (items.map sorted) := by
  rw [sorted, sortedItems_eq_map]

@[simp] lemma sorted_obj (fields : Fields) : (obj fields).sorted = .obj (inOrder fields) := by
  rw [sorted, sortedFields_eq_map, inOrder]

lemma inOrder_perm (fields : Fields) :
    (inOrder fields).Perm (fields.map fun field => (field.1, field.2.sorted)) :=
  List.mergeSort_perm _ _

lemma nodup_names_inOrder {fields : Fields} (h : (fields.map Prod.fst).Nodup) :
    ((inOrder fields).map Prod.fst).Nodup := by
  have hperm := (inOrder_perm fields).map Prod.fst
  rw [List.map_map] at hperm
  exact hperm.nodup_iff.mpr h

lemma get?_inOrder {fields : Fields} (h : (fields.map Prod.fst).Nodup) (name : WideText) :
    Fields.get? (inOrder fields) name = (Fields.get? fields name).map sorted := by
  rw [Fields.get?_perm (nodup_names_inOrder h) (inOrder_perm fields), Fields.get?_map]

/-- The order of the names settles the order of fields. -/
lemma inOrder_congr {fields fields' : Fields} (h : (fields.map Prod.fst).Nodup)
    (h' : (fields'.map Prod.fst).Nodup)
    (hget : ∀ name, (Fields.get? fields name).map sorted = (Fields.get? fields' name).map sorted) :
    inOrder fields = inOrder fields' := by
  have hnodup := nodup_names_inOrder h
  have hnodup' := nodup_names_inOrder h'
  have hperm : (inOrder fields).Perm (inOrder fields') := by
    refine (List.perm_ext_iff_of_nodup hnodup.of_map hnodup'.of_map).mpr fun field => ?_
    rw [← Fields.get?_eq_some_iff hnodup, ← Fields.get?_eq_some_iff hnodup',
      get?_inOrder h, get?_inOrder h', hget]
  have hsorted : ∀ fields : Fields,
      (inOrder fields).Pairwise fun a b => WideText.le a.1 b.1 := by
    intro fields
    refine List.pairwise_mergeSort ?_ ?_ _
    · exact fun a b c => WideText.le_trans
    · exact fun a b => WideText.le_total a.1 b.1
  refine hperm.eq_of_pairwise ?_ (hsorted fields) (hsorted fields')
  intro a b ha hb hab hba
  exact List.inj_on_of_nodup_map hnodup ha (hperm.mem_iff.mpr hb) (WideText.le_antisymm hab hba)

/-! ### Storable values -/

namespace Storable

variable {levels : Nat} {v : Json}

theorem mono (h : Storable levels v) {levels' : Nat} (hle : levels ≤ levels') :
    Storable levels' v := by
  induction h generalizing levels' with
  | null => exact .null
  | bool value => exact .bool value
  | int digits => exact .int digits
  | float value => exact .float value
  | str joined => exact .str joined
  | arr item ih =>
    obtain ⟨m, rfl⟩ := Nat.exists_eq_add_of_lt hle
    exact .arr fun v hv => ih v hv (by omega)
  | obj names joined value ih =>
    obtain ⟨m, rfl⟩ := Nat.exists_eq_add_of_lt hle
    exact .obj names joined fun field hfield => ih field hfield (by omega)

theorem sorted (h : Storable levels v) : Storable levels v.sorted := by
  induction h with
  | null => exact .null
  | bool value => exact .bool value
  | int digits => exact .int digits
  | float value => exact .float value
  | str joined => exact .str joined
  | arr item ih =>
    rw [sorted_arr]
    refine .arr fun v hv => ?_
    obtain ⟨w, hw, rfl⟩ := List.mem_map.mp hv
    exact ih w hw
  | obj names joined value ih =>
    rw [sorted_obj]
    have hold : ∀ {fields : Fields}, ∀ field ∈ inOrder fields,
        ∃ other ∈ fields, (other.1, other.2.sorted) = field := fun field hfield =>
      List.mem_map.mp ((inOrder_perm _).mem_iff.mp hfield)
    refine .obj (nodup_names_inOrder names) (fun field hfield => ?_) fun field hfield => ?_
    · obtain ⟨other, hother, rfl⟩ := hold field hfield
      exact joined other hother
    · obtain ⟨other, hother, rfl⟩ := hold field hfield
      exact ih other hother

lemma empty : Storable (levels + 1) (.obj []) :=
  .obj List.nodup_nil (fun _ h => absurd h List.not_mem_nil) fun _ h => absurd h List.not_mem_nil

lemma names {fields : Fields} (h : Storable levels (.obj fields)) :
    (fields.map Prod.fst).Nodup := by
  cases h with
  | obj names => exact names

lemma of_get? {fields : Fields} (h : Storable (levels + 1) (.obj fields)) {name : WideText}
    (hv : Fields.get? fields name = some v) : Storable levels v := by
  cases h with
  | obj _ _ value => exact value _ (Fields.mem_of_get?_eq_some hv)

theorem put {fields : Fields} (h : Storable (levels + 1) (.obj fields)) {name : WideText}
    (hname : name.Joined) (hv : Storable levels v) :
    Storable (levels + 1) (.obj (Fields.put name v fields)) := by
  cases h with
  | obj names joined value =>
    refine .obj (Fields.nodup_names_put names name v) (fun field hfield => ?_)
      fun field hfield => ?_
    · rcases Fields.mem_put hfield with rfl | hfield
      · exact hname
      · exact joined field hfield
    · rcases Fields.mem_put hfield with rfl | hfield
      · exact hv
      · exact value field hfield

/-- The sorted form has the same content. -/
theorem same_sorted (h : Storable levels v) : Same v v.sorted := by
  induction h with
  | null => exact .refl _
  | bool value => exact .refl _
  | int digits => exact .refl _
  | float value => exact .refl _
  | str joined => exact .refl _
  | arr item ih =>
    rw [sorted_arr]
    refine .arr (List.length_map _).symm fun i v w hv hw => ?_
    rw [List.getElem?_map, hv, Option.map_some, Option.some.injEq] at hw
    rw [← hw]
    exact ih v (List.mem_of_getElem? hv)
  | obj names joined value ih =>
    rw [sorted_obj]
    refine .obj (fun name => by rw [get?_inOrder names, Option.isSome_map]) fun name v w hv hw => ?_
    rw [get?_inOrder names, hv, Option.map_some, Option.some.injEq] at hw
    rw [← hw]
    exact ih _ (Fields.mem_of_get?_eq_some hv)

end Storable

/-! ### Content -/

namespace Same

variable {a b c : Json}

theorem symm (h : Same a b) : Same b a := by
  induction h with
  | refl value => exact .refl value
  | arr length item ih => exact .arr length.symm fun i v w hv hw => ih i w v hw hv
  | obj names value ih =>
    exact .obj (fun name => (names name).symm) fun name v w hv hw => ih name w v hw hv

theorem trans (hab : Same a b) (hbc : Same b c) : Same a c := by
  induction hab generalizing c with
  | refl value => exact hbc
  | arr length item ih =>
    cases hbc with
    | refl value => exact .arr length item
    | arr length' item' =>
      refine .arr (length.trans length') fun i v w hv hw => ?_
      obtain ⟨hi, -⟩ := List.getElem?_eq_some_iff.mp hv
      have hmiddle := List.getElem?_eq_getElem (length ▸ hi)
      exact ih i v _ hv hmiddle (item' i _ w hmiddle hw)
  | obj names value ih =>
    cases hbc with
    | refl value' => exact .obj names value
    | obj names' value' =>
      refine .obj (fun name => (names name).trans (names' name)) fun name v w hv hw => ?_
      obtain ⟨u, hu⟩ := Option.isSome_iff_exists.mp ((names name).symm.trans (by rw [hv]; rfl))
      exact ih name v u hv hu (value' name u w hu hw)

/-- Storable values with the same content have the same sorted form. -/
theorem sorted_eq (h : Same a b) {levels levels' : Nat} (ha : Storable levels a)
    (hb : Storable levels' b) : a.sorted = b.sorted := by
  induction h generalizing levels levels' with
  | refl value => rfl
  | @arr items items' length item ih =>
    cases ha with
    | arr ha =>
      cases hb with
      | arr hb =>
        rw [sorted_arr, sorted_arr]
        refine congrArg Json.arr (List.ext_getElem? fun i => ?_)
        rw [List.getElem?_map, List.getElem?_map]
        by_cases hi : i < items.length
        · have hv := List.getElem?_eq_getElem hi
          have hw := List.getElem?_eq_getElem (length ▸ hi)
          rw [hv, hw, Option.map_some, Option.map_some,
            ih i _ _ hv hw (ha _ (List.getElem_mem _)) (hb _ (List.getElem_mem _))]
        · rw [List.getElem?_eq_none (Nat.le_of_not_lt hi),
            List.getElem?_eq_none (length ▸ Nat.le_of_not_lt hi)]
  | @obj fields fields' names value ih =>
    rw [sorted_obj, sorted_obj]
    refine congrArg Json.obj (inOrder_congr ha.names hb.names fun name => ?_)
    cases ha with
    | obj _ _ ha =>
      cases hb with
      | obj _ _ hb =>
        cases hv : Fields.get? fields name with
        | none =>
          have hw := names name
          rw [hv, Option.isSome_none, eq_comm, Option.isSome_eq_false_iff,
            Option.isNone_iff_eq_none] at hw
          rw [hw]
        | some v =>
          obtain ⟨w, hw⟩ := Option.isSome_iff_exists.mp ((names name).symm.trans (by rw [hv]; rfl))
          rw [hw, Option.map_some, Option.map_some,
            ih name v w hv hw (ha _ (Fields.mem_of_get?_eq_some hv))
              (hb _ (Fields.mem_of_get?_eq_some hw))]

end Same

end Json

end Sidebar
