import Sidebar.Tree.Snapshot
import Mathlib.Data.List.TakeWhile
import Mathlib.Tactic.Lemma

/-!
# Last segments

An entry without a name is named for the end of its path: for what stands between the last slash
and the slashes at the end, which are dropped. A path of slashes alone is its own name.
-/

namespace Sidebar

/-- The name is the last segment of the path, or the path is nothing but slashes and the name is the
whole of it. -/
inductive LastSegment (path : String) : String → Prop
  | slashes (h : ∀ c ∈ path.toList, c = '/') : LastSegment path path
  | segment {name : String} {front back : List Char}
      (h : path.toList = front ++ name.toList ++ back) (hfull : name ≠ "")
      (hname : '/' ∉ name.toList) (hfront : ∀ c ∈ front.getLast?, c = '/')
      (hback : ∀ c ∈ back, c = '/') : LastSegment path name

/-- The characters of a path from its end on: slashes, the last segment, and what it stands below.
-/
structure EndsIn (reversed back segment front : List Char) : Prop where
  split : reversed = back ++ (segment ++ front)
  slash_back : ∀ c ∈ back, c = '/'
  plain : ∀ c ∈ segment, c ≠ '/'
  slash_front : ∀ c ∈ front.head?, c = '/'
  /-- A path of slashes alone stands below nothing. -/
  front_eq_nil : segment = [] → front = []

namespace EndsIn

variable {reversed back segment front : List Char}

lemma exists_split (reversed : List Char) :
    ∃ back segment front, EndsIn reversed back segment front := by
  have hstop : ∀ (p : Char → Bool) (l : List Char), ∀ c ∈ (l.dropWhile p).head?, p c = false := by
    intro p l c hc
    have hhead := List.head?_dropWhile_not p l
    rw [Option.mem_def.mp hc] at hhead
    exact hhead
  generalize hrest : reversed.dropWhile (· = '/') = rest
  refine ⟨reversed.takeWhile (· = '/'), rest.takeWhile (· ≠ '/'), rest.dropWhile (· ≠ '/'),
    ?_, ?_, ?_, ?_, ?_⟩
  · rw [List.takeWhile_append_dropWhile, ← hrest, List.takeWhile_append_dropWhile]
  · exact fun c hc => by simpa using List.mem_takeWhile_imp hc
  · exact fun c hc => by simpa using List.mem_takeWhile_imp hc
  · exact fun c hc => by simpa using hstop _ _ c hc
  · intro hnone
    cases rest with
    | nil => rfl
    | cons c rest =>
      have hplain := hstop (· = '/') reversed c (by rw [hrest]; rfl)
      simp [of_decide_eq_false hplain] at hnone

/-- Scanning for what is no slash, and from there for a slash, finds the segment. -/
lemma takeWhile_dropWhile (h : EndsIn reversed back segment front) :
    (reversed.dropWhile (· = '/')).takeWhile (· ≠ '/') = segment := by
  rw [h.split, List.dropWhile_append_of_pos (by simpa using h.slash_back)]
  cases hsegment : segment with
  | nil => rw [h.front_eq_nil hsegment]; rfl
  | cons c rest =>
    have hc : c ≠ '/' := h.plain c (by simp [hsegment])
    rw [List.cons_append, List.dropWhile_cons_of_neg (by simpa using hc), ← List.cons_append,
      ← hsegment, List.takeWhile_append_of_pos (by simpa using h.plain)]
    cases hfront : front with
    | nil => simp
    | cons d above => simp [h.slash_front d (by rw [hfront]; rfl)]

end EndsIn

namespace LastSegment

variable {path name : String}

lemma ne_empty (h : LastSegment path name) (hpath : path ≠ "") : name ≠ "" := by
  cases h with
  | slashes => exact hpath
  | segment _ hfull => exact hfull

/-- The name that is made from a path is its last segment. -/
theorem of_defaultName (path : String) : LastSegment path (defaultName path) := by
  obtain ⟨back, last, front, h⟩ := EndsIn.exists_split path.toList.reverse
  have hpath : path.toList = front.reverse ++ last.reverse ++ back.reverse := by
    rw [← List.reverse_append, ← List.reverse_append, ← h.split, List.reverse_reverse]
  rw [defaultName, h.takeWhile_dropWhile]
  by_cases hnone : last = []
  · rw [hnone]
    refine .slashes fun c hc => ?_
    rw [hpath, hnone, h.front_eq_nil hnone] at hc
    exact h.slash_back c (by simpa using hc)
  · rw [if_neg (by simpa using hnone)]
    refine @segment path _ front.reverse back.reverse ?_ ?_ ?_ ?_ ?_
    · rw [String.toList_ofList, hpath]
    · simpa [String.ext_iff] using hnone
    · rw [String.toList_ofList]
      exact fun hmem => h.plain _ (List.mem_reverse.mp hmem) rfl
    · rw [List.getLast?_reverse]
      exact h.slash_front
    · exact fun c hc => h.slash_back c (List.mem_reverse.mp hc)

/-- A path has one last segment. -/
theorem eq_defaultName (h : LastSegment path name) : name = defaultName path := by
  rw [defaultName]
  cases h with
  | slashes hslashes =>
    have h : EndsIn path.toList.reverse path.toList.reverse [] [] :=
      ⟨by simp, fun c hc => hslashes c (List.mem_reverse.mp hc), by simp, by simp, fun _ => rfl⟩
    rw [h.takeWhile_dropWhile]
    rfl
  | @segment _ front back hpath hfull hname hfront hback =>
    have hfull' : name.toList.reverse ≠ [] := by simpa using hfull
    have h : EndsIn path.toList.reverse back.reverse name.toList.reverse front.reverse := by
      refine ⟨by rw [hpath, List.reverse_append, List.reverse_append],
        fun c hc => hback c (List.mem_reverse.mp hc), ?_, ?_, fun hnone => absurd hnone hfull'⟩
      · rintro c hc rfl
        exact hname (List.mem_reverse.mp hc)
      · rw [List.head?_reverse]
        exact hfront
    rw [h.takeWhile_dropWhile, List.reverse_reverse, String.ofList_toList,
      if_neg (by simpa using hfull)]

end LastSegment

end Sidebar
