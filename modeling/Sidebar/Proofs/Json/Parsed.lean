import Sidebar.Proofs.Json.Content
import Sidebar.Proofs.Numeric.ReadBack
import Sidebar.Proofs.Outcome

/-!
# Values that have been read

Reading a text makes storable values only: numbers with too many digits are refused, objects name
each of their fields once, pairs of surrogates are joined, and containers lie inside each other no
deeper than the stack may grow.

The invariant is that of the machine: what the containers of the stack hold so far may stand inside
the containers below them.
-/

namespace Sidebar.Json

/-! ### Tokens -/

/-- A token that is a value is a storable one, and one that is a text has no pairs of surrogates. -/
structure Token.IsStorable (t : Token) : Prop where
  scalar : ∀ value, t = .scalar value → ∀ levels, Storable levels value
  text : ∀ text, t = .text text → text.Joined

lemma natAbs_toInt (n : Numeral) : n.toInt.natAbs = decimalValue n.whole := by
  rw [Numeral.toInt]
  split
  · rw [Int.natAbs_neg, Int.natAbs_natCast]
  · rw [Int.natAbs_natCast]

lemma isDigit_of_scanWhole {cs whole after : List Char}
    (h : Numeral.scanWhole cs = some (whole, after)) : ∀ c ∈ whole, c.isDigit := by
  cases cs with
  | nil => simp [Numeral.scanWhole] at h
  | cons c rest =>
    rw [Numeral.scanWhole] at h
    split at h
    · next hc =>
      obtain ⟨rfl, -⟩ : [c] = whole ∧ rest = after := by simpa using h
      intro d hd
      rw [List.mem_singleton.mp hd, hc]
      rfl
    · split at h
      · next hc =>
        obtain ⟨rfl, -⟩ : c :: rest.takeWhile Char.isDigit = whole ∧ _ := by simpa using h
        intro d hd
        rcases List.mem_cons.mp hd with rfl | hd
        · exact hc
        · exact List.mem_takeWhile_imp hd
      · simp at h

lemma storable_of_ofNumeral {cs after : List Char} {n : Numeral}
    (h : Numeral.scan cs = some (n, after)) {value : Json}
    (hvalue : Token.ofNumeral n = .scalar value) (levels : Nat) : Storable levels value := by
  rw [Token.ofNumeral] at hvalue
  split at hvalue
  · obtain rfl := Token.scalar.inj hvalue
    exact .float _
  · split at hvalue
    · next hlength =>
      obtain rfl := Token.scalar.inj hvalue
      obtain ⟨afterWhole, hwhole, -⟩ := Numeral.scan_eq_some_iff.mp h
      refine .int ?_
      calc n.toInt.natAbs = decimalValue n.whole := natAbs_toInt n
        _ < 10 ^ n.whole.length := Numeral.decimalValue_lt (isDigit_of_scanWhole hwhole)
        _ ≤ 10 ^ Token.maxDigits := Nat.pow_le_pow_right (by decide) hlength
    · simp at hvalue

lemma ofNumeral_ne_text (n : Numeral) (text : WideText) : Token.ofNumeral n ≠ .text text := by
  rw [Token.ofNumeral]
  split
  · simp
  · split <;> simp

lemma isStorable_scan (c : Char) (rest : List Char) : (Token.scan c rest).1.IsStorable := by
  have hwords : ∀ word ∈ Token.words, ∀ levels, Storable levels word.2 := by
    intro word hword levels
    simp only [Token.words, List.mem_cons, List.not_mem_nil, or_false] at hword
    rcases hword with rfl | rfl | rfl | rfl | rfl | rfl <;> constructor
  unfold Token.scan
  split
  case h_7 =>
    split
    · exact ⟨fun value hvalue => by simp at hvalue, fun text htext => by
        rw [← Token.text.inj htext]
        exact WideText.joined_joinPairs _⟩
    · exact ⟨by simp, by simp⟩
  case h_8 =>
    split
    · next word v hword =>
      refine ⟨fun value hvalue => ?_, by simp⟩
      obtain rfl := Token.scalar.inj hvalue
      exact hwords _ (List.mem_of_find?_eq_some hword)
    · split
      · next n after hscan =>
        exact ⟨fun value hvalue => storable_of_ofNumeral hscan hvalue,
          fun text htext => absurd htext (ofNumeral_ne_text n text)⟩
      · exact ⟨by simp, by simp⟩
  all_goals exact ⟨by simp, by simp⟩

lemma isStorable_of_mem_tokens {cs : List Char} : ∀ t ∈ tokens cs, t.IsStorable := by
  fun_induction tokens cs with
  | case1 => simp
  | case2 c rest _ ih => exact ih
  | case3 c rest _ ih =>
    intro t ht
    rcases List.mem_cons.mp ht with rfl | ht
    · exact isStorable_scan c rest
    · exact ih t ht

/-! ### The machine -/

/-- What a container holds so far is storable inside all but `levels` containers. -/
def Frame.Holds (levels : Nat) : Frame → Prop
  | .item items => ∀ v ∈ items, Storable levels v
  | .member fields name => Storable (levels + 1) (.obj fields) ∧ name.Joined

/-- The stack is not too high, and what it holds may stand in it. -/
def Stacked : List Frame → Prop
  | [] => True
  | frame :: stack =>
    stack.length < maxNesting ∧ frame.Holds (maxNesting - (stack.length + 1)) ∧ Stacked stack

/-- Open containers count as frames of the stack. -/
def Progress.Sound : Progress → Prop
  | .valueStart stack => Stacked stack
  | .arrayStart stack => Stacked (.item [] :: stack)
  | .arrayRest items stack => Stacked (.item items :: stack)
  | .objectStart stack => Stacked (.member [] "" :: stack)
  | .memberName fields stack => Stacked (.member fields "" :: stack)
  | .memberColon fields name stack => Stacked (.member fields name :: stack)
  | .objectRest fields stack => Stacked (.member fields "" :: stack)
  | .finished value => Storable maxNesting value

namespace Stacked

variable {stack : List Frame}

lemma complete (h : Stacked stack) {value : Json}
    (hvalue : Storable (maxNesting - stack.length) value) :
    (Progress.complete value stack).Sound := by
  cases stack with
  | nil => exact hvalue
  | cons frame stack =>
    obtain ⟨hlength, hholds, hstack⟩ := h
    cases frame with
    | item items =>
      refine ⟨hlength, ?_, hstack⟩
      intro v hv
      rcases List.mem_cons.mp hv with rfl | hv
      · exact hvalue
      · exact hholds v hv
    | member fields name =>
      exact ⟨hlength, ⟨hholds.1.put hholds.2 hvalue, .nil⟩, hstack⟩

/-- A finished container may stand where it was opened. -/
lemma complete_arr {items : List Json} (h : Stacked (.item items :: stack)) :
    (Progress.complete (.arr items.reverse) stack).Sound := by
  obtain ⟨hlength, hholds, hstack⟩ := h
  have hlevels : maxNesting - stack.length = maxNesting - (stack.length + 1) + 1 := by omega
  apply hstack.complete
  rw [hlevels]
  exact .arr fun v hv => hholds v (List.mem_reverse.mp hv)

lemma complete_obj {fields : Fields} {name : String} (h : Stacked (.member fields name :: stack)) :
    (Progress.complete (.obj fields) stack).Sound := by
  obtain ⟨hlength, hholds, hstack⟩ := h
  have hlevels : maxNesting - stack.length = maxNesting - (stack.length + 1) + 1 := by omega
  apply hstack.complete
  rw [hlevels]
  exact hholds.1

lemma beginValue (h : Stacked stack) {t : Token} (ht : t.IsStorable) {q : Progress}
    (hstep : Progress.beginValue stack t = .ok q) : q.Sound := by
  have hopen : ∀ {container : Container} {opened : Progress},
      Progress.openInside container opened stack = .ok q →
        stack.length < maxNesting ∧ opened = q := by
    intro container opened hopen
    rw [Progress.openInside] at hopen
    split at hopen
    · next hlength => exact ⟨hlength, Except.ok.inj hopen⟩
    · simp at hopen
  cases t with
  | scalar value =>
    obtain rfl := Except.ok.inj hstep
    exact h.complete (ht.scalar value rfl _)
  | text text =>
    obtain rfl := Except.ok.inj hstep
    exact h.complete (.str (ht.text text rfl))
  | openArray =>
    obtain ⟨hlength, rfl⟩ := hopen hstep
    exact ⟨hlength, fun v hv => absurd hv List.not_mem_nil, h⟩
  | openObject =>
    obtain ⟨hlength, rfl⟩ := hopen hstep
    exact ⟨hlength, ⟨.empty, .nil⟩, h⟩
  | _ => simp [Progress.beginValue] at hstep

end Stacked

/-- Each token keeps the machine sound. -/
theorem Progress.Sound.step {p q : Progress} (h : p.Sound) {t : Token} (ht : t.IsStorable)
    (hstep : p.step t = .ok q) : q.Sound := by
  unfold Progress.step at hstep
  split at hstep
  -- where a value begins
  case h_1 => exact Stacked.beginValue h ht hstep
  case h_3 => exact Stacked.beginValue h ht hstep
  -- where nothing fits
  case h_12 => simp at hstep
  all_goals obtain rfl := Except.ok.inj hstep
  -- where a container ends
  case h_2 => exact Stacked.complete_arr h
  case h_5 => exact Stacked.complete_arr h
  case h_6 => exact Stacked.complete_obj h
  case h_11 => exact Stacked.complete_obj h
  -- where a field is named
  case h_7 name => exact ⟨h.1, ⟨h.2.1.1, ht.text name rfl⟩, h.2.2⟩
  case h_8 name => exact ⟨h.1, ⟨h.2.1.1, ht.text name rfl⟩, h.2.2⟩
  all_goals exact h

theorem Progress.Sound.foldlM {p q : Progress} {ts : List Token} (h : p.Sound)
    (hts : ∀ t ∈ ts, t.IsStorable) (hread : ts.foldlM Progress.step p = .ok q) : q.Sound := by
  induction ts generalizing p with
  | nil =>
    obtain rfl := Except.ok.inj hread
    exact h
  | cons t ts ih =>
    rw [List.foldlM_cons] at hread
    obtain ⟨moved, hstep, hread⟩ := bind_eq_ok_iff.mp hread
    have hmoved : moved.Sound := h.step (hts t List.mem_cons_self) hstep
    exact ih hmoved (fun other hother => hts other (List.mem_cons_of_mem t hother)) hread

/-- What is read from a text is storable. -/
theorem storable_of_parse {text : String} {v : Json} (h : parse text = .ok v) :
    Storable maxNesting v := by
  obtain ⟨p, hread, h⟩ := bind_eq_ok_iff.mp h
  have hstart : (Progress.valueStart []).Sound := trivial
  have hsound : p.Sound := hstart.foldlM isStorable_of_mem_tokens hread
  cases p with
  | finished value =>
    obtain rfl := Except.ok.inj h
    exact hsound
  | _ => cases h

end Sidebar.Json
