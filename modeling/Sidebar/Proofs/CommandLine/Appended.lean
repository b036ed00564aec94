import Sidebar.CommandLine.Options
import Sidebar.Proofs.Outcome

/-!
# Options behind a command line

Words are read from the front, so an option that is put behind a command line is read after all of
it. Only two things can keep it from its meaning: a question that has been asked before, and a word
behind which nothing is an option.
-/

namespace Sidebar.CommandLine

/-- A command line that is read, asks no question, and leaves the words behind it their meaning. -/
structure OpenEnded (argv : List String) (args : Arguments) : Prop where
  parsed : parse argv = .ok args
  separator : "--" ∉ argv
  unasked : ∀ kinds, classifyAll argv = .ok kinds → ∀ name value,
    Word.option name value ∈ kinds → name ∉ OptionName.questions

/-! ### Kinds of words -/

lemma classifyAll_append {front back : List String} (hfront : "--" ∉ front) {kinds more : List Word}
    (h : classifyAll front = .ok kinds) (hback : classifyAll back = .ok more) :
    classifyAll (front ++ back) = .ok (kinds ++ more) := by
  induction front generalizing kinds with
  | nil =>
    obtain rfl := Except.ok.inj h
    exact hback
  | cons word rest ih =>
    rw [List.mem_cons, not_or] at hfront
    rw [classifyAll, if_neg (Ne.symm hfront.1)] at h
    obtain ⟨kind, hkind, h⟩ := bind_eq_ok_iff.mp h
    obtain ⟨others, hothers, h⟩ := bind_eq_ok_iff.mp h
    obtain rfl := Except.ok.inj h
    rw [List.cons_append, classifyAll, if_neg (Ne.symm hfront.1), hkind, ih hfront.2 hothers]
    rfl

/-- A word that begins with a slash is an argument. -/
lemma classify_of_slash {word : String} {rest : List Char} (h : word.toList = '/' :: rest) :
    classify word = .ok (.argument word) := by
  simp [classify, h]

lemma classify_long {name : OptionName} : classify name.long = .ok (.option name none) := by
  cases name <;> cbv

lemma classifyAll_option (name : OptionName) {word : String} {rest : List Char}
    (h : word.toList = '/' :: rest) :
    classifyAll [name.long, word] = .ok [.option name none, .argument word] := by
  have hname : name.long ≠ "--" := by cases name <;> decide
  have hword : word ≠ "--" := by
    rintro rfl
    cases h
  rw [classifyAll, if_neg hname, classify_long, classifyAll, if_neg hword, classify_of_slash h]
  rfl

/-! ### Reading -/

namespace Reading

variable {r r' : Reading} {kinds more : List Word}

/-- What is read behind other words is read from where those lead to. -/
lemma words_append (h : words r kinds = .ok r')
    (hmore : ∀ text rest, more ≠ .argument text :: rest) :
    words r (kinds ++ more) = words r' more := by
  fun_induction words r kinds with
  | case1 r =>
    obtain rfl := Except.ok.inj h
    rfl
  -- words that are no options
  | case2 r text rest ih => exact ih h
  | case3 r rest ih => exact ih h
  | case4 r text rest ih => exact ih h
  -- a call for help ends the reading
  | case5 r rest => cases h
  | case6 r attached rest => cases h
  -- an option with a value attached to it
  | case7 r name value rest hvalue ih =>
    obtain ⟨taken, htaken, h⟩ := bind_eq_ok_iff.mp h
    rw [List.cons_append, words, if_pos hvalue, htaken]
    exact ih taken h
  | case8 r name value rest hvalue => cases h
  -- an option before an argument, which is its value or stands for itself
  | case9 r name value rest hvalue ih =>
    obtain ⟨taken, htaken, h⟩ := bind_eq_ok_iff.mp h
    rw [List.cons_append, List.cons_append, words, if_pos hvalue, htaken]
    exact ih taken h
  | case10 r name value rest hvalue ih =>
    obtain ⟨taken, htaken, h⟩ := bind_eq_ok_iff.mp h
    rw [List.cons_append, List.cons_append, words, if_neg hvalue, htaken]
    exact ih taken h
  -- an option before anything else
  | case11 r name rest hrest hvalue => cases h
  | case12 r name rest hrest hvalue ih =>
    obtain ⟨taken, htaken, h⟩ := bind_eq_ok_iff.mp h
    -- the option is not followed by a value, not even where the first words end
    have hbehind : ∀ value others, rest ++ more = .argument value :: others → False := by
      intro value others hothers
      cases rest with
      | nil => exact hmore value others hothers
      | cons kind rest => exact hrest value rest (by rw [(List.cons.inj hothers).1])
    rw [List.cons_append, words, if_neg hvalue, htaken]
    · exact ih taken h
    · exact hbehind

/-- No question has been asked. -/
structure Unasked (r : Reading) : Prop where
  asked : ∀ name ∈ r.asked, name ∉ OptionName.questions
  query : r.arguments.query = .listOpen

/-- An option is given its meaning, if no question has been asked. -/
lemma take_of_unasked (h : r.Unasked) {name : OptionName} (hname : name ≠ .help) (value : Operand) :
    r.take name value = .ok { r with
      arguments := set r.arguments name value
      asked := name :: r.asked
      atRoot := false } := by
  have hothers : (OptionName.questions.filter fun other =>
      other ≠ name && r.asked.contains other) = [] := by
    rw [List.filter_eq_nil_iff]
    intro other hother hasked
    rw [Bool.and_eq_true, List.contains_iff_mem] at hasked
    exact h.asked other hasked.2 hother
  rw [take, if_neg hname, hothers, ite_self]

namespace Unasked

lemma argument (h : r.Unasked) (text : String) : (r.argument text).Unasked := by
  rw [Reading.argument]
  split
  · exact ⟨h.asked, h.query⟩
  · exact ⟨h.asked, h.query⟩

lemma separator (h : r.Unasked) : r.separator.Unasked := by
  rw [Reading.separator]
  split
  · exact ⟨h.asked, h.query⟩
  · exact ⟨h.asked, h.query⟩

lemma take (h : r.Unasked) {name : OptionName} (hname : name ∉ OptionName.questions)
    {value : Operand} (htake : r.take name value = .ok r') : r'.Unasked := by
  by_cases hhelp : name = .help
  · rw [Reading.take, if_pos hhelp] at htake
    cases htake
  · rw [take_of_unasked h hhelp] at htake
    obtain rfl := Except.ok.inj htake
    refine ⟨List.forall_mem_cons.mpr ⟨hname, h.asked⟩, ?_⟩
    rw [← h.query]
    cases name <;> first | rfl | exact absurd (by decide) hname

/-- Words without a question in them ask none. -/
lemma words (h : r.Unasked)
    (hkinds : ∀ name value, Word.option name value ∈ kinds → name ∉ OptionName.questions)
    (hwords : words r kinds = .ok r') : r'.Unasked := by
  have hrest : ∀ {kind : Word} {rest : List Word},
      (∀ name value, Word.option name value ∈ kind :: rest → name ∉ OptionName.questions) →
      ∀ name value, Word.option name value ∈ rest → name ∉ OptionName.questions :=
    fun hall name value hmem => hall name value (List.mem_cons_of_mem _ hmem)
  fun_induction Reading.words r kinds with
  | case1 r =>
    obtain rfl := Except.ok.inj hwords
    exact h
  | case2 r text rest ih => exact ih (h.argument text) (hrest hkinds) hwords
  | case3 r rest ih => exact ih h.separator (hrest hkinds) hwords
  | case4 r text rest ih => exact ih ⟨h.asked, h.query⟩ (hrest hkinds) hwords
  | case7 r name value rest hvalue ih =>
    obtain ⟨taken, htaken, hwords⟩ := bind_eq_ok_iff.mp hwords
    exact ih taken (h.take (hkinds name _ List.mem_cons_self) htaken) (hrest hkinds) hwords
  | case9 r name value rest hvalue ih =>
    obtain ⟨taken, htaken, hwords⟩ := bind_eq_ok_iff.mp hwords
    exact ih taken (h.take (hkinds name _ List.mem_cons_self) htaken) (hrest (hrest hkinds)) hwords
  | case10 r name value rest hvalue ih =>
    obtain ⟨taken, htaken, hwords⟩ := bind_eq_ok_iff.mp hwords
    have htaken := h.take (hkinds name _ List.mem_cons_self) htaken
    exact ih taken (htaken.argument value) (hrest (hrest hkinds)) hwords
  | case12 r name rest hnone hvalue ih =>
    obtain ⟨taken, htaken, hwords⟩ := bind_eq_ok_iff.mp hwords
    exact ih taken (h.take (hkinds name _ List.mem_cons_self) htaken) (hrest hkinds) hwords
  | _ => cases hwords

end Unasked

end Reading

namespace OpenEnded

variable {argv : List String} {args : Arguments}

lemma exists_reading (h : OpenEnded argv args) :
    ∃ kinds reading, classifyAll argv = .ok kinds ∧ Reading.words {} kinds = .ok reading ∧
      reading.Unasked ∧ reading.extras.isEmpty = true ∧ reading.arguments = args := by
  obtain ⟨kinds, hkinds, hparse⟩ := bind_eq_ok_iff.mp h.parsed
  have hkinds := mapError_eq_ok_iff.mp hkinds
  obtain ⟨reading, hreading, hfinish⟩ := bind_eq_ok_iff.mp hparse
  have hstart : ({} : Reading).Unasked := ⟨by simp, rfl⟩
  have hunasked := hstart.words (h.unasked kinds hkinds) hreading
  rw [Reading.finish] at hfinish
  split at hfinish
  · next hextras =>
    exact ⟨kinds, reading, hkinds, hreading, hunasked, hextras, Except.ok.inj hfinish⟩
  · cases hfinish

lemma query (h : OpenEnded argv args) : args.query = .listOpen := by
  obtain ⟨kinds, reading, -, -, hunasked, -, rfl⟩ := h.exists_reading
  exact hunasked.query

/-- An option with a path as its value can be put behind an open-ended command line. -/
theorem parse_append (h : OpenEnded argv args) (name : OptionName)
    (hname : name.takesValue = true) {path : String} {rest : List Char}
    (hpath : path.toList = '/' :: rest) :
    parse (argv ++ [name.long, path]) = .ok (Reading.set args name (some path)) := by
  obtain ⟨kinds, reading, hkinds, hreading, hunasked, hextras, rfl⟩ := h.exists_reading
  have hhelp : name ≠ .help := by
    rintro rfl
    cases hname
  have hall := classifyAll_append h.separator hkinds (classifyAll_option name hpath)
  have hwords : Reading.words {} (kinds ++ [.option name none, .argument path]) =
      Reading.words reading [.option name none, .argument path] :=
    Reading.words_append hreading (by simp)
  have htake := Reading.take_of_unasked hunasked hhelp (some path)
  rw [parse, hall]
  simp only [mapError_ok, bind, Except.bind, hwords]
  rw [Reading.words, if_pos hname, htake]
  simp [Reading.words, Reading.finish, hextras, bind, Except.bind]

end OpenEnded

end Sidebar.CommandLine
