import Sidebar.Proofs.Json.Content
import Sidebar.Proofs.Json.QuotedText
import Sidebar.Proofs.Numeric.ReadBack

/-!
# Reading values back

The text of a value drives the machine that reads it from where a value must begin to where the
value is complete, whatever follows the text.

Main statement: a storable value is read from its text as its sorted form.
-/

namespace Sidebar.Json

/-! ### Scalars -/

lemma tokens_words {rest : List Char} :
    ∀ word ∈ Token.words, tokens (word.1 ++ rest) = .scalar word.2 :: tokens rest := by
  have hscan : ∀ (c : Char) (cs : List Char) (v : Json), Token.isSpace c = false →
      Token.scan c (cs ++ rest) = (.scalar v, rest) →
      tokens (c :: cs ++ rest) = .scalar v :: tokens rest := by
    intro c cs v hc h
    rw [List.cons_append, tokens, if_neg (by simp [hc]), h]
  intro word hword
  simp only [Token.words, List.mem_cons, List.not_mem_nil, or_false] at hword
  rcases hword with rfl | rfl | rfl | rfl | rfl | rfl <;> exact hscan _ _ _ rfl rfl

/-- The text begins with a digit, or with a minus sign and a digit. -/
def BeginsNumber (cs : List Char) : Prop :=
  ∃ c rest, c.isDigit ∧ (cs = c :: rest ∨ cs = '-' :: c :: rest)

lemma beginsNumber_of_scan {cs after : List Char} {n : Numeral}
    (h : Numeral.scan cs = some (n, after)) : BeginsNumber cs := by
  have hdigit : ∀ {cs whole after : List Char}, Numeral.scanWhole cs = some (whole, after) →
      ∃ c rest, c.isDigit ∧ cs = c :: rest := by
    intro cs whole after h
    cases cs with
    | nil => simp [Numeral.scanWhole] at h
    | cons c rest =>
      refine ⟨c, rest, ?_, rfl⟩
      rw [Numeral.scanWhole] at h
      split at h
      · next hc => rw [hc]; rfl
      · split at h
        · next hc => exact hc
        · simp at h
  obtain ⟨afterWhole, hwhole, -⟩ := Numeral.scan_eq_some_iff.mp h
  obtain ⟨c, rest, hc, hcs⟩ := hdigit hwhole
  refine ⟨c, rest, hc, ?_⟩
  unfold Numeral.scanSign at hcs
  split at hcs
  · exact Or.inr (congrArg _ hcs)
  · exact Or.inl hcs

namespace BeginsNumber

variable {cs : List Char}

lemma find?_words (h : BeginsNumber cs) :
    Token.words.find? (fun word => word.1.isPrefixOf cs) = none := by
  obtain ⟨c, rest, hc, hcs⟩ := h
  have hne : ∀ d : Char, d.isDigit = false → d ≠ c := by
    rintro d hd rfl
    exact absurd hc (by simp [hd])
  rw [List.find?_eq_none]
  intro word hword
  simp only [Token.words, List.mem_cons, List.not_mem_nil, or_false] at hword
  rcases hcs with rfl | rfl <;> rcases hword with rfl | rfl | rfl | rfl | rfl | rfl <;>
    simp [List.isPrefixOf, hne]

/-- Where a number begins, neither a mark nor a word does. -/
lemma scan_eq (h : BeginsNumber cs) :
    ∃ first others, cs = first :: others ∧ Token.isSpace first = false ∧
      Token.scan first others =
        match Numeral.scan cs with
        | some (n, after) => (Token.ofNumeral n, after)
        | none => (.invalid, []) := by
  have hwords := h.find?_words
  obtain ⟨first, others, rfl, hfirst⟩ : ∃ first others, cs = first :: others ∧
      (first.isDigit = true ∨ first = '-') := by
    obtain ⟨c, rest, hc, rfl | rfl⟩ := h
    · exact ⟨c, rest, rfl, Or.inl hc⟩
    · exact ⟨'-', c :: rest, rfl, Or.inr rfl⟩
  have hne : ∀ d : Char, d.isDigit = false → d ≠ '-' → first ≠ d := by
    rintro d hd hminus rfl
    simp [hd, hminus] at hfirst
  refine ⟨first, others, rfl, by simp [Token.isSpace, hne], ?_⟩
  unfold Token.scan
  split
  case h_8 =>
    rcases Numeral.scan (first :: others) with _ | ⟨n, after⟩ <;>
      simp only [hwords]
  all_goals exact absurd hfirst (by decide)

end BeginsNumber

/-- A number that is nothing but a number is one token. -/
lemma tokens_of_scan {cs rest : List Char} {n : Numeral} (h : Numeral.scan cs = some (n, []))
    (hrest : StopsNumber rest) : tokens (cs ++ rest) = Token.ofNumeral n :: tokens rest := by
  have happend := Numeral.scan_append hrest h
  rw [List.nil_append] at happend
  obtain ⟨first, others, hfirst, hspace, hscan⟩ := (beginsNumber_of_scan happend).scan_eq
  rw [happend] at hscan
  rw [hfirst, tokens, if_neg (by simp [hspace]), hscan]

lemma tokens_int {value : Int} (hdigits : value.natAbs < 10 ^ Token.maxDigits) {rest : List Char}
    (hrest : StopsNumber rest) :
    tokens ((toString value).toList ++ rest) = .scalar (.int value) :: tokens rest := by
  have hlength : (Numeral.ofInt value).whole.length ≤ Token.maxDigits :=
    (Nat.length_toDigits_le_iff (by decide) (by decide)).mpr hdigits
  have htoken : Token.ofNumeral (Numeral.ofInt value) = .scalar (.int value) := by
    rw [Token.ofNumeral, if_neg (by simp [Numeral.ofInt, Numeral.isWhole]), if_pos hlength,
      Numeral.toInt_ofInt]
  rw [tokens_of_scan (Numeral.scan_toString value) hrest, htoken]

lemma tokens_float (value : Binary64) {rest : List Char} (hrest : StopsNumber rest) :
    tokens (value.text fileWords ++ rest) = .scalar (.float value) :: tokens rest := by
  cases value with
  | finite negative m =>
    obtain ⟨n, hscan, hwhole, hvalue⟩ := Binary64.exists_scan_text fileWords negative m
    have htoken : Token.ofNumeral n = .scalar (.float (.finite negative m)) := by
      rw [Token.ofNumeral, if_pos (by simp [hwhole]), hvalue]
    rw [tokens_of_scan hscan hrest, htoken]
  | infinite negative =>
    cases negative with
    | false => exact tokens_words ("Infinity".toList, _) (by simp [Token.words])
    | true => exact tokens_words ("-Infinity".toList, _) (by simp [Token.words])
  | nan => exact tokens_words ("NaN".toList, _) (by simp [Token.words])

/-! ### Reading on -/

/-- Reads a text from a state of the machine. -/
def readOn (p : Progress) (cs : List Char) : Except ParseError Progress :=
  (tokens cs).foldlM Progress.step p

lemma readOn_nil (p : Progress) : readOn p [] = .ok p := by
  rw [readOn, tokens]
  rfl

lemma readOn_of_tokens {p q : Progress} {cs rest : List Char} {t : Token}
    (htokens : tokens cs = t :: tokens rest) (hstep : p.step t = .ok q) :
    readOn p cs = readOn q rest := by
  rw [readOn, htokens, List.foldlM_cons, hstep]
  rfl

lemma readOn_space {c : Char} (hc : Token.isSpace c) (p : Progress) (rest : List Char) :
    readOn p (c :: rest) = readOn p rest := by
  rw [readOn, tokens, if_pos hc, readOn]

lemma readOn_lineBreak (p : Progress) (depth : Nat) (rest : List Char) :
    readOn p (lineBreak depth ++ rest) = readOn p rest := by
  have hblanks : ∀ n, readOn p (List.replicate n ' ' ++ rest) = readOn p rest := by
    intro n
    induction n with
    | zero => rfl
    | succ n ih => rw [List.replicate_succ, List.cons_append, readOn_space rfl, ih]
  rw [lineBreak, List.cons_append, readOn_space rfl, hblanks]

/-- A mark is one token. -/
lemma readOn_mark {p q : Progress} {c : Char} {t : Token} (hc : Token.isSpace c = false)
    {rest : List Char} (ht : Token.scan c rest = (t, rest)) (hstep : p.step t = .ok q) :
    readOn p (c :: rest) = readOn q rest := by
  refine readOn_of_tokens ?_ hstep
  rw [tokens, if_neg (by simp [hc]), ht]

lemma readOn_name {p q : Progress} {name : WideText} (hname : name.Joined)
    (hstep : p.step (.text name) = .ok q) (rest : List Char) :
    readOn p (writtenText name ++ rest) = readOn q rest :=
  readOn_of_tokens (by rw [tokens_writtenText, hname.joinPairs_eq]) hstep

/-- The machine waits for a value inside the containers of the stack. At the start of an array it
waits for the end of the array as well. -/
def Progress.AwaitsValue (p : Progress) (stack : List Frame) : Prop :=
  ∀ t, t ≠ .closeArray → p.step t = Progress.beginValue stack t

/-! ### Values -/

/-- The text leads the machine to where the value is complete, whatever follows. -/
def Reads (cs : List Char) (value : Json) (stack : List Frame) : Prop :=
  ∀ (p : Progress) (rest : List Char), p.AwaitsValue stack → StopsNumber rest →
    readOn p (cs ++ rest) = readOn (Progress.complete value stack) rest

section Containers

variable {stack : List Frame} {rest : List Char}

lemma awaitsValue_valueStart : (Progress.valueStart stack).AwaitsValue stack := fun _ _ => rfl

lemma awaitsValue_arrayStart : (Progress.arrayStart stack).AwaitsValue (.item [] :: stack) := by
  intro t ht
  cases t with
  | closeArray => exact absurd rfl ht
  | _ => rfl

lemma reads_of_tokens {cs : List Char} {value : Json}
    (h : ∀ rest, StopsNumber rest → tokens (cs ++ rest) = .scalar value :: tokens rest) :
    Reads cs value stack := by
  intro p rest hp hrest
  apply readOn_of_tokens (h rest hrest)
  rw [hp _ (by simp)]
  rfl

lemma reads_word (word : List Char × Json) (h : word ∈ Token.words) :
    Reads word.1 word.2 stack :=
  reads_of_tokens fun _ _ => tokens_words word h

lemma stopsNumber_lineBreak (depth : Nat) (rest : List Char) :
    StopsNumber (lineBreak depth ++ rest) := by
  simp [StopsNumber, lineBreak]

lemma stopsNumber_layoutItems (hrest : StopsNumber rest) (depth : Nat) (items : List Json) :
    StopsNumber (layoutItems depth items ++ rest) := by
  cases items with
  | nil => exact hrest
  | cons v items => simp [StopsNumber, layoutItems]

lemma stopsNumber_layoutFields (hrest : StopsNumber rest) (depth : Nat) (fields : Fields) :
    StopsNumber (layoutFields depth fields ++ rest) := by
  cases fields with
  | nil => exact hrest
  | cons field fields => simp [StopsNumber, layoutFields]

/-- The items behind the first one are read one after the other. -/
lemma readOn_layoutItems {depth : Nat} {items : List Json}
    (h : ∀ v ∈ items, ∀ frame, Reads (layout depth v) v (frame :: stack))
    (hrest : StopsNumber rest) (done : List Json) :
    readOn (.arrayRest done stack) (layoutItems depth items ++ rest) =
      readOn (.arrayRest (items.reverse ++ done) stack) rest := by
  induction items generalizing done with
  | nil => rfl
  | cons v items ih =>
    have hitem := h v List.mem_cons_self (.item done) (.valueStart (.item done :: stack))
      (layoutItems depth items ++ rest) awaitsValue_valueStart
      (stopsNumber_layoutItems hrest depth items)
    calc readOn (.arrayRest done stack) (layoutItems depth (v :: items) ++ rest)
        = readOn (.arrayRest done stack) (',' :: (lineBreak depth ++
            (layout depth v ++ (layoutItems depth items ++ rest)))) := by
          simp [layoutItems]
      _ = readOn (.valueStart (.item done :: stack))
            (layout depth v ++ (layoutItems depth items ++ rest)) := by
          rw [readOn_mark rfl rfl rfl, readOn_lineBreak]
      _ = readOn (.arrayRest (v :: done) stack) (layoutItems depth items ++ rest) := hitem
      _ = readOn (.arrayRest ((v :: items).reverse ++ done) stack) rest := by
          rw [ih (fun w hw => h w (List.mem_cons_of_mem v hw)), List.reverse_cons,
            List.append_assoc, List.singleton_append]

/-- A field of which the name has been read up to its quotes. -/
lemma readOn_field {depth : Nat} {field : WideText × Json} {done : Fields}
    (h : ∀ frame, Reads (layout depth field.2) field.2 (frame :: stack))
    (hnew : field.1 ∉ done.map Prod.fst) (hrest : StopsNumber rest) :
    readOn (.memberColon done field.1 stack) (':' :: ' ' :: layout depth field.2 ++ rest) =
      readOn (.objectRest (done ++ [field]) stack) rest := by
  have hvalue := h (.member done field.1) (.valueStart (.member done field.1 :: stack)) rest
    awaitsValue_valueStart hrest
  rw [Progress.complete, Fields.put_of_notMem field.2 hnew] at hvalue
  rw [List.cons_append, readOn_mark rfl rfl rfl, List.cons_append, readOn_space rfl, hvalue]

/-- The fields behind the first one are read one after the other. -/
lemma readOn_layoutFields {depth : Nat} {fields : Fields}
    (h : ∀ field ∈ fields, ∀ frame, Reads (layout depth field.2) field.2 (frame :: stack))
    (hjoined : ∀ field ∈ fields, field.1.Joined) (hrest : StopsNumber rest) (done : Fields)
    (hnames : ((done ++ fields).map Prod.fst).Nodup) :
    readOn (.objectRest done stack) (layoutFields depth fields ++ rest) =
      readOn (.objectRest (done ++ fields) stack) rest := by
  induction fields generalizing done with
  | nil => rw [List.append_nil]; rfl
  | cons field fields ih =>
    have hnew : field.1 ∉ done.map Prod.fst := by
      rw [List.map_append, List.map_cons, List.nodup_append] at hnames
      exact fun hmem => hnames.2.2 _ hmem _ List.mem_cons_self rfl
    have hfield := readOn_field (h field List.mem_cons_self) hnew
      (stopsNumber_layoutFields hrest depth fields)
    have happend : done ++ field :: fields = done ++ [field] ++ fields := by simp
    calc readOn (.objectRest done stack) (layoutFields depth (field :: fields) ++ rest)
        = readOn (.objectRest done stack)
            (',' :: (lineBreak depth ++ (writtenText field.1 ++
              (':' :: ' ' :: layout depth field.2 ++ (layoutFields depth fields ++ rest))))) := by
          simp [layoutFields]
      _ = readOn (.memberColon done field.1 stack)
            (':' :: ' ' :: layout depth field.2 ++ (layoutFields depth fields ++ rest)) := by
          rw [readOn_mark rfl rfl rfl, readOn_lineBreak,
            readOn_name (hjoined field List.mem_cons_self) rfl]
      _ = readOn (.objectRest (done ++ [field]) stack) (layoutFields depth fields ++ rest) := hfield
      _ = readOn (.objectRest (done ++ field :: fields) stack) rest := by
          rw [ih (fun other hother => h other (List.mem_cons_of_mem field hother))
            (fun other hother => hjoined other (List.mem_cons_of_mem field hother)) _
            (happend ▸ hnames), ← happend]

/-- A text is read as itself, at whatever place a value may stand. -/
lemma reads_text {text : WideText} (h : text.Joined) :
    Reads (writtenText text) (.str text) stack := by
  intro p rest hp _
  refine readOn_name h ?_ rest
  rw [hp _ (by simp)]
  rfl

/-- An array is read if there is room for it on the stack and each of its items is read inside. -/
lemma reads_arr {depth : Nat} {items : List Json} (hroom : stack.length < maxNesting)
    (h : ∀ v ∈ items, ∀ frame, Reads (layout (depth + 1) v) v (frame :: stack)) :
    Reads (layout depth (.arr items)) (.arr items) stack := by
  intro p rest hp hrest
  have hopen : p.step .openArray = .ok (.arrayStart stack) := by
    rw [hp _ (by simp), Progress.beginValue, Progress.openInside, if_pos hroom]
  cases items with
  | nil =>
    rw [layout, List.cons_append, readOn_mark rfl rfl hopen, List.cons_append,
      readOn_mark rfl rfl rfl, List.nil_append]
  | cons v items =>
    have hbreak := stopsNumber_lineBreak depth (']' :: rest)
    calc readOn p (layout depth (.arr (v :: items)) ++ rest)
        = readOn p ('[' :: (lineBreak (depth + 1) ++ (layout (depth + 1) v ++
            (layoutItems (depth + 1) items ++ (lineBreak depth ++ ']' :: rest))))) := by
          simp [layout]
      _ = readOn (.arrayStart stack) (layout (depth + 1) v ++
            (layoutItems (depth + 1) items ++ (lineBreak depth ++ ']' :: rest))) := by
          rw [readOn_mark rfl rfl hopen, readOn_lineBreak]
      _ = readOn (.arrayRest [v] stack)
            (layoutItems (depth + 1) items ++ (lineBreak depth ++ ']' :: rest)) :=
          h v List.mem_cons_self (.item []) _ _ awaitsValue_arrayStart
            (stopsNumber_layoutItems hbreak _ _)
      _ = readOn (.arrayRest (items.reverse ++ [v]) stack) (lineBreak depth ++ ']' :: rest) :=
          readOn_layoutItems (fun w hw => h w (List.mem_cons_of_mem v hw)) hbreak [v]
      _ = readOn (Progress.complete (.arr (v :: items)) stack) rest := by
          rw [readOn_lineBreak, readOn_mark rfl rfl rfl]
          simp

/-- An object is read if there is room for it on the stack, its names differ and can be read, and
each of its values is read inside. -/
lemma reads_obj {depth : Nat} {fields : Fields} (hroom : stack.length < maxNesting)
    (hnames : (fields.map Prod.fst).Nodup) (hjoined : ∀ field ∈ fields, field.1.Joined)
    (h : ∀ field ∈ fields, ∀ frame,
      Reads (layout (depth + 1) field.2) field.2 (frame :: stack)) :
    Reads (layout depth (.obj fields)) (.obj fields) stack := by
  intro p rest hp hrest
  have hopen : p.step .openObject = .ok (.objectStart stack) := by
    rw [hp _ (by simp), Progress.beginValue, Progress.openInside, if_pos hroom]
  cases fields with
  | nil =>
    rw [layout, List.cons_append, readOn_mark rfl rfl hopen, List.cons_append,
      readOn_mark rfl rfl rfl, List.nil_append]
  | cons field fields =>
    have hbreak := stopsNumber_lineBreak depth ('}' :: rest)
    calc readOn p (layout depth (.obj (field :: fields)) ++ rest)
        = readOn p ('{' :: (lineBreak (depth + 1) ++ (writtenText field.1 ++
            (':' :: ' ' :: layout (depth + 1) field.2 ++
              (layoutFields (depth + 1) fields ++ (lineBreak depth ++ '}' :: rest)))))) := by
          simp [layout]
      _ = readOn (.memberColon [] field.1 stack) (':' :: ' ' :: layout (depth + 1) field.2 ++
              (layoutFields (depth + 1) fields ++ (lineBreak depth ++ '}' :: rest))) := by
          rw [readOn_mark rfl rfl hopen, readOn_lineBreak,
            readOn_name (hjoined field List.mem_cons_self) rfl]
      _ = readOn (.objectRest [field] stack)
            (layoutFields (depth + 1) fields ++ (lineBreak depth ++ '}' :: rest)) :=
          readOn_field (h field List.mem_cons_self) (by simp) (stopsNumber_layoutFields hbreak _ _)
      _ = readOn (.objectRest (field :: fields) stack) (lineBreak depth ++ '}' :: rest) :=
          readOn_layoutFields (fun other hother => h other (List.mem_cons_of_mem field hother))
            (fun other hother => hjoined other (List.mem_cons_of_mem field hother)) hbreak [field]
            hnames
      _ = readOn (Progress.complete (.obj (field :: fields)) stack) rest := by
          rw [readOn_lineBreak, readOn_mark rfl rfl rfl]

end Containers

/-- The text of a storable value is read as the value. By induction on the value: each container
takes one place on the stack, which is what the levels leave room for. -/
theorem Storable.reads {levels : Nat} {v : Json} (h : Storable levels v) (depth : Nat)
    {stack : List Frame} (hlevels : stack.length + levels ≤ maxNesting) :
    Reads (layout depth v) v stack := by
  induction h generalizing depth stack with
  | null => exact reads_word ("null".toList, _) (by simp [Token.words])
  | bool value =>
    cases value with
    | false => exact reads_word ("false".toList, _) (by simp [Token.words])
    | true => exact reads_word ("true".toList, _) (by simp [Token.words])
  | int digits => exact reads_of_tokens fun rest hrest => tokens_int digits hrest
  | float value => exact reads_of_tokens fun rest hrest => tokens_float value hrest
  | str joined => exact reads_text joined
  | arr item ih =>
    refine reads_arr (by omega) fun v hv frame => ih v hv (depth + 1) ?_
    rw [List.length_cons]
    omega
  | obj names joined value ih =>
    refine reads_obj (by omega) names joined fun field hfield frame =>
      ih field hfield (depth + 1) ?_
    rw [List.length_cons]
    omega

/-- A storable value is read from its text as its sorted form. -/
theorem Storable.parse_written {v : Json} (h : Storable maxNesting v) :
    parse (v.print ++ "\n") = .ok v.sorted := by
  have hreads := @Storable.reads _ _ h.sorted 0 [] (by simp) (.valueStart []) ['\n']
    awaitsValue_valueStart (by simp [StopsNumber])
  have htext : (v.print ++ "\n").toList = layout 0 v.sorted ++ ['\n'] := by
    rw [String.toList_append, print, String.toList_ofList]
    rfl
  have hread : readOn (.valueStart []) (v.print ++ "\n").toList = .ok (.finished v.sorted) := by
    rw [htext, hreads, readOn_space rfl, readOn_nil]
    rfl
  rw [parse, ofTokens, ← readOn, hread]
  rfl

end Sidebar.Json
