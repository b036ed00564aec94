import Sidebar.Proofs.FileSystem.Names

/-!
# Paths that name places

A path that leads through directories alone names the place that it leads to: it is read back from
its text, and resolving it gives it again. A path with a link at its end is not resolved to itself,
unless following the link comes back to it.
-/

namespace Sidebar

/-! ### Reading the text of a path -/

lemma segments_of_notMem {cs : List Char} (h : '/' ∉ cs) : segments cs = [cs] := by
  induction cs with
  | nil => rfl
  | cons c cs ih =>
    rw [List.mem_cons, not_or] at h
    rw [segments, if_neg (Ne.symm h.1), ih h.2]

lemma segments_append {cs : List Char} (h : '/' ∉ cs) (rest : List Char) :
    segments (cs ++ '/' :: rest) = cs :: segments rest := by
  induction cs with
  | nil => rw [List.nil_append, segments, if_pos rfl]
  | cons c cs ih =>
    rw [List.mem_cons, not_or] at h
    rw [List.cons_append, segments, if_neg (Ne.symm h.1), ih h.2]

lemma segments_intercalate {pieces : List (List Char)} (hne : pieces ≠ [])
    (h : ∀ piece ∈ pieces, '/' ∉ piece) : segments (['/'].intercalate pieces) = pieces := by
  induction pieces with
  | nil => exact absurd rfl hne
  | cons piece rest ih =>
    rw [List.forall_mem_cons] at h
    cases rest with
    | nil => rw [List.intercalate_singleton, segments_of_notMem h.1]
    | cons next rest =>
      rw [List.intercalate_cons_cons, List.append_assoc, List.singleton_append,
        segments_append h.1, ih (List.cons_ne_nil _ _) h.2]

lemma notMem_of_mem_segments {cs piece : List Char} (h : piece ∈ segments cs) : '/' ∉ piece := by
  induction cs generalizing piece with
  | nil =>
    rw [segments, List.mem_singleton] at h
    simp [h]
  | cons c cs ih =>
    rw [segments] at h
    split at h
    · rcases List.mem_cons.mp h with rfl | h
      · exact List.not_mem_nil
      · exact ih h
    · next hc =>
      have hcons : ∀ {first : List Char}, '/' ∉ first → '/' ∉ c :: first := fun hfirst =>
        List.not_mem_cons_of_ne_of_not_mem (Ne.symm hc) hfirst
      split at h
      · rw [List.mem_singleton] at h
        rw [h]
        exact hcons List.not_mem_nil
      · next first rest hsegments =>
        rw [hsegments] at ih
        rcases List.mem_cons.mp h with rfl | h
        · exact hcons (ih List.mem_cons_self)
        · exact ih (List.mem_cons_of_mem _ h)

lemma mem_intercalate {c : Char} {pieces : List (List Char)} (h : c ∈ ['/'].intercalate pieces) :
    c = '/' ∨ ∃ piece ∈ pieces, c ∈ piece := by
  induction pieces with
  | nil => simp at h
  | cons piece rest ih =>
    cases rest with
    | nil =>
      rw [List.intercalate_singleton] at h
      exact Or.inr ⟨piece, List.mem_cons_self, h⟩
    | cons next rest =>
      rw [List.intercalate_cons_cons, List.mem_append, List.mem_append, List.mem_singleton] at h
      rcases h with (h | h) | h
      · exact Or.inr ⟨piece, List.mem_cons_self, h⟩
      · exact Or.inl h
      · rcases ih h with h | ⟨other, hother, h⟩
        · exact Or.inl h
        · exact Or.inr ⟨other, List.mem_cons_of_mem _ hother, h⟩

lemma mem_intercalate_of_mem {c : Char} {piece : List Char} {pieces : List (List Char)}
    (hpiece : piece ∈ pieces) (hc : c ∈ piece) : c ∈ ['/'].intercalate pieces := by
  induction pieces with
  | nil => cases hpiece
  | cons first rest ih =>
    cases rest with
    | nil => simpa [List.mem_singleton.mp hpiece] using hc
    | cons next rest =>
      rw [List.intercalate_cons_cons, List.mem_append, List.mem_append]
      rcases List.mem_cons.mp hpiece with rfl | hpiece
      · exact Or.inl (Or.inl hc)
      · exact Or.inr (ih hpiece)

namespace ValidName

variable {name : String}

lemma isName (h : ValidName name) : Path.isName name.toList = true := by
  have hempty : name.toList ≠ [] := by
    rw [Ne, String.toList_eq_nil_iff]
    exact h.ne_empty
  have hdot : name.toList ≠ ['.'] := by
    intro hdot
    apply h.ne_dot
    rw [← String.ofList_toList (s := name), hdot]
  simp [Path.isName, hempty, hdot]

/-- No slash stands at the start of names with slashes between them. -/
lemma takeWhile_intercalate {names : List String} (h : ∀ name ∈ names, ValidName name) :
    (['/'].intercalate (names.map String.toList)).takeWhile (· = '/') = [] := by
  cases names with
  | nil => rfl
  | cons name rest =>
    obtain ⟨c, cs, hcs⟩ : ∃ c cs, name.toList = c :: cs := by
      apply List.exists_cons_of_ne_nil
      rw [Ne, String.toList_eq_nil_iff]
      exact (h name List.mem_cons_self).ne_empty
    have hc : c ≠ '/' := by
      rintro rfl
      exact (h name List.mem_cons_self).slash (hcs ▸ List.mem_cons_self)
    cases rest with
    | nil => simp [hcs, hc]
    | cons next rest => simp [hcs, hc, List.intercalate_cons_cons]

end ValidName

namespace Path

lemma toList_root (names : List String) :
    (⟨.root, names⟩ : Path).toString.toList =
      '/' :: ['/'].intercalate (names.map String.toList) := by
  simp [toString, Anchor.text, String.toList_append]

lemma mem_toString_iff {c : Char} (hslash : c ≠ '/') (hdot : c ≠ '.') {p : Path} :
    c ∈ p.toString.toList ↔ ∃ name ∈ p.names, c ∈ name.toList := by
  have hnames : ∀ front : List Char, c ∉ front →
      (c ∈ front ++ ['/'].intercalate (p.names.map String.toList) ↔
        ∃ name ∈ p.names, c ∈ name.toList) := by
    intro front hfront
    rw [List.mem_append, or_iff_right hfront]
    constructor
    · intro hmem
      rcases mem_intercalate hmem with heq | ⟨piece, hpiece, hmem⟩
      · exact absurd heq hslash
      · obtain ⟨name, hname, rfl⟩ := List.mem_map.mp hpiece
        exact ⟨name, hname, hmem⟩
    · rintro ⟨name, hname, hmem⟩
      exact mem_intercalate_of_mem (List.mem_map_of_mem hname) hmem
  obtain ⟨anchor, names⟩ := p
  cases anchor with
  | relative =>
    cases names with
    | nil => simp [toString, hdot]
    | cons name rest =>
      have := hnames [] List.not_mem_nil
      simpa [toString, Anchor.text, String.toList_append] using this
  | root =>
    have := hnames ['/'] (by simpa using hslash)
    simpa [toString, Anchor.text, String.toList_append] using this
  | doubleRoot =>
    have := hnames ['/', '/'] (by simpa using hslash)
    simpa [toString, Anchor.text, String.toList_append] using this

/-- A path from the root is read back from its text. -/
theorem ofString_toString {names : List String} (h : ∀ name ∈ names, ValidName name) :
    ofString (⟨.root, names⟩ : Path).toString = ⟨.root, names⟩ := by
  have hslashes : (['/'].intercalate (names.map String.toList)).takeWhile (· = '/') = [] :=
    ValidName.takeWhile_intercalate h
  have hpieces : (segments (['/'].intercalate (names.map String.toList))).filter isName =
      names.map String.toList := by
    cases names with
    | nil => rfl
    | cons name rest =>
      rw [segments_intercalate (by simp)]
      · rw [List.filter_eq_self]
        intro piece hpiece
        obtain ⟨name', hname', rfl⟩ := List.mem_map.mp hpiece
        exact (h name' hname').isName
      · intro piece hpiece
        obtain ⟨name', hname', rfl⟩ := List.mem_map.mp hpiece
        exact (h name' hname').slash
  rw [ofString, toList_root, segments, if_pos rfl, List.takeWhile_cons_of_pos (by simp), hslashes,
    List.filter_cons_of_neg (by simp [isName]), hpieces]
  simp [Anchor.ofSlashes, Function.comp_def]

/-- A path of valid names can be handed to the system. -/
lemma contains_nul {names : List String} (h : ∀ name ∈ names, ValidName name) :
    (⟨.root, names⟩ : Path).toString.contains '\x00' = false := by
  rw [String.contains_char_eq, decide_eq_false_iff_not, toList_root, List.mem_cons, not_or]
  refine ⟨by decide, fun hmem => ?_⟩
  rcases mem_intercalate hmem with hslash | ⟨piece, hpiece, hnul⟩
  · exact absurd hslash (by decide)
  · obtain ⟨name, hname, rfl⟩ := List.mem_map.mp hpiece
    have hvalid := (h name hname).nul
    rw [String.contains_char_eq, decide_eq_false_iff_not] at hvalid
    exact hvalid hnul

end Path

/-! ### Places without links -/

namespace Inode

/-- On the way to an inode there are directories. -/
lemma exists_dir_of_at?_append {inode there : Inode} {front back : Place}
    (h : inode.at? (front ++ back) = some there) (hback : back ≠ []) :
    ∃ entries, inode.at? front = some (.dir entries) := by
  rw [at?_append, Option.bind_eq_some_iff] at h
  obtain ⟨middle, hmiddle, h⟩ := h
  obtain ⟨name, rest, rfl⟩ := List.exists_cons_of_ne_nil hback
  obtain ⟨entries, -, rfl, -⟩ := at?_cons_eq_some h
  exact ⟨entries, hmiddle⟩

end Inode

namespace FileSystem

variable {fs : FileSystem}

/-- On the way to an inode there are no links. -/
lemma linkAt?_of_append {inode : Inode} {front back : Place}
    (h : fs.at? (front ++ back) = some inode) (hback : back ≠ []) :
    fs.linkAt? ⟨.root, front⟩ = none := by
  obtain ⟨entries, hdir⟩ := Inode.exists_dir_of_at?_append h hback
  have hat : fs.at? front = some (.dir entries) := hdir
  simp [linkAt?, placeOf?, hat]

/-- Names without links are followed one by one. -/
lemma resolveFrom_of_unlinked {base : Base} {front names : List String}
    (hnames : ∀ name ∈ names, ValidName name)
    (hlinks : ∀ start, start ≠ [] → start <+: names → fs.linkAt? ⟨base, front ++ start⟩ = none)
    (nesting : Nat) (active : List Way) (known : KnownLinks) :
    fs.resolveFrom nesting active known ⟨base, front⟩ names =
      .resolved ⟨base, front ++ names⟩ known := by
  induction names generalizing front with
  | nil => rw [resolveFrom, List.append_nil]
  | cons name rest ih =>
    rw [List.forall_mem_cons] at hnames
    have hname := hnames.1
    have hlink : fs.linkAt? ⟨base, front ++ [name]⟩ = none :=
      hlinks [name] (List.cons_ne_nil _ _) ⟨rest, rfl⟩
    have hrest : fs.resolveFrom nesting active known ⟨base, front ++ [name]⟩ rest =
        .resolved ⟨base, (front ++ [name]) ++ rest⟩ known := by
      apply ih hnames.2
      intro start hstart hbegins
      rw [List.append_assoc]
      exact hlinks (name :: start) (List.cons_ne_nil _ _)
        (List.cons_prefix_cons.mpr ⟨rfl, hbegins⟩)
    rw [List.append_assoc, List.singleton_append] at hrest
    rw [resolveFrom]
    simp only [Way.down, hname.ne_empty, hname.ne_dot, hname.ne_up, hname.nul, hlink]
    simpa using hrest

/-- The system follows names to the place that they name, if none of them is too long. -/
lemma follow_of_at? {inode : Inode} (hlink : ∀ target, inode ≠ .link target)
    (followLast : Bool) (links : Nat) (here : Place) {names : Place}
    (hnames : ∀ name ∈ names, ValidName name) (hat : fs.at? (here ++ names) = some inode) :
    fs.follow followLast links here names =
      if names.any fun name => maxNameBytes < name.utf8ByteSize then .error .nameTooLong
      else .ok (.found (here ++ names) inode) := by
  induction names generalizing here with
  | nil =>
    rw [List.append_nil] at hat ⊢
    rw [follow, hat]
    rfl
  | cons name rest ih =>
    rw [List.forall_mem_cons] at hnames
    obtain ⟨entries, hdir⟩ := Inode.exists_dir_of_at?_append hat (List.cons_ne_nil name rest)
    have hhere : fs.at? here = some (.dir entries) := hdir
    have hat' : fs.at? ((here ++ [name]) ++ rest) = some inode := by
      rwa [List.append_assoc, List.singleton_append]
    obtain ⟨child, hchild, hplain⟩ :
        ∃ child, entries.lookup name = some child ∧ ∀ target, child ≠ .link target := by
      rw [← at?_child hhere]
      by_cases hrest : rest = []
      · subst hrest
        exact ⟨inode, by simpa using hat', hlink⟩
      · obtain ⟨children, hchildren⟩ := Inode.exists_dir_of_at?_append hat' hrest
        exact ⟨.dir children, hchildren, fun target h => by cases h⟩
    have hrest := ih (here ++ [name]) hnames.2 hat'
    rw [List.append_assoc, List.singleton_append] at hrest
    rw [List.any_cons]
    by_cases hlong : name.utf8ByteSize > maxNameBytes
    · rw [if_pos (by simp [hlong])]
      exact (Leads.tooLong hhere hnames.1.ne_dot hnames.1.ne_up hlong).eq
    · have hlook : fs.LooksUp here entries name :=
        ⟨hhere, hnames.1.ne_dot, hnames.1.ne_up, hlong⟩
      rw [decide_eq_false hlong, Bool.false_or]
      exact (Leads.entry hlook hchild hplain (leads_iff.mpr hrest)).eq

/-- What is at a place without links is accessed by its path, unless that is too long. -/
lemma stat_of_at? {names : Place} {inode : Inode} (hlink : ∀ target, inode ≠ .link target)
    (hnames : ∀ name ∈ names, ValidName name) (hat : fs.at? names = some inode) :
    fs.stat ⟨.root, names⟩ = .ok inode ∨
      fs.stat ⟨.root, names⟩ = .error (.system .nameTooLong) := by
  have hfollow := follow_of_at? hlink true maxLinks [] hnames hat
  rw [stat, locate, if_neg (by rw [Path.contains_nul hnames]; simp)]
  split
  · exact Or.inr rfl
  · simp only [hfollow]
    split
    · exact Or.inr rfl
    · exact Or.inl rfl

/-- A path that is too long is not accessed. -/
lemma stat_of_tooLong {names : Place} (hnames : ∀ name ∈ names, ValidName name)
    (hlong : (⟨.root, names⟩ : Path).toString.utf8ByteSize > maxPathBytes) :
    fs.stat ⟨.root, names⟩ = .error (.system .nameTooLong) := by
  rw [stat, locate, if_neg (by rw [Path.contains_nul hnames]; simp), if_pos hlong]
  rfl

/-- A path is resolved to itself where none of its names is a link. -/
lemma resolve_of_unlinked {names : Place} (hnames : ∀ name ∈ names, ValidName name)
    (hlinks : ∀ start, start ≠ [] → start <+: names → fs.linkAt? ⟨.root, start⟩ = none)
    (hstat : (∃ inode, fs.stat ⟨.root, names⟩ = .ok inode) ∨
      fs.stat ⟨.root, names⟩ = .error (.system .noEntry) ∨
      fs.stat ⟨.root, names⟩ = .error (.system .nameTooLong)) :
    fs.resolve ⟨.root, names⟩ = .ok ⟨.root, names⟩ := by
  have hway : fs.resolveWay ⟨.root, names⟩ = .ok ⟨.root, names⟩ := by
    have hfrom : fs.resolveFrom maxNestedLinks [] [] ⟨.root, []⟩ names =
        .resolved ⟨.root, names⟩ [] := resolveFrom_of_unlinked hnames hlinks maxNestedLinks [] []
    rw [resolveWay]
    simp only [reduceCtorEq, if_false, hfrom]
  rw [resolve_eq_ok_iff, hway]
  refine ⟨rfl, fun h => ?_, fun h => ?_⟩
  all_goals rcases hstat with ⟨inode, hstat⟩ | hstat | hstat <;> rw [hstat] at h <;> cases h

/-- A path whose names are no links is resolved to itself. -/
theorem resolve_of_at? {names : Place} {inode : Inode}
    (hnames : ∀ name ∈ names, ValidName name) (hat : fs.at? names = some inode)
    (hlink : fs.linkAt? ⟨.root, names⟩ = none) :
    fs.resolve ⟨.root, names⟩ = .ok ⟨.root, names⟩ := by
  apply resolve_of_unlinked hnames
  · rintro start - ⟨back, rfl⟩
    by_cases hback : back = []
    · rwa [hback, List.append_nil] at hlink
    · exact linkAt?_of_append hat hback
  -- A link with a path that is too long is not seen as one, but it cannot be accessed either.
  by_cases hlong : (⟨.root, names⟩ : Path).toString.utf8ByteSize > maxPathBytes
  · exact .inr (.inr (stat_of_tooLong hnames hlong))
  have hinode : ∀ target, inode ≠ .link target := by
    rintro target rfl
    simp [linkAt?, placeOf?, Way.path, Base.path, hlong, hat] at hlink
  rcases stat_of_at? hinode hnames hat with hstat | hstat
  · exact .inl ⟨inode, hstat⟩
  · exact .inr (.inr hstat)

/-- Where there is nothing at all, every path from the root is resolved to itself. -/
lemma resolve_of_bare (hbare : fs.entries = []) {name : String} {rest : Place}
    (hnames : ∀ other ∈ name :: rest, ValidName other) :
    fs.resolve ⟨.root, name :: rest⟩ = .ok ⟨.root, name :: rest⟩ := by
  have hroot : fs.at? [] = some (.dir []) := by rw [at?, hbare, Inode.at?]
  apply resolve_of_unlinked hnames
  · intro start hstart _
    cases start with
    | nil => exact absurd rfl hstart
    | cons other others => simp [linkAt?, placeOf?, at?, Inode.at?, hbare]
  by_cases hlong : (⟨.root, name :: rest⟩ : Path).toString.utf8ByteSize > maxPathBytes
  · exact .inr (.inr (stat_of_tooLong hnames hlong))
  have hvalid := hnames name List.mem_cons_self
  rw [stat, locate, if_neg (by rw [Path.contains_nul hnames]; simp), if_neg hlong]
  simp only [follow, hroot, hvalid.ne_dot, hvalid.ne_up, if_false, List.lookup_nil]
  by_cases hname : name.utf8ByteSize > maxNameBytes
  · rw [if_pos hname]
    exact .inr (.inr rfl)
  · rw [if_neg hname]
    cases rest <;> exact .inr (.inl rfl)

/-- A name leads from the root to its entry, or to where that is missing. -/
lemma locate_name {name : String} (hname : ValidName name)
    (hshort : name.utf8ByteSize ≤ maxNameBytes)
    (hlink : ∀ target, fs.entries.lookup name ≠ some (.link target)) :
    fs.locate true ⟨.root, [name]⟩ =
      .ok ((fs.entries.lookup name).elim (.missing [] name) (.found [name])) := by
  have hnames : ∀ other ∈ [name], ValidName other := List.forall_mem_singleton.mpr hname
  have hpath : (⟨.root, [name]⟩ : Path).toString.utf8ByteSize ≤ maxPathBytes := by
    have htext : (⟨.root, [name]⟩ : Path).toString = "/" ++ name := rfl
    have hbytes : ("/" : String).utf8ByteSize = 1 := rfl
    rw [htext, String.utf8ByteSize_append, hbytes]
    exact Nat.le_trans (Nat.add_le_add_left hshort 1) (by decide)
  have hroot : fs.at? [] = some (.dir fs.entries) := rfl
  have hchild : fs.at? [name] = fs.entries.lookup name := at?_child hroot name
  rw [locate, if_neg (by rw [Path.contains_nul hnames]; simp), if_neg (Nat.not_lt.mpr hpath)]
  simp only [follow, hroot, hname.ne_dot, hname.ne_up, if_false, if_neg (Nat.not_lt.mpr hshort)]
  cases hlookup : fs.entries.lookup name with
  | none => rfl
  | some inode =>
    rw [hlookup] at hchild
    cases inode with
    | link target => exact absurd hlookup (hlink target)
    | _ => simp [hchild, mapError_ok]

/-! ### Ways that following leads to -/

/-- What holds at the root, and is kept when a way goes up, or down to a name that is no link. Of
the name it is known that it stands between two slashes of a text. -/
structure KeptOnWays (fs : FileSystem) (Q : String → Prop) (P : Way → Prop) : Prop where
  pieces : ∀ text : String, ∀ piece ∈ segments text.toList, Q (String.ofList piece)
  root : P ⟨.root, []⟩
  up : ∀ way : Way, P way → P way.up
  down : ∀ (way : Way) (name : String), P way → Q name → name ≠ "" → name ≠ "." → name ≠ ".." →
    name.contains '\x00' = false → fs.linkAt? (way.down name) = none → P (way.down name)

/-- It holds of every way that following leads to. -/
theorem KeptOnWays.resolveFrom {Q : String → Prop} {P : Way → Prop} (hP : fs.KeptOnWays Q P)
    {nesting : Nat} {active : List Way} {known known' : KnownLinks} {here there : Way}
    {pieces : List String} (hpieces : ∀ piece ∈ pieces, Q piece) (hhere : P here)
    (hknown : ∀ link ∈ known, P link.2)
    (h : fs.resolveFrom nesting active known here pieces = .resolved there known') :
    P there ∧ ∀ link ∈ known', P link.2 := by
  fun_induction FileSystem.resolveFrom fs nesting active known here pieces
    generalizing there known' with
  | case1 =>
    obtain ⟨rfl, rfl⟩ : _ = there ∧ _ = known' := by simpa using h
    exact ⟨hhere, hknown⟩
  -- names that stay where they are, or go up
  | case2 _ _ _ _ _ _ _ ih => exact ih (List.forall_mem_cons.mp hpieces).2 hhere hknown h
  | case3 _ _ _ _ _ _ ih => exact ih (List.forall_mem_cons.mp hpieces).2 (hP.up _ hhere) hknown h
  -- a name that is no link
  | case5 _ _ _ here name _ hblank hup hnul hlink ih =>
    rw [List.forall_mem_cons] at hpieces
    simp only [Bool.or_eq_true, decide_eq_true_eq, not_or] at hblank
    have hdown : P (here.down name) :=
      hP.down here name hhere hpieces.1 hblank.1 hblank.2 hup (by simpa using hnul) hlink
    exact ih hpieces.2 hdown hknown h
  -- a link whose end is known
  | case6 _ _ known _ _ _ _ _ _ _ _ there' hlookup ih =>
    have hthere : P there' := by
      obtain ⟨front, back, rfl, -⟩ := List.lookup_eq_some_iff.mp hlookup
      exact hknown _ (List.mem_append_right front List.mem_cons_self)
    exact ih (List.forall_mem_cons.mp hpieces).2 hthere hknown h
  -- a link whose target is followed first, and then what is behind it
  | case9 _ _ here _ _ _ _ _ target _ _ _ _ there' known' htarget ihtarget ihrest =>
    have htargetPieces : ∀ piece ∈ (segments target.toList).map String.ofList, Q piece := by
      intro piece hpiece
      obtain ⟨cs, hcs, rfl⟩ := List.mem_map.mp hpiece
      exact hP.pieces target cs hcs
    have hstart : P (if _ : target.startsWith '/' then ⟨.root, []⟩ else here) := by
      split
      · exact hP.root
      · exact hhere
    obtain ⟨hthere, hknown'⟩ := ihtarget htargetPieces hstart hknown htarget
    exact ihrest (List.forall_mem_cons.mp hpieces).2 hthere
      (List.forall_mem_cons.mpr ⟨hthere, hknown'⟩) h
  | _ => cases h

/-- A way from the root whose names stand for themselves: none is a dot, two dots or a link. -/
structure Settled (fs : FileSystem) (way : Way) : Prop where
  base : way.base = .root
  plain : ∀ name ∈ way.names, name ≠ "." ∧ name ≠ ".."
  links : ∀ front, front ≠ [] → front <+: way.names → fs.linkAt? ⟨.root, front⟩ = none

lemma keptOnWays_settled (fs : FileSystem) : fs.KeptOnWays (fun _ => True) fs.Settled where
  pieces := fun _ _ _ => trivial
  root := by
    refine ⟨rfl, by simp, fun front hfront hbegins => ?_⟩
    exact absurd (List.prefix_nil.mp hbegins) hfront
  up := by
    intro way h
    rw [Way.up]
    split
    · exact ⟨by simp [h.base, Base.up], h.plain, h.links⟩
    · exact ⟨h.base, fun name hname => h.plain name (List.dropLast_subset _ hname),
        fun front hfront hbegins =>
          h.links front hfront (List.IsPrefix.trans hbegins (List.dropLast_prefix way.names))⟩
  down := by
    intro way name h _ _ hdot hup _ hlink
    refine ⟨h.base, ?_, ?_⟩
    · intro other hother
      rcases List.mem_append.mp hother with hother | hother
      · exact h.plain other hother
      · rw [List.mem_singleton.mp hother]
        exact ⟨hdot, hup⟩
    · intro front hfront hbegins
      rcases List.prefix_concat_iff.mp hbegins with rfl | hbegins
      · rwa [Way.down, h.base] at hlink
      · exact h.links front hfront hbegins

lemma keptOnWays_validNames (fs : FileSystem) :
    fs.KeptOnWays (fun name => '/' ∉ name.toList)
      fun way => ∀ name ∈ way.names, ValidName name where
  pieces := by
    intro text piece hpiece
    rw [String.toList_ofList]
    exact notMem_of_mem_segments hpiece
  root := by simp
  up := by
    intro way h
    rw [Way.up]
    split
    · exact h
    · exact fun name hname => h name (List.dropLast_subset _ hname)
  down := by
    intro way name h hslash hempty hdot hup hnul _ other hother
    rcases List.mem_append.mp hother with hother | hother
    · exact h other hother
    · rw [List.mem_singleton.mp hother]
      exact ⟨hempty, hdot, hup, hslash, hnul⟩

/-- Following the names from the root meets a link that leads back to itself. -/
def Loops (fs : FileSystem) (names : List String) : Prop :=
  ∃ way, fs.resolveFrom maxNestedLinks [] [] ⟨.root, []⟩ names = .looped way

/-- An absolute path is resolved by following its names to a settled way, unless that loops. -/
lemma exists_resolved {p q : Path} (habsolute : p.anchor ≠ .relative) (hloops : ¬fs.Loops p.names)
    (h : fs.resolve p = .ok q) :
    ∃ known, fs.resolveFrom maxNestedLinks [] [] ⟨.root, []⟩ p.names =
      .resolved ⟨.root, q.names⟩ known ∧ q.anchor = .root ∧ fs.Settled ⟨.root, q.names⟩ := by
  obtain ⟨way, hway, hpath⟩ := bind_eq_ok_iff.mp (resolve_eq_ok_iff.mp h).1
  rw [resolveWay] at hway
  simp only [habsolute, if_false] at hway
  split at hway
  · next there known hfrom =>
    obtain rfl := Except.ok.inj hway
    have hkept := fs.keptOnWays_settled
    have hsettled := (hkept.resolveFrom (by simp) hkept.root (by simp) hfrom).1
    obtain ⟨base, names⟩ := there
    obtain rfl : base = .root := hsettled.base
    obtain rfl := Except.ok.inj hpath
    exact ⟨known, hfrom, rfl, hsettled⟩
  · next there hfrom => exact absurd ⟨there, hfrom⟩ hloops
  · cases hway

/-- A path that is resolved to itself has no link at its end, unless that leads back to itself. -/
theorem linkAt?_of_resolve {names : List String} (hnames : ∀ name ∈ names, ValidName name)
    {q : Path} (h : fs.resolve ⟨.root, names⟩ = .ok q)
    (hq : q.toString = (⟨.root, names⟩ : Path).toString) :
    fs.linkAt? ⟨.root, names⟩ = none ∨ fs.Loops names := by
  by_cases hloops : fs.Loops names
  · exact Or.inr hloops
  · left
    obtain ⟨known, hfrom, hanchor, hsettled⟩ := exists_resolved (by simp) hloops h
    have hkept := fs.keptOnWays_validNames
    have hslash : ∀ name ∈ names, '/' ∉ name.toList := fun name hname => (hnames name hname).slash
    have hvalid := (hkept.resolveFrom hslash hkept.root (by simp) hfrom).1
    -- The texts agree, and both are read back, since no name has a slash in it.
    have hsame : q = ⟨.root, names⟩ := by
      obtain ⟨anchor, names'⟩ := q
      obtain rfl : anchor = .root := hanchor
      rw [← Path.ofString_toString hnames, ← hq, Path.ofString_toString hvalid]
    by_cases hnil : names = []
    · simp [hnil, linkAt?, placeOf?, at?]
    · rw [hsame] at hsettled
      exact hsettled.links names hnil List.prefix_rfl

/-- Names without links are followed to the place that they name. -/
lemma place_of_follow {followLast : Bool} {links : Nat} {here place : Place} {names : List String}
    {inode : Inode} (hplain : ∀ name ∈ names, name ≠ "." ∧ name ≠ "..")
    (hlinks : ∀ front, front ≠ [] → front <+: names → ∀ target,
      fs.at? (here ++ front) ≠ some (.link target))
    (h : fs.follow followLast links here names = .ok (.found place inode)) :
    place = here ++ names := by
  rw [← leads_iff] at h
  generalize houtcome : Except.ok (Destination.found place inode) = outcome at h
  -- none of the names is looked up as a link
  have hno : ∀ {here : Place} {name target : String} {rest : List String} {entries},
      (∀ front, front ≠ [] → front <+: name :: rest → ∀ target,
        fs.at? (here ++ front) ≠ some (.link target)) →
      fs.LooksUp here entries name → entries.lookup name ≠ some (.link target) := by
    intro here name target rest entries hlinks hlook hlookup
    refine hlinks [name] (List.cons_ne_nil _ _) (List.cons_prefix_cons.mpr ⟨rfl, by simp⟩) target ?_
    rw [at?_child hlook.dir, hlookup]
  induction h with
  | arrives hat =>
    cases houtcome
    rw [List.append_nil]
  | dot => exact absurd rfl (hplain "." List.mem_cons_self).1
  | up => exact absurd rfl (hplain ".." List.mem_cons_self).2
  | linkItself _ hlook hlookup => exact absurd hlookup (hno hlinks hlook)
  | link _ hlook hlookup => exact absurd hlookup (hno hlinks hlook)
  | @entry _ here name rest _ _ _ hlook hlookup hlink _ ih =>
    have hplace := ih (List.forall_mem_cons.mp hplain).2 (fun front _ hbegins target => ?_) houtcome
    · rw [hplace, List.append_assoc, List.singleton_append]
    · rw [List.append_assoc]
      exact hlinks (name :: front) (List.cons_ne_nil _ _)
        (List.cons_prefix_cons.mpr ⟨rfl, hbegins⟩) target
  | _ => cases houtcome

/-- Following names does not lead into a directory that has been removed. -/
lemma follow_ne_removed (followLast : Bool) (links : Nat) (here : Place) (names : List String)
    (place : Place) (lost : Nat) :
    fs.follow followLast links here names ≠ .ok (.removed place lost) := by
  intro h
  rw [← leads_iff] at h
  generalize houtcome : Except.ok (Destination.removed place lost) = outcome at h
  induction h with
  | dot _ _ ih | up _ _ ih => exact ih houtcome
  | link _ _ _ _ ih | entry _ _ _ _ ih => exact ih houtcome
  | _ => cases houtcome

lemma locate_of_absolute {p : Path} (h : p.anchor ≠ .relative) (followLast : Bool) :
    fs.locate followLast p =
      if p.toString.contains '\x00' then .error .embeddedNul
      else if p.toString.utf8ByteSize > maxPathBytes then .error (.system .nameTooLong)
      else (fs.follow followLast maxLinks [] p.names).mapError .system := by
  rw [locate]
  split
  · rfl
  · split
    · rfl
    · split
      · next hrelative => exact absurd hrelative h
      · rfl

/-- What is accessed by an absolute path is at the end of its names, which are not too long. -/
lemma exists_follow_of_stat {p : Path} {inode : Inode} (habsolute : p.anchor ≠ .relative)
    (h : fs.stat p = .ok inode) :
    p.toString.contains '\x00' = false ∧ p.toString.utf8ByteSize ≤ maxPathBytes ∧
      ∃ place, fs.follow true maxLinks [] p.names = .ok (.found place inode) := by
  have hlocate : ∀ destination, fs.locate true p = .ok destination →
      p.toString.contains '\x00' = false ∧ p.toString.utf8ByteSize ≤ maxPathBytes ∧
        fs.follow true maxLinks [] p.names = .ok destination := by
    intro destination h
    rw [locate_of_absolute habsolute] at h
    split at h
    · cases h
    · next hnul =>
      split at h
      · cases h
      · next hshort =>
        exact ⟨Bool.eq_false_iff.mpr hnul, Nat.le_of_not_lt hshort, mapError_eq_ok_iff.mp h⟩
  rcases stat_eq_ok_iff.mp h with ⟨place, hfound⟩ | ⟨place, lost, hremoved, -⟩
  · obtain ⟨hnul, hshort, hfollow⟩ := hlocate _ hfound
    exact ⟨hnul, hshort, place, hfollow⟩
  · exact absurd (hlocate _ hremoved).2.2 (follow_ne_removed _ _ _ _ _ _)

/-- A directory that can be read at the end of a settled way is at the place of its names. -/
theorem Settled.at? {names : List String} {entries : List (String × Inode)}
    (h : fs.Settled ⟨.root, names⟩) (hentries : fs.entriesAt ⟨.root, names⟩ = .ok entries) :
    fs.at? names = some (.dir entries) := by
  obtain ⟨-, hshort, place, hfollow⟩ :=
    exists_follow_of_stat (by simp) (stat_of_entriesAt hentries)
  have hplace : place = [] ++ names := by
    apply place_of_follow h.plain _ hfollow
    intro front hfront hbegins target hlink
    obtain ⟨back, rfl⟩ := hbegins
    have hsize : (⟨.root, front⟩ : Path).toString.utf8ByteSize ≤ maxPathBytes :=
      Nat.le_trans (Path.utf8ByteSize_le_below (p := ⟨.root, front⟩) hfront back) hshort
    have hnone : fs.linkAt? ⟨.root, front⟩ = none := h.links front hfront ⟨back, rfl⟩
    rw [List.nil_append] at hlink
    simp [linkAt?, placeOf?, Way.path, Base.path, Nat.not_lt.mpr hsize, hlink] at hnone
  have hat := at?_of_follow_found hfollow
  rwa [hplace] at hat

/-! ### A file and a link to it -/

/-- A directory with a file and a link to it. -/
def linkedFile : FileSystem := { entries := [("w", .dir [("a", .file .empty), ("l", .link "a")])] }

lemma valid_linkedFile : linkedFile.Valid where
  inodes := by
    simp [linkedFile, Inode.Valid, Inode.ValidAll, validName_iff]
  cwd := fun _ => ⟨_, Inode.at?_nil _⟩

end FileSystem

end Sidebar
