import Sidebar.Navigation
import Mathlib.Tactic.Lemma

/-!
# Walks with and without a bound

Each question to the navigator is answered by a walk: up the parents, or down the last children. A
walk without a bound need not end, since the fields of rows can be overwritten and parents can then
form a loop. Here such walks are relations, and every question is compared to its own walk: it gives
the outcome of the walk as long as that makes no more moves than allowed, and a report otherwise.

Nothing is assumed about the forest, so the rows may have any parents, levels and marks.
-/

namespace Sidebar

/-- What a walk does next: it ends with an outcome, or moves on. -/
inductive Turn (σ ω : Type) where
  | stop (outcome : ω)
  | move (next : σ)

/-- A walk without a bound. -/
structure Walk (σ ω : Type) where
  start : Turn σ ω
  step : σ → Turn σ ω

namespace Walk

variable {σ ω : Type}

/-- From a turn on, the walk makes a number of moves and ends with an outcome. -/
inductive EndsFrom (w : Walk σ ω) : Turn σ ω → Nat → ω → Prop where
  | stop (outcome : ω) : EndsFrom w (.stop outcome) 0 outcome
  | move {s : σ} {k : Nat} {outcome : ω} (h : EndsFrom w (w.step s) k outcome) :
      EndsFrom w (.move s) (k + 1) outcome

/-- From a turn on, the walk makes at least a number of moves. -/
inductive MovesFrom (w : Walk σ ω) : Turn σ ω → Nat → Prop where
  | zero (t : Turn σ ω) : MovesFrom w t 0
  | move {s : σ} {k : Nat} (h : MovesFrom w (w.step s) k) : MovesFrom w (.move s) (k + 1)

/-- From a turn on, a move, counted from one, leads to a place. -/
inductive PassesFrom (w : Walk σ ω) : Turn σ ω → Nat → σ → Prop where
  | here (s : σ) : PassesFrom w (.move s) 1 s
  | later {s s' : σ} {k : Nat} (h : PassesFrom w (w.step s) k s') :
      PassesFrom w (.move s) (k + 1) s'

def Ends (w : Walk σ ω) : Nat → ω → Prop := w.EndsFrom w.start

def Moves (w : Walk σ ω) : Nat → Prop := w.MovesFrom w.start

def Passes (w : Walk σ ω) : Nat → σ → Prop := w.PassesFrom w.start

/-- The outcome from a turn on within a number of moves. A late outcome is only known with one move
to spare. -/
def within (w : Walk σ ω) (late : ω → Prop) [DecidablePred late] : Nat → Turn σ ω → Option ω
  | bound, .stop outcome => if late outcome ∧ bound = 0 then none else some outcome
  | 0, .move _ => none
  | bound + 1, .move s => w.within late bound (w.step s)

variable {w : Walk σ ω} {late : ω → Prop} [DecidablePred late] {bound k : Nat} {outcome : ω}
  {t : Turn σ ω}

/-! ### Walks that end -/

lemma EndsFrom.within_eq (h : w.EndsFrom t k outcome) (hk : k ≤ bound)
    (hlate : late outcome → k < bound) : w.within late bound t = some outcome := by
  induction h generalizing bound with
  | stop outcome =>
    rw [within, if_neg]
    rintro ⟨hout, rfl⟩
    exact Nat.not_lt_zero 0 (hlate hout)
  | move h ih =>
    obtain ⟨bound, rfl⟩ := Nat.exists_eq_succ_of_ne_zero (Nat.ne_of_gt (Nat.zero_lt_of_lt hk))
    rw [within]
    exact ih (Nat.le_of_succ_le_succ hk) fun hout => Nat.lt_of_succ_lt_succ (hlate hout)

lemma exists_ends_of_within (h : w.within late bound t = some outcome) :
    ∃ k, w.EndsFrom t k outcome ∧ k ≤ bound ∧ (late outcome → k < bound) := by
  fun_induction within w late bound t with
  | case1 => simp at h
  | case2 bound outcome' hknown =>
    obtain rfl : outcome' = outcome := by simpa using h
    refine ⟨0, .stop _, Nat.zero_le _, fun hout => Nat.pos_of_ne_zero fun hzero => ?_⟩
    exact hknown ⟨hout, hzero⟩
  | case3 => simp at h
  | case4 bound s ih =>
    obtain ⟨k, hends, hk, hlate⟩ := ih h
    exact ⟨k + 1, .move hends, Nat.succ_le_succ hk, fun hout => Nat.succ_lt_succ (hlate hout)⟩

/-- A walk ends within the bound or makes more moves. -/
theorem ends_or_moves (w : Walk σ ω) (t : Turn σ ω) (bound : Nat) :
    (∃ k ≤ bound, ∃ outcome, w.EndsFrom t k outcome) ∨ w.MovesFrom t (bound + 1) := by
  induction bound generalizing t with
  | zero =>
    cases t with
    | stop outcome => exact Or.inl ⟨0, Nat.le_refl 0, outcome, .stop outcome⟩
    | move s => exact Or.inr (.move (.zero _))
  | succ bound ih =>
    cases t with
    | stop outcome => exact Or.inl ⟨0, Nat.zero_le _, outcome, .stop outcome⟩
    | move s =>
      rcases ih (w.step s) with ⟨k, hk, outcome, hends⟩ | hmoves
      · exact Or.inl ⟨k + 1, Nat.succ_le_succ hk, outcome, .move hends⟩
      · exact Or.inr (.move hmoves)

lemma EndsFrom.not_moves (h : w.EndsFrom t k outcome) (hk : k ≤ bound) :
    ¬ w.MovesFrom t (bound + 1) := by
  induction h generalizing bound with
  | stop => rintro ⟨⟩
  | move h ih =>
    rintro ⟨⟩
    next hmoves =>
      obtain ⟨bound, rfl⟩ := Nat.exists_eq_succ_of_ne_zero (Nat.ne_of_gt (Nat.zero_lt_of_lt hk))
      exact ih (Nat.le_of_succ_le_succ hk) hmoves

lemma EndsFrom.unique {k' : Nat} {outcome' : ω} (h : w.EndsFrom t k outcome)
    (h' : w.EndsFrom t k' outcome') : k = k' ∧ outcome = outcome' := by
  induction h generalizing k' with
  | stop => cases h'; exact ⟨rfl, rfl⟩
  | move h ih =>
    cases h' with
    | move h' =>
      obtain ⟨rfl, rfl⟩ := ih h'
      exact ⟨rfl, rfl⟩

/-- What holds of every outcome that a turn can have holds of the one at the end. -/
lemma EndsFrom.outcome_of {P : ω → Prop} (h : w.EndsFrom t k outcome)
    (hstart : ∀ o, t = .stop o → P o) (hstep : ∀ s o, w.step s = .stop o → P o) : P outcome := by
  induction h with
  | stop outcome => exact hstart outcome rfl
  | move h ih => exact ih (hstep _)

/-- No outcome is known within the bound if the walk makes more moves, or ends late with the last
one. -/
theorem within_eq_none_iff :
    w.within late bound t = none ↔
      w.MovesFrom t (bound + 1) ∨ ∃ outcome, late outcome ∧ w.EndsFrom t bound outcome := by
  constructor
  · intro hnone
    rcases w.ends_or_moves t bound with ⟨k, hk, outcome, hends⟩ | hmoves
    · right
      by_cases hknown : late outcome → k < bound
      · rw [hends.within_eq hk hknown] at hnone
        cases hnone
      · rw [Classical.not_imp, Nat.not_lt] at hknown
        obtain rfl : k = bound := Nat.le_antisymm hk hknown.2
        exact ⟨outcome, hknown.1, hends⟩
    · exact Or.inl hmoves
  · intro hover
    rw [Option.eq_none_iff_forall_ne_some]
    intro outcome hwithin
    obtain ⟨k, hends, hk, hknown⟩ := exists_ends_of_within hwithin
    rcases hover with hmoves | ⟨outcome', hlate, hends'⟩
    · exact hends.not_moves hk hmoves
    · obtain ⟨rfl, rfl⟩ := hends.unique hends'
      exact Nat.lt_irrefl _ (hknown hlate)

/-! ### Walks that come back -/

/-- After it has passed a place, the walk goes on as from there. -/
lemma PassesFrom.moves {s : σ} {i : Nat} (h : w.PassesFrom t i s) (hk : w.MovesFrom (w.step s) k) :
    w.MovesFrom t (i + k) := by
  induction h with
  | here s => rw [Nat.add_comm]; exact .move hk
  | later h ih => rw [Nat.add_right_comm]; exact .move (ih hk)

lemma PassesFrom.again {s s' : σ} {i j : Nat} (hi : w.PassesFrom t i s) (hj : w.PassesFrom t j s')
    (hlt : i < j) : w.PassesFrom (w.step s) (j - i) s' := by
  induction hi generalizing j with
  | here s =>
    cases hj with
    | here => exact absurd hlt (Nat.lt_irrefl 1)
    | later hj => exact hj
  | later hi ih =>
    cases hj with
    | here => exact absurd hlt (by omega)
    | later hj =>
      rw [Nat.add_sub_add_right]
      exact ih hj (Nat.lt_of_succ_lt_succ hlt)

lemma MovesFrom.mono (h : w.MovesFrom t k) {j : Nat} (hj : j ≤ k) : w.MovesFrom t j := by
  induction h generalizing j with
  | zero t => obtain rfl := Nat.le_zero.mp hj; exact .zero t
  | move h ih =>
    cases j with
    | zero => exact .zero _
    | succ j => exact .move (ih (Nat.le_of_succ_le_succ hj))

/-- A walk that comes back to a place never ends. -/
theorem moves_of_passes_twice {s : σ} {i j : Nat} (hi : w.PassesFrom t i s)
    (hj : w.PassesFrom t j s) (hlt : i < j) (k : Nat) : w.MovesFrom t k := by
  have hround : w.PassesFrom (w.step s) (j - i) s := hi.again hj hlt
  have hforever : ∀ k, w.MovesFrom (w.step s) k := by
    intro k
    induction k with
    | zero => exact .zero _
    | succ k ih => exact (hround.moves ih).mono (by omega)
  exact (hi.moves (hforever k)).mono (Nat.le_add_left k i)

end Walk

namespace Navigator

/-! ### The walks behind the questions -/

/-- Down the last children, as long as they are open. -/
def lastVisibleWalk (n : Node) : Walk Node (Except NavigationError Node) where
  start :=
    match n.children.getLast? with
    | none => .stop (.error (.noChildren n.tid n.path))
    | some child => .move child
  step m :=
    match m.shownChildren.getLast? with
    | none => .stop (.ok m)
    | some child => .move child

/-- Up to a parent, unless that has a next sibling. -/
def climbTurn (f : Forest) (n : Node) : Turn Node (Except NavigationError (Option Node)) :=
  match f.parent? n with
  | none => .stop (.error (.noParent n.tid n.path n.row.level))
  | some parent =>
    match f.next? parent with
    | some next => .stop (.ok (some next))
    | none => .move parent

/-- Up the parents until one has a next sibling, or is marked as a root. -/
def nextVisibleWalk (f : Forest) (n : Node) : Walk Node (Except NavigationError (Option Node)) where
  start := if n.row.level = 0 then .stop (.ok (f.next? n)) else climbTurn f n
  step m := if m.row.level = 0 then .stop (.ok none) else climbTurn f m

/-- Up to an open parent from a row that is marked as a last sibling. -/
def lastShownTurn (f : Forest) (n : Node) : Turn Node (Except NavigationError Bool) :=
  if !n.row.isLast then .stop (.ok false)
  else
    match f.parent? n with
    | none => .stop (.ok true)
    | some parent => if !parent.isOpen then .stop (.ok false) else .move parent

/-- Up the parents as long as they are open and marked as last siblings. -/
def isBottomWalk (f : Forest) (n : Node) : Walk Node (Except NavigationError Bool) where
  start := if n.isOpen then .stop (.ok false) else lastShownTurn f n
  step := lastShownTurn f

/-- How the search for an id above a node ends: it is met, there is nothing further up, or the id
that stands for the parent belongs to no row. -/
inductive Above where
  | met
  | top
  | lost
deriving DecidableEq

def Above.answer : Above → Except NavigationError Bool
  | .met => .ok true
  | _ => .ok false

/-- Up to the parent, unless that has the id. -/
def aboveTurn (f : Forest) (ancestor : Option String) (n : Node) : Turn Node Above :=
  match n.row.parentTid with
  | none => .stop .top
  | some parentTid =>
    if ancestor = some parentTid then .stop .met
    else
      match f.find? parentTid with
      | none => .stop .lost
      | some parent => .move parent

/-- Up the parents until one has the id. -/
def ancestorWalk (f : Forest) (ancestor : Option String) (n : Node) : Walk Node Above where
  start := aboveTurn f ancestor n
  step := aboveTurn f ancestor

/-! ### Questions that follow a walk -/

section

variable {α ω : Type}

/-- A question about a node that is asked with a bound, compared to a walk without one. Outcomes
that are late are only known with one move to spare. -/
structure Follows (walk : Walk Node ω) (late : ω → Prop) (answer : ω → Except NavigationError α)
    (n : Node) (ask : Nat → Except NavigationError α) : Prop where
  ends_or_moves : ∀ bound, (∃ k ≤ bound, ∃ outcome, walk.Ends k outcome) ∨ walk.Moves (bound + 1)
  answers : ∀ bound > 0, ∀ k outcome, walk.Ends k outcome → k ≤ bound →
    (late outcome → k < bound) → ask bound = answer outcome
  overruns : ∀ bound > 0, ask bound = .error (.tooDeep n.tid n.path bound) ↔
    walk.Moves (bound + 1) ∨ ∃ outcome, late outcome ∧ walk.Ends bound outcome
  /-- A walk that comes back to a node is reported. -/
  loops : ∀ i j m, i < j → walk.Passes i m → walk.Passes j m →
    ∀ bound > 0, ask bound = .error (.tooDeep n.tid n.path bound)
  /-- A larger bound changes no answer. -/
  settled : ∀ bound > 0, ask bound ≠ .error (.tooDeep n.tid n.path bound) →
    ∀ larger ≥ bound, ask larger = ask bound

/-- An outcome that is not the report of a bounded walk. -/
def IsAnswer : Except NavigationError α → Prop
  | .error (.tooDeep _ _ _) => False
  | _ => True

/-- A turn that does not end with the report of a bounded walk. -/
def Answers (answer : ω → Except NavigationError α) : Turn Node ω → Prop
  | .stop outcome => IsAnswer (answer outcome)
  | .move _ => True

/-- A question follows a walk when it gives what is known of it within the bound. -/
theorem follows_of_within {walk : Walk Node ω} {late : ω → Prop} [DecidablePred late]
    {answer : ω → Except NavigationError α} {n : Node} {ask : Nat → Except NavigationError α}
    (hask : ∀ bound > 0, ask bound =
      ((walk.within late bound walk.start).map answer).getD (.error (.tooDeep n.tid n.path bound)))
    (hanswer : ∀ k outcome, walk.Ends k outcome → IsAnswer (answer outcome)) :
    Follows walk late answer n ask := by
  have hanswers : ∀ bound > 0, ∀ k outcome, walk.Ends k outcome → k ≤ bound →
      (late outcome → k < bound) → ask bound = answer outcome := by
    intro bound hbound k outcome hends hk hknown
    rw [hask bound hbound, hends.within_eq hk hknown]
    rfl
  have hoverruns : ∀ bound > 0, ask bound = .error (.tooDeep n.tid n.path bound) ↔
      walk.within late bound walk.start = none := by
    intro bound hbound
    rw [hask bound hbound]
    cases hwithin : walk.within late bound walk.start with
    | none => simp
    | some outcome =>
      obtain ⟨k, hends, -, -⟩ := Walk.exists_ends_of_within hwithin
      have hproper := hanswer k outcome hends
      refine iff_of_false (fun heq => ?_) (by simp)
      simp only [Option.map_some, Option.getD_some] at heq
      rw [heq] at hproper
      exact hproper
  refine ⟨walk.ends_or_moves walk.start, hanswers, ?_, ?_, ?_⟩
  · intro bound hbound
    rw [hoverruns bound hbound, Walk.within_eq_none_iff]
    rfl
  · intro i j m hlt hi hj bound hbound
    rw [hoverruns bound hbound, Walk.within_eq_none_iff]
    exact Or.inl (Walk.moves_of_passes_twice hi hj hlt (bound + 1))
  · intro bound hbound hne larger hlarger
    rw [Ne, hoverruns bound hbound] at hne
    obtain ⟨outcome, hwithin⟩ := Option.ne_none_iff_exists'.mp hne
    obtain ⟨k, hends, hk, hknown⟩ := Walk.exists_ends_of_within hwithin
    rw [hanswers bound hbound k outcome hends hk hknown]
    exact hanswers larger (Nat.lt_of_lt_of_le hbound hlarger) k outcome hends
      (Nat.le_trans hk hlarger) fun hlate => Nat.lt_of_lt_of_le (hknown hlate) hlarger

end

/-! ### Loops that count moves -/

section

variable {α ω : Type} {walk : Walk Node ω} {late : ω → Prop} [DecidablePred late]
  {answer : ω → Except NavigationError α}
  {loop : NavigationError → Nat → Node → Except NavigationError α}

/-- A loop with a bound that takes the turns of a walk: it gives an outcome where the walk ends, and
a report where it moves on and no more moves are left. A late outcome counts as a move. -/
def Counts (walk : Walk Node ω) (late : ω → Prop) [DecidablePred late]
    (answer : ω → Except NavigationError α)
    (loop : NavigationError → Nat → Node → Except NavigationError α) : Prop :=
  ∀ overrun moves m, loop overrun moves m =
    match walk.step m, moves with
    | .stop outcome, moves => if late outcome ∧ moves = 0 then .error overrun else answer outcome
    | .move _, 0 => .error overrun
    | .move next, moves + 1 => loop overrun moves next

lemma Counts.eq_within (h : Counts walk late answer loop) (overrun : NavigationError)
    (moves : Nat) (m : Node) :
    loop overrun moves m =
      ((walk.within late moves (walk.step m)).map answer).getD (.error overrun) := by
  induction moves generalizing m with
  | zero =>
    rw [h]
    cases walk.step m with
    | stop outcome => by_cases hlate : late outcome <;> simp [Walk.within, hlate]
    | move next => simp [Walk.within]
  | succ moves ih =>
    rw [h]
    cases walk.step m with
    | stop outcome => simp [Walk.within]
    | move next => simp only [ih next, Walk.within]

/-- A question that answers at once or enters such a loop with its first move follows the walk. -/
theorem Counts.follows_walk (h : Counts walk late answer loop) {n : Node}
    {ask : Nat → Except NavigationError α}
    (hask : ∀ moves : Nat, ask (moves + 1) =
      match walk.start with
      | .stop outcome => answer outcome
      | .move next => loop (.tooDeep n.tid n.path (moves + 1 : Nat)) moves next)
    (hstart : Answers answer walk.start) (hstep : ∀ m, Answers answer (walk.step m)) :
    Follows walk late answer n ask := by
  apply follows_of_within
  · intro bound hbound
    obtain ⟨moves, rfl⟩ := Nat.exists_eq_succ_of_ne_zero (Nat.ne_of_gt hbound)
    rw [hask]
    cases walk.start with
    | stop outcome => simp [Walk.within]
    | move next => simp only [h.eq_within, Walk.within]
  · intro k outcome hends
    refine hends.outcome_of (P := fun o => IsAnswer (answer o)) (fun o ho => ?_) fun m o ho => ?_
    · rwa [ho] at hstart
    · have := hstep m
      rwa [ho] at this

end

section

variable {f : Forest} {n : Node}

lemma counts_descend (n : Node) : Counts (lastVisibleWalk n) (fun _ => False) id descend := by
  intro overrun moves m
  rw [descend.eq_def, lastVisibleWalk]
  cases hlast : m.shownChildren.getLast? <;> cases moves <;> simp [hlast]

lemma counts_climb (f : Forest) (n : Node) :
    Counts (nextVisibleWalk f n) (fun _ => False) id fun overrun moves m =>
      if m.row.level = 0 then .ok none else climb f overrun moves m := by
  intro overrun moves m
  by_cases hlevel : m.row.level = 0
  · simp [nextVisibleWalk, hlevel]
  · simp only [nextVisibleWalk, hlevel, if_false, climbTurn]
    rw [climb.eq_def]
    cases hparent : f.parent? m with
    | none => simp [hparent]
    | some parent => cases hnext : f.next? parent <;> cases moves <;> simp [hparent, hnext]

lemma counts_isLastShown (f : Forest) (n : Node) :
    Counts (isBottomWalk f n) (fun _ => False) id (isLastShown f) := by
  intro overrun moves m
  rw [isLastShown.eq_def]
  simp only [isBottomWalk, lastShownTurn]
  cases hlast : m.row.isLast with
  | false => simp
  | true =>
    cases hparent : f.parent? m with
    | none => simp
    | some parent => cases hopen : parent.isOpen <;> cases moves <;> simp [hopen]

lemma counts_meetsAbove (f : Forest) (ancestor : Option String) (n : Node) :
    Counts (ancestorWalk f ancestor n) (· = .lost) Above.answer fun overrun =>
      meetsAbove f overrun ancestor := by
  intro overrun moves m
  simp only [ancestorWalk, aboveTurn]
  rw [meetsAbove.eq_def]
  cases hparent : m.row.parentTid with
  | none => simp [hparent, Above.answer]
  | some parentTid =>
    by_cases hmet : ancestor = some parentTid
    · simp [hparent, hmet, Above.answer]
    · cases hfind : f.find? parentTid <;> cases moves <;>
        simp [hparent, hmet, hfind, Above.answer]

/-! ### What is asked -/

lemma requireMember_of_contains {nav : Navigator} (hn : nav.forest.contains n) :
    nav.requireMember n = .ok () := if_pos hn

theorem lastVisible_follows (hn : f.contains n) :
    Follows (lastVisibleWalk n) (fun _ => False) id n fun bound => lastVisible ⟨f, bound⟩ n := by
  apply (counts_descend n).follows_walk
  · intro moves
    rw [lastVisible, requireMember_of_contains hn, lastVisibleWalk]
    cases n.children.getLast? with
    | none => rfl
    | some child =>
      have hmoves : (((moves + 1 : Nat) : Int) - 1).toNat = moves := by omega
      simp only [hmoves]
      rfl
  · rw [lastVisibleWalk]
    cases n.children.getLast? <;> trivial
  · intro m
    simp only [lastVisibleWalk]
    cases m.shownChildren.getLast? <;> trivial

lemma answers_climbTurn (f : Forest) (m : Node) : Answers id (climbTurn f m) := by
  rw [climbTurn]
  cases f.parent? m with
  | none => trivial
  | some parent =>
    simp only
    cases f.next? parent <;> trivial

theorem nextVisible_follows (hn : f.contains n) :
    Follows (nextVisibleWalk f n) (fun _ => False) id n fun bound => nextVisible ⟨f, bound⟩ n := by
  apply (counts_climb f n).follows_walk
  · intro moves
    rw [nextVisible, requireMember_of_contains hn]
    by_cases hlevel : n.row.level = 0
    · simp only [nextVisibleWalk, hlevel, if_true]
      rfl
    · have hturn := counts_climb f n (.tooDeep n.tid n.path (moves + 1 : Nat)) (moves + 1) n
      simp only [nextVisibleWalk, hlevel, if_false] at hturn ⊢
      refine hturn.trans ?_
      cases climbTurn f n <;> simp
  · simp only [nextVisibleWalk]
    split
    · trivial
    · exact answers_climbTurn f n
  · intro m
    simp only [nextVisibleWalk]
    split
    · trivial
    · exact answers_climbTurn f m

lemma answers_lastShownTurn (f : Forest) (m : Node) : Answers id (lastShownTurn f m) := by
  rw [lastShownTurn]
  split
  · trivial
  · cases f.parent? m with
    | none => trivial
    | some parent =>
      simp only
      split <;> trivial

theorem isBottom_follows (hn : f.contains n) :
    Follows (isBottomWalk f n) (fun _ => False) id n fun bound => isBottom ⟨f, bound⟩ n := by
  apply (counts_isLastShown f n).follows_walk
  · intro moves
    rw [isBottom, requireMember_of_contains hn]
    cases hopen : n.isOpen with
    | true =>
      simp only [isBottomWalk, hopen, if_true]
      rfl
    | false =>
      have hturn := counts_isLastShown f n (.tooDeep n.tid n.path (moves + 1 : Nat)) (moves + 1) n
      simp only [isBottomWalk, hopen] at hturn ⊢
      refine hturn.trans ?_
      cases lastShownTurn f n <;> simp
  · simp only [isBottomWalk]
    split
    · trivial
    · exact answers_lastShownTurn f n
  · exact answers_lastShownTurn f

lemma answers_above : ∀ t : Turn Node Above, Answers Above.answer t
  | .stop .met | .stop .top | .stop .lost | .move _ => trivial

/-- An id that belongs to no row counts as a move when the search for an ancestor ends there. -/
theorem isAncestor_follows (ancestor : Option String) {tid : Option String}
    (htid : tid.bind f.find? = some n) :
    Follows (ancestorWalk f ancestor n) (· = .lost) Above.answer n
      fun bound => isAncestor ⟨f, bound⟩ tid ancestor := by
  apply (counts_meetsAbove f ancestor n).follows_walk
  · intro moves
    have hturn := counts_meetsAbove f ancestor n (.tooDeep n.tid n.path (moves + 1 : Nat))
      (moves + 1) n
    simp only [isAncestor, htid]
    refine hturn.trans ?_
    simp only [ancestorWalk]
    cases aboveTurn f ancestor n <;> simp
  · exact answers_above _
  · exact fun m => answers_above _

/-- Every question follows its own walk, whatever the rows say about parents, levels and marks. The
search for an ancestor has one outcome that is late: it ends at an id that belongs to no row. -/
theorem questions_follow_walks (hn : f.contains n) :
    (Follows (lastVisibleWalk n) (fun _ => False) id n fun bound => lastVisible ⟨f, bound⟩ n) ∧
    (Follows (nextVisibleWalk f n) (fun _ => False) id n fun bound => nextVisible ⟨f, bound⟩ n) ∧
    (Follows (isBottomWalk f n) (fun _ => False) id n fun bound => isBottom ⟨f, bound⟩ n) ∧
    ∀ tid ancestor,
      (tid.bind f.find? = some n →
        Follows (ancestorWalk f ancestor n) (· = .lost) Above.answer n
          fun bound => isAncestor ⟨f, bound⟩ tid ancestor) ∧
      (tid.bind f.find? = none → ∀ bound, isAncestor ⟨f, bound⟩ tid ancestor = .ok false) := by
  refine ⟨lastVisible_follows hn, nextVisible_follows hn, isBottom_follows hn, ?_⟩
  intro tid ancestor
  refine ⟨isAncestor_follows ancestor, fun htid bound => ?_⟩
  simp only [isAncestor, htid]

end

/-! ### A parent that belongs to no row -/

/-- A directory whose parent is overwritten with an id that belongs to no row. -/
def strayParent : Forest :=
  (Forest.ofEntries "files" 1 [.dir "a" "/a" [.file "b" "/a/b"]]).modify ⟨1, "files_1"⟩
    fun row => { row with parentTid := some "x" }

def strayFile : Node :=
  .node ⟨⟨1, "files_2"⟩, "b", "/a/b", false, 1, some "files_1", false, true⟩ []

def strayDir : Node :=
  .node ⟨⟨1, "files_1"⟩, "a", "/a", true, 0, some "x", false, true⟩ [strayFile]

lemma rows_strayParent : strayParent.rows = [strayDir, strayFile] := by
  rw [Forest.rows_eq_preorderAll]
  rfl

lemma find?_strayFile : (some "files_2").bind strayParent.find? = some strayFile := by
  simp [Forest.find?, rows_strayParent, strayDir, strayFile, Node.tid]

lemma contains_strayFile : strayParent.contains strayFile := by
  have hfound : strayParent.find? strayFile.tid = some strayFile := find?_strayFile
  simp [Forest.contains, hfound]

lemma ends_strayFile : (ancestorWalk strayParent (some "y") strayFile).Ends 1 .lost := by
  have hdir : aboveTurn strayParent (some "y") strayFile = .move strayDir := by
    simp [aboveTurn, Forest.find?, rows_strayParent, strayDir, strayFile, Node.tid]
  have hlost : aboveTurn strayParent (some "y") strayDir = .stop .lost := by
    simp [aboveTurn, Forest.find?, rows_strayParent, strayDir, strayFile, Node.tid]
  rw [Walk.Ends, ancestorWalk]
  simp only [hdir]
  apply Walk.EndsFrom.move
  simp only [hlost]
  exact .stop _

/-- The search for an ancestor of the file makes one move and ends, and no more than one is allowed;
still it is reported. -/
theorem lost_after_last_move :
    (ancestorWalk strayParent (some "y") strayFile).Ends 1 .lost ∧
      ¬ (ancestorWalk strayParent (some "y") strayFile).Moves 2 ∧
      isAncestor ⟨strayParent, 1⟩ (some "files_2") (some "y") =
        .error (.tooDeep "files_2" "/a/b" 1) := by
  refine ⟨ends_strayFile, ends_strayFile.not_moves (Nat.le_refl 1), ?_⟩
  have hfollows := isAncestor_follows (some "y") find?_strayFile
  exact (hfollows.overruns 1 Nat.one_pos).mpr (Or.inr ⟨.lost, rfl, ends_strayFile⟩)

/-- With one more move allowed the file is known to have no such ancestor. -/
theorem questions_follow_walks_strayFile :
    strayParent.contains strayFile ∧
      isAncestor ⟨strayParent, 2⟩ (some "files_2") (some "y") = .ok false :=
  ⟨contains_strayFile,
    (((questions_follow_walks contains_strayFile).2.2.2 (some "files_2") (some "y")).1
      find?_strayFile).answers 2 Nat.two_pos 1 .lost ends_strayFile (Nat.le_succ 1)
      fun _ => Nat.one_lt_two⟩

end Navigator

end Sidebar
