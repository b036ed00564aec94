import Sidebar.Proofs.Navigation.Bounded
import Sidebar.Proofs.Navigation.Moves
import Sidebar.Proofs.Outcome
import Sidebar.Proofs.Tree.Visible
import Mathlib.Data.List.Basic

/-!
# Moves from hidden rows

The moves down and up can be asked of a row below a closed directory. They never look above the
parents that they pass, so they lead to a row that is hidden too, but for two cases: down from the
end of what a closed visible row hides, and up to a parent that is visible itself.

The bound on walks plays no part in where a move leads to, since a larger bound changes no answer.
-/

namespace Sidebar

open Node

namespace Forest

/-- The node is closed, and the last of what a closed visible row hides. -/
def EndsHiddenRows (f : Forest) (n : Node) : Prop :=
  n.isOpen = false ∧
    ∃ t ∈ f.visibleRows, t.isOpen = false ∧ n.preorder <:+ preorderAll t.children

/-- No sibling is found in front of the node, and the row that it names as its parent is visible. -/
def StartsBelowVisible (f : Forest) (n : Node) : Prop :=
  f.previous? n = none ∧ ∃ parent ∈ f.visibleRows, f.parent? n = some parent

end Forest

namespace Navigator

variable {treeId : String} {f : Forest} {bound larger : Int} {p q : Position} {n m t : Node}

/-! ### Larger bounds -/

section Mono

variable {α ω : Type} {walk : Walk Node ω} {late : ω → Prop} [DecidablePred late]
  {answer : ω → Except NavigationError α}
  {loop : NavigationError → Nat → Node → Except NavigationError α}

/-- What a loop finds it also finds with more moves. -/
lemma Counts.ok_mono (h : Counts walk late answer loop) {overrun overrun' : NavigationError}
    {moves moves' : Nat} (hle : moves ≤ moves') {a : α} (hok : loop overrun moves n = .ok a) :
    loop overrun' moves' n = .ok a := by
  rw [h.eq_within] at hok ⊢
  cases hwithin : walk.within late moves (walk.step n) with
  | none => simp [hwithin] at hok
  | some outcome =>
    obtain ⟨k, hends, hk, hlate⟩ := Walk.exists_ends_of_within hwithin
    have hmore : walk.within late moves' (walk.step n) = some outcome :=
      hends.within_eq (Nat.le_trans hk hle) fun hout => Nat.lt_of_lt_of_le (hlate hout) hle
    rw [hwithin] at hok
    rwa [hmore]

end Mono

lemma isBottom_mono (hle : bound ≤ larger) {b : Bool} (h : isBottom ⟨f, bound⟩ n = .ok b) :
    isBottom ⟨f, larger⟩ n = .ok b := by
  obtain ⟨⟨⟩, hmember, h⟩ := bind_eq_ok_iff.mp h
  refine bind_eq_ok_iff.mpr ⟨(), hmember, ?_⟩
  split at h
  · next hopen => rwa [if_pos hopen]
  · next hopen =>
    rw [if_neg hopen]
    exact (counts_isLastShown f n).ok_mono (Int.toNat_le_toNat hle) h

lemma nextVisible_mono (hle : bound ≤ larger) {target : Option Node}
    (h : nextVisible ⟨f, bound⟩ n = .ok target) : nextVisible ⟨f, larger⟩ n = .ok target := by
  obtain ⟨⟨⟩, hmember, h⟩ := bind_eq_ok_iff.mp h
  refine bind_eq_ok_iff.mpr ⟨(), hmember, ?_⟩
  split at h
  · next hroot => rwa [if_pos hroot]
  · next hdeep =>
    have hclimb : (if n.row.level = 0 then .ok none
        else climb f (overrun ⟨f, bound⟩ n) bound.toNat n) = .ok target := by
      rwa [if_neg hdeep]
    have hlarger : (if n.row.level = 0 then .ok none
        else climb f (overrun ⟨f, larger⟩ n) larger.toNat n) = .ok target :=
      (counts_climb f n).ok_mono (Int.toNat_le_toNat hle) hclimb
    rw [if_neg hdeep] at hlarger ⊢
    exact hlarger

lemma lastVisible_mono (hle : bound ≤ larger) (h : lastVisible ⟨f, bound⟩ n = .ok m) :
    lastVisible ⟨f, larger⟩ n = .ok m := by
  obtain ⟨⟨⟩, hmember, h⟩ := bind_eq_ok_iff.mp h
  refine bind_eq_ok_iff.mpr ⟨(), hmember, ?_⟩
  cases hlast : n.children.getLast? with
  | none => simp [hlast] at h
  | some child =>
    rw [hlast] at h
    exact (counts_descend n).ok_mono (Int.toNat_le_toNat (Int.sub_le_sub_right hle 1)) h

lemma below_mono (hle : bound ≤ larger) {target : Option Node}
    (h : below ⟨f, bound⟩ n = .ok target) : below ⟨f, larger⟩ n = .ok target := by
  obtain ⟨b, hbottom, h⟩ := bind_eq_ok_iff.mp h
  refine bind_eq_ok_iff.mpr ⟨b, isBottom_mono hle hbottom, ?_⟩
  cases b with
  | true => exact h
  | false =>
    cases hchild : n.shownChildren.head? with
    | some child => rw [hchild] at h; exact h
    | none =>
      rw [hchild] at h
      cases hnext : f.next? n with
      | some next => simp only [hnext] at h ⊢; exact h
      | none => simp only [hnext] at h ⊢; exact nextVisible_mono hle h

lemma above_mono (hle : bound ≤ larger) {target : Option Node}
    (h : above ⟨f, bound⟩ n = .ok target) : above ⟨f, larger⟩ n = .ok target := by
  rw [above] at h ⊢
  cases hprevious : f.previous? n with
  | none => simp only [hprevious] at h ⊢; exact h
  | some previous =>
    simp only [hprevious] at h ⊢
    split at h
    · next hopen =>
      obtain ⟨m, hlast, rfl⟩ := map_eq_ok_iff.mp h
      rw [if_pos hopen]
      exact map_eq_ok_iff.mpr ⟨m, lastVisible_mono hle hlast, rfl⟩
    · next hclosed => rwa [if_neg hclosed]

/-- Some larger bound is above all levels. -/
lemma exists_bound (bound : Int) (ns : List Node) :
    ∃ larger, bound ≤ larger ∧ ∀ n ∈ ns, n.row.level ≤ larger := by
  induction ns with
  | nil => exact ⟨bound, Int.le_refl bound, fun _ hn => absurd hn List.not_mem_nil⟩
  | cons n ns ih =>
    obtain ⟨larger, hle, hlevels⟩ := ih
    refine ⟨max larger n.row.level, Int.le_trans hle (Int.le_max_left _ _), ?_⟩
    intro m hm
    rcases List.mem_cons.mp hm with rfl | hm
    · exact Int.le_max_right _ _
    · exact Int.le_trans (hlevels m hm) (Int.le_max_left _ _)

/-! ### Where the moves lead -/

/-- Where there is an outcome, the move down leads to the first row shown below the node or behind
it. -/
theorem eq_head?_of_below (h : f.WellFormed treeId) (hfill : f.roots = p.fill n)
    {target : Option Node} (hmove : below ⟨f, bound⟩ n = .ok target) :
    target = (shownAll n.shownChildren ++ p.behind shownAll).head? := by
  obtain ⟨larger, hle, hlevels⟩ := exists_bound bound f.rows
  have hlarger := below_mono hle hmove
  rw [below_fill h hlevels hfill] at hlarger
  exact (Except.ok.inj hlarger).symm

theorem eq_getLast?_of_above (h : f.WellFormed treeId) (hfill : f.roots = p.fill n)
    {target : Option Node} (hmove : above ⟨f, bound⟩ n = .ok target) :
    target = (p.before shownAll n).getLast? := by
  obtain ⟨larger, hle, hlevels⟩ := exists_bound bound f.rows
  have hlarger := above_mono hle hmove
  rw [above_fill h hlevels hfill] at hlarger
  exact (Except.ok.inj hlarger).symm

lemma mem_rows_of_below (h : f.WellFormed treeId) (hn : n ∈ f.rows)
    (hmove : below ⟨f, bound⟩ n = .ok (some m)) : m ∈ f.rows := by
  obtain ⟨p, hfill⟩ := Position.exists_fill_of_mem_rows hn
  have htarget := (eq_head?_of_below h hfill hmove).symm
  rw [List.head?_append, Position.head?_shownAll, ← Position.head?_behind] at htarget
  rcases Option.or_eq_some_iff.mp htarget with hchild | ⟨-, hbehind⟩
  · exact Position.mem_rows_of_mem_children hn
      (mem_children_of_mem_shownChildren (List.mem_of_head? hchild))
  · rw [Position.rows_eq_of_fill hfill]
    exact List.mem_append_right _ (List.mem_of_head? hbehind)

lemma mem_rows_of_above (h : f.WellFormed treeId) (hn : n ∈ f.rows)
    (hmove : above ⟨f, bound⟩ n = .ok (some m)) : m ∈ f.rows := by
  obtain ⟨p, hfill⟩ := Position.exists_fill_of_mem_rows hn
  have htarget := eq_getLast?_of_above h hfill hmove
  rw [Position.getLast?_before] at htarget
  cases hfront : p.front.getLast? with
  | some previous =>
    simp only [hfront] at htarget
    have hprevious := Position.mem_rows_of_mem_front hfill (List.mem_of_getLast? hfront)
    exact Position.mem_rows_of_mem_preorder hprevious
      ((shown_sublist_preorder previous).mem (List.mem_of_getLast? htarget.symm))
  | none =>
    simp only [hfront] at htarget
    rw [← h.parent?_fill hfill] at htarget
    exact Forest.mem_rows_of_parent? htarget.symm

/-! ### Whether they lead to visible rows -/

/-- A row whose subtree ends that of another one has the same row behind it. -/
lemma head?_behind_of_suffix (h : f.WellFormed treeId) (hfill : f.roots = p.fill n)
    (ht : f.roots = q.fill t) (hsuffix : n.preorder <:+ preorderAll t.children) :
    (p.behind shownAll).head? = (q.behind shownAll).head? := by
  obtain ⟨front, hfront⟩ := hsuffix
  have hrows : f.rows =
      p.before preorderAll n ++ n :: (preorderAll n.children ++ p.behind preorderAll) := by
    rw [Position.rows_eq_of_fill hfill, preorder_eq]
    simp
  have hcut : f.rows = (q.before preorderAll t ++ t :: front) ++
      n :: (preorderAll n.children ++ q.behind preorderAll) := by
    rw [Position.rows_eq_of_fill ht, preorder_eq t, ← hfront, preorder_eq n]
    simp
  -- the node is met once among the rows, so both cuts have the same rows behind it
  have hnodup := h.nodup_rows
  rw [hrows] at hnodup
  have hfresh := List.nodup_middle.mp hnodup
  have hnot : n ∉ p.before preorderAll n ∧ n ∉ preorderAll n.children ++ p.behind preorderAll := by
    simpa only [List.mem_append, not_or] using (List.nodup_cons.mp hfresh).1
  have hsame := (List.append_cons_inj_of_notMem hnot.1 hnot.2).mp (hrows.symm.trans hcut)
  rw [← Position.head?_behind, ← Position.head?_behind,
    List.append_cancel_left hsame.2.2]

/-- The row behind a hidden position is visible only if the position is at the end of what a closed
visible row hides. -/
lemma exists_closed_of_head?_behind (h : f.WellFormed treeId) (hfill : f.roots = p.fill n)
    (hp : ¬ p.isShown) (hm : (p.behind shownAll).head? = some m) (hvisible : m ∈ f.visibleRows) :
    ∃ t ∈ f.visibleRows, t.isOpen = false ∧ n.preorder <:+ preorderAll t.children := by
  induction p generalizing n with
  | root front back => exact absurd rfl hp
  | child front back parent up ih =>
    have hup : f.roots = up.fill (.node parent (front ++ n :: back)) := hfill
    rw [Position.behind, List.head?_append, Position.head?_shownAll] at hm
    cases back with
    | cons sibling back =>
      obtain rfl : sibling = m := by simpa using hm
      exact absurd ((h.mem_visibleRows_sibling hfill (by simp [Position.back])).mp hvisible) hp
    | nil =>
      have hend : n.preorder <:+ preorderAll (front ++ [n]) :=
        ⟨preorderAll front, by simp [preorderAll_append, preorderAll]⟩
      have hm_up : (up.behind shownAll).head? = some m := by simpa using hm
      by_cases hshown : up.isShown
      · refine ⟨_, (h.mem_visibleRows_iff hup).mpr hshown, ?_, hend⟩
        simpa [isOpen, Position.isShown, hshown] using hp
      · obtain ⟨t, ht, hclosed, hsuffix⟩ := ih hup hshown hm_up
        refine ⟨t, ht, hclosed, List.IsSuffix.trans ?_ hsuffix⟩
        exact hend.trans (List.suffix_cons _ _)

/-- The move down leads to a visible row from a visible one, and from a closed one at the end of
what a closed visible row hides. From any other row it leads to a hidden one. -/
theorem mem_visibleRows_of_below_iff (h : f.WellFormed treeId) (hn : n ∈ f.rows)
    (hmove : below ⟨f, bound⟩ n = .ok (some m)) :
    m ∈ f.visibleRows ↔ n ∈ f.visibleRows ∨ f.EndsHiddenRows n := by
  obtain ⟨p, hfill⟩ := Position.exists_fill_of_mem_rows hn
  have htarget := eq_head?_of_below h hfill hmove
  by_cases hp : p.isShown
  · refine iff_of_true ?_ (Or.inl ((h.mem_visibleRows_iff hfill).mpr hp))
    rw [Position.visibleRows_eq_of_fill hfill hp, shown_eq, List.append_assoc, List.cons_append]
    exact List.mem_append_right _ (List.mem_cons_of_mem _ (List.mem_of_head? htarget.symm))
  · have hhidden : n ∉ f.visibleRows := fun hv => hp ((h.mem_visibleRows_iff hfill).mp hv)
    rw [or_iff_right hhidden, Forest.EndsHiddenRows]
    cases hopen : n.isOpen with
    | true =>
      refine iff_of_false (fun hvisible => hhidden ?_) (by simp)
      obtain ⟨c, rest, hchildren⟩ := List.exists_cons_of_ne_nil (h.opened n hn hopen).2
      have hshown : n.shownChildren = c :: rest := by rw [shownChildren, hopen, hchildren]; rfl
      obtain rfl : m = c := by simpa [hshown, shownAll, shown_eq] using htarget
      refine h.mem_visibleRows_of_mem_preorder hn ?_ hvisible
      rw [preorder_eq, hchildren]
      exact List.mem_cons_of_mem _ (mem_preorderAll_of_mem List.mem_cons_self)
    | false =>
      have hshown : n.shownChildren = [] := by rw [shownChildren, hopen]; rfl
      rw [hshown, shownAll, List.nil_append] at htarget
      constructor
      · exact fun hvisible => ⟨rfl, exists_closed_of_head?_behind h hfill hp htarget.symm hvisible⟩
      · rintro ⟨-, t, ht, -, hsuffix⟩
        obtain ⟨q, hq, hshown⟩ := Position.exists_fill_of_mem_visibleRows ht
        rw [head?_behind_of_suffix h hfill hq hsuffix] at htarget
        rw [Position.visibleRows_eq_of_fill hq hshown]
        exact List.mem_append_right _ (List.mem_of_head? htarget.symm)

/-- The move up leads to a visible row from a visible one, and from the first child of a visible
parent. From any other row it leads to a hidden one. -/
theorem mem_visibleRows_of_above_iff (h : f.WellFormed treeId) (hn : n ∈ f.rows)
    (hmove : above ⟨f, bound⟩ n = .ok (some m)) :
    m ∈ f.visibleRows ↔ n ∈ f.visibleRows ∨ f.StartsBelowVisible n := by
  obtain ⟨p, hfill⟩ := Position.exists_fill_of_mem_rows hn
  have htarget := eq_getLast?_of_above h hfill hmove
  by_cases hp : p.isShown
  · refine iff_of_true ?_ (Or.inl ((h.mem_visibleRows_iff hfill).mpr hp))
    rw [Position.visibleRows_eq_of_fill hfill hp, List.append_assoc]
    exact List.mem_append_left _ (List.mem_of_getLast? htarget.symm)
  · have hhidden : n ∉ f.visibleRows := fun hv => hp ((h.mem_visibleRows_iff hfill).mp hv)
    rw [or_iff_right hhidden, Forest.StartsBelowVisible, h.previous?_fill hfill,
      h.parent?_fill hfill]
    rw [Position.getLast?_before] at htarget
    cases hfront : p.front.getLast? with
    | some previous =>
      simp only [hfront] at htarget
      refine iff_of_false (fun hvisible => hp ?_) (by simp)
      have hprevious := List.mem_of_getLast? hfront
      have hbelow := (shown_sublist_preorder previous).mem (List.mem_of_getLast? htarget.symm)
      refine (h.mem_visibleRows_sibling hfill (List.mem_append_left _ hprevious)).mp ?_
      exact h.mem_visibleRows_of_mem_preorder (Position.mem_rows_of_mem_front hfill hprevious)
        hbelow hvisible
    | none =>
      simp only [hfront] at htarget
      rw [← htarget]
      simp

end Navigator

end Sidebar
