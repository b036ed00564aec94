import Sidebar.FileSystem.Access
import Mathlib.Tactic.Lemma

/-!
# Steps of following names

Names are followed one by one: each of them ends the way, or leads on to another way. What may
become of a name is told here once, with a word for each case, and what holds of all ways is proved
by induction on them.
-/

namespace Sidebar.FileSystem

/-- At the place there is a directory, and the name is looked up in its entries. -/
structure LooksUp (fs : FileSystem) (here : Place) (entries : List (String × Inode))
    (name : String) : Prop where
  dir : fs.at? here = some (.dir entries)
  ne_dot : name ≠ "."
  ne_up : name ≠ ".."
  short : ¬ name.utf8ByteSize > maxNameBytes

/-- Following names from a place leads to an outcome. -/
inductive Leads (fs : FileSystem) (followLast : Bool) :
    (links : Nat) → (here : Place) → (names : List String) → Except Errno Destination → Prop
  | arrives {links here inode} (hat : fs.at? here = some inode) :
    Leads fs followLast links here [] (.ok (.found here inode))
  /-- Nothing is there, whether names are left or not. -/
  | nothing {links here names} (hat : fs.at? here = none) :
    Leads fs followLast links here names (.error .noEntry)
  /-- A name is left where there is no directory that can be read. -/
  | blocked {links here name rest inode} (hat : fs.at? here = some inode)
      (hdir : ∀ entries, inode ≠ .dir entries) :
    Leads fs followLast links here (name :: rest) (.error inode.refusal)
  | dot {links here rest entries outcome} (hat : fs.at? here = some (.dir entries))
      (h : Leads fs followLast links here rest outcome) :
    Leads fs followLast links here ("." :: rest) outcome
  | up {links here rest entries outcome} (hat : fs.at? here = some (.dir entries))
      (h : Leads fs followLast links here.dropLast rest outcome) :
    Leads fs followLast links here (".." :: rest) outcome
  | tooLong {links here name rest entries} (hat : fs.at? here = some (.dir entries))
      (hdot : name ≠ ".") (hup : name ≠ "..") (hlong : name.utf8ByteSize > maxNameBytes) :
    Leads fs followLast links here (name :: rest) (.error .nameTooLong)
  /-- The last name is missing. -/
  | missing {links here name entries} (hlook : fs.LooksUp here entries name)
      (hlookup : entries.lookup name = none) :
    Leads fs followLast links here [name] (.ok (.missing here name))
  /-- A name on the way is missing. -/
  | noWay {links here name rest entries} (hlook : fs.LooksUp here entries name)
      (hlookup : entries.lookup name = none) (hrest : rest ≠ []) :
    Leads fs followLast links here (name :: rest) (.error .noEntry)
  /-- The last name is a link, and it is the link that is asked for. -/
  | linkItself {links here name target entries} (hlast : followLast = false)
      (hlook : fs.LooksUp here entries name)
      (hlookup : entries.lookup name = some (.link target)) :
    Leads fs followLast links here [name] (.ok (.found (here ++ [name]) (.link target)))
  /-- The name is a link, but no link may be followed any more. -/
  | linksSpent {here name target rest entries} (hpast : rest = [] → followLast = true)
      (hlook : fs.LooksUp here entries name)
      (hlookup : entries.lookup name = some (.link target)) :
    Leads fs followLast 0 here (name :: rest) (.error .tooManyLinks)
  | link {links here name target rest entries outcome} (hpast : rest = [] → followLast = true)
      (hlook : fs.LooksUp here entries name)
      (hlookup : entries.lookup name = some (.link target))
      (h : Leads fs followLast links (if target.startsWith '/' then [] else here)
        (targetNames target ++ rest) outcome) :
    Leads fs followLast (links + 1) here (name :: rest) outcome
  /-- The name is that of something else than a link. -/
  | entry {links here name rest entries inode outcome} (hlook : fs.LooksUp here entries name)
      (hlookup : entries.lookup name = some inode) (hlink : ∀ target, inode ≠ .link target)
      (h : Leads fs followLast links (here ++ [name]) rest outcome) :
    Leads fs followLast links here (name :: rest) outcome

/-- Following names does what one of the cases says. -/
theorem leads (fs : FileSystem) (followLast : Bool) (links : Nat) (here : Place)
    (names : List String) :
    fs.Leads followLast links here names (fs.follow followLast links here names) := by
  have hpast : ∀ {rest : List String}, ¬ (rest.isEmpty && !followLast) = true →
      rest = [] → followLast = true := by
    rintro rest hlast rfl
    simpa using hlast
  fun_induction FileSystem.follow fs followLast links here names with
  -- no name is left
  | case1 _ _ _ hat => exact .arrives hat
  | case2 _ _ hat => exact .nothing hat
  -- names that are not looked up
  | case3 _ _ _ _ hat ih => exact .dot hat ih
  | case4 _ _ _ _ hat _ ih => exact .up hat ih
  | case5 _ _ _ _ _ hat hdot hup hlong => exact .tooLong hat hdot hup hlong
  -- nothing has the name
  | case6 _ _ _ rest _ hat hdot hup hname hlookup hrest =>
    obtain rfl : rest = [] := List.isEmpty_iff.mp hrest
    exact .missing ⟨hat, hdot, hup, hname⟩ hlookup
  | case7 _ _ _ _ _ hat hdot hup hname hlookup hrest =>
    exact .noWay ⟨hat, hdot, hup, hname⟩ hlookup fun hnil => hrest (List.isEmpty_iff.mpr hnil)
  -- a link has the name
  | case8 _ _ _ rest _ hat hdot hup hname _ hlookup hlast =>
    rw [Bool.and_eq_true, Bool.not_eq_true'] at hlast
    obtain rfl : rest = [] := List.isEmpty_iff.mp hlast.1
    exact .linkItself hlast.2 ⟨hat, hdot, hup, hname⟩ hlookup
  | case9 _ _ _ _ hat hdot hup hname _ hlookup hlast =>
    exact .linksSpent (hpast hlast) ⟨hat, hdot, hup, hname⟩ hlookup
  | case10 _ _ _ _ hat hdot hup hname _ hlookup hlast _ ih =>
    exact .link (hpast hlast) ⟨hat, hdot, hup, hname⟩ hlookup ih
  -- something else has the name
  | case11 _ _ _ _ _ hat hdot hup hname _ hlink hlookup ih =>
    exact .entry ⟨hat, hdot, hup, hname⟩ hlookup hlink ih
  -- a name is left where there is no directory
  | case12 _ _ _ _ _ hdir hat => exact .blocked hat hdir
  | case13 _ _ _ _ hat => exact .nothing hat

/-- No two cases say different things. -/
theorem Leads.eq {fs : FileSystem} {followLast : Bool} {links : Nat} {here : Place}
    {names : List String} {outcome : Except Errno Destination}
    (h : fs.Leads followLast links here names outcome) :
    fs.follow followLast links here names = outcome := by
  induction h with
  | arrives hat => rw [follow, hat]
  | @nothing _ _ names hat => cases names <;> rw [follow, hat]
  | @blocked _ _ _ _ inode hat hdir =>
    rw [follow, hat]
    cases inode with
    | dir entries => exact absurd rfl (hdir entries)
    | _ => rfl
  | dot hat _ ih =>
    rw [follow, hat]
    simpa using ih
  | up hat _ ih =>
    rw [follow, hat]
    simpa using ih
  | tooLong hat hdot hup hlong =>
    rw [follow, hat]
    simp only [hdot, hup, hlong, if_true, if_false]
  | missing hlook hlookup =>
    rw [follow, hlook.dir]
    simp only [hlook.ne_dot, hlook.ne_up, hlook.short, if_false, hlookup]
    rfl
  | noWay hlook hlookup hrest =>
    rw [follow, hlook.dir]
    simp only [hlook.ne_dot, hlook.ne_up, hlook.short, if_false, hlookup]
    simp [hrest]
  | linkItself hlast hlook hlookup =>
    rw [follow, hlook.dir]
    simp only [hlook.ne_dot, hlook.ne_up, hlook.short, if_false, hlookup]
    simp [hlast]
  | linksSpent hpast hlook hlookup =>
    rw [follow, hlook.dir]
    simp only [hlook.ne_dot, hlook.ne_up, hlook.short, if_false, hlookup]
    simpa using hpast
  | link hpast hlook hlookup _ ih =>
    rw [follow, hlook.dir]
    simp only [hlook.ne_dot, hlook.ne_up, hlook.short, if_false, hlookup]
    rw [if_neg (by simpa using hpast)]
    exact ih
  | @entry _ _ _ _ _ inode _ hlook hlookup hlink _ ih =>
    rw [follow, hlook.dir]
    simp only [hlook.ne_dot, hlook.ne_up, hlook.short, if_false, hlookup]
    cases inode with
    | link target => exact absurd rfl (hlink target)
    | _ => exact ih

lemma leads_iff {fs : FileSystem} {followLast : Bool} {links : Nat} {here : Place}
    {names : List String} {outcome : Except Errno Destination} :
    fs.Leads followLast links here names outcome ↔
      fs.follow followLast links here names = outcome :=
  ⟨Leads.eq, fun h => h ▸ fs.leads followLast links here names⟩

end Sidebar.FileSystem
