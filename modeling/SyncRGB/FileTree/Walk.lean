import Mathlib.Data.List.Induction
import Mathlib.Logic.Function.Iterate
import SyncRGB.FileTree.Path

/-! Directory trees and what a path names in them. Links are followed, so a component can lead anywhere;
two paths lead to the same place in every tree only when they spell it alike. -/
namespace FileTree
open ByteCodec

/-- `entry d name` is the directory behind a name in `d`, wherever a link puts it. -/
structure DirectoryTree (Dir : Type) where
  root : Dir
  working : Dir
  parent : Dir → Dir
  entry : Dir → Bytes → Option Dir
  parent_root : parent root = root
  rooted : ∀ d, ∃ n, parent^[n] d = root

/-- A file by the directory that holds it and its name there. -/
structure File (Dir : Type) where
  dir : Dir
  name : Bytes
  deriving DecidableEq

def LiesDirectlyInside {Dir : Type} (home : Dir) (f : File Dir) : Prop :=
  f.dir = home ∧ f.name ≠ here ∧ f.name ≠ above

namespace DirectoryTree
variable {Dir : Type} (t : DirectoryTree Dir)

def step (d : Dir) (component : Bytes) : Option Dir :=
  if component = here then some d
  else if component = above then some (t.parent d)
  else t.entry d component

def walk : Dir → List Bytes → Option Dir
  | d, [] => some d
  | d, c :: cs => (t.step d c).bind fun e => walk e cs

def start (path : Bytes) : Dir := if IsAbsolute path then t.root else t.working

/-- The directory a path leads to. -/
def directory (path : Bytes) : Option Dir :=
  if cstr path = [] then none else t.walk (t.start path) (components path)

/-- The file a path names: the last component in the directory that the others lead to. A path without
components names the directory it starts in. -/
def named (path : Bytes) : Option (File Dir) :=
  if cstr path = [] then none
  else (t.walk (t.start path) (components path).dropLast).map
    (⟨·, (components path).getLast?.getD here⟩)

theorem walk_append (d : Dir) (cs ds : List Bytes) :
    t.walk d (cs ++ ds) = (t.walk d cs).bind (t.walk · ds) := by
  induction cs generalizing d with
  | nil => rfl
  | cons c cs ih =>
      rw [List.cons_append, walk, walk, Option.bind_assoc]
      exact Option.bind_congr fun e _ => ih e

theorem walk_here (d : Dir) {cs : List Bytes} (still : ∀ c ∈ cs, c = here) : t.walk d cs = some d := by
  induction cs with
  | nil => rfl
  | cons c cs ih =>
      obtain ⟨rfl, rest⟩ := List.forall_mem_cons.mp still
      exact ih rest

theorem walk_root {cs : List Bytes} (still : ∀ c ∈ cs, c = here ∨ c = above) :
    t.walk t.root cs = some t.root := by
  induction cs with
  | nil => rfl
  | cons c cs ih =>
      obtain ⟨first, rest⟩ := List.forall_mem_cons.mp still
      have stays : t.step t.root c = some t.root := by
        rcases first with rfl | rfl
        · rfl
        · exact congrArg some t.parent_root
      rw [walk, stays, Option.bind_some, ih rest]

end DirectoryTree

/-- How a path spells the place it leads to, from a place spelled `w`: `.` adds nothing, nor does `..` at
the root. -/
def spell (w : List Bytes) (component : Bytes) : List Bytes :=
  if component = here then w
  else if component = above ∧ w = [] then []
  else w ++ [component]

def spelling (w cs : List Bytes) : List Bytes := cs.foldl spell w

theorem spelling_append (w cs ds : List Bytes) : spelling w (cs ++ ds) = spelling (spelling w cs) ds :=
  List.foldl_append

theorem prefix_spell (w : List Bytes) (c : Bytes) : w <+: spell w c := by
  rw [spell]
  split
  · exact List.prefix_rfl
  · split
    · next added =>
        have empty : w = [] := added.2
        subst empty
        exact List.prefix_rfl
    · exact List.prefix_append _ _

theorem prefix_spelling (w cs : List Bytes) : w <+: spelling w cs := by
  induction cs generalizing w with
  | nil => exact List.prefix_rfl
  | cons c cs ih => exact (prefix_spell w c).trans (ih (spell w c))

theorem spell_eq_iff (w : List Bytes) (c : Bytes) :
    spell w c = w ↔ c = here ∨ (c = above ∧ w = []) := by
  rw [spell]
  split
  · next same => exact iff_of_true rfl (Or.inl same)
  · next other =>
      split
      · next top => exact iff_of_true top.2.symm (Or.inr top)
      · next further =>
          apply iff_of_false
          · intro same
            have longer := congrArg List.length same
            simp at longer
          · rintro (same | top)
            · exact other same
            · exact further top

/-- A path leads back to where it starts, however the tree is linked, only by components that stay. -/
theorem spelling_eq_iff (w cs : List Bytes) :
    spelling w cs = w ↔ ∀ c ∈ cs, c = here ∨ (c = above ∧ w = []) := by
  induction cs with
  | nil => simp [spelling]
  | cons c cs ih =>
      rw [List.forall_mem_cons, ← ih, ← spell_eq_iff]
      constructor
      · intro whole
        have first : spell w c = w := by
          have back : spell w c <+: w := by
            have rest := prefix_spelling (spell w c) cs
            rwa [show spelling (spell w c) cs = w from whole] at rest
          exact back.eq_of_length (le_antisymm back.length_le (prefix_spell w c).length_le)
        have rest : spelling w cs = w := by
          rw [← first]
          exact whole.trans first.symm
        exact ⟨first, rest⟩
      · rintro ⟨first, rest⟩
        exact (congrArg (spelling · cs) first).trans rest

theorem above_not_head (cs : List Bytes) : (spelling [] cs).head? ≠ some above := by
  induction cs using List.reverseRecOn with
  | nil => simp [spelling]
  | append_singleton cs c ih =>
      rw [spelling_append]
      cases placed : spelling [] cs with
      | nil =>
          change (spell [] c).head? ≠ some above
          rw [spell]
          split
          · simp
          · split
            · simp
            · next other top =>
                intro head
                exact top ⟨Option.some.inj head, rfl⟩
      | cons d ds =>
          rw [placed] at ih
          have front := prefix_spell (d :: ds) c
          obtain ⟨rest, extended⟩ := front
          change (spell (d :: ds) c).head? ≠ some above
          rw [← extended]
          exact ih

/-- In a tree, a path from the root leads where its spelling leads. -/
theorem DirectoryTree.walk_spelling {Dir : Type} (t : DirectoryTree Dir) (w cs : List Bytes) :
    t.walk t.root (spelling w cs) = (t.walk t.root w).bind (t.walk · cs) := by
  induction cs generalizing w with
  | nil =>
      change t.walk t.root w = (t.walk t.root w).bind some
      exact (Option.bind_fun_some _).symm
  | cons c cs ih =>
      have first : t.walk t.root (spell w c) = (t.walk t.root w).bind (t.step · c) := by
        rw [spell]
        split
        · next same =>
            rw [same]
            exact (Option.bind_fun_some _).symm
        · split
          · next top =>
              rw [top.1, top.2]
              exact (congrArg some t.parent_root).symm
          · rw [walk_append]
            apply Option.bind_congr
            intro d _
            exact Option.bind_fun_some _
      have rest := ih (spell w c)
      rw [first, Option.bind_assoc] at rest
      exact rest

end FileTree
