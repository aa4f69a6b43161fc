import SyncRGB.FileTree.Walk

/-! A tree whose directories are spellings: every name is a link to a directory of its own, so two paths
lead to one place only when they spell it alike. The parents of a long chain end at the root. -/
namespace FileTree
open ByteCodec

/-- Behind `depth` components the parent is the root. -/
def up (depth : Nat) (w : List Bytes) : List Bytes :=
  if w = [] ∨ depth ≤ w.length then [] else w ++ [above]

theorem up_rooted (depth : Nat) (w : List Bytes) : ∃ n, (up depth)^[n] w = [] := by
  induction gap : depth - w.length using Nat.strong_induction_on generalizing w with
  | _ k ih =>
      by_cases ends : w = [] ∨ depth ≤ w.length
      · exact ⟨1, if_pos ends⟩
      · obtain ⟨-, short⟩ := not_or.mp ends
        have longer : (w ++ [above]).length = w.length + 1 := List.length_append
        obtain ⟨n, reached⟩ := ih (depth - (w ++ [above]).length) (by omega) (w ++ [above]) rfl
        apply Exists.intro (n + 1)
        rw [Function.iterate_succ_apply, up, if_neg ends]
        exact reached

/-- The working directory is spelled as no path from the root is. -/
def freeTree (depth : Nat) : DirectoryTree (List Bytes) where
  root := []
  working := [above]
  parent := up depth
  entry w name := some (w ++ [name])
  parent_root := if_pos (Or.inl rfl)
  rooted := up_rooted depth

def startSpelling (path : Bytes) : List Bytes := if IsAbsolute path then [] else [above]

theorem freeTree_start (depth : Nat) (path : Bytes) :
    (freeTree depth).start path = startSpelling path := rfl

theorem length_spell_le (w : List Bytes) (c : Bytes) : (spell w c).length ≤ w.length + 1 := by
  rw [spell]
  split
  · exact Nat.le_succ _
  · split
    · exact Nat.zero_le _
    · exact List.length_append.le

theorem freeTree_step {depth : Nat} {w : List Bytes} (short : w.length < depth) (c : Bytes) :
    (freeTree depth).step w c = some (spell w c) := by
  rw [DirectoryTree.step, spell]
  by_cases stay : c = here
  · rw [if_pos stay, if_pos stay]
  · rw [if_neg stay, if_neg stay]
    by_cases climb : c = above
    · rw [if_pos climb]
      change some (up depth w) = _
      by_cases top : w = []
      · rw [up, if_pos (Or.inl top), if_pos ⟨climb, top⟩]
      · rw [up, if_neg (not_or.mpr ⟨top, Nat.not_le.mpr short⟩), if_neg (fun both => top both.2), climb]
    · rw [if_neg climb, if_neg fun both => climb both.1]
      rfl

theorem freeTree_walk {depth : Nat} {w cs : List Bytes} (short : w.length + cs.length ≤ depth) :
    (freeTree depth).walk w cs = some (spelling w cs) := by
  induction cs generalizing w with
  | nil => rfl
  | cons c cs ih =>
      rw [List.length_cons] at short
      have next := length_spell_le w c
      rw [DirectoryTree.walk, freeTree_step (by omega), Option.bind_some, ih (by omega)]
      rfl

theorem length_startSpelling_le (path : Bytes) : (startSpelling path).length ≤ 1 := by
  rw [startSpelling]
  split
  · exact Nat.zero_le 1
  · exact Nat.le_refl 1

theorem freeTree_directory {depth : Nat} {path : Bytes} (nonempty : cstr path ≠ [])
    (deep : (components path).length < depth) :
    (freeTree depth).directory path = some (spelling (startSpelling path) (components path)) := by
  have one := length_startSpelling_le path
  rw [DirectoryTree.directory, if_neg nonempty, freeTree_start, freeTree_walk (by omega)]

theorem freeTree_named {depth : Nat} {path : Bytes} (nonempty : cstr path ≠ [])
    (deep : (components path).length < depth) :
    (freeTree depth).named path =
      some ⟨spelling (startSpelling path) (components path).dropLast,
        (components path).getLast?.getD here⟩ := by
  have one := length_startSpelling_le path
  have fewer : (components path).dropLast.length ≤ (components path).length := by
    rw [List.length_dropLast]
    exact Nat.sub_le _ _
  rw [DirectoryTree.named, if_neg nonempty, freeTree_start, freeTree_walk (by omega), Option.map_some]

end FileTree
