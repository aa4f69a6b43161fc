import Mathlib.Data.List.Chain

/-! What is left by a loop that erases elements by index and steps on after each erasure. -/
namespace VectorEdit
variable {α : Type}

/-- The element behind an erased one is passed over. -/
def eraseSkipping (erased : α → Bool) : List α → List α
  | [] => []
  | [x] => if erased x then [] else [x]
  | x :: y :: xs => if erased x then y :: eraseSkipping erased xs else x :: eraseSkipping erased (y :: xs)

/-- No two elements in a row are to be erased. -/
def Apart (erased : α → Bool) (xs : List α) : Prop := xs.IsChain fun x y => ¬ (erased x = true ∧ erased y = true)

variable {erased : α → Bool}

theorem eraseSkipping_sublist (xs : List α) : (eraseSkipping erased xs).Sublist xs := by
  fun_induction eraseSkipping erased xs with
  | case1 => exact .slnil
  | case2 x gone => exact .cons x .slnil
  | case3 x kept => exact .refl _
  | case4 x y xs gone ih => exact (ih.cons_cons y).cons x
  | case5 x y xs kept ih => exact ih.cons_cons x

theorem apart_cons_of_kept {x : α} (kept : ¬ erased x = true) (xs : List α) :
    Apart erased (x :: xs) ↔ Apart erased xs := by
  rw [Apart, List.isChain_cons]
  exact and_iff_right fun y _ both => kept both.1

/-- The loop erases everything just where there are no two in a row. -/
theorem eraseSkipping_eq_filter_iff (xs : List α) :
    eraseSkipping erased xs = xs.filter (fun x => !erased x) ↔ Apart erased xs := by
  fun_induction eraseSkipping erased xs with
  | case1 => exact iff_of_true rfl .nil
  | case2 x gone => exact iff_of_true (by simp [gone]) (.singleton x)
  | case3 x kept => exact iff_of_true (by simp [kept]) (.singleton x)
  | case4 x y xs gone ih =>
      rw [List.filter_cons_of_neg (by simp [gone]), Apart, List.isChain_cons_cons]
      by_cases twice : erased y = true
      · refine iff_of_false ?_ fun both => both.1 ⟨gone, twice⟩
        intro same
        have kept := List.of_mem_filter (same ▸ List.mem_cons_self : y ∈ (y :: xs).filter fun x => !erased x)
        rw [twice] at kept
        cases kept
      · have rest : Apart erased (y :: xs) ↔ Apart erased xs := apart_cons_of_kept twice xs
        rw [List.filter_cons_of_pos (by simp [twice]), List.cons.injEq, ih, ← rest]
        exact ⟨fun both => ⟨fun bad => twice bad.2, both.2⟩, fun both => ⟨rfl, both.2⟩⟩
  | case5 x y xs kept ih =>
      rw [List.filter_cons_of_pos (by simp [kept]), List.cons.injEq, ih, apart_cons_of_kept kept]
      exact and_iff_right rfl

end VectorEdit
