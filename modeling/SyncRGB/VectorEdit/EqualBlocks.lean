import Mathlib.Data.List.Basic

/-! Lists that are put together from blocks of one length. -/
namespace VectorEdit

variable {α β : Type} {f : α → List β} {n : Nat}

theorem length_flatMap_of_blocks (blocks : ∀ a, (f a).length = n) (xs : List α) :
    (xs.flatMap f).length = n * xs.length := by
  induction xs with
  | nil => rfl
  | cons x xs ih => rw [List.flatMap_cons, List.length_append, ih, blocks, List.length_cons, Nat.mul_succ, Nat.add_comm]

/-- Where the entries of a block stand. -/
theorem getElem?_flatMap_of_blocks (blocks : ∀ a, (f a).length = n) (xs : List α) (k : Nat) {i : Nat} (inside : i < n) :
    (xs.flatMap f)[n * k + i]? = xs[k]?.bind fun a => (f a)[i]? := by
  induction xs generalizing k with
  | nil => rfl
  | cons x xs ih =>
      rw [List.flatMap_cons]
      cases k with
      | zero =>
          rw [Nat.mul_zero, Nat.zero_add, List.getElem?_append_left (by rw [blocks]; exact inside)]
          rfl
      | succ k =>
          have behind : n * (k + 1) + i - (f x).length = n * k + i := by rw [blocks, Nat.mul_succ]; omega
          rw [List.getElem?_append_right (by rw [blocks, Nat.mul_succ]; omega), behind, ih]
          rfl

end VectorEdit
