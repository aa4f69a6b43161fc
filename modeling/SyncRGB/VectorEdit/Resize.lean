import Mathlib.Data.List.Basic

/-! A vector that is resized several times in a row: what was cut off once comes back as fill. -/
namespace VectorEdit
variable {α : Type} (fill : α)

/-- `std::vector::resize`. -/
def resize (xs : List α) (n : Nat) : List α := xs.take n ++ List.replicate (n - xs.length) fill

theorem resize_length (xs : List α) (n : Nat) : (resize fill xs n).length = n := by
  simp only [resize, List.length_append, List.length_take, List.length_replicate]
  omega

theorem resize_self (xs : List α) : resize fill xs xs.length = xs := by simp [resize]

theorem resize_of_le {xs : List α} {n : Nat} (room : xs.length ≤ n) :
    resize fill xs n = xs ++ List.replicate (n - xs.length) fill := by
  rw [resize, List.take_of_length_le room]

/-- Growing and resizing again is one resize. -/
theorem resize_resize {xs : List α} {a : Nat} (grown : xs.length ≤ a) (n : Nat) :
    resize fill (resize fill xs a) n = resize fill (xs.take n) n := by
  rw [resize_of_le fill grown, resize_of_le fill (List.length_take_le n xs), resize,
    List.take_append, List.append_assoc, List.take_replicate, List.replicate_append_replicate]
  have total : min (n - xs.length) (a - xs.length) + (n - (xs ++ List.replicate (a - xs.length) fill).length) =
      n - (xs.take n).length := by
    simp only [List.length_append, List.length_replicate, List.length_take]
    omega
  rw [total]

def lowest (start : Nat) (sizes : List Nat) : Nat := sizes.foldl min start

theorem lowest_le (start : Nat) (sizes : List Nat) : lowest start sizes ≤ start := by
  induction sizes generalizing start with
  | nil => exact Nat.le_refl start
  | cons n sizes ih => exact Nat.le_trans (ih (min start n)) (Nat.min_le_left start n)

theorem lowest_le_last {start a : Nat} (below : start ≤ a) (sizes : List Nat) :
    lowest start sizes ≤ sizes.getLastD a := by
  induction sizes generalizing start a with
  | nil => exact below
  | cons n sizes ih =>
      rw [List.getLastD_cons]
      exact ih (Nat.min_le_right start n)

/-- Only the elements below the smallest length survive. -/
theorem foldl_resize_resize (sizes : List Nat) {xs : List α} {a : Nat} (grown : xs.length ≤ a) :
    sizes.foldl (resize fill) (resize fill xs a) =
      resize fill (xs.take (lowest xs.length sizes)) (sizes.getLastD a) := by
  induction sizes generalizing xs a with
  | nil => rw [lowest, List.foldl_nil, List.foldl_nil, List.take_length, List.getLastD_nil]
  | cons n sizes ih =>
      have short : (xs.take n).length = min xs.length n := by rw [List.length_take, Nat.min_comm]
      have inside : lowest (min xs.length n) sizes ≤ n :=
        Nat.le_trans (lowest_le _ sizes) (Nat.min_le_right xs.length n)
      rw [List.foldl_cons, resize_resize fill grown, ih (List.length_take_le n xs), short,
        List.take_take, Nat.min_eq_left inside, List.getLastD_cons]
      rfl

theorem foldl_resize (xs : List α) (sizes : List Nat) :
    sizes.foldl (resize fill) xs =
      resize fill (xs.take (lowest xs.length sizes)) (sizes.getLastD xs.length) := by
  rw [← foldl_resize_resize fill sizes (Nat.le_refl xs.length), resize_self]

theorem foldl_resize_length (xs : List α) (sizes : List Nat) :
    (sizes.foldl (resize fill) xs).length = sizes.getLastD xs.length := by
  rw [foldl_resize, resize_length]

theorem resize_eq_iff {xs ys : List α} (room : xs.length ≤ ys.length) :
    resize fill xs ys.length = ys ↔ ys.take xs.length = xs ∧ ∀ y ∈ ys.drop xs.length, y = fill := by
  rw [resize_of_le fill room]
  constructor
  · intro same
    have front := congrArg (List.take xs.length) same
    have back := congrArg (List.drop xs.length) same
    rw [List.take_left] at front
    rw [List.drop_left] at back
    refine ⟨front.symm, fun y member => ?_⟩
    rw [← back] at member
    exact List.eq_of_mem_replicate member
  · rintro ⟨front, back⟩
    have rest : ys.drop xs.length = List.replicate (ys.length - xs.length) fill :=
      List.eq_replicate_iff.mpr ⟨List.length_drop, back⟩
    rw [← rest]
    conv_lhs => rw [← front]
    rw [List.length_take_of_le room]
    exact List.take_append_drop _ ys

/-- What came out is `ys` just when `ys` agrees below the smallest length and is fill behind it. -/
theorem foldl_resize_eq_iff (xs ys : List α) (sizes : List Nat)
    (last : sizes.getLastD xs.length = ys.length) :
    sizes.foldl (resize fill) xs = ys ↔
      ys.take (lowest xs.length sizes) = xs.take (lowest xs.length sizes) ∧
        ∀ y ∈ ys.drop (lowest xs.length sizes), y = fill := by
  have inside := lowest_le_last (Nat.le_refl xs.length) sizes
  rw [last] at inside
  have kept : (xs.take (lowest xs.length sizes)).length = lowest xs.length sizes :=
    List.length_take_of_le (lowest_le xs.length sizes)
  rw [foldl_resize, last, resize_eq_iff fill (by omega), kept]

end VectorEdit
