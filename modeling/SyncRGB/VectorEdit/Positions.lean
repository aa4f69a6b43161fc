import Mathlib.Data.List.Nodup
import Mathlib.Data.List.InsertIdx

/-! Insertions into and erasures from a vector by position, which fail outside of it. -/
namespace VectorEdit
variable {α : Type}

/-- `v.insert(v.begin() + i, x)`. -/
def insertAt (xs : List α) (i : Nat) (x : α) : Option (List α) :=
  if i ≤ xs.length then some (xs.insertIdx i x) else none

/-- `v.erase(v.begin() + i)`. -/
def eraseAt (xs : List α) (i : Nat) : Option (List α) :=
  if i < xs.length then some (xs.eraseIdx i) else none

def insertAll : List (Nat × α) → List α → Option (List α)
  | [], xs => some xs
  | (i, x) :: rest, xs => (insertAt xs i x).bind (insertAll rest)

def removeAll (positions : List Nat) (xs : List α) : Option (List α) :=
  if ∀ i ∈ positions, i < xs.length then
    some ((xs.zipIdx.filter fun e => e.2 ∉ positions).map Prod.fst)
  else none

theorem insertAt_length (front back : List α) (x : α) :
    insertAt (front ++ back) front.length x = some (front ++ x :: back) := by
  rw [insertAt, if_pos (by simp)]
  induction front with
  | nil => simp
  | cons a front ih => simpa using ih

theorem eraseAt_length (front back : List α) (x : α) :
    eraseAt (front ++ x :: back) front.length = some (front ++ back) := by
  rw [eraseAt, if_pos (by simp), List.eraseIdx_append_of_length_le (Nat.le_refl _)]
  simp

/-- Erasures at the same place of two vectors. -/
theorem zip_eraseIdx {β : Type} (xs : List α) (ys : List β) (i : Nat) :
    (xs.eraseIdx i).zip (ys.eraseIdx i) = (xs.zip ys).eraseIdx i := by
  induction xs generalizing ys i with
  | nil => rfl
  | cons x xs ih =>
      cases ys with
      | nil => rw [List.eraseIdx_nil, List.zip_nil_right, List.zip_nil_right, List.eraseIdx_nil]
      | cons y ys =>
          cases i with
          | zero => rfl
          | succ i => rw [List.eraseIdx_cons_succ, List.eraseIdx_cons_succ, List.zip_cons_cons, ih, List.zip_cons_cons,
              List.eraseIdx_cons_succ]

theorem length_of_insertAt {xs ys : List α} {i : Nat} {x : α} (inserted : insertAt xs i x = some ys) :
    ys.length = xs.length + 1 := by
  unfold insertAt at inserted
  split at inserted <;> cases inserted
  case isTrue inside => exact List.length_insertIdx_of_le_length inside x

theorem length_of_insertAll {es : List (Nat × α)} {xs ys : List α}
    (inserted : insertAll es xs = some ys) : ys.length = xs.length + es.length := by
  induction es generalizing xs with
  | nil => cases inserted; rfl
  | cons e es ih =>
      obtain ⟨zs, first, rest⟩ := Option.bind_eq_some_iff.mp inserted
      rw [ih rest, length_of_insertAt first, List.length_cons]
      omega

theorem getElem?_of_insertAt {xs ys : List α} {i j : Nat} {x : α}
    (inserted : insertAt xs i x = some ys) (before : j < i) : ys[j]? = xs[j]? := by
  unfold insertAt at inserted
  split at inserted <;> cases inserted
  exact List.getElem?_insertIdx_of_lt before

theorem getElem?_of_insertAll {es : List (Nat × α)} {xs ys : List α} {j : Nat}
    (inserted : insertAll es xs = some ys) (before : ∀ e ∈ es, j < e.1) : ys[j]? = xs[j]? := by
  induction es generalizing xs with
  | nil => cases inserted; rfl
  | cons e es ih =>
      obtain ⟨zs, first, rest⟩ := Option.bind_eq_some_iff.mp inserted
      have later := ih rest fun f member => before f (List.mem_cons_of_mem _ member)
      exact later.trans (getElem?_of_insertAt first (before e List.mem_cons_self))

theorem filter_zipIdx_outside (xs : List α) (n m k : Nat) :
    ((xs.zipIdx k).filter fun e => e.2 ∉ List.range' n m).map Prod.fst =
      xs.take (n - k) ++ xs.drop (n + m - k) := by
  induction xs generalizing k with
  | nil => simp
  | cons x xs ih =>
      rw [List.zipIdx_cons, List.filter_cons]
      have step := ih (k + 1)
      simp only [List.mem_range'_1] at step ⊢
      by_cases before : k < n
      · have front : n - k = n - (k + 1) + 1 := by omega
        have back : n + m - k = n + m - (k + 1) + 1 := by omega
        have kept : ¬ (n ≤ k ∧ k < n + m) := by omega
        simp only [kept, not_false_eq_true, decide_true, if_true, List.map_cons, step, front, back,
          List.take_succ_cons, List.drop_succ_cons, List.cons_append]
      · have front : n - k = 0 := by omega
        have front' : n - (k + 1) = 0 := by omega
        by_cases inside : k < n + m
        · have back : n + m - k = n + m - (k + 1) + 1 := by omega
          have gone : n ≤ k ∧ k < n + m := by omega
          simp only [gone, and_self, not_true_eq_false, decide_false, Bool.false_eq_true, if_false,
            step, front, front', back, List.take_zero, List.drop_succ_cons]
        · have back : n + m - k = 0 := by omega
          have back' : n + m - (k + 1) = 0 := by omega
          have kept : ¬ (n ≤ k ∧ k < n + m) := by omega
          simp only [kept, not_false_eq_true, decide_true, if_true, List.map_cons, step, front,
            front', back, back', List.take_zero, List.drop_zero, List.nil_append]

/-- Removing `m` entries from position `n` on. -/
theorem removeAll_range' (n m : Nat) (xs : List α) :
    removeAll (List.range' n m) xs =
      if m = 0 ∨ n + m ≤ xs.length then some (xs.take n ++ xs.drop (n + m)) else none := by
  have inside : (∀ i ∈ List.range' n m, i < xs.length) ↔ m = 0 ∨ n + m ≤ xs.length := by
    simp only [List.mem_range'_1]
    constructor
    · intro all
      by_contra beyond
      have last := all (n + m - 1) (by omega)
      omega
    · rintro (none_ | room) i member <;> omega
  have kept := filter_zipIdx_outside xs n m 0
  rw [Nat.sub_zero, Nat.sub_zero] at kept
  simp only [removeAll, inside, kept]

end VectorEdit
