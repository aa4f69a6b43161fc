import Mathlib.Data.List.Induction

/-! Slices of a vector, and what a block of stores does to them. -/
namespace VectorEdit
variable {α : Type}

def slice (start n : Nat) (xs : List α) : List α := (xs.drop start).take n

/-- A block of stores from `start` on, which ends inside the vector. -/
def overwrite (start : Nat) (ys xs : List α) : List α :=
  xs.take start ++ ys ++ xs.drop (start + ys.length)

theorem slice_length (start n : Nat) (xs : List α) :
    (slice start n xs).length = min n (xs.length - start) := by
  rw [slice, List.length_take, List.length_drop]

theorem getElem?_slice {start n i : Nat} (xs : List α) (inside : i < n) :
    (slice start n xs)[i]? = xs[start + i]? := by
  rw [slice, List.getElem?_take_of_lt inside, List.getElem?_drop]

theorem getElem?_slice_none {start n i : Nat} (xs : List α) (outside : n ≤ i) :
    (slice start n xs)[i]? = none := List.getElem?_take_eq_none outside

theorem slice_congr {s t n : Nat} {xs ys : List α} (same : ∀ p < n, xs[s + p]? = ys[t + p]?) :
    slice s n xs = slice t n ys := by
  apply List.ext_getElem?
  intro i
  by_cases inside : i < n
  · rw [getElem?_slice _ inside, getElem?_slice _ inside, same i inside]
  · rw [getElem?_slice_none _ (by omega), getElem?_slice_none _ (by omega)]

theorem slice_eq {s : Nat} {xs ys : List α} (same : ∀ p < ys.length, xs[s + p]? = ys[p]?) :
    slice s ys.length xs = ys := by
  apply List.ext_getElem?
  intro i
  by_cases inside : i < ys.length
  · rw [getElem?_slice _ inside, same i inside]
  · rw [getElem?_slice_none _ (by omega), List.getElem?_eq_none (by omega)]

@[simp] theorem overwrite_nil (start : Nat) (xs : List α) : overwrite start [] xs = xs := by
  simp [overwrite]

theorem overwrite_length {start : Nat} {ys xs : List α} (room : start + ys.length ≤ xs.length) :
    (overwrite start ys xs).length = xs.length := by
  simp only [overwrite, List.length_append, List.length_take, List.length_drop]
  omega

theorem getElem?_overwrite_of_lt {start i : Nat} {ys xs : List α} (room : start ≤ xs.length)
    (before : i < start) : (overwrite start ys xs)[i]? = xs[i]? := by
  rw [overwrite, List.append_assoc, List.getElem?_append_left (by rw [List.length_take]; omega),
    List.getElem?_take_of_lt before]

theorem getElem?_overwrite_of_le {start i : Nat} {ys xs : List α} (room : start ≤ xs.length)
    (behind : start + ys.length ≤ i) : (overwrite start ys xs)[i]? = xs[i]? := by
  have front : (xs.take start ++ ys).length = start + ys.length := by
    rw [List.length_append, List.length_take_of_le room]
  rw [overwrite, List.getElem?_append_right (by omega), List.getElem?_drop, front]
  congr 1
  omega

theorem getElem?_overwrite_inside {start i : Nat} {ys xs : List α} (room : start ≤ xs.length)
    (inside : i < ys.length) : (overwrite start ys xs)[start + i]? = ys[i]? := by
  have front : (xs.take start).length = start := List.length_take_of_le room
  rw [overwrite, List.append_assoc, List.getElem?_append_right (by omega), front,
    Nat.add_sub_cancel_left, List.getElem?_append_left inside]

/-- Stores behind a slice leave it alone. -/
theorem slice_overwrite_of_le {s n start : Nat} {ys xs : List α} (room : start ≤ xs.length)
    (before : s + n ≤ start) : slice s n (overwrite start ys xs) = slice s n xs := by
  apply slice_congr
  intro p inside
  exact getElem?_overwrite_of_lt room (by omega)

/-- Stores in front of a slice leave it alone. -/
theorem slice_overwrite_of_ge {s n start : Nat} {ys xs : List α} (room : start ≤ xs.length)
    (behind : start + ys.length ≤ s) : slice s n (overwrite start ys xs) = slice s n xs := by
  apply slice_congr
  intro p inside
  exact getElem?_overwrite_of_le room (by omega)

/-- A slice that the stores cover holds as many of them. -/
theorem slice_overwrite_self {start n : Nat} {ys xs : List α} (room : start ≤ xs.length)
    (covered : n ≤ ys.length) : slice start n (overwrite start ys xs) = ys.take n := by
  have front : (xs.take start).length = start := List.length_take_of_le room
  rw [slice, overwrite, List.append_assoc, List.drop_append_of_le_length (by omega),
    List.drop_of_length_le (by omega), List.nil_append, List.take_append_of_le_length covered]

/-- A slice of another vector, stored where it comes from. -/
theorem getElem?_overwrite_slice {start n : Nat} {ys xs : List α} (room : start + n ≤ xs.length)
    (source : start + n ≤ ys.length) (i : Nat) :
    (overwrite start (slice start n ys) xs)[i]? = if start ≤ i ∧ i < start + n then ys[i]? else xs[i]? := by
  have length : (slice start n ys).length = n := by
    rw [slice_length]
    omega
  split_ifs with inside
  · obtain ⟨p, rfl⟩ := Nat.exists_eq_add_of_le inside.1
    rw [getElem?_overwrite_inside (by omega) (by omega), getElem?_slice _ (by omega)]
  · by_cases before : i < start
    · exact getElem?_overwrite_of_lt (by omega) before
    · exact getElem?_overwrite_of_le (by omega) (by omega)

/-! ### Blocks of stores -/

/-- Blocks one after the other; `none` when one of them stores outside. -/
def writeBlocks : List (Nat × List α) → List α → Option (List α)
  | [], xs => some xs
  | block :: blocks, xs =>
      if block.2 = [] ∨ block.1 + block.2.length ≤ xs.length then
        writeBlocks blocks (overwrite block.1 block.2 xs)
      else none

theorem overwrite_block_length {start : Nat} {ys xs : List α}
    (room : ys = [] ∨ start + ys.length ≤ xs.length) : (overwrite start ys xs).length = xs.length := by
  rcases room with empty | room
  · rw [empty, overwrite_nil]
  · exact overwrite_length room

theorem writeBlocks_isSome {blocks : List (Nat × List α)} {xs : List α} :
    (writeBlocks blocks xs).isSome ↔
      ∀ block ∈ blocks, block.2 = [] ∨ block.1 + block.2.length ≤ xs.length := by
  induction blocks generalizing xs with
  | nil => exact iff_of_true rfl fun _ mem => absurd mem List.not_mem_nil
  | cons block blocks ih =>
      rw [writeBlocks, List.forall_mem_cons]
      by_cases room : block.2 = [] ∨ block.1 + block.2.length ≤ xs.length
      · rw [if_pos room, ih, overwrite_block_length room]
        exact (and_iff_right room).symm
      · rw [if_neg room]
        exact iff_of_false Bool.false_ne_true fun all => room all.1

theorem writeBlocks_cons {block : Nat × List α} {blocks : List (Nat × List α)} {xs ys : List α}
    (run : writeBlocks (block :: blocks) xs = some ys) :
    (block.2 = [] ∨ block.1 + block.2.length ≤ xs.length) ∧
      writeBlocks blocks (overwrite block.1 block.2 xs) = some ys := by
  rw [writeBlocks] at run
  split at run
  · rename_i room
    exact ⟨room, run⟩
  · cases run

theorem writeBlocks_length {blocks : List (Nat × List α)} {xs ys : List α}
    (run : writeBlocks blocks xs = some ys) : ys.length = xs.length := by
  induction blocks generalizing xs with
  | nil =>
      cases run
      rfl
  | cons block blocks ih =>
      obtain ⟨room, rest⟩ := writeBlocks_cons run
      rw [ih rest, overwrite_block_length room]

/-- A slot that no block covers keeps its value. -/
theorem getElem?_writeBlocks_of_away {blocks : List (Nat × List α)} {xs ys : List α} {slot : Nat}
    (run : writeBlocks blocks xs = some ys)
    (away : ∀ block ∈ blocks, slot < block.1 ∨ block.1 + block.2.length ≤ slot) :
    ys[slot]? = xs[slot]? := by
  induction blocks generalizing xs with
  | nil =>
      cases run
      rfl
  | cons block blocks ih =>
      obtain ⟨room, rest⟩ := writeBlocks_cons run
      obtain ⟨here, behind⟩ := List.forall_mem_cons.mp away
      rw [ih rest behind]
      rcases room with empty | room
      · rw [empty, overwrite_nil]
      · rcases here with before | beyond
        · exact getElem?_overwrite_of_lt (by omega) before
        · exact getElem?_overwrite_of_le (by omega) beyond

/-- A slot holds what the last block that covers it stores. -/
theorem getElem?_writeBlocks_of_last {front back : List (Nat × List α)} {start p : Nat}
    {zs xs ys : List α} (run : writeBlocks (front ++ (start, zs) :: back) xs = some ys)
    (inside : p < zs.length)
    (away : ∀ block ∈ back, start + p < block.1 ∨ block.1 + block.2.length ≤ start + p) :
    ys[start + p]? = zs[p]? := by
  induction front generalizing xs with
  | nil =>
      obtain ⟨room, rest⟩ := writeBlocks_cons run
      rw [getElem?_writeBlocks_of_away rest away]
      rcases room with empty | room
      · simp only at empty
        rw [empty] at inside
        cases inside
      · exact getElem?_overwrite_inside (by omega) inside
  | cons block front ih => exact ih (writeBlocks_cons run).2

/-! ### Single stores -/

/-- Stores one after the other; those outside do nothing. -/
def setAll (stores : List (Nat × α)) (xs : List α) : List α :=
  stores.foldl (fun xs store => xs.set store.1 store.2) xs

theorem setAll_length (stores : List (Nat × α)) (xs : List α) :
    (setAll stores xs).length = xs.length := by
  induction stores generalizing xs with
  | nil => rfl
  | cons store stores ih =>
      rw [setAll, List.foldl_cons]
      exact (ih _).trans List.length_set

/-- Each element is the last one that was stored there. -/
theorem getElem?_setAll (stores : List (Nat × α)) {xs : List α} {i : Nat} (inside : i < xs.length) :
    (setAll stores xs)[i]? =
      match stores.reverse.lookup i with
      | some x => some x
      | none => xs[i]? := by
  induction stores using List.reverseRecOn with
  | nil => rfl
  | append_singleton stores store ih =>
      have last : setAll (stores ++ [store]) xs = (setAll stores xs).set store.1 store.2 := by
        rw [setAll, List.foldl_append]
        rfl
      rw [last, List.reverse_append, List.reverse_singleton, List.singleton_append, List.lookup_cons]
      by_cases here : i = store.1
      · have room : store.1 < (setAll stores xs).length := by rw [setAll_length, ← here]; exact inside
        rw [here, List.getElem?_set_self room, beq_self_eq_true]
      · have away : (i == store.1) = false := beq_false_of_ne here
        rw [List.getElem?_set_ne (Ne.symm here), ih, away]

theorem setAll_eq_self_iff (stores : List (Nat × α)) (xs : List α) :
    setAll stores xs = xs ↔
      ∀ i x, stores.reverse.lookup i = some x → i < xs.length → xs[i]? = some x := by
  constructor
  · intro same i x stored inside
    have held := getElem?_setAll stores inside
    rwa [same, stored] at held
  · intro held
    apply List.ext_getElem?
    intro i
    by_cases inside : i < xs.length
    · rw [getElem?_setAll stores inside]
      cases stored : stores.reverse.lookup i with
      | none => rfl
      | some x => exact (held i x stored inside).symm
    · rw [List.getElem?_eq_none (by rw [setAll_length]; omega), List.getElem?_eq_none (by omega)]

end VectorEdit
