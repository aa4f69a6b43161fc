import Mathlib.Algebra.Order.Ring.Nat
import Mathlib.Logic.Function.Basic

/-! A matrix that is kept row by row, and stores into it through a pointer to its first cell. -/
namespace VectorEdit

/-- Where a cell is kept. -/
def cell (width row col : Nat) : Nat := row * width + col

section
variable {height width row col row' col' : Nat}

theorem cell_lt (rowIn : row < height) (colIn : col < width) : cell width row col < height * width := by
  calc
    cell width row col < row * width + width := Nat.add_lt_add_left colIn _
    _ = (row + 1) * width := (Nat.succ_mul row width).symm
    _ ≤ height * width := Nat.mul_le_mul_right width rowIn

theorem cell_div (colIn : col < width) : cell width row col / width = row := by
  rw [cell, Nat.mul_comm, Nat.mul_add_div (Nat.zero_lt_of_lt colIn), Nat.div_eq_of_lt colIn, Nat.add_zero]

theorem cell_mod (colIn : col < width) : cell width row col % width = col := by
  rw [cell, Nat.mul_comm, Nat.mul_add_mod, Nat.mod_eq_of_lt colIn]

theorem cell_inj (colIn : col < width) (colIn' : col' < width) :
    cell width row col = cell width row' col' ↔ row = row' ∧ col = col' := by
  constructor
  · intro same
    constructor
    · calc
        row = cell width row col / width := (cell_div colIn).symm
        _ = row' := by rw [same, cell_div colIn']
    · calc
        col = cell width row col % width := (cell_mod colIn).symm
        _ = col' := by rw [same, cell_mod colIn']
  · rintro ⟨rfl, rfl⟩
    rfl

theorem exists_cell {i : Nat} (inside : i < height * width) :
    ∃ row < height, ∃ col < width, cell width row col = i := by
  have wide : 0 < width := Nat.pos_of_mul_pos_left (Nat.zero_lt_of_lt inside)
  refine ⟨i / width, (Nat.div_lt_iff_lt_mul wide).mpr inside, i % width, Nat.mod_lt i wide, ?_⟩
  rw [cell, Nat.mul_comm, Nat.div_add_mod]

end

variable {α : Type}

/-! ### Stores through a pointer -/

/-- Stores one after the other, each at its distance from the pointer. -/
def storeAll (stores : List (Nat × α)) (memory : Nat → α) : Nat → α :=
  stores.foldl (fun memory store => Function.update memory store.1 store.2) memory

theorem storeAll_cons (store : Nat × α) (stores : List (Nat × α)) (memory : Nat → α) :
    storeAll (store :: stores) memory = storeAll stores (Function.update memory store.1 store.2) := rfl

theorem storeAll_append (first second : List (Nat × α)) (memory : Nat → α) :
    storeAll (first ++ second) memory = storeAll second (storeAll first memory) := List.foldl_append

theorem storeAll_of_away {stores : List (Nat × α)} {i : Nat} (away : ∀ store ∈ stores, store.1 ≠ i)
    (memory : Nat → α) : storeAll stores memory i = memory i := by
  induction stores generalizing memory with
  | nil => rfl
  | cons store stores ih =>
      obtain ⟨here, later⟩ := List.forall_mem_cons.mp away
      rw [storeAll_cons, ih later, Function.update_of_ne here.symm]

/-- A place where one value only is stored. -/
theorem storeAll_of_agree {stores : List (Nat × α)} {i : Nat} {x : α} (stored : (i, x) ∈ stores)
    (agree : ∀ store ∈ stores, store.1 = i → store.2 = x) (memory : Nat → α) : storeAll stores memory i = x := by
  induction stores generalizing memory with
  | nil => exact absurd stored List.not_mem_nil
  | cons store stores ih =>
      obtain ⟨here, later⟩ := List.forall_mem_cons.mp agree
      rw [storeAll_cons]
      by_cases again : (i, x) ∈ stores
      · exact ih again later _
      · obtain rfl := (List.mem_cons.mp stored).resolve_right again
        rw [storeAll_of_away, Function.update_self]
        intro store member same
        have found : store = (i, x) := Prod.ext same (later store member same)
        exact again (found ▸ member)

/-- The stores of two nested loops that give every cell one value. -/
def fillAll (height width : Nat) (x : α) : List (Nat × α) :=
  (List.range height).flatMap fun row => (List.range width).map fun col => (cell width row col, x)

theorem mem_fillAll {height width : Nat} {x : α} {store : Nat × α} :
    store ∈ fillAll height width x ↔ store.1 < height * width ∧ store.2 = x := by
  simp only [fillAll, List.mem_flatMap, List.mem_map, List.mem_range]
  constructor
  · rintro ⟨row, rowIn, col, colIn, rfl⟩
    exact ⟨cell_lt rowIn colIn, rfl⟩
  · rintro ⟨inside, rfl⟩
    obtain ⟨row, rowIn, col, colIn, at_⟩ := exists_cell inside
    exact ⟨row, rowIn, col, colIn, Prod.ext at_ rfl⟩

theorem storeAll_fillAll {height width i : Nat} (x : α) (inside : i < height * width) (memory : Nat → α) :
    storeAll (fillAll height width x) memory i = x :=
  storeAll_of_agree (mem_fillAll.mpr ⟨inside, rfl⟩) (fun _ member _ => (mem_fillAll.mp member).2) memory

end VectorEdit
