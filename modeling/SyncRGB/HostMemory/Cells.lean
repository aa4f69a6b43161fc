import Mathlib.Data.List.Basic

/-! Memory that is handed out in blocks of cells: accesses fail outside of a block, and a change is confined
to some of the cells. -/
namespace HostMemory
variable {α : Type}

/-- A cell of a block. -/
structure Pointer where
  block : Nat
  cell : Nat
deriving DecidableEq, Repr

def Pointer.advance (p : Pointer) (n : Nat) : Pointer := { p with cell := p.cell + n }

@[simp] theorem Pointer.advance_block (p : Pointer) (n : Nat) : (p.advance n).block = p.block := rfl
@[simp] theorem Pointer.advance_cell (p : Pointer) (n : Nat) : (p.advance n).cell = p.cell + n := rfl

/-- The blocks that are handed out. -/
abbrev Blocks (α : Type) := List (List α)

namespace Blocks

def read (bs : Blocks α) (p : Pointer) : Option α := bs[p.block]?.bind (·[p.cell]?)

/-- The cells of a block, and none where there is no block. -/
def cells (bs : Blocks α) (b : Nat) : List α := bs[b]?.getD []

def Inside (bs : Blocks α) (p : Pointer) : Prop := p.cell < (bs.cells p.block).length

instance (bs : Blocks α) (p : Pointer) : Decidable (bs.Inside p) :=
  inferInstanceAs (Decidable (p.cell < (bs.cells p.block).length))

def write (bs : Blocks α) (p : Pointer) (a : α) : Option (Blocks α) :=
  if bs.Inside p then some (bs.modify p.block (·.set p.cell a)) else none

theorem read_eq (bs : Blocks α) (p : Pointer) : bs.read p = (bs.cells p.block)[p.cell]? := by
  rw [read, cells]
  cases bs[p.block]? with
  | none => rfl
  | some block => rfl

theorem read_isSome_iff {bs : Blocks α} {p : Pointer} : (bs.read p).isSome ↔ bs.Inside p := by
  rw [read_eq, Option.isSome_iff_ne_none, Ne, List.getElem?_eq_none_iff, Nat.not_le]
  rfl

theorem Inside.read {bs : Blocks α} {p : Pointer} (inside : bs.Inside p) : ∃ a, bs.read p = some a :=
  Option.isSome_iff_exists.mp (read_isSome_iff.mpr inside)

theorem Inside.write {bs : Blocks α} {p : Pointer} (inside : bs.Inside p) (a : α) :
    ∃ bs', bs.write p a = some bs' := ⟨_, if_pos inside⟩

section
variable {bs bs' : Blocks α} {p q : Pointer} {a : α}

theorem cells_modify (bs : Blocks α) (b c : Nat) (f : List α → List α) (keeps : f [] = []) :
    cells (bs.modify b f) c = if b = c then f (bs.cells c) else bs.cells c := by
  rw [cells, cells, List.getElem?_modify]
  split
  · cases bs[c]? with
    | none => exact keeps.symm
    | some block => rfl
  · cases bs[c]? with
    | none => rfl
    | some block => rfl

theorem cells_write (stored : bs.write p a = some bs') (b : Nat) :
    bs'.cells b = if p.block = b then (bs.cells b).set p.cell a else bs.cells b := by
  unfold write at stored
  split at stored
  · cases stored
    exact cells_modify bs p.block b _ rfl
  · cases stored

theorem length_write (stored : bs.write p a = some bs') : bs'.length = bs.length := by
  unfold write at stored
  split at stored
  · cases stored
    exact List.length_modify _ _ _
  · cases stored

theorem read_write_of_ne (stored : bs.write p a = some bs') (other : q ≠ p) : bs'.read q = bs.read q := by
  rw [read_eq, read_eq, cells_write stored]
  split
  · rename_i same
    apply List.getElem?_set_ne
    intro here
    exact other (by cases p; cases q; simp_all)
  · rfl

end

/-! ### A block behind the others -/

theorem cells_append_of_lt {bs : Blocks α} {block : List α} {b : Nat} (old : b < bs.length) :
    cells (bs ++ [block]) b = bs.cells b := by
  rw [cells, List.getElem?_append_left old]
  rfl

theorem cells_append_last (bs : Blocks α) (block : List α) : cells (bs ++ [block]) bs.length = block := by
  rw [cells, List.getElem?_append_right (Nat.le_refl _), Nat.sub_self]
  rfl

theorem cells_dropLast {bs : Blocks α} {b : Nat} (old : b < bs.length - 1) : cells bs.dropLast b = bs.cells b := by
  rw [cells, List.getElem?_dropLast, if_pos old]
  rfl

theorem cells_of_le {bs : Blocks α} {b : Nat} (beyond : bs.length ≤ b) : bs.cells b = [] := by
  rw [cells, List.getElem?_eq_none beyond]
  rfl

/-! ### Changes that are confined to some cells -/

/-- The blocks are the same ones with the same sizes, and only cells in `reach` may have changed. -/
structure Confined (reach : Pointer → Prop) (bs bs' : Blocks α) : Prop where
  blocks : bs'.length = bs.length
  sizes : ∀ b, (bs'.cells b).length = (bs.cells b).length
  outside : ∀ p, ¬ reach p → bs'.read p = bs.read p

namespace Confined
variable {reach reach' : Pointer → Prop} {bs bs' bs'' : Blocks α} {p : Pointer} {a : α}

theorem refl (reach : Pointer → Prop) (bs : Blocks α) : Confined reach bs bs := ⟨rfl, fun _ => rfl, fun _ _ => rfl⟩

theorem trans (first : Confined reach bs bs') (second : Confined reach bs' bs'') : Confined reach bs bs'' :=
  ⟨second.blocks.trans first.blocks, fun b => (second.sizes b).trans (first.sizes b),
    fun p other => (second.outside p other).trans (first.outside p other)⟩

theorem mono (confined : Confined reach bs bs') (wider : ∀ p, reach p → reach' p) : Confined reach' bs bs' :=
  ⟨confined.blocks, confined.sizes, fun p other => confined.outside p fun within => other (wider p within)⟩

theorem inside_iff (confined : Confined reach bs bs') : bs'.Inside p ↔ bs.Inside p := by
  unfold Inside
  rw [confined.sizes]

theorem write (within : reach p) (stored : bs.write p a = some bs') : Confined reach bs bs' := by
  refine ⟨length_write stored, fun b => ?_, fun q other => ?_⟩
  · rw [cells_write stored]
    split
    · exact List.length_set
    · rfl
  · exact read_write_of_ne stored fun same => other (same ▸ within)

/-- A block without cells in reach is as it was. -/
theorem cells_eq (confined : Confined reach bs bs') {b : Nat} (beyond : ∀ p, reach p → p.block ≠ b) :
    bs'.cells b = bs.cells b := by
  apply List.ext_getElem?
  intro i
  have same := confined.outside ⟨b, i⟩ fun within => beyond _ within rfl
  rw [read_eq, read_eq] at same
  exact same

end Confined
end Blocks
end HostMemory
