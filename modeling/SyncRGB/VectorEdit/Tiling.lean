import SyncRGB.VectorEdit.Slices

/-! Blocks that cover a part of a vector without gaps. -/
namespace VectorEdit
variable {α : Type}

/-- The blocks cover the places from `start` up to `stop`, one block behind the other. -/
def Tiles : Nat → List (Nat × List α) → Nat → Prop
  | start, [], stop => start = stop
  | start, block :: rest, stop => block.1 = start ∧ Tiles (start + block.2.length) rest stop

theorem overwrite_overwrite {start : Nat} {ys zs xs : List α} (room : start + ys.length ≤ xs.length) :
    overwrite (start + ys.length) zs (overwrite start ys xs) = overwrite start (ys ++ zs) xs := by
  have front : (xs.take start ++ ys).length = start + ys.length := by
    rw [List.length_append, List.length_take_of_le (by omega)]
  have before : (overwrite start ys xs).take (start + ys.length) = xs.take start ++ ys := List.take_left' front
  have behind : (overwrite start ys xs).drop (start + ys.length) = xs.drop (start + ys.length) := List.drop_left' front
  calc
    overwrite (start + ys.length) zs (overwrite start ys xs)
      = (overwrite start ys xs).take (start + ys.length) ++ zs ++
          ((overwrite start ys xs).drop (start + ys.length)).drop zs.length := by rw [overwrite, List.drop_drop]
    _ = xs.take start ++ ys ++ zs ++ (xs.drop (start + ys.length)).drop zs.length := by rw [before, behind]
    _ = overwrite start (ys ++ zs) xs := by
        rw [overwrite, List.drop_drop, List.length_append, Nat.add_assoc, List.append_assoc (xs.take start)]

section
variable {blocks : List (Nat × List α)} {start stop : Nat}

theorem Tiles.stop_eq (tiles : Tiles start blocks stop) : stop = start + (blocks.flatMap Prod.snd).length := by
  induction blocks generalizing start with
  | nil => exact tiles.symm
  | cons block rest ih =>
      rw [List.flatMap_cons, List.length_append, ih tiles.2, Nat.add_assoc]

/-- Writing the blocks is writing what they hold at once. -/
theorem Tiles.writeBlocks_eq (tiles : Tiles start blocks stop) {xs : List α} (room : stop ≤ xs.length) :
    writeBlocks blocks xs = some (overwrite start (blocks.flatMap Prod.snd) xs) := by
  induction blocks generalizing start xs with
  | nil => rw [writeBlocks, List.flatMap_nil, overwrite_nil]
  | cons block rest ih =>
      obtain ⟨rfl, behind⟩ := tiles
      have ending := Tiles.stop_eq behind
      have fits : block.1 + block.2.length ≤ xs.length := by omega
      rw [writeBlocks, if_pos (.inr fits), ih behind (by rw [overwrite_length fits]; exact room), List.flatMap_cons,
        overwrite_overwrite fits]

end

/-- Blocks that cover a whole vector leave nothing of it. -/
theorem Tiles.writeBlocks_whole {blocks : List (Nat × List α)} {stop : Nat} (tiles : Tiles 0 blocks stop) {xs : List α}
    (same : xs.length = stop) : writeBlocks blocks xs = some (blocks.flatMap Prod.snd) := by
  have ending := tiles.stop_eq
  rw [tiles.writeBlocks_eq (by omega), overwrite, List.take_zero, List.nil_append, List.drop_eq_nil_of_le (by omega),
    List.append_nil]

end VectorEdit
