import SyncRGB.Controller.ZoneSizes

/-! The stores of whole zones, one zone after the other, as blocks of stores into the colors. -/
namespace SyncRGB
open VectorEdit
namespace RGBController

def zoneBlocks (zs : List Zone) (given : List (List RGBColor)) : List (Nat × List RGBColor) :=
  List.zipWith (fun z xs => (z.startIdx.toNat, xs)) zs given

/-- Colors are only stored through pointers. -/
def Pointed (zs : List Zone) (given : List (List RGBColor)) : Prop :=
  ∀ (k : Nat) (z : Zone) (xs : List RGBColor), zs[k]? = some z → given[k]? = some xs → xs ≠ [] →
    0 < z.getLEDsInZone

theorem storeZones_drop {c : RGBController} (windowed : c.Windowed) {k : Nat}
    {given : List (List RGBColor)} (room : k + given.length ≤ c.zones.length)
    (pointed : Pointed (c.zones.drop k) given) :
    storeZones k given c = (writeBlocks (zoneBlocks (c.zones.drop k) given) c.colors).map
      fun colors => { c with colors } := by
  induction given generalizing k c with
  | nil => rw [storeZones, zoneBlocks, List.zipWith_nil_right, writeBlocks, Option.map_some]
  | cons xs given ih =>
      rw [List.length_cons] at room
      have exists_ : k < c.zones.length := by omega
      have split := List.drop_eq_getElem_cons exists_
      have found := List.getElem?_eq_getElem exists_
      rw [split] at pointed ⊢
      rw [storeZones, zoneBlocks, List.zipWith_cons_cons, writeBlocks, storeZoneColors_eq windowed found]
      have rest : Pointed (c.zones.drop (k + 1)) given := fun j z ys => pointed (j + 1) z ys
      by_cases empty : xs = []
      · subst empty
        simp only [if_true, true_or, overwrite_nil]
        exact ih windowed (by omega) rest
      · have pointer := pointed 0 _ xs rfl rfl empty
        simp only [pointer, true_and, empty, false_or]
        by_cases fits : c.zones[k].startIdx.toNat + xs.length ≤ c.colors.length
        · rw [if_pos fits, if_pos fits]
          exact ih (windowed.recolored (overwrite_length fits)) (by simpa using by omega) rest
        · rw [if_neg fits, if_neg fits]
          rfl

theorem storeZones_eq {c : RGBController} (windowed : c.Windowed) {given : List (List RGBColor)}
    (room : given.length ≤ c.zones.length) (pointed : Pointed c.zones given) :
    storeZones 0 given c = (writeBlocks (zoneBlocks c.zones given) c.colors).map
      fun colors => { c with colors } := storeZones_drop windowed (by omega) pointed

theorem zoneBlocks_getElem? {zs : List Zone} {given : List (List RGBColor)} {k : Nat}
    {block : Nat × List RGBColor} : (zoneBlocks zs given)[k]? = some block ↔
      ∃ z xs, zs[k]? = some z ∧ given[k]? = some xs ∧ (z.startIdx.toNat, xs) = block := by
  rw [zoneBlocks, List.getElem?_zipWith_eq_some]

theorem storeZones_isSome {c : RGBController} (windowed : c.Windowed) {given : List (List RGBColor)}
    (room : given.length ≤ c.zones.length) (pointed : Pointed c.zones given) :
    (storeZones 0 given c).isSome ↔
      ∀ (k : Nat) (z : Zone) (xs : List RGBColor), c.zones[k]? = some z → given[k]? = some xs →
        xs = [] ∨ z.startIdx.toNat + xs.length ≤ c.colors.length := by
  rw [storeZones_eq windowed room pointed, Option.isSome_map, writeBlocks_isSome]
  constructor
  · intro all k z xs found gives
    exact all _ (List.mem_of_getElem? (zoneBlocks_getElem?.mpr ⟨z, xs, found, gives, rfl⟩))
  · intro all block mem
    obtain ⟨k, at_⟩ := List.mem_iff_getElem?.mp mem
    obtain ⟨z, xs, found, gives, rfl⟩ := zoneBlocks_getElem?.mp at_
    exact all k z xs found gives

theorem storeZones_some {c d : RGBController} (windowed : c.Windowed) {given : List (List RGBColor)}
    (room : given.length ≤ c.zones.length) (pointed : Pointed c.zones given)
    (run : storeZones 0 given c = some d) :
    writeBlocks (zoneBlocks c.zones given) c.colors = some d.colors ∧ d = { c with colors := d.colors } := by
  rw [storeZones_eq windowed room pointed] at run
  obtain ⟨colors, blocks, rfl⟩ := Option.map_eq_some_iff.mp run
  exact ⟨blocks, rfl⟩

/-- The stores of later zones start behind a window, so it holds what is stored for its zone. -/
theorem window_storeZones {c d : RGBController} (windowed : c.Windowed) (tiled : c.Tiled)
    {given : List (List RGBColor)} (room : given.length ≤ c.zones.length)
    (pointed : Pointed c.zones given) (run : storeZones 0 given c = some d) {k p : Nat} {z : Zone}
    {xs : List RGBColor} (found : c.zones[k]? = some z) (gives : given[k]? = some xs)
    (window : p < z.getLEDsInZone.toNat) (inside : p < xs.length) :
    d.colors[z.startIdx.toNat + p]? = xs[p]? := by
  obtain ⟨blocks, -⟩ := storeZones_some windowed room pointed run
  have block : (zoneBlocks c.zones given)[k]? = some (z.startIdx.toNat, xs) :=
    zoneBlocks_getElem?.mpr ⟨z, xs, found, gives, rfl⟩
  obtain ⟨exists_, here⟩ := List.getElem?_eq_some_iff.mp block
  have split := List.take_append_drop k (zoneBlocks c.zones given)
  rw [List.drop_eq_getElem_cons exists_, here] at split
  rw [← split] at blocks
  apply getElem?_writeBlocks_of_last blocks inside
  intro later mem
  obtain ⟨j, at_⟩ := List.mem_iff_getElem?.mp mem
  rw [List.getElem?_drop] at at_
  obtain ⟨z', xs', found', -, rfl⟩ := zoneBlocks_getElem?.mp at_
  have order := tiled.before found found' (by omega)
  left
  show _ < z'.startIdx.toNat
  omega

/-- A slot that no zone's colors cover keeps its color. -/
theorem untouched_storeZones {c d : RGBController} (windowed : c.Windowed)
    {given : List (List RGBColor)} (room : given.length ≤ c.zones.length)
    (pointed : Pointed c.zones given) (run : storeZones 0 given c = some d) {slot : Nat}
    (away : ∀ (k : Nat) (z : Zone) (xs : List RGBColor), c.zones[k]? = some z → given[k]? = some xs →
      slot < z.startIdx.toNat ∨ z.startIdx.toNat + xs.length ≤ slot) :
    d.colors[slot]? = c.colors[slot]? := by
  obtain ⟨blocks, -⟩ := storeZones_some windowed room pointed run
  apply getElem?_writeBlocks_of_away blocks
  intro block mem
  obtain ⟨k, at_⟩ := List.mem_iff_getElem?.mp mem
  obtain ⟨z, xs, found, gives, rfl⟩ := zoneBlocks_getElem?.mp at_
  exact away k z xs found gives

theorem storeColors_length {colors xs ys : List RGBColor} {start : Nat}
    (run : storeColors colors start xs = some ys) : ys.length = colors.length := by
  rw [storeColors_eq] at run
  split at run
  · rename_i room
    cases run
    exact overwrite_block_length room
  · cases run

/-- Stores change colors and nothing else. -/
theorem storeZoneColors_keeps {c d : RGBController} {zone : Nat} {xs : List RGBColor}
    (run : c.storeZoneColors zone xs = some d) :
    d = { c with colors := d.colors } ∧ d.colors.length = c.colors.length := by
  rw [storeZoneColors] at run
  split at run
  · cases run
    exact ⟨rfl, rfl⟩
  · simp only [Option.bind_eq_bind, Option.bind_eq_some_iff, Option.pure_def, Option.some.injEq] at run
    obtain ⟨z, -, start, -, colors, stored, rfl⟩ := run
    exact ⟨rfl, storeColors_length stored⟩

theorem storeZones_keeps {c d : RGBController} {zone : Nat} {given : List (List RGBColor)}
    (run : storeZones zone given c = some d) :
    d = { c with colors := d.colors } ∧ d.colors.length = c.colors.length := by
  induction given generalizing zone c with
  | nil =>
      cases run
      exact ⟨rfl, rfl⟩
  | cons xs given ih =>
      obtain ⟨b, once, rest⟩ := Option.bind_eq_some_iff.mp run
      obtain ⟨same, length⟩ := ih rest
      obtain ⟨same', length'⟩ := storeZoneColors_keeps once
      constructor
      · rw [same, same']
      · rw [length, length']

/-- The original colors of the zones without given ones; nothing for the others. -/
def withoutGiven (given : List (List RGBColor)) : Nat → List (List RGBColor) → List (List RGBColor)
  | _, [] => []
  | zone, original :: rest =>
      (if given[zone]?.getD [] = [] then original else []) :: withoutGiven given (zone + 1) rest

/-- Colors are given back by the same stores. -/
theorem restoreZones_eq (given : List (List RGBColor)) (zone : Nat) (originals : List (List RGBColor))
    (c : RGBController) :
    restoreZones given zone originals c = storeZones zone (withoutGiven given zone originals) c := by
  induction originals generalizing zone c with
  | nil => rfl
  | cons original rest ih =>
      rw [restoreZones, withoutGiven, storeZones]
      split
      · simp only [ih]
      · simp only [ih, storeZoneColors, if_true]

theorem withoutGiven_getElem? (given : List (List RGBColor)) (zone : Nat)
    (originals : List (List RGBColor)) (k : Nat) :
    (withoutGiven given zone originals)[k]? =
      originals[k]?.map fun original => if given[zone + k]?.getD [] = [] then original else [] := by
  induction originals generalizing zone k with
  | nil => rfl
  | cons original rest ih =>
      cases k with
      | zero => rfl
      | succ k =>
          have behind : zone + (k + 1) = zone + 1 + k := by omega
          rw [withoutGiven, List.getElem?_cons_succ, List.getElem?_cons_succ, ih, behind]

theorem withoutGiven_length (given : List (List RGBColor)) (zone : Nat)
    (originals : List (List RGBColor)) : (withoutGiven given zone originals).length = originals.length := by
  induction originals generalizing zone with
  | nil => rfl
  | cons original rest ih => rw [withoutGiven, List.length_cons, List.length_cons, ih]

end RGBController
end SyncRGB
