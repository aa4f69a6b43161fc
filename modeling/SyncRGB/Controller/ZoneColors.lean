import SyncRGB.Controller.Updates
import SyncRGB.Controller.Windows
import SyncRGB.VectorEdit.Resize
import SyncRGB.VectorEdit.Slices

/-! Stores through the color pointers that `SetupColors` gives the zones, and what a new size of a zone does
to the vectors. -/
namespace SyncRGB
open VectorEdit

theorem Zone.getLEDsInZone_toNat (z : Zone) :
    z.getLEDsInZone.toNat = if z.effectsOnly then min z.ledsCount.toNat 1 else z.ledsCount.toNat := by
  unfold Zone.getLEDsInZone
  split
  · split
    · rename_i many
      have many : 1 < z.ledsCount.toNat := UInt32.lt_iff_toNat_lt.mp many
      rw [Nat.min_eq_right many.le]
      rfl
    · rename_i few
      have few : ¬ 1 < z.ledsCount.toNat := fun many => few (UInt32.lt_iff_toNat_lt.mpr many)
      rw [Nat.min_eq_left (by omega)]
  · rfl

theorem Zone.getLEDsInZone_le (z : Zone) : z.getLEDsInZone.toNat ≤ z.ledsCount.toNat := by
  rw [z.getLEDsInZone_toNat]
  split <;> omega

theorem Zone.getLEDsInZone_pos {z : Zone} (some_ : 0 < z.ledsCount.toNat) : 0 < z.getLEDsInZone := by
  rw [UInt32.lt_iff_toNat_lt, z.getLEDsInZone_toNat]
  show 0 < _
  split <;> omega

namespace RGBController

/-- `RGBController::SetLED`. -/
def setLED (led : Nat) (color : RGBColor) (c : RGBController) : RGBController :=
  if led < c.colors.length then { c with colors := c.colors.set led color } else c

/-- `RGBController::SetAllZoneLEDs`; `none` when it stores outside the colors. -/
def setAllZoneLEDs (zone : Nat) (color : RGBColor) (c : RGBController) : Option RGBController :=
  match c.zones[zone]? with
  | some z => c.storeZoneColors zone (List.replicate z.getLEDsInZone.toNat color)
  | none => none

/-- `RGBController::SetAllLEDs`. -/
def setAllLEDs (color : RGBColor) (c : RGBController) : Option RGBController :=
  (List.range c.zones.length).foldlM (fun c zone => c.setAllZoneLEDs zone color) c

/-- The window of a zone in the colors. -/
def zoneColors (c : RGBController) (z : Zone) : List RGBColor :=
  slice z.startIdx.toNat z.getLEDsInZone.toNat c.colors

/-- The window of a zone in the LEDs. -/
def zoneLeds (c : RGBController) (z : Zone) : List Led :=
  slice z.startIdx.toNat z.getLEDsInZone.toNat c.leds

/-- The zone windows are those that `SetupColors` sets. -/
def Windowed (c : RGBController) : Prop := c.setupColors = c

/-- The windows lie one behind the other and share the colors among them. -/
structure Tiled (c : RGBController) : Prop where
  total : ledSum c.zones = c.colors.length
  start (i : Nat) (z : Zone) : c.zones[i]? = some z → z.startIdx.toNat = ledSum (c.zones.take i)

/-! ### Windows -/

theorem ledSum_take_le {zs : List Zone} {i j : Nat} {z : Zone} (found : zs[i]? = some z) (before : i < j) :
    ledSum (zs.take i) + z.getLEDsInZone.toNat ≤ ledSum (zs.take j) := by
  have taken : (zs.take j)[i]? = some z := by rw [List.getElem?_take_of_lt before, found]
  have reach := ledSum_take_succ taken
  rwa [List.take_take, Nat.min_eq_left before.le] at reach

/-- Each LED is that of one zone. -/
theorem exists_window {zs : List Zone} {slot : Nat} (inside : slot < ledSum zs) :
    ∃ k z, zs[k]? = some z ∧ ledSum (zs.take k) ≤ slot ∧
      slot < ledSum (zs.take k) + z.getLEDsInZone.toNat := by
  induction zs generalizing slot with
  | nil => cases inside
  | cons z zs ih =>
      by_cases here : slot < z.getLEDsInZone.toNat
      · exact ⟨0, z, rfl, Nat.zero_le _, by simpa using here⟩
      · rw [ledSum_cons] at inside
        have behind : slot - z.getLEDsInZone.toNat < ledSum zs := by omega
        obtain ⟨k, z', found, lower, upper⟩ := ih behind
        refine ⟨k + 1, z', found, ?_, ?_⟩
        · rw [List.take_succ_cons, ledSum_cons]
          omega
        · rw [List.take_succ_cons, ledSum_cons]
          omega

namespace Tiled
variable {c : RGBController}

theorem before (tiled : c.Tiled) {i j : Nat} {z z' : Zone} (first : c.zones[i]? = some z)
    (second : c.zones[j]? = some z') (order : i < j) :
    z.startIdx.toNat + z.getLEDsInZone.toNat ≤ z'.startIdx.toNat := by
  rw [tiled.start i z first, tiled.start j z' second]
  exact ledSum_take_le first order

theorem inside (tiled : c.Tiled) {i : Nat} {z : Zone} (found : c.zones[i]? = some z) :
    z.startIdx.toNat + z.getLEDsInZone.toNat ≤ c.colors.length := by
  rw [tiled.start i z found, ← tiled.total]
  exact ledSum_take_succ found

theorem covered (tiled : c.Tiled) {slot : Nat} (inside : slot < c.colors.length) :
    ∃ (k : Nat) (z : Zone) (p : Nat), c.zones[k]? = some z ∧ p < z.getLEDsInZone.toNat ∧
      slot = z.startIdx.toNat + p := by
  rw [← tiled.total] at inside
  obtain ⟨k, z, found, lower, upper⟩ := exists_window inside
  refine ⟨k, z, slot - ledSum (c.zones.take k), found, by omega, ?_⟩
  rw [tiled.start k z found]
  omega

end Tiled

theorem foldl_ledCount_toNat (zs : List Zone) (i : Nat) :
    ((zs.take i).foldl (fun t z => t + z.getLEDsInZone) (0 : UInt32)).toNat =
      ledSum (zs.take i) % 2 ^ 32 :=
  (foldl_ledCount (zs.take i) 0).trans (congrArg (· % 2 ^ 32) (Nat.zero_add _))

theorem totalLedCount_setupZones (numLeds numColors : Nat) (total : UInt32) (zs : List Zone) :
    totalLedCount (setupZones numLeds numColors total zs) = totalLedCount zs := by
  apply UInt32.toNat_inj.mp
  rw [totalLedCount_toNat, totalLedCount_toNat, setupZones_ledSum]

theorem setupZones_setupZones (numLeds numColors : Nat) (total : UInt32) (zs : List Zone) :
    setupZones numLeds numColors total (setupZones numLeds numColors total zs) =
      setupZones numLeds numColors total zs := by
  induction zs generalizing total with
  | nil => rfl
  | cons z zs ih =>
      rw [setupZones_cons, setupZones_cons, pointZone_getLEDsInZone, ih]
      rfl

theorem windowed_setupColors (c : RGBController) : c.setupColors.Windowed := by
  have total : (totalLedCount c.setupColors.zones).toNat = c.setupColors.colors.length := by
    simp only [setupColors, totalLedCount_setupZones, resizeColors_length]
  have colors : resizeColors c.setupColors.colors (totalLedCount c.setupColors.zones).toNat =
      c.setupColors.colors := by
    rw [total, resizeColors_self]
  have zones : setupZones c.leds.length c.setupColors.colors.length 0 c.setupColors.zones =
      c.setupColors.zones := setupZones_setupZones _ _ 0 c.zones
  rw [Windowed, setupColors, colors]
  exact congrArg (fun zones => { c.setupColors with zones }) zones

namespace Windowed
variable {c : RGBController}

theorem length (windowed : c.Windowed) : c.colors.length = ledSum c.zones % 2 ^ 32 := by
  have colors := congrArg (fun c : RGBController => c.colors.length) windowed
  rw [← totalLedCount_toNat]
  exact colors.symm.trans (resizeColors_length _ _)

theorem zone (windowed : c.Windowed) {i : Nat} {z : Zone} (found : c.zones[i]? = some z) :
    z.startIdx.toNat = ledSum (c.zones.take i) % 2 ^ 32 ∧
      z.colors =
        if 0 < c.colors.length ∧ 0 < z.getLEDsInZone then some z.startIdx.toNat else none := by
  have zones : c.setupColors.zones = c.zones := congrArg RGBController.zones windowed
  have colors : (resizeColors c.colors (totalLedCount c.zones).toNat).length = c.colors.length :=
    congrArg (fun c : RGBController => c.colors.length) windowed
  have pointed := found
  rw [← zones] at pointed
  simp only [setupColors, setupZones_getElem?, found, colors, Option.map_some, Option.some.injEq]
    at pointed
  rw [← pointed]
  exact ⟨foldl_ledCount_toNat c.zones i, rfl⟩

/-- Colors stored in place leave the windows alone. -/
theorem recolored (windowed : c.Windowed) {colors : List RGBColor}
    (length : colors.length = c.colors.length) : Windowed { c with colors } := by
  have zones : c.setupColors.zones = c.zones := congrArg RGBController.zones windowed
  have total : (resizeColors c.colors (totalLedCount c.zones).toNat).length = c.colors.length :=
    congrArg (fun c : RGBController => c.colors.length) windowed
  rw [resizeColors_length] at total
  have kept : resizeColors colors (totalLedCount c.zones).toNat = colors := by
    rw [total, ← length, resizeColors_self]
  rw [Windowed, setupColors]
  simp only [kept, length]
  simp only [setupColors, resizeColors_length, total] at zones
  rw [zones]

/-- Without wrap the windows lie one behind the other. -/
theorem tiled (windowed : c.Windowed) (small : ledSum c.zones < 2 ^ 32) : c.Tiled where
  total := by rw [windowed.length, Nat.mod_eq_of_lt small]
  start := by
    intro i z found
    have reach := ledSum_take_succ found
    rw [(windowed.zone found).1]
    exact Nat.mod_eq_of_lt (by omega)

theorem tiled_of_accounted (windowed : c.Windowed) (accounted : c.Accounted) : c.Tiled := by
  apply windowed.tiled
  have length := windowed.length
  have total := accounted.1.trans accounted.2
  omega

/-- Where every window that is used fits, the LED counts do not wrap. -/
theorem small (windowed : c.Windowed)
    (fits : ∀ (i : Nat) (z : Zone), c.zones[i]? = some z → 0 < z.getLEDsInZone →
      z.startIdx.toNat + z.getLEDsInZone.toNat ≤ c.colors.length) : ledSum c.zones < 2 ^ 32 := by
  have bound : c.colors.length < 2 ^ 32 := by
    rw [windowed.length]
    exact Nat.mod_lt _ (by decide)
  have inside (i : Nat) : ledSum (c.zones.take i) ≤ c.colors.length := by
    induction i with
    | zero => exact Nat.zero_le _
    | succ i ih =>
        cases found : c.zones[i]? with
        | none =>
            have all := List.getElem?_eq_none_iff.mp found
            rwa [List.take_of_length_le (by omega), ← List.take_of_length_le all]
        | some z =>
            have start := (windowed.zone found).1
            rw [Nat.mod_eq_of_lt (by omega)] at start
            rw [List.take_add_one, found, Option.toList_some, ledSum_append, ledSum_cons, ledSum_nil]
            by_cases used : 0 < z.getLEDsInZone
            · have room := fits i z found used
              omega
            · have zero : z.getLEDsInZone.toNat = 0 := by
                simpa [UInt32.lt_iff_toNat_lt] using used
              omega
  have all := inside c.zones.length
  rw [List.take_length] at all
  omega

end Windowed

/-! ### Stores -/

theorem overwrite_cons {colors : List RGBColor} {start : Nat} (inside : start < colors.length)
    (x : RGBColor) (xs : List RGBColor) :
    overwrite (start + 1) xs (colors.set start x) = overwrite start (x :: xs) colors := by
  have front : (colors.set start x).take (start + 1) = colors.take start ++ [x] := by
    rw [List.take_set, List.take_add_one, List.getElem?_eq_getElem inside, Option.toList_some,
      List.set_append_right _ _ (by rw [List.length_take]; omega), List.length_take_of_le inside.le,
      Nat.sub_self]
    rfl
  have back : (colors.set start x).drop (start + 1 + xs.length) =
      colors.drop (start + (x :: xs).length) := by
    rw [List.drop_set_of_lt (by omega), List.length_cons]
    congr 1
    omega
  rw [overwrite, overwrite, front, back, List.append_assoc, List.append_assoc, List.append_assoc]
  rfl

theorem storeColors_eq (colors : List RGBColor) (start : Nat) (xs : List RGBColor) :
    storeColors colors start xs =
      if xs = [] ∨ start + xs.length ≤ colors.length then some (overwrite start xs colors) else none := by
  induction xs generalizing colors start with
  | nil => simp [storeColors]
  | cons x xs ih =>
      rw [storeColors, List.length_cons]
      by_cases inside : start < colors.length
      · rw [if_pos inside, ih, List.length_set, overwrite_cons inside]
        have room : (xs = [] ∨ start + 1 + xs.length ≤ colors.length) ↔
            (x :: xs = [] ∨ start + (xs.length + 1) ≤ colors.length) := by
          constructor
          · rintro (rfl | fits)
            · exact .inr inside
            · exact .inr (by omega)
          · rintro (nil | fits)
            · cases nil
            · exact .inr (by omega)
        simp only [room]
      · rw [if_neg inside, if_neg]
        rintro (nil | fits)
        · cases nil
        · omega

theorem storeZoneColors_eq {c : RGBController} (windowed : c.Windowed) {zone : Nat} {z : Zone}
    (found : c.zones[zone]? = some z) (xs : List RGBColor) :
    c.storeZoneColors zone xs =
      if xs = [] then some c
      else if 0 < z.getLEDsInZone ∧ z.startIdx.toNat + xs.length ≤ c.colors.length then
        some { c with colors := overwrite z.startIdx.toNat xs c.colors }
      else none := by
  unfold storeZoneColors
  by_cases empty : xs = []
  · rw [if_pos empty, if_pos empty]
  · have some_ : 0 < xs.length := List.length_pos_iff.mpr empty
    rw [if_neg empty, if_neg empty, found]
    simp only [Option.bind_eq_bind, Option.bind_some, (windowed.zone found).2, Option.pure_def]
    by_cases fits : 0 < z.getLEDsInZone ∧ z.startIdx.toNat + xs.length ≤ c.colors.length
    · have pointer : 0 < c.colors.length ∧ 0 < z.getLEDsInZone := ⟨by omega, fits.1⟩
      rw [if_pos fits, if_pos pointer, Option.bind_some, storeColors_eq, if_pos (.inr fits.2),
        Option.bind_some]
    · rw [if_neg fits]
      split_ifs with pointer
      · have outside : ¬ (xs = [] ∨ z.startIdx.toNat + xs.length ≤ c.colors.length) := by
          rintro (nil | room)
          · exact empty nil
          · exact fits ⟨pointer.2, room⟩
        rw [Option.bind_some, storeColors_eq, if_neg outside, Option.bind_none]
      · rfl

end RGBController
end SyncRGB
