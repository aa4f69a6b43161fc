import Mathlib.Algebra.BigOperators.Group.List.Basic
import Mathlib.Algebra.Order.BigOperators.Group.List
import SyncRGB.Controller.Types

/-! The LED accounting of a controller: every zone owns the next stretch of the
LED and color vectors, and together the zones own all of both. -/
namespace SyncRGB

/-- The number of LEDs the zones own, counted without wrap. -/
def ledSum (zs : List Zone) : Nat := (zs.map fun z => z.getLEDsInZone.toNat).sum

@[simp] theorem ledSum_nil : ledSum [] = 0 := rfl
@[simp] theorem ledSum_cons (z : Zone) (zs : List Zone) :
    ledSum (z :: zs) = z.getLEDsInZone.toNat + ledSum zs := by simp [ledSum]
@[simp] theorem ledSum_append (xs ys : List Zone) : ledSum (xs ++ ys) = ledSum xs + ledSum ys := by
  simp [ledSum]

theorem ledSum_take_succ {zs : List Zone} {i : Nat} {z : Zone} (h : zs[i]? = some z) :
    ledSum (zs.take i) + z.getLEDsInZone.toNat ≤ ledSum zs := by
  obtain ⟨hi, rfl⟩ := List.getElem?_eq_some_iff.mp h
  have split : zs = zs.take i ++ zs[i] :: zs.drop (i + 1) := by
    rw [← List.drop_eq_getElem_cons hi, List.take_append_drop]
  have total := congrArg ledSum split
  rw [ledSum_append, ledSum_cons] at total
  omega

namespace RGBController

theorem foldl_ledCount (zs : List Zone) (total : UInt32) :
    (zs.foldl (fun t z => t + z.getLEDsInZone) total).toNat = (total.toNat + ledSum zs) % 2 ^ 32 := by
  induction zs generalizing total with
  | nil => exact (Nat.mod_eq_of_lt total.toNat_lt).symm
  | cons z zs ih =>
      rw [List.foldl_cons, ih, UInt32.toNat_add, ledSum_cons, Nat.mod_add_mod, Nat.add_assoc]

theorem totalLedCount_toNat (zs : List Zone) : (totalLedCount zs).toNat = ledSum zs % 2 ^ 32 := by
  rw [totalLedCount, foldl_ledCount]
  simp

theorem resizeColors_length (colors : List RGBColor) (n : Nat) :
    (resizeColors colors n).length = n := by
  simp only [resizeColors, List.length_append, List.length_take, List.length_replicate]
  omega

theorem resizeColors_self (colors : List RGBColor) : resizeColors colors colors.length = colors := by
  simp [resizeColors]

/-- What `SetupColors` writes into the zone whose stretch starts at `start`. -/
def pointZone (numLeds numColors : Nat) (start : UInt32) (z : Zone) : Zone :=
  { z with
    startIdx := start
    colors := if 0 < numColors ∧ 0 < z.getLEDsInZone then some start.toNat else none
    leds := if 0 < numLeds ∧ 0 < z.getLEDsInZone then some start.toNat else none }

@[simp] theorem pointZone_getLEDsInZone (numLeds numColors : Nat) (start : UInt32) (z : Zone) :
    (pointZone numLeds numColors start z).getLEDsInZone = z.getLEDsInZone := rfl

theorem setupZones_cons (numLeds numColors : Nat) (total : UInt32) (z : Zone) (zs : List Zone) :
    setupZones numLeds numColors total (z :: zs) =
      pointZone numLeds numColors total z ::
        setupZones numLeds numColors (total + z.getLEDsInZone) zs := rfl

theorem setupZones_getElem? (numLeds numColors : Nat) (total : UInt32) (zs : List Zone) (i : Nat) :
    (setupZones numLeds numColors total zs)[i]? =
      zs[i]?.map (pointZone numLeds numColors
        ((zs.take i).foldl (fun t z => t + z.getLEDsInZone) total)) := by
  induction zs generalizing total i with
  | nil => rfl
  | cons z zs ih =>
      rw [setupZones_cons]
      cases i with
      | zero => rfl
      | succ i => simp only [List.getElem?_cons_succ, List.take_succ_cons, List.foldl_cons, ih]

@[simp] theorem setupZones_length (numLeds numColors : Nat) (total : UInt32) (zs : List Zone) :
    (setupZones numLeds numColors total zs).length = zs.length := by
  induction zs generalizing total with
  | nil => rfl
  | cons z zs ih => rw [setupZones_cons, List.length_cons, ih, List.length_cons]

@[simp] theorem setupZones_ledSum (numLeds numColors : Nat) (total : UInt32) (zs : List Zone) :
    ledSum (setupZones numLeds numColors total zs) = ledSum zs := by
  induction zs generalizing total with
  | nil => rfl
  | cons z zs ih => rw [setupZones_cons, ledSum_cons, ledSum_cons, ih, pointZone_getLEDsInZone]

theorem setupColors_colors_length {c : RGBController} (small : ledSum c.zones < 2 ^ 32) :
    c.setupColors.colors.length = ledSum c.zones := by
  show (resizeColors _ _).length = _
  rw [resizeColors_length, totalLedCount_toNat, Nat.mod_eq_of_lt small]

theorem setupColors_of_length {c : RGBController} (small : ledSum c.zones < 2 ^ 32)
    (h : c.colors.length = ledSum c.zones) :
    c.setupColors = { c with zones := setupZones c.leds.length c.colors.length 0 c.zones } := by
  have same : resizeColors c.colors (totalLedCount c.zones).toNat = c.colors := by
    rw [totalLedCount_toNat, Nat.mod_eq_of_lt small, ← h, resizeColors_self]
  simp only [setupColors, same]

/-- The zones' LEDs are exactly the LEDs, and each LED has a color. -/
def Accounted (c : RGBController) : Prop :=
  ledSum c.zones = c.leds.length ∧ c.leds.length = c.colors.length

def WindowInside (c : RGBController) (z : Zone) : Prop :=
  z.startIdx.toNat + z.getLEDsInZone.toNat ≤ c.leds.length ∧
    z.startIdx.toNat + z.getLEDsInZone.toNat ≤ c.colors.length

/-- The zones are laid out one behind the other, as `SetupColors` does it. -/
def LaidOut (c : RGBController) : Prop :=
  ∀ i z, c.zones[i]? = some z → z.startIdx.toNat = ledSum (c.zones.take i) ∧
    z.leds = (if 0 < c.leds.length ∧ 0 < z.getLEDsInZone then some z.startIdx.toNat else none) ∧
    z.colors = (if 0 < z.getLEDsInZone then some z.startIdx.toNat else none)

theorem take_ledSum_setupZones (numLeds numColors : Nat) (total : UInt32) (zs : List Zone) (i : Nat) :
    ledSum ((setupZones numLeds numColors total zs).take i) = ledSum (zs.take i) := by
  induction zs generalizing total i with
  | nil => rfl
  | cons z zs ih =>
      rw [setupZones_cons]
      cases i with
      | zero => rfl
      | succ i => simp only [List.take_succ_cons, ledSum_cons, ih, pointZone_getLEDsInZone]

theorem laidOut_setupColors {c : RGBController} (small : ledSum c.zones < 2 ^ 32) :
    c.setupColors.LaidOut := by
  intro i z hz
  have hlen := setupColors_colors_length small
  change (setupZones c.leds.length c.setupColors.colors.length 0 c.zones)[i]? = some z at hz
  rw [setupZones_getElem?] at hz
  obtain ⟨z₀, h₀, rfl⟩ := Option.map_eq_some_iff.mp hz
  have reach := ledSum_take_succ h₀
  have start : ((c.zones.take i).foldl (fun t z => t + z.getLEDsInZone) (0 : UInt32)).toNat =
      ledSum (c.zones.take i) := by
    rw [foldl_ledCount]
    exact (congrArg (· % 2 ^ 32) (Nat.zero_add _)).trans (Nat.mod_eq_of_lt (by omega))
  refine ⟨?_, rfl, ?_⟩
  · show _ = ledSum ((setupZones _ _ _ _).take i)
    rw [take_ledSum_setupZones]
    exact start
  · show (if 0 < c.setupColors.colors.length ∧ 0 < z₀.getLEDsInZone then _ else none) = _
    rw [hlen, pointZone_getLEDsInZone]
    by_cases hpos : 0 < z₀.getLEDsInZone
    · have count : 0 < z₀.getLEDsInZone.toNat := by simpa [UInt32.lt_iff_toNat_lt] using hpos
      rw [if_pos ⟨by omega, hpos⟩, if_pos hpos]
      rfl
    · rw [if_neg fun h => hpos h.2, if_neg hpos]

/-- In an accounted controller every laid-out zone has its stretch inside both vectors. -/
theorem windows_inside {c : RGBController} (accounted : c.Accounted) (laid : c.LaidOut) :
    ∀ z ∈ c.zones, c.WindowInside z := by
  intro z hz
  obtain ⟨i, hi⟩ := List.mem_iff_getElem?.mp hz
  have reach := ledSum_take_succ hi
  have start := (laid i z hi).1
  obtain ⟨leds, colors⟩ := accounted
  constructor <;> omega

end RGBController
end SyncRGB
