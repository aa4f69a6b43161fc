import Mathlib.Data.Set.Lattice
import Mathlib.Order.CompletePartialOrder
import Mathlib.Order.Interval.Set.Basic
import SyncRGB.Controller.ZoneColors

/-! `SetupColors` parts the color vector among the zones. -/
namespace SyncRGB
open VectorEdit

/-- The color slots of a zone. -/
def Zone.slots (z : Zone) : Set Nat :=
  Set.Ico z.startIdx.toNat (z.startIdx.toNat + z.getLEDsInZone.toNat)

namespace RGBController
variable {c : RGBController}

theorem take_resizeColors (colors : List RGBColor) {n slot : Nat} (old : slot < min colors.length n) :
    (resizeColors colors n)[slot]? = colors[slot]? := by
  rw [resizeColors, List.getElem?_append_left (by rw [List.length_take]; omega),
    List.getElem?_take_of_lt (by omega)]

namespace Tiled

theorem disjoint (tiled : c.Tiled) : c.zones.Pairwise fun z z' => Disjoint z.slots z'.slots := by
  rw [List.pairwise_iff_getElem]
  intro i j hi hj order
  have apart := tiled.before (List.getElem?_eq_getElem hi) (List.getElem?_eq_getElem hj) order
  rw [Set.disjoint_left]
  rintro slot ⟨-, below⟩ ⟨above, -⟩
  omega

theorem iUnion_slots (tiled : c.Tiled) : ⋃ z ∈ c.zones, z.slots = Set.Iio c.colors.length := by
  ext slot
  rw [Set.mem_iUnion₂, Set.mem_Iio]
  constructor
  · rintro ⟨z, member, -, below⟩
    obtain ⟨i, found⟩ := List.mem_iff_getElem?.mp member
    have inside := tiled.inside found
    omega
  · intro inside
    obtain ⟨k, z, p, found, within, rfl⟩ := tiled.covered inside
    exact ⟨z, List.mem_of_getElem? found, Nat.le_add_right _ _, by omega⟩

end Tiled

/-- The pointer of a zone is NULL just when the zone has no LED to address. -/
theorem Tiled.colors_eq_none_iff (tiled : c.Tiled) (windowed : c.Windowed) {z : Zone} (member : z ∈ c.zones) :
    z.colors = none ↔ z.getLEDsInZone = 0 := by
  obtain ⟨k, found⟩ := List.mem_iff_getElem?.mp member
  have inside := tiled.inside found
  rw [(windowed.zone found).2]
  by_cases some_ : 0 < z.getLEDsInZone
  · have count := UInt32.lt_iff_toNat_lt.mp some_
    have pointer : 0 < c.colors.length ∧ 0 < z.getLEDsInZone := ⟨by omega, some_⟩
    rw [if_pos pointer]
    exact iff_of_false (Option.some_ne_none _) fun zero => absurd some_ (by rw [zero]; decide)
  · rw [if_neg fun pointer => some_ pointer.2]
    exact iff_of_true rfl (UInt32.le_zero_iff.mp (UInt32.not_lt.mp some_))

/-- The windows of the zones after `SetupColors`, one behind the other, are disjoint and together all of the
colors; what was in the colors before stays as far as it fits. -/
theorem setupColors_partition (c : RGBController) (small : ledSum c.zones < 2 ^ 32) :
    c.setupColors.colors.length = ledSum c.zones ∧
      (∀ (k : Nat) (z : Zone), c.setupColors.zones[k]? = some z →
        z.startIdx.toNat = ledSum (c.zones.take k)) ∧
      (c.setupColors.zones.Pairwise fun z z' => Disjoint z.slots z'.slots) ∧
      ⋃ z ∈ c.setupColors.zones, z.slots = Set.Iio c.setupColors.colors.length ∧
      (∀ z ∈ c.setupColors.zones, z.colors = none ↔ z.getLEDsInZone = 0) ∧
      ∀ slot < min c.colors.length c.setupColors.colors.length,
        c.setupColors.colors[slot]? = c.colors[slot]? := by
  have windowed := windowed_setupColors c
  have total : ledSum c.setupColors.zones = ledSum c.zones := setupZones_ledSum _ _ _ _
  have tiled := windowed.tiled (by rwa [total])
  refine ⟨setupColors_colors_length small, ?_, tiled.disjoint, tiled.iUnion_slots,
    fun z => tiled.colors_eq_none_iff windowed, ?_⟩
  · intro k z found
    rw [tiled.start k z found]
    exact take_ledSum_setupZones _ _ _ _ _
  · intro slot old
    apply take_resizeColors
    exact old.trans_le (min_le_min_left _ (resizeColors_length _ _).le)

/-- Two colors of old; a capped zone, an empty one and an ordinary one share three. -/
theorem setupColors_partition_three :
    let c : RGBController := { new 0 with
      colors := [7, 8]
      zones := [{ Zone.new with ledsCount := 5, flags := 1 }, Zone.new, { Zone.new with ledsCount := 2 }] }
    c.setupColors.colors.length = ledSum c.zones ∧
      (∀ (k : Nat) (z : Zone), c.setupColors.zones[k]? = some z →
        z.startIdx.toNat = ledSum (c.zones.take k)) ∧
      (c.setupColors.zones.Pairwise fun z z' => Disjoint z.slots z'.slots) ∧
      ⋃ z ∈ c.setupColors.zones, z.slots = Set.Iio c.setupColors.colors.length ∧
      (∀ z ∈ c.setupColors.zones, z.colors = none ↔ z.getLEDsInZone = 0) ∧
      ∀ slot < min c.colors.length c.setupColors.colors.length,
        c.setupColors.colors[slot]? = c.colors[slot]? :=
  setupColors_partition _ (by decide)

end RGBController
end SyncRGB
