import SyncRGB.Controller.ZoneColors

/-! New LED counts of zones: through the device, or by force. -/
namespace SyncRGB
open VectorEdit
namespace RGBController

/-- A device's `ResizeZone` applies a size, and may rebuild everything but the other counts, or ignores the
call. -/
def AppliesOrIgnores (resizeZone : Nat → UInt32 → RGBController → RGBController) : Prop :=
  ∀ zone n c, resizeZone zone n c = c ∨
    (resizeZone zone n c).zones.map Zone.ledsCount = (c.zones.map Zone.ledsCount).set zone n

/-- A zone with a count that is set by force is not effects-only any more. -/
def forceZone (n : UInt32) (z : Zone) : Zone := { z with ledsCount := n, flags := z.flags &&& ~~~1 }

def forceCount (zone : Nat) (n : UInt32) (c : RGBController) : RGBController :=
  { c with zones := c.zones.modify zone (forceZone n) }

/-- The LED vector is resized at its end for the new total, then `SetupColors` is called. -/
def refit (c : RGBController) : RGBController :=
  setupColors { c with leds := resize ⟨[], 0⟩ c.leds (ledSum c.zones) }

/-- The counts of the zones that are given colors. -/
def forceCounts : Nat → List (List RGBColor) → RGBController → RGBController
  | _, [], c => c
  | zone, colors :: rest, c =>
      forceCounts (zone + 1) rest
        (if colors = [] then c else c.forceCount zone (UInt32.ofNat colors.length))

/-- As many colors as the zone has LEDs, read through its pointer; `none` when one is read outside. -/
def readZoneColors (c : RGBController) (z : Zone) : Option (List RGBColor) :=
  if z.ledsCount = 0 then some []
  else do
    let start ← z.colors
    if start + z.ledsCount.toNat ≤ c.colors.length then
      return slice start z.ledsCount.toNat c.colors
    else none

/-- The zones without given colors get their original ones back. -/
def restoreZones (given : List (List RGBColor)) : Nat → List (List RGBColor) → RGBController →
    Option RGBController
  | _, [], c => some c
  | zone, original :: rest, c => do
      let c ← if given[zone]?.getD [] = [] then c.storeZoneColors zone original else some c
      restoreZones given (zone + 1) rest c

/-- The given colors; an empty list stands for a zone without. -/
def storeZones : Nat → List (List RGBColor) → RGBController → Option RGBController
  | _, [], c => some c
  | zone, colors :: rest, c => do
      let c ← c.storeZoneColors zone colors
      storeZones (zone + 1) rest c

/-- The forced branch of `SetMultipleZoneMultipleLed` up to the given colors. -/
def forceSizes (given : List (List RGBColor)) (c : RGBController) : Option RGBController := do
  let originals ← c.zones.mapM c.readZoneColors
  restoreZones given 0 originals (forceCounts 0 given c).refit

/-! ### Counts -/

/-- The LED count of a zone as a number. -/
def countAt (c : RGBController) (zone : Nat) : Option Nat := c.zones[zone]?.map fun z => z.ledsCount.toNat

theorem countAt_eq (c : RGBController) (zone : Nat) :
    c.countAt zone = (c.zones.map Zone.ledsCount)[zone]?.map UInt32.toNat := by
  rw [countAt, List.getElem?_map, Option.map_map]
  rfl

/-- A size that is applied is the count of its zone, and the other counts stay. -/
theorem countAt_of_applied {zone : Nat} {n : UInt32} {c d : RGBController}
    (applied : d.zones.map Zone.ledsCount = (c.zones.map Zone.ledsCount).set zone n) (other : Nat) :
    d.countAt other =
      if other = zone then if zone < c.zones.length then some n.toNat else none else c.countAt other := by
  rw [countAt_eq, applied]
  by_cases same : other = zone
  · rw [if_pos same, same]
    by_cases exists_ : zone < c.zones.length
    · rw [if_pos exists_, List.getElem?_set_self (by rwa [List.length_map])]
      rfl
    · rw [if_neg exists_, List.getElem?_eq_none (by simpa using exists_)]
      rfl
  · rw [if_neg same, List.getElem?_set_ne (Ne.symm same), countAt_eq]

theorem forceZone_getLEDsInZone (n : UInt32) (z : Zone) : (forceZone n z).getLEDsInZone = n := by
  have cleared : z.flags &&& ~~~1 &&& 1 = 0 := by
    rw [UInt32.and_assoc]
    exact UInt32.and_zero
  have ordinary : (forceZone n z).effectsOnly = false := by
    rw [Zone.effectsOnly, forceZone, cleared]
    rfl
  rw [Zone.getLEDsInZone, ordinary]
  rfl

theorem forceCount_getElem?_self (zone : Nat) (n : UInt32) (c : RGBController) :
    (c.forceCount zone n).zones[zone]? = c.zones[zone]?.map (forceZone n) := by
  rw [forceCount, List.getElem?_modify_eq]
  rfl

theorem forceCount_getElem?_of_ne {zone k : Nat} (away : zone ≠ k) (n : UInt32) (c : RGBController) :
    (c.forceCount zone n).zones[k]? = c.zones[k]? := by
  rw [forceCount, List.getElem?_modify_ne _ _ away]

theorem forceCounts_eq (zone : Nat) (given : List (List RGBColor)) (c : RGBController) :
    forceCounts zone given c = { c with zones := (forceCounts zone given c).zones } := by
  induction given generalizing zone c with
  | nil => rfl
  | cons colors rest ih =>
      rw [forceCounts, ih]
      split
      · rfl
      · rfl

theorem forceCounts_length (zone : Nat) (given : List (List RGBColor)) (c : RGBController) :
    (forceCounts zone given c).zones.length = c.zones.length := by
  induction given generalizing zone c with
  | nil => rfl
  | cons colors rest ih =>
      rw [forceCounts, ih]
      split
      · rfl
      · exact List.length_modify _ _ _

/-- Only the zones that are given colors get another count. -/
theorem forceCounts_getElem? (zone : Nat) (given : List (List RGBColor)) (c : RGBController) (k : Nat) :
    (forceCounts zone given c).zones[k]? =
      if k < zone ∨ given[k - zone]?.getD [] = [] then c.zones[k]?
      else c.zones[k]?.map (forceZone (UInt32.ofNat (given[k - zone]?.getD []).length)) := by
  induction given generalizing zone c with
  | nil => simp [forceCounts]
  | cons colors rest ih =>
      rw [forceCounts, ih]
      have others (away : zone ≠ k) :
          (if colors = [] then c else c.forceCount zone (UInt32.ofNat colors.length)).zones[k]? =
            c.zones[k]? := by
        split
        · rfl
        · exact forceCount_getElem?_of_ne away _ c
      rcases Nat.lt_trichotomy k zone with before | here | behind
      · rw [others (by omega), if_pos (Or.inl (by omega : k < zone + 1)), if_pos (Or.inl before)]
      · subst here
        rw [if_pos (Or.inl (by omega : k < k + 1)), Nat.sub_self, List.getElem?_cons_zero, Option.getD_some]
        by_cases empty : colors = []
        · rw [if_pos empty, if_pos (Or.inr empty)]
        · rw [if_neg empty, forceCount_getElem?_self, if_neg]
          rintro (before | nil)
          · omega
          · exact empty nil
      · obtain ⟨j, rfl⟩ : ∃ j, k = zone + 1 + j := ⟨k - (zone + 1), by omega⟩
        have first : ¬ zone + 1 + j < zone := by omega
        have second : ¬ zone + 1 + j < zone + 1 := by omega
        have behind : zone + 1 + j - zone = j + 1 := by omega
        simp only [first, second, false_or, Nat.add_sub_cancel_left, behind, List.getElem?_cons_succ,
          others (show zone ≠ zone + 1 + j by omega)]

/-! ### Vectors of the new size -/

theorem refit_windowed (c : RGBController) : c.refit.Windowed := windowed_setupColors _

theorem ledSum_refit (c : RGBController) : ledSum c.refit.zones = ledSum c.zones := setupZones_ledSum _ _ 0 _

theorem ledSum_take_refit (c : RGBController) (k : Nat) :
    ledSum (c.refit.zones.take k) = ledSum (c.zones.take k) := take_ledSum_setupZones _ _ 0 _ k

theorem refit_colors {c : RGBController} (small : ledSum c.zones < 2 ^ 32) :
    c.refit.colors = resizeColors c.colors (ledSum c.zones) := by
  show resizeColors c.colors (totalLedCount c.zones).toNat = _
  rw [totalLedCount_toNat, Nat.mod_eq_of_lt small]

theorem refit_getElem? {c : RGBController} {k : Nat} {z : Zone} (found : c.zones[k]? = some z) :
    ∃ z', c.refit.zones[k]? = some z' ∧ z'.getLEDsInZone = z.getLEDsInZone ∧ z'.ledsCount = z.ledsCount := by
  have pointed := setupZones_getElem? (resize ⟨[], 0⟩ c.leds (ledSum c.zones)).length
    (resizeColors c.colors (totalLedCount c.zones).toNat).length 0 c.zones k
  rw [found, Option.map_some] at pointed
  exact ⟨_, pointed, rfl, rfl⟩

theorem refit_getElem?_some {c : RGBController} {k : Nat} {z' : Zone} (found : c.refit.zones[k]? = some z') :
    ∃ z, c.zones[k]? = some z ∧ z'.getLEDsInZone = z.getLEDsInZone ∧ z'.ledsCount = z.ledsCount := by
  have pointed := setupZones_getElem? (resize ⟨[], 0⟩ c.leds (ledSum c.zones)).length
    (resizeColors c.colors (totalLedCount c.zones).toNat).length 0 c.zones k
  obtain ⟨z, original, rfl⟩ := Option.map_eq_some_iff.mp (pointed.symm.trans found)
  exact ⟨z, original, rfl, rfl⟩

theorem refit_self {c : RGBController} (windowed : c.Windowed) (leds : ledSum c.zones = c.leds.length) :
    c.refit = c := by
  rw [refit, leds, resize_self]
  exact windowed

/-! ### Colors kept aside -/

theorem readZoneColors_some {c : RGBController} (windowed : c.Windowed) {k : Nat} {z : Zone}
    (found : c.zones[k]? = some z)
    (inside : z.ledsCount = 0 ∨ z.startIdx.toNat + z.ledsCount.toNat ≤ c.colors.length) :
    c.readZoneColors z = some (slice z.startIdx.toNat z.ledsCount.toNat c.colors) := by
  rw [readZoneColors]
  split
  · rename_i zero
    rw [zero, slice]
    rfl
  · rename_i used
    have count : 0 < z.ledsCount.toNat := by
      apply Nat.pos_of_ne_zero
      exact fun zero => used (UInt32.toNat_inj.mp zero)
    have room := inside.resolve_left used
    have pointer : z.colors = some z.startIdx.toNat := by
      rw [(windowed.zone found).2, if_pos ⟨by omega, Zone.getLEDsInZone_pos count⟩]
    rw [pointer]
    exact if_pos room

theorem readZoneColors_isSome {c : RGBController} (windowed : c.Windowed) {k : Nat} {z : Zone}
    (found : c.zones[k]? = some z) (read : (c.readZoneColors z).isSome) :
    z.ledsCount = 0 ∨ z.startIdx.toNat + z.ledsCount.toNat ≤ c.colors.length := by
  rw [readZoneColors, (windowed.zone found).2] at read
  split at read
  · exact .inl ‹_›
  · right
    by_contra outside
    split at read
    · rw [Option.bind_eq_bind, Option.bind_some, if_neg outside] at read
      cases read
    · cases read

/-- All the colors are read, exactly when each zone's lie inside. -/
theorem readZones_eq {c : RGBController} (windowed : c.Windowed) {zs : List Zone}
    (sub : ∀ z ∈ zs, z ∈ c.zones) :
    (∀ z ∈ zs, z.ledsCount = 0 ∨ z.startIdx.toNat + z.ledsCount.toNat ≤ c.colors.length) ∧
        zs.mapM c.readZoneColors =
          some (zs.map fun z => slice z.startIdx.toNat z.ledsCount.toNat c.colors) ∨
      (¬ ∀ z ∈ zs, z.ledsCount = 0 ∨ z.startIdx.toNat + z.ledsCount.toNat ≤ c.colors.length) ∧
        zs.mapM c.readZoneColors = none := by
  induction zs with
  | nil => exact .inl ⟨fun _ mem => absurd mem List.not_mem_nil, rfl⟩
  | cons z zs ih =>
      obtain ⟨k, found⟩ := List.mem_iff_getElem?.mp (sub z (.head _))
      rw [List.mapM_cons]
      by_cases inside : z.ledsCount = 0 ∨ z.startIdx.toNat + z.ledsCount.toNat ≤ c.colors.length
      · rw [readZoneColors_some windowed found inside]
        rcases ih fun z mem => sub z (.tail _ mem) with ⟨all, read⟩ | ⟨outside, read⟩
        · left
          rw [read]
          exact ⟨List.forall_mem_cons.mpr ⟨inside, all⟩, rfl⟩
        · right
          rw [read]
          exact ⟨fun all => outside (List.forall_mem_cons.mp all).2, rfl⟩
      · right
        cases read : c.readZoneColors z with
        | none => exact ⟨fun all => inside (List.forall_mem_cons.mp all).1, rfl⟩
        | some colors => exact absurd (readZoneColors_isSome windowed found (by rw [read]; rfl)) inside

end RGBController
end SyncRGB
