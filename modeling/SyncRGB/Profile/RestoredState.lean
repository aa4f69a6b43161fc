import SyncRGB.Controller.Windows
import SyncRGB.Profile.LoadedDevices
import SyncRGB.Profile.SavedProfile
import SyncRGB.VectorEdit.Pointwise
import SyncRGB.VectorEdit.Resize

/-! What the settings pass and the sizes pass together make of an edited controller. Windows apart, the
sizes pass works on the zones one by one; the color vector goes through the LED total of every resize. -/
namespace SyncRGB
open ByteCodec VectorEdit RGBController

/-- The settings of a mode, which a profile is to restore. -/
def Mode.settings (m : Mode) : UInt32 × UInt32 × UInt32 × UInt32 × List RGBColor :=
  (m.speed, m.brightness, m.direction, m.colorMode, m.colors)

def Zone.sizes (z : Zone) : UInt32 × List Segment := (z.ledsCount, z.segments)

/-- What no edit of a zone changes. -/
def Zone.fixed (z : Zone) : Bytes × Int32 × UInt32 × UInt32 × UInt32 :=
  (z.name, z.type, z.ledsMin, z.ledsMax, z.flags)

namespace ProfileManager

structure Restored (saved c : RGBController) : Prop where
  zones : c.zones.map Zone.sizes = saved.zones.map Zone.sizes
  modes : c.modes.map Mode.settings = saved.modes.map Mode.settings
  activeMode : c.activeMode = saved.activeMode
  colors : c.colors = saved.colors

/-! ### Zones -/

def resized (saved z : Zone) : Bool :=
  saved.ledsCount ≠ z.ledsCount && z.ledsMin ≤ saved.ledsCount && saved.ledsCount ≤ z.ledsMax

theorem resized_iff {saved z : Zone} : resized saved z = true ↔
    saved.ledsCount ≠ z.ledsCount ∧ z.ledsMin ≤ saved.ledsCount ∧ saved.ledsCount ≤ z.ledsMax := by
  simp only [resized, Bool.and_eq_true, decide_eq_true_eq, and_assoc]

def withCount (saved z : Zone) : Zone :=
  if resized saved z then { z with ledsCount := saved.ledsCount } else z

def withSegments (saved z : Zone) : Zone :=
  if saved.segments.length ≠ z.segments.length then { z with segments := saved.segments } else z

/-- The zone after its turn. -/
def withSizes (saved z : Zone) : Zone := withSegments saved (withCount saved z)

/-- The LED totals at the resizes, the zones in `front` having had their turn. -/
def resizeTotals (front : List Zone) : List Zone → List Zone → List Nat
  | saved :: ss, z :: zs =>
      let later := resizeTotals (front ++ [withSizes saved z]) ss zs
      if resized saved z then
        (totalLedCount (front ++ withSizes saved z :: zs)).toNat :: later
      else later
  | _, _ => []

theorem unplaced_setupColors (c : RGBController) :
    c.setupColors.zones.map Zone.unplaced = c.zones.map Zone.unplaced :=
  unplaced_setupZones _ _ 0 c.zones

theorem totalLedCount_congr {xs ys : List Zone}
    (same : xs.map Zone.getLEDsInZone = ys.map Zone.getLEDsInZone) :
    totalLedCount xs = totalLedCount ys := by
  have fold (zs : List Zone) : totalLedCount zs = (zs.map Zone.getLEDsInZone).foldl (· + ·) 0 := by
    rw [List.foldl_map]
    rfl
  rw [fold, fold, same]

theorem getLEDsInZone_withSizes (saved z : Zone) :
    (withSizes saved z).getLEDsInZone = (withCount saved z).getLEDsInZone := by
  rw [withSizes, withSegments]
  split_ifs <;> rfl

section Turn
variable (saved : Zone) {z : Zone} {front rest : List Zone} {c : RGBController}
  (shape : c.zones.map Zone.unplaced = front ++ z :: rest)
include shape

theorem zone_of_shape : ∃ z₀, c.zones[front.length]? = some z₀ ∧ z₀.unplaced = z := by
  have found : (c.zones.map Zone.unplaced)[front.length]? = some z := by
    rw [shape, List.getElem?_append_right (Nat.le_refl _), Nat.sub_self]
    rfl
  rwa [List.getElem?_map, Option.map_eq_some_iff] at found

theorem set_of_shape (w : Zone) :
    (c.zones.set front.length w).map Zone.unplaced = front ++ w.unplaced :: rest := by
  rw [List.map_set, shape, List.set_append_right _ _ (Nat.le_refl _), Nat.sub_self]
  rfl

/-- The size: `SetupColors` gives the color vector the new total. -/
theorem loadZoneCount_eq :
    ∃ zones, loadZoneCount saved front.length c =
        { c with
          zones
          colors := if resized saved z then
              resize 0 c.colors (totalLedCount (front ++ withCount saved z :: rest)).toNat
            else c.colors } ∧
      zones.map Zone.unplaced = front ++ withCount saved z :: rest := by
  obtain ⟨z₀, found, rfl⟩ := zone_of_shape shape
  cases differs : resized saved z₀.unplaced with
  | true =>
      obtain ⟨(other : saved.ledsCount ≠ z₀.ledsCount), (low : z₀.ledsMin ≤ _), (high : _ ≤ z₀.ledsMax)⟩ :=
        resized_iff.mp differs
      have stored := set_of_shape shape { z₀ with ledsCount := saved.ledsCount }
      have sized : withCount saved z₀.unplaced =
          Zone.unplaced { z₀ with ledsCount := saved.ledsCount } := if_pos differs
      have total : totalLedCount (c.zones.set front.length { z₀ with ledsCount := saved.ledsCount }) =
          totalLedCount (front ++ withCount saved z₀.unplaced :: rest) := by
        rw [← totalLedCount_unplaced, stored, sized]
      have windows := unplaced_setupColors
        { c with zones := c.zones.set front.length { z₀ with ledsCount := saved.ledsCount } }
      refine ⟨_, ?_, windows.trans (stored.trans (congrArg (front ++ · :: rest) sized.symm))⟩
      simp only [loadZoneCount, found, ne_eq, other, not_false_eq_true, if_true, resizeZone, low, high,
        and_self, ← total]
      rfl
  | false =>
      have kept : withCount saved z₀.unplaced = z₀.unplaced := if_neg (by simp [differs])
      refine ⟨c.zones, ?_, by rw [shape, kept]⟩
      have ignored : saved.ledsCount ≠ z₀.ledsCount →
          ¬ (z₀.ledsMin ≤ saved.ledsCount ∧ saved.ledsCount ≤ z₀.ledsMax) := by
        intro other inside
        exact Bool.false_ne_true (differs.symm.trans (resized_iff.mpr ⟨other, inside⟩))
      by_cases other : saved.ledsCount = z₀.ledsCount
      · simp [loadZoneCount, found, other]
      · simp [loadZoneCount, found, other, resizeZone, ignored other]

/-- The segments: the total does not depend on them. -/
theorem loadZoneSegments_eq :
    ∃ zones, loadZoneSegments saved front.length c = { c with zones } ∧
      zones.map Zone.unplaced = front ++ withSegments saved z :: rest := by
  obtain ⟨z₀, found, rfl⟩ := zone_of_shape shape
  by_cases differs : saved.segments.length ≠ z₀.segments.length
  · have stored := set_of_shape shape { z₀ with segments := saved.segments }
    have edited : withSegments saved z₀.unplaced =
        Zone.unplaced { z₀ with segments := saved.segments } := if_pos differs
    refine ⟨_, ?_, stored.trans (congrArg (front ++ · :: rest) edited.symm)⟩
    rw [loadZoneSegments, found]
    exact if_pos differs
  · have kept : withSegments saved z₀.unplaced = z₀.unplaced := if_neg differs
    refine ⟨c.zones, ?_, by rw [shape, kept]⟩
    rw [loadZoneSegments, found]
    exact if_neg differs

/-- One turn of a zone that is the saved one. -/
theorem loadZone_eq (same : saved.sameSlot z = true) :
    ∃ zones, loadZone saved front.length c =
        { c with
          zones
          colors := if resized saved z then
              resize 0 c.colors (totalLedCount (front ++ withSizes saved z :: rest)).toNat
            else c.colors } ∧
      zones.map Zone.unplaced = front ++ withSizes saved z :: rest := by
  obtain ⟨zones, counted, shape'⟩ := loadZoneCount_eq saved shape
  obtain ⟨zones', edited, shape''⟩ := loadZoneSegments_eq saved
    (c := loadZoneCount saved front.length c) (by rw [counted]; exact shape')
  have total : totalLedCount (front ++ withSizes saved z :: rest) =
      totalLedCount (front ++ withCount saved z :: rest) :=
    totalLedCount_congr (by simp only [List.map_append, List.map_cons, getLEDsInZone_withSizes])
  obtain ⟨z₀, found, rfl⟩ := zone_of_shape shape
  refine ⟨zones', ?_, shape''⟩
  have turn : loadZone saved front.length c =
      loadZoneSegments saved front.length (loadZoneCount saved front.length c) := by
    rw [loadZone, found]
    exact if_pos same
  rw [turn, edited, counted, total]

end Turn

theorem loadZones_eq {ss zs : List Zone} (same : List.Forall₂ (fun s z => s.sameSlot z = true) ss zs)
    (front : List Zone) (c : RGBController) (shape : c.zones.map Zone.unplaced = front ++ zs) :
    ∃ zones, loadZones ss front.length c =
        { c with zones, colors := (resizeTotals front ss zs).foldl (resize 0) c.colors } ∧
      zones.map Zone.unplaced = front ++ List.zipWith withSizes ss zs := by
  induction same generalizing front c with
  | nil => exact ⟨c.zones, rfl, shape⟩
  | @cons saved z ss zs slot _ ih =>
      obtain ⟨zones, turn, shape'⟩ := loadZone_eq saved shape slot
      rw [List.append_cons] at shape'
      obtain ⟨zones', rest, shape''⟩ := ih (front ++ [withSizes saved z])
        (loadZone saved front.length c) (by rw [turn]; exact shape')
      refine ⟨zones', ?_, by rw [List.append_assoc] at shape''; exact shape''⟩
      rw [List.length_append, List.length_singleton] at rest
      rw [loadZones, rest, turn, resizeTotals]
      cases resized saved z <;> rfl

/-! ### Which states come back -/

/-- What no edit changes. -/
structure Edited (saved c : RGBController) : Prop where
  identity : saved.SameIdentity c
  zones : saved.zones.map Zone.fixed = c.zones.map Zone.fixed
  modes : saved.modes.length = c.modes.length
  colored : c.Colored

theorem Edited.slots {saved c : RGBController} (edited : Edited saved c) :
    List.Forall₂ (fun s z => s.sameSlot z = true ∧ s.flags = z.flags) saved.zones c.zones := by
  have all : List.Forall₂ Eq (saved.zones.map Zone.fixed) (c.zones.map Zone.fixed) := by
    rw [edited.zones]
    exact List.forall₂_refl _
  apply (List.forall₂_map_left_iff.mp (List.forall₂_map_right_iff.mp all)).imp
  intro s z equal
  simp only [Zone.fixed, Prod.mk.injEq] at equal
  simp [Zone.sameSlot, equal]

/-- The saved settings are still there, or the mode can be told to be the saved one. -/
def ModeBack (saved m : Mode) : Prop := saved.sameSlot m = true ∨ m.settings = saved.settings

/-- The device takes the saved size, and segments were edited, if at all, by their number. -/
structure ZoneBack (saved z : Zone) : Prop where
  count : z.ledsCount = saved.ledsCount ∨ z.ledsMin ≤ saved.ledsCount ∧ saved.ledsCount ≤ z.ledsMax
  segments : z.segments = saved.segments ∨ z.segments.length ≠ saved.segments.length

theorem zoneBack_unplaced_iff {saved z : Zone} : ZoneBack saved z.unplaced ↔ ZoneBack saved z :=
  ⟨fun ⟨count, segments⟩ => ⟨count, segments⟩, fun ⟨count, segments⟩ => ⟨count, segments⟩⟩

/-- The LED totals while one zone after the other gets its saved size back. -/
def totalsBack (front : List Zone) : List Zone → List Zone → List Nat
  | saved :: ss, _ :: zs =>
      (totalLedCount (front ++ saved :: zs)).toNat :: totalsBack (front ++ [saved]) ss zs
  | _, _ => []

/-- As many of the first colors as the smallest total leaves. -/
def colorsKept (saved c : RGBController) : Nat := lowest c.colors.length (totalsBack [] saved.zones c.zones)

/-- The colors in front of the smallest total are the saved ones or are loaded, those behind are black. -/
structure ColorsBack (saved c : RGBController) : Prop where
  front : saved.colors.length = c.colors.length ∨
    saved.colors.take (colorsKept saved c) = c.colors.take (colorsKept saved c)
  black : ∀ x ∈ saved.colors.drop (colorsKept saved c), x = 0

structure Restorable (saved c : RGBController) : Prop where
  modes : List.Forall₂ ModeBack saved.modes c.modes
  zones : List.Forall₂ ZoneBack saved.zones c.zones
  colors : ColorsBack saved c

theorem withSettings_settings_iff (saved m : Mode) :
    (if saved.sameSlot m then saved.withSettings m else m).settings = saved.settings ↔
      ModeBack saved m := by
  unfold ModeBack
  cases saved.sameSlot m with
  | true => exact iff_of_true rfl (.inl rfl)
  | false => simp

theorem withCount_count_iff (saved z : Zone) : (withCount saved z).ledsCount = saved.ledsCount ↔
    z.ledsCount = saved.ledsCount ∨ z.ledsMin ≤ saved.ledsCount ∧ saved.ledsCount ≤ z.ledsMax := by
  rw [withCount]
  cases differs : resized saved z with
  | true => exact iff_of_true rfl (.inr (resized_iff.mp differs).2)
  | false =>
      refine ⟨.inl, fun back => ?_⟩
      obtain same | inside := back
      · exact same
      · by_contra other
        have sized := resized_iff.mpr ⟨fun same => other same.symm, inside⟩
        exact Bool.false_ne_true (differs.symm.trans sized)

theorem withSegments_segments_iff (saved z : Zone) :
    (withSegments saved z).segments = saved.segments ↔
      z.segments = saved.segments ∨ z.segments.length ≠ saved.segments.length := by
  rw [withSegments]
  split_ifs with differs
  · exact iff_of_true rfl (.inr fun same => differs same.symm)
  · exact ⟨.inl, fun back => back.resolve_right fun other => differs fun same => other same.symm⟩

theorem withSizes_sizes_iff (saved z : Zone) :
    (withSizes saved z).sizes = saved.sizes ↔ ZoneBack saved z := by
  have count : (withSizes saved z).ledsCount = (withCount saved z).ledsCount := by
    rw [withSizes, withSegments]
    split_ifs <;> rfl
  have segments : (withCount saved z).segments = z.segments := by
    rw [withCount]
    split_ifs <;> rfl
  rw [Zone.sizes, Zone.sizes, Prod.mk.injEq, count, withCount_count_iff, withSizes,
    withSegments_segments_iff, segments]
  exact ⟨fun ⟨count, segments⟩ => ⟨count, segments⟩, fun ⟨count, segments⟩ => ⟨count, segments⟩⟩

theorem withCount_kept {saved z : Zone} (kept : resized saved z = false) : withCount saved z = z :=
  if_neg (by rw [kept]; exact Bool.false_ne_true)

/-- The last resize leaves the color vector with the final total. -/
theorem resizeTotals_last {ss zs : List Zone} (length : ss.length = zs.length) (front : List Zone) :
    (resizeTotals front ss zs).getLastD (totalLedCount (front ++ zs)).toNat =
      (totalLedCount (front ++ List.zipWith withSizes ss zs)).toNat := by
  induction ss generalizing front zs with
  | nil =>
      obtain rfl := List.length_eq_zero_iff.mp length.symm
      rfl
  | cons saved ss ih =>
      cases zs with
      | nil => cases length
      | cons z zs =>
          have rest := ih (Nat.succ.inj length) (front ++ [withSizes saved z])
          rw [List.append_assoc, List.append_assoc, List.singleton_append, List.singleton_append] at rest
          rw [resizeTotals, List.zipWith_cons_cons, ← rest]
          cases differs : resized saved z with
          | true => rw [if_pos rfl, List.getLastD_cons]
          | false =>
              have total : totalLedCount (front ++ withSizes saved z :: zs) =
                  totalLedCount (front ++ z :: zs) :=
                totalLedCount_congr (by
                  simp only [List.map_append, List.map_cons, getLEDsInZone_withSizes,
                    withCount_kept differs])
              rw [total]
              rfl

theorem getLEDsInZone_congr {a b : Zone} (flags : a.flags = b.flags) (count : a.ledsCount = b.ledsCount) :
    a.getLEDsInZone = b.getLEDsInZone := by
  rw [Zone.getLEDsInZone, Zone.getLEDsInZone, Zone.effectsOnly, Zone.effectsOnly, flags, count]

theorem getLEDsInZone_back {saved z : Zone} (flags : saved.flags = z.flags)
    (back : (withCount saved z).ledsCount = saved.ledsCount) :
    (withSizes saved z).getLEDsInZone = saved.getLEDsInZone := by
  have same : (withCount saved z).flags = saved.flags := by
    rw [withCount, flags]
    split_ifs <;> rfl
  rw [getLEDsInZone_withSizes]
  exact getLEDsInZone_congr same back

/-- A resize that is left out does not lower the smallest total. -/
theorem foldl_min_resizeTotals {ss zs : List Zone}
    (back : List.Forall₂ (fun s z => s.flags = z.flags ∧ ZoneBack s z) ss zs)
    {front front' : List Zone} (same : front.map Zone.getLEDsInZone = front'.map Zone.getLEDsInZone)
    (least : Nat) (below : least ≤ (totalLedCount (front ++ zs)).toNat) :
    (resizeTotals front ss (zs.map Zone.unplaced)).foldl min least =
      (totalsBack front' ss zs).foldl min least := by
  induction back generalizing front front' least with
  | nil => rfl
  | @cons saved z ss zs first _ ih =>
      have leds : (withSizes saved z.unplaced).getLEDsInZone = saved.getLEDsInZone :=
        getLEDsInZone_back first.1 ((withCount_count_iff saved z.unplaced).mpr first.2.count)
      have rest : (zs.map Zone.unplaced).map Zone.getLEDsInZone = zs.map Zone.getLEDsInZone :=
        map_unplaced (fun _ => rfl) zs
      have total : totalLedCount (front ++ withSizes saved z.unplaced :: zs.map Zone.unplaced) =
          totalLedCount (front' ++ saved :: zs) :=
        totalLedCount_congr (by
          rw [List.map_append, List.map_append, List.map_cons, List.map_cons, same, leds, rest])
      have next : (front ++ [withSizes saved z.unplaced]).map Zone.getLEDsInZone =
          (front' ++ [saved]).map Zone.getLEDsInZone := by
        rw [List.map_append, List.map_append, same, List.map_singleton, List.map_singleton, leds]
      have step : totalLedCount (front ++ [withSizes saved z.unplaced] ++ zs) =
          totalLedCount (front' ++ saved :: zs) :=
        totalLedCount_congr (by
          rw [List.map_append, next, ← List.map_append, List.append_assoc, List.singleton_append])
      rw [List.map_cons, resizeTotals, totalsBack, List.foldl_cons]
      cases differs : resized saved z.unplaced with
      | true =>
          rw [if_pos rfl, List.foldl_cons, total]
          exact ih next _ (by rw [step]; exact Nat.min_le_right _ _)
      | false =>
          have kept : (withSizes saved z.unplaced).getLEDsInZone = z.getLEDsInZone := by
            rw [getLEDsInZone_withSizes, withCount_kept differs]
            rfl
          have before : totalLedCount (front' ++ saved :: zs) = totalLedCount (front ++ z :: zs) :=
            totalLedCount_congr (by
              rw [List.map_append, List.map_append, List.map_cons, List.map_cons, same, ← leds, kept])
          rw [before, Nat.min_eq_left below]
          exact ih next least (by rw [step, before]; exact below)

/-! ### One controller -/

theorem getLEDsInZone_zipWith {ss zs : List Zone}
    (back : List.Forall₂ (fun s z => s.flags = z.flags ∧ ZoneBack s z) ss zs) :
    (List.zipWith withSizes ss (zs.map Zone.unplaced)).map Zone.getLEDsInZone =
      ss.map Zone.getLEDsInZone := by
  induction back with
  | nil => rfl
  | @cons saved z ss zs first _ ih =>
      have leds : (withSizes saved z.unplaced).getLEDsInZone = saved.getLEDsInZone :=
        getLEDsInZone_back first.1 ((withCount_count_iff saved z.unplaced).mpr first.2.count)
      rw [List.map_cons, List.zipWith_cons_cons, List.map_cons, leds, ih, List.map_cons]

theorem loadSettings_eq {saved c : RGBController} (modes : saved.modes.length = c.modes.length) :
    loadColors saved (loadModes saved c) =
      { c with
        modes := List.zipWith (fun s m => if s.sameSlot m then s.withSettings m else m) saved.modes c.modes
        activeMode := saved.activeMode
        colors := if saved.colors.length = c.colors.length then saved.colors else c.colors } := by
  rw [loadColors, loadModes, if_pos modes]
  split_ifs <;> rfl

theorem loadSizes_eq {saved c : RGBController}
    (slots : List.Forall₂ (fun s z => s.sameSlot z = true) saved.zones c.zones) :
    ∃ zones, loadSizes saved c =
        { c with
          zones
          colors := (resizeTotals [] saved.zones (c.zones.map Zone.unplaced)).foldl (resize 0) c.colors } ∧
      zones.map Zone.unplaced = List.zipWith withSizes saved.zones (c.zones.map Zone.unplaced) := by
  rw [loadSizes, if_pos slots.length_eq]
  have windows : List.Forall₂ (fun s z => s.sameSlot z = true) saved.zones (c.zones.map Zone.unplaced) :=
    List.forall₂_map_right_iff.mpr slots
  exact loadZones_eq windows [] c rfl

/-- With the zones back, the resizes leave the saved colors just when they are not lost on the way. -/
theorem resizeTotals_colors_iff {saved c : RGBController} (colored : saved.Colored)
    (edited : Edited saved c) (back : List.Forall₂ ZoneBack saved.zones c.zones) :
    (resizeTotals [] saved.zones (c.zones.map Zone.unplaced)).foldl (resize 0)
        (if saved.colors.length = c.colors.length then saved.colors else c.colors) = saved.colors ↔
      ColorsBack saved c := by
  have both := forall₂_and (edited.slots.imp fun _ _ same => same.2) back
  have windows : totalLedCount (c.zones.map Zone.unplaced) = totalLedCount c.zones :=
    totalLedCount_unplaced c.zones
  have final : totalLedCount (List.zipWith withSizes saved.zones (c.zones.map Zone.unplaced)) =
      totalLedCount saved.zones := totalLedCount_congr (getLEDsInZone_zipWith both)
  have length : (if saved.colors.length = c.colors.length then saved.colors else c.colors).length =
      (totalLedCount c.zones).toNat := by
    rw [← edited.colored]
    split_ifs with same
    · exact same
    · rfl
  have last : (resizeTotals [] saved.zones (c.zones.map Zone.unplaced)).getLastD
      (if saved.colors.length = c.colors.length then saved.colors else c.colors).length =
        saved.colors.length := by
    have sameLength : saved.zones.length = (c.zones.map Zone.unplaced).length := by
      rw [List.length_map]
      exact both.length_eq
    have total := resizeTotals_last sameLength []
    rw [List.nil_append, List.nil_append, windows, final] at total
    rw [length, total]
    exact colored.symm
  have kept : lowest (totalLedCount c.zones).toNat
      (resizeTotals [] saved.zones (c.zones.map Zone.unplaced)) = colorsKept saved c := by
    rw [colorsKept, edited.colored]
    exact foldl_min_resizeTotals both rfl _ (Nat.le_refl _)
  rw [foldl_resize_eq_iff 0 _ _ _ last, length, kept]
  constructor
  · rintro ⟨front, black⟩
    refine ⟨?_, black⟩
    by_cases same : saved.colors.length = c.colors.length
    · exact .inl same
    · exact .inr (by rwa [if_neg same] at front)
  · rintro ⟨front, black⟩
    refine ⟨?_, black⟩
    split_ifs with same
    · rfl
    · exact front.resolve_left same

/-- Settings and then sizes bring the saved state of a controller back exactly when it is restorable. -/
theorem restored_iff {saved c : RGBController} (colored : saved.Colored) (edited : Edited saved c) :
    Restored saved (loadSizes saved (loadColors saved (loadModes saved c))) ↔ Restorable saved c := by
  have settings := loadSettings_eq edited.modes
  have slots : List.Forall₂ (fun s z => s.sameSlot z = true) saved.zones c.zones :=
    edited.slots.imp fun _ _ same => same.1
  obtain ⟨zones, sized, shape⟩ := loadSizes_eq (c := loadColors saved (loadModes saved c))
    (by rw [settings]; exact slots)
  rw [settings] at sized shape
  have modesIff := zipWith_map_eq_iff (g := Mode.settings) edited.modes
    withSettings_settings_iff
  have zonesIff : zones.map Zone.sizes = saved.zones.map Zone.sizes ↔
      List.Forall₂ ZoneBack saved.zones c.zones := by
    have sizes : (zones.map Zone.unplaced).map Zone.sizes = zones.map Zone.sizes :=
      map_unplaced (fun _ => rfl) zones
    rw [← sizes, shape, zipWith_map_eq_iff (by rw [List.length_map]; exact slots.length_eq)
      withSizes_sizes_iff, List.forall₂_map_right_iff]
    simp only [zoneBack_unplaced_iff]
  rw [settings, sized]
  constructor
  · intro back
    have zonesBack := zonesIff.mp back.zones
    exact ⟨modesIff.mp back.modes, zonesBack,
      (resizeTotals_colors_iff colored edited zonesBack).mp back.colors⟩
  · intro back
    exact ⟨zonesIff.mpr back.zones, modesIff.mpr back.modes, rfl,
      (resizeTotals_colors_iff colored edited back.zones).mpr back.colors⟩

end ProfileManager
end SyncRGB
