import SyncRGB.JsonRpc.ZoneFrame

/-! New sizes of zones by force. The LED vector, and for a single zone the color vector too, are resized at
their end only, so that what lies behind a zone of another size comes to lie in other zones. -/
namespace SyncRGB
open ByteCodec VectorEdit Effect RGBController
namespace JsonRpc

namespace ZoneWrite

/-- The request is made with force; the parameters refuse a zone without colors. -/
def Forced : ZoneWrite → Prop
  | .color _ _ => False
  | .one request => request.force = true ∧ request.colors ≠ []
  | .all request => request.force = true

/-- The colors for a zone; none for a zone that is not given any. -/
def givenTo : ZoneWrite → Nat → List RGBColor
  | .color _ _, _ => []
  | .one request, zone => if zone = request.zoneIdx.toNat then request.colors else []
  | .all request, zone => request.zoneColors[zone]?.getD []

/-- The zones with the counts of the given colors. A single zone of that size is left as it is. -/
def forcedZones : ZoneWrite → RGBController → List Zone
  | .color _ _, c => c.zones
  | .one request, c =>
      if c.countAt request.zoneIdx.toNat = some request.colors.length then c.zones
      else (c.forceCount request.zoneIdx.toNat (UInt32.ofNat request.colors.length)).zones
  | .all request, c => (forceCounts 0 request.zoneColors c).zones

/-- There are zones for the colors. -/
def ZonesExist : ZoneWrite → RGBController → Prop
  | .color _ _, _ => False
  | .one request, c => request.zoneIdx.toNat < c.zones.length
  | .all request, c => request.zoneColors.length ≤ c.zones.length

end ZoneWrite

/-- The zones that are not given colors keep their counts, colors and LEDs, and the others have exactly the
colors given. -/
structure Resized (write : ZoneWrite) (c d : RGBController) : Prop where
  zones : d.zones.length = c.zones.length
  kept (zone : Nat) (z z' : Zone) : write.givenTo zone = [] → c.zones[zone]? = some z →
    d.zones[zone]? = some z' →
    z'.ledsCount = z.ledsCount ∧ d.zoneColors z' = c.zoneColors z ∧ d.zoneLeds z' = c.zoneLeds z
  given (zone : Nat) (z' : Zone) : write.givenTo zone ≠ [] → d.zones[zone]? = some z' →
    d.zoneColors z' = write.givenTo zone

/-- What is required of the colors. A single zone: the color vector, resized at its end, has the colors of
the other zones at their new places. Several zones: as many colors as each zone has LEDs lie inside the
vector, in its old place and, when it is not given colors, in its new one. -/
def ColorsFit (c : RGBController) (write : ZoneWrite) : Prop :=
  let zones := write.forcedZones c
  match write with
  | .color _ _ => True
  | .one _ => ∀ (zone : Nat) (z : Zone), write.givenTo zone = [] → c.zones[zone]? = some z →
      slice (ledSum (zones.take zone)) z.getLEDsInZone.toNat (resizeColors c.colors (ledSum zones)) =
        c.zoneColors z
  | .all _ => ∀ (zone : Nat) (z : Zone), c.zones[zone]? = some z →
      z.ledsCount = 0 ∨ z.startIdx.toNat + z.ledsCount.toNat ≤ c.colors.length ∧
        (write.givenTo zone = [] → ledSum (zones.take zone) + z.ledsCount.toNat ≤ ledSum zones)

structure ForceFits (c : RGBController) (write : ZoneWrite) : Prop where
  /-- A zone that is given colors has a slot for each of them. -/
  room (zone : Nat) (z : Zone) : write.givenTo zone ≠ [] → (write.forcedZones c)[zone]? = some z →
    z.getLEDsInZone.toNat = (write.givenTo zone).length
  /-- The LED counts do not wrap. -/
  small : ledSum (write.forcedZones c) < 2 ^ 32
  /-- The LED vector, resized at its end, has the LEDs of the other zones at their new places. -/
  leds (zone : Nat) (z : Zone) : write.givenTo zone = [] → c.zones[zone]? = some z →
    slice (ledSum ((write.forcedZones c).take zone)) z.getLEDsInZone.toNat
      (resize ⟨[], 0⟩ c.leds (ledSum (write.forcedZones c))) = c.zoneLeds z
  colors : ColorsFit c write

/-! ### The zones with their new counts -/

section
variable {c : RGBController} {write : ZoneWrite}

theorem forcedZones_length (c : RGBController) (write : ZoneWrite) :
    (write.forcedZones c).length = c.zones.length := by
  cases write with
  | color zoneIdx value => rfl
  | one request =>
      rw [ZoneWrite.forcedZones]
      split
      · rfl
      · exact List.length_modify _ _ _
  | all request => exact forceCounts_length 0 _ c

theorem forcedZones_kept {zone : Nat} (kept : write.givenTo zone = []) (forced : write.Forced) :
    (write.forcedZones c)[zone]? = c.zones[zone]? := by
  cases write with
  | color zoneIdx value => rfl
  | one request =>
      rw [ZoneWrite.forcedZones]
      split
      · rfl
      · apply forceCount_getElem?_of_ne
        rintro rfl
        exact forced.2 ((if_pos rfl).symm.trans kept)
  | all request =>
      rw [ZoneWrite.forcedZones, forceCounts_getElem?, if_pos]
      exact .inr kept

theorem forcedZones_given {zone : Nat} {z : Zone} (given : write.givenTo zone ≠ [])
    (found : (write.forcedZones c)[zone]? = some z) :
    z.getLEDsInZone.toNat ≤ (write.givenTo zone).length ∧ ∃ z₀, c.zones[zone]? = some z₀ := by
  cases write with
  | color zoneIdx value => exact absurd rfl given
  | one request =>
      have here : zone = request.zoneIdx.toNat := by
        by_contra away
        exact given (if_neg away)
      subst here
      have colors : (ZoneWrite.one request).givenTo request.zoneIdx.toNat = request.colors := if_pos rfl
      rw [colors]
      rw [ZoneWrite.forcedZones] at found
      split at found
      · rename_i same
        rw [countAt, found, Option.map_some, Option.some.injEq] at same
        exact ⟨same ▸ z.getLEDsInZone_le, z, found⟩
      · rw [forceCount_getElem?_self] at found
        obtain ⟨z₀, found₀, rfl⟩ := Option.map_eq_some_iff.mp found
        refine ⟨?_, z₀, found₀⟩
        rw [forceZone_getLEDsInZone, UInt32.toNat_ofNat']
        exact Nat.mod_le _ _
  | all request =>
      rw [ZoneWrite.forcedZones, forceCounts_getElem?, if_neg] at found
      · obtain ⟨z₀, found₀, rfl⟩ := Option.map_eq_some_iff.mp found
        refine ⟨?_, z₀, found₀⟩
        rw [forceZone_getLEDsInZone, UInt32.toNat_ofNat']
        exact Nat.mod_le _ _
      · rintro (before | empty)
        · cases before
        · exact given empty

/-- The controller with the new counts and the vectors resized for them. -/
def base (c : RGBController) (write : ZoneWrite) : RGBController :=
  refit { c with zones := write.forcedZones c }

theorem base_windowed (c : RGBController) (write : ZoneWrite) : (base c write).Windowed := refit_windowed _

theorem base_tiled (small : ledSum (write.forcedZones c) < 2 ^ 32) : (base c write).Tiled := by
  apply (base_windowed c write).tiled
  rwa [base, ledSum_refit]

theorem base_colors (small : ledSum (write.forcedZones c) < 2 ^ 32) :
    (base c write).colors = resizeColors c.colors (ledSum (write.forcedZones c)) := refit_colors small

theorem base_start (small : ledSum (write.forcedZones c) < 2 ^ 32) {zone : Nat} {z : Zone}
    (found : (base c write).zones[zone]? = some z) :
    z.startIdx.toNat = ledSum ((write.forcedZones c).take zone) := by
  rw [(base_tiled small).start zone z found, base, ledSum_take_refit]

theorem base_zones_length (c : RGBController) (write : ZoneWrite) :
    (base c write).zones.length = c.zones.length :=
  (setupZones_length _ _ 0 _).trans (forcedZones_length c write)

theorem base_colors_length (small : ledSum (write.forcedZones c) < 2 ^ 32) :
    (base c write).colors.length = ledSum (write.forcedZones c) := by
  rw [base_colors small, resizeColors_length]

/-- A zone without given colors in its new place. -/
theorem base_kept (forced : write.Forced) {zone : Nat} {z : Zone} (kept : write.givenTo zone = [])
    (found : c.zones[zone]? = some z) :
    ∃ z', (base c write).zones[zone]? = some z' ∧ z'.getLEDsInZone = z.getLEDsInZone ∧
      z'.ledsCount = z.ledsCount := by
  have fitted : { c with zones := write.forcedZones c }.zones[zone]? = some z :=
    (forcedZones_kept kept forced).trans found
  exact refit_getElem? fitted

theorem base_given {zone : Nat} {z : Zone} (found : (write.forcedZones c)[zone]? = some z) :
    ∃ z', (base c write).zones[zone]? = some z' ∧ z'.getLEDsInZone = z.getLEDsInZone := by
  have fitted : { c with zones := write.forcedZones c }.zones[zone]? = some z := found
  obtain ⟨z', found', count, -⟩ := refit_getElem? fitted
  exact ⟨z', found', count⟩

/-- Windows that hold what they should lie inside the colors. -/
theorem fits_of_resized (forced : write.Forced) (tiled : c.Tiled) {d : RGBController}
    (zones : d.zones = (base c write).zones) (length : d.colors.length = (base c write).colors.length)
    (resized : Resized write c d) :
    (∀ (zone : Nat) (z : Zone), write.givenTo zone ≠ [] → (write.forcedZones c)[zone]? = some z →
      z.getLEDsInZone.toNat = (write.givenTo zone).length) ∧ ledSum (write.forcedZones c) < 2 ^ 32 := by
  have given (zone : Nat) (z z' : Zone) (gives : write.givenTo zone ≠ [])
      (found : (write.forcedZones c)[zone]? = some z) (found' : (base c write).zones[zone]? = some z')
      (count : z'.getLEDsInZone = z.getLEDsInZone) :
      z.getLEDsInZone.toNat = (write.givenTo zone).length ∧
        z'.startIdx.toNat + z'.getLEDsInZone.toNat ≤ d.colors.length := by
    have most := (forcedZones_given gives found).1
    have holds := congrArg List.length (resized.given zone z' gives (zones ▸ found'))
    rw [zoneColors, slice_length, count] at holds
    have full : 0 < (write.givenTo zone).length := List.length_pos_iff.mpr gives
    rw [count]
    omega
  constructor
  · intro zone z gives found
    obtain ⟨z', found', count⟩ := base_given found
    exact (given zone z z' gives found found' count).1
  · have small := (base_windowed c write).small
    rw [base, ledSum_refit] at small
    apply small
    intro zone z' found' used
    obtain ⟨z, found, count, -⟩ := refit_getElem?_some found'
    have used : 0 < z'.getLEDsInZone.toNat := UInt32.lt_iff_toNat_lt.mp used
    rw [← base, ← length]
    by_cases kept : write.givenTo zone = []
    · have original := (forcedZones_kept kept forced).symm.trans found
      have inside := tiled.inside original
      have holds := congrArg List.length (resized.kept zone z z' kept original (zones ▸ found')).2.1
      rw [zoneColors, slice_length, zoneColors, slice_length, count] at holds
      rw [count] at used ⊢
      omega
    · exact (given zone z z' kept found found' count).2

theorem resized_iff (forced : write.Forced) (small : ledSum (write.forcedZones c) < 2 ^ 32)
    (room : ∀ (zone : Nat) (z : Zone), write.givenTo zone ≠ [] → (write.forcedZones c)[zone]? = some z →
      z.getLEDsInZone.toNat = (write.givenTo zone).length) {d : RGBController}
    (same : d = { base c write with colors := d.colors }) :
    Resized write c d ↔
      (∀ (zone : Nat) (z : Zone), write.givenTo zone = [] → c.zones[zone]? = some z →
        slice (ledSum ((write.forcedZones c).take zone)) z.getLEDsInZone.toNat d.colors = c.zoneColors z ∧
        slice (ledSum ((write.forcedZones c).take zone)) z.getLEDsInZone.toNat
          (resize ⟨[], 0⟩ c.leds (ledSum (write.forcedZones c))) = c.zoneLeds z) ∧
      ∀ (zone : Nat) (z' : Zone), write.givenTo zone ≠ [] → (base c write).zones[zone]? = some z' →
        slice z'.startIdx.toNat (write.givenTo zone).length d.colors = write.givenTo zone := by
  have zones : d.zones = (base c write).zones := by rw [same]
  have leds : d.leds = resize ⟨[], 0⟩ c.leds (ledSum (write.forcedZones c)) := by
    rw [same]
    rfl
  constructor
  · intro resized
    constructor
    · intro zone z kept found
      obtain ⟨z', found', count, -⟩ := base_kept forced kept found
      obtain ⟨-, colors, lights⟩ := resized.kept zone z z' kept found (zones ▸ found')
      rw [zoneColors, base_start small found', count] at colors
      rw [zoneLeds, base_start small found', count, leds] at lights
      exact ⟨colors, lights⟩
    · intro zone z' gives found'
      obtain ⟨z, found, count, -⟩ := refit_getElem?_some found'
      rw [← room zone z gives found, ← count]
      exact resized.given zone z' gives (zones ▸ found')
  · rintro ⟨others, own⟩
    constructor
    · rw [zones, base_zones_length]
    · intro zone z z' kept found found'
      rw [zones] at found'
      obtain ⟨z'', found'', count, size⟩ := base_kept forced kept found
      have equal : some z' = some z'' := found'.symm.trans found''
      cases equal
      obtain ⟨colors, lights⟩ := others zone z kept found
      refine ⟨size, ?_, ?_⟩
      · rw [zoneColors, base_start small found', count]
        exact colors
      · rw [zoneLeds, base_start small found', count, leds]
        exact lights
    · intro zone z' gives found'
      rw [zones] at found'
      obtain ⟨z, found, count, -⟩ := refit_getElem?_some found'
      rw [zoneColors, count, room zone z gives found]
      exact own zone z' gives found'

end

/-! ### A single zone -/

section
variable {resizeZone : Nat → UInt32 → RGBController → RGBController} {c : RGBController}
  {request : ZoneRequest}

theorem setZone_forced (windowed : c.Windowed) (accounted : c.Accounted) (force : request.force = true)
    (exists_ : request.zoneIdx.toNat < c.zones.length) :
    (ZoneWrite.one request).perform resizeZone c =
      storing (fun c => c.storeZoneColors request.zoneIdx.toNat request.colors)
        (base c (.one request)) := by
  have sized : sizeZone resizeZone request.force request.zoneIdx.toNat request.colors.length c =
      (.ok (), base c (.one request)) := by
    have read : (get : Control RGBController RGBController) c = (.ok c, c) := rfl
    have found := List.getElem?_eq_getElem exists_
    have count : c.countAt request.zoneIdx.toNat = some c.zones[request.zoneIdx.toNat].ledsCount.toNat := by
      rw [countAt, found]
      rfl
    rw [sizeZone, bind_ok read, found]
    dsimp only
    by_cases same : request.colors.length = c.zones[request.zoneIdx.toNat].ledsCount.toNat
    · rw [if_pos same, base, ZoneWrite.forcedZones, count, if_pos (congrArg some same.symm)]
      exact congrArg (fun d => (Except.ok (), d)) (refit_self windowed accounted.1).symm
    · rw [if_neg same, force, if_pos rfl, base, ZoneWrite.forcedZones, count,
        if_neg fun equal => same (Option.some.inj equal).symm]
      rfl
  rw [ZoneWrite.perform, setZone]
  exact bind_ok sized

/-- The colors of a single zone leave the windows of the others alone. -/
theorem kept_overwrite (forced : (ZoneWrite.one request).Forced)
    (small : ledSum ((ZoneWrite.one request).forcedZones c) < 2 ^ 32) {z' : Zone}
    (found' : (base c (.one request)).zones[request.zoneIdx.toNat]? = some z')
    (exact_ : z'.getLEDsInZone.toNat = request.colors.length) {zone : Nat} {z : Zone}
    (kept : (ZoneWrite.one request).givenTo zone = []) (found : c.zones[zone]? = some z) :
    slice (ledSum (((ZoneWrite.one request).forcedZones c).take zone)) z.getLEDsInZone.toNat
        (overwrite z'.startIdx.toNat request.colors (base c (.one request)).colors) =
      slice (ledSum (((ZoneWrite.one request).forcedZones c).take zone)) z.getLEDsInZone.toNat
        (resizeColors c.colors (ledSum ((ZoneWrite.one request).forcedZones c))) := by
  obtain ⟨w, place, count, -⟩ := base_kept forced kept found
  have tiled := base_tiled small
  have inside := tiled.inside found'
  have away : zone ≠ request.zoneIdx.toNat := by
    rintro rfl
    exact forced.2 ((if_pos rfl).symm.trans kept)
  rw [← base_start small place, ← count, ← base_colors small]
  rcases Nat.lt_or_gt_of_ne away with before | behind
  · exact slice_overwrite_of_le (by omega) (tiled.before place found' before)
  · have order := tiled.before found' place behind
    exact slice_overwrite_of_ge (by omega) (by omega)

theorem setZone_preserves (windowed : c.Windowed) (accounted : c.Accounted)
    (forced : (ZoneWrite.one request).Forced) (exists_ : request.zoneIdx.toNat < c.zones.length) :
    EndsWith (Resized (.one request) c) ((ZoneWrite.one request).perform resizeZone) c ↔
      ForceFits c (.one request) := by
  have own : (ZoneWrite.one request).givenTo request.zoneIdx.toNat = request.colors := if_pos rfl
  have gives : (ZoneWrite.one request).givenTo request.zoneIdx.toNat ≠ [] := own ▸ forced.2
  have found := List.getElem?_eq_getElem (exists_.trans_eq (forcedZones_length c (.one request)).symm)
  obtain ⟨z', found', count⟩ := base_given found
  rw [endsWith_iff (leaves_storing (setZone_forced windowed accounted forced.1 exists_))]
  constructor
  · rintro ⟨d, run, resized⟩
    obtain ⟨same, length⟩ := storeZoneColors_keeps run
    obtain ⟨room, small⟩ :=
      fits_of_resized forced (windowed.tiled_of_accounted accounted) (by rw [same]) length resized
    obtain ⟨others, -⟩ := (resized_iff forced small room same).mp resized
    have exact_ : z'.getLEDsInZone.toNat = request.colors.length := by
      rw [count, room _ _ gives found, own]
    have inside := (base_tiled small).inside found'
    have stored := storeZoneColors_some (base_windowed c (.one request)) found'
      (fun full => UInt32.lt_iff_toNat_lt.mpr (exact_ ▸ List.length_pos_iff.mpr full)) (.inr (exact_ ▸ inside))
    have colors : d.colors = overwrite z'.startIdx.toNat request.colors (base c (.one request)).colors :=
      congrArg RGBController.colors (Option.some.inj (run.symm.trans stored))
    refine ⟨room, small, fun zone z kept found => (others zone z kept found).2, ?_⟩
    intro zone z kept original
    rw [← (others zone z kept original).1, colors, kept_overwrite forced small found' exact_ kept original]
  · intro fits
    have exact_ : z'.getLEDsInZone.toNat = request.colors.length := by
      rw [count, fits.room _ _ gives found, own]
    have inside := (base_tiled fits.small).inside found'
    have stored := storeZoneColors_some (base_windowed c (.one request)) found'
      (fun full => UInt32.lt_iff_toNat_lt.mpr (exact_ ▸ List.length_pos_iff.mpr full)) (.inr (exact_ ▸ inside))
    refine ⟨_, stored, (resized_iff forced fits.small fits.room rfl).mpr ⟨?_, ?_⟩⟩
    · intro zone z kept original
      refine ⟨?_, fits.leds zone z kept original⟩
      rw [← fits.colors zone z kept original]
      exact kept_overwrite forced fits.small found' exact_ kept original
    · intro zone w given place
      have here : zone = request.zoneIdx.toNat := by
        by_contra away
        exact given (if_neg away)
      subst here
      have same : some z' = some w := found'.symm.trans place
      cases same
      rw [own]
      show slice _ _ (VectorEdit.overwrite _ _ _) = _
      rw [slice_overwrite_self (by omega) (Nat.le_refl _), List.take_length]

end
/-! ### Several zones -/

section
variable {resizeZone : Nat → UInt32 → RGBController → RGBController} {c : RGBController}
  {request : ZonesRequest}

/-- What is given back to the zones: their original colors, and nothing to those that are given colors. -/
def givenBack (c : RGBController) (request : ZonesRequest) : List (List RGBColor) :=
  withoutGiven request.zoneColors 0
    (c.zones.map fun z => slice z.startIdx.toNat z.ledsCount.toNat c.colors)

theorem givenBack_length : (givenBack c request).length = c.zones.length := by
  rw [givenBack, withoutGiven_length, List.length_map]

theorem givenBack_getElem? {zone : Nat} {z : Zone} (found : c.zones[zone]? = some z) :
    (givenBack c request)[zone]? =
      some (if (ZoneWrite.all request).givenTo zone = [] then
        slice z.startIdx.toNat z.ledsCount.toNat c.colors else []) := by
  rw [givenBack, withoutGiven_getElem?, List.getElem?_map, found, Nat.zero_add]
  rfl

theorem base_all (c : RGBController) (request : ZonesRequest) :
    base c (.all request) = (forceCounts 0 request.zoneColors c).refit :=
  congrArg refit (forceCounts_eq 0 request.zoneColors c).symm

/-- The colors that are kept aside lie inside the vector. -/
def ReadsFit (c : RGBController) : Prop :=
  ∀ z ∈ c.zones, z.ledsCount = 0 ∨ z.startIdx.toNat + z.ledsCount.toNat ≤ c.colors.length

theorem forceSizes_some (windowed : c.Windowed) (reads : ReadsFit c) :
    forceSizes request.zoneColors c = storeZones 0 (givenBack c request) (base c (.all request)) := by
  rcases readZones_eq windowed fun z mem => mem with ⟨_, read⟩ | ⟨outside, _⟩
  · rw [forceSizes, read, base_all, givenBack, ← restoreZones_eq]
    rfl
  · exact absurd reads outside

theorem forceSizes_none (windowed : c.Windowed) (outside : ¬ ReadsFit c) :
    forceSizes request.zoneColors c = none := by
  rcases readZones_eq windowed fun z mem => mem with ⟨reads, _⟩ | ⟨_, read⟩
  · exact absurd reads outside
  · rw [forceSizes, read]
    rfl

theorem setZones_forced (force : request.force = true)
    (exist : request.zoneColors.length ≤ c.zones.length) :
    Leaves ((ZoneWrite.all request).perform resizeZone) c
      ((forceSizes request.zoneColors c).bind (storeZones 0 request.zoneColors)) := by
  have read : (get : Control RGBController RGBController) c = (.ok c, c) := rfl
  have sizes : sizeZones resizeZone request.force request.zoneColors c =
      storing (forceSizes request.zoneColors) c := by
    have few : ¬ (request.zoneColors.length > c.zones.length ∨
        (true = false ∧ request.zoneColors.length ≠ c.zones.length)) := by
      rintro (many | ⟨off, _⟩)
      · omega
      · cases off
    rw [sizeZones, bind_ok read, force, checkZoneNumber, if_neg few]
    rfl
  rw [ZoneWrite.perform, setZones]
  cases sized : forceSizes request.zoneColors c with
  | none =>
      rw [storing, sized] at sizes
      exact ⟨c, bind_error sizes⟩
  | some b =>
      rw [storing, sized] at sizes
      exact leaves_storing (bind_ok sizes)

theorem exists_zone {zone : Nat} {z' : Zone} (found' : (base c (.all request)).zones[zone]? = some z') :
    ∃ z, c.zones[zone]? = some z := by
  have inside := List.getElem?_eq_some_iff.mp found' |>.1
  rw [base_zones_length] at inside
  exact ⟨_, List.getElem?_eq_getElem inside⟩

/-- Colors are only given back to zones with LEDs. -/
theorem givenBack_pointed (forced : (ZoneWrite.all request).Forced) :
    Pointed (base c (.all request)).zones (givenBack c request) := by
  intro zone z' xs found' gives full
  obtain ⟨z, found⟩ := exists_zone found'
  rw [givenBack_getElem? found, Option.some.injEq] at gives
  split at gives
  · rename_i kept
    obtain ⟨w, place, -, size⟩ := base_kept forced kept found
    have same : some z' = some w := found'.symm.trans place
    cases same
    apply Zone.getLEDsInZone_pos
    rw [size]
    have length := congrArg List.length gives
    have some_ := List.length_pos_iff.mpr full
    rw [slice_length] at length
    omega
  · exact absurd gives.symm full

/-- The colors that are kept aside and given back lie inside the vector. -/
theorem givenBack_fits (forced : (ZoneWrite.all request).Forced)
    (small : ledSum ((ZoneWrite.all request).forcedZones c) < 2 ^ 32) :
    (storeZones 0 (givenBack c request) (base c (.all request))).isSome ∧ ReadsFit c ↔
      ColorsFit c (.all request) := by
  have room : (givenBack c request).length ≤ (base c (.all request)).zones.length := by
    rw [givenBack_length, base_zones_length]
  rw [storeZones_isSome (base_windowed c _) room (givenBack_pointed forced), base_colors_length small]
  constructor
  · rintro ⟨stores, reads⟩ zone z found
    refine (reads z (List.mem_of_getElem? found)).imp_right fun inside => ⟨inside, ?_⟩
    intro kept
    obtain ⟨z', place, -, -⟩ := base_kept forced kept found
    have window := (base_tiled small).inside place
    rw [base_colors_length small] at window
    have gives := @givenBack_getElem? c request zone z found
    rw [if_pos kept] at gives
    have length := slice_length z.startIdx.toNat z.ledsCount.toNat c.colors
    rw [← base_start small place]
    rcases stores zone z' _ place gives with empty | fits
    · rw [empty, List.length_nil] at length
      omega
    · omega
  · intro fits
    constructor
    · intro zone z' xs place gives
      obtain ⟨z, found⟩ := exists_zone place
      rw [givenBack_getElem? found, Option.some.injEq] at gives
      split at gives
      · rename_i kept
        have length := slice_length z.startIdx.toNat z.ledsCount.toNat c.colors
        rw [gives] at length
        rcases fits zone z found with none_ | ⟨inside, behind⟩
        · left
          rw [none_] at length
          exact List.eq_nil_of_length_eq_zero (length.trans (Nat.zero_min _))
        · right
          have behind := behind kept
          rw [base_start small place]
          omega
      · exact .inl gives.symm
    · intro z mem
      obtain ⟨zone, found⟩ := List.mem_iff_getElem?.mp mem
      exact (fits zone z found).imp_right And.left

theorem givenTo_all {zone : Nat} {xs : List RGBColor} (gives : request.zoneColors[zone]? = some xs) :
    (ZoneWrite.all request).givenTo zone = xs := by
  show request.zoneColors[zone]?.getD [] = xs
  rw [gives]
  rfl

/-- Each zone with given colors has exactly as many slots. -/
theorem given_pointed (room : ∀ (zone : Nat) (z : Zone), (ZoneWrite.all request).givenTo zone ≠ [] →
      ((ZoneWrite.all request).forcedZones c)[zone]? = some z →
      z.getLEDsInZone.toNat = ((ZoneWrite.all request).givenTo zone).length) {zone : Nat} {z' : Zone}
    {xs : List RGBColor} (place : (base c (.all request)).zones[zone]? = some z')
    (gives : request.zoneColors[zone]? = some xs) (full : xs ≠ []) :
    z'.getLEDsInZone.toNat = xs.length := by
  obtain ⟨z, found, count, -⟩ := refit_getElem?_some place
  have own := givenTo_all gives
  rw [count, room zone z (own ▸ full) found, own]

/-- With room for everything all the stores are made, and the windows hold what they should. -/
theorem resized_of_fits (forced : (ZoneWrite.all request).Forced)
    (exist : request.zoneColors.length ≤ c.zones.length) (fits : ForceFits c (.all request)) :
    ∃ b d, storeZones 0 (givenBack c request) (base c (.all request)) = some b ∧
      storeZones 0 request.zoneColors b = some d ∧ Resized (.all request) c d := by
  have tiled := base_tiled fits.small
  have backRoom : (givenBack c request).length ≤ (base c (.all request)).zones.length := by
    rw [givenBack_length, base_zones_length]
  obtain ⟨some_, reads⟩ := (givenBack_fits forced fits.small).mpr fits.colors
  obtain ⟨b, back⟩ := Option.isSome_iff_exists.mp some_
  obtain ⟨same, length⟩ := storeZones_keeps back
  have windowed : b.Windowed := by
    rw [same]
    exact (base_windowed c _).recolored length
  have zones : b.zones = (base c (.all request)).zones := by rw [same]
  have tiled' : b.Tiled := by
    constructor
    · rw [zones, length]
      exact tiled.total
    · rw [zones]
      exact tiled.start
  have room : request.zoneColors.length ≤ b.zones.length := by rwa [zones, base_zones_length]
  have pointed : Pointed b.zones request.zoneColors := by
    intro zone z' xs place gives full
    rw [zones] at place
    rw [UInt32.lt_iff_toNat_lt, given_pointed fits.room place gives full]
    exact List.length_pos_iff.mpr full
  have stores : (storeZones 0 request.zoneColors b).isSome := by
    rw [storeZones_isSome windowed room pointed]
    intro zone z' xs place gives
    rw [zones] at place
    by_cases full : xs = []
    · exact .inl full
    · right
      rw [← given_pointed fits.room place gives full, length]
      exact tiled.inside place
  obtain ⟨d, run⟩ := Option.isSome_iff_exists.mp stores
  obtain ⟨same', -⟩ := storeZones_keeps run
  refine ⟨b, d, back, run, (resized_iff forced fits.small fits.room (by rw [same', same])).mpr ⟨?_, ?_⟩⟩
  · intro zone z kept found
    refine ⟨?_, fits.leds zone z kept found⟩
    obtain ⟨z', place, count, -⟩ := base_kept forced kept found
    rw [← base_start fits.small place]
    apply slice_congr
    intro p inside
    have few := z.getLEDsInZone_le
    have read := reads z (List.mem_of_getElem? found)
    have used : z.ledsCount ≠ 0 := by
      intro zero
      rw [zero] at few
      exact Nat.not_lt_zero p (inside.trans_le few)
    have fits' := read.resolve_left used
    have kept_ := @givenBack_getElem? c request zone z found
    rw [if_pos kept] at kept_
    have held : b.colors[z'.startIdx.toNat + p]? = c.colors[z.startIdx.toNat + p]? := by
      rw [window_storeZones (base_windowed c _) tiled backRoom (givenBack_pointed forced) back place kept_
        (count ▸ inside) (by rw [slice_length]; omega), getElem?_slice _ (by omega)]
    rw [← held]
    apply untouched_storeZones windowed room pointed run
    intro other w xs place' gives
    rw [zones] at place'
    by_cases full : xs = []
    · have nothing : xs.length = 0 := by rw [full]; rfl
      have order := Nat.lt_or_ge (z'.startIdx.toNat + p) w.startIdx.toNat
      omega
    · have window := given_pointed fits.room place' gives full
      have away : zone ≠ other := by
        rintro rfl
        exact full ((givenTo_all gives).symm.trans kept)
      rcases Nat.lt_or_gt_of_ne away with before | behind
      · have order := tiled.before place place' before
        rw [count] at order
        omega
      · have order := tiled.before place' place behind
        omega
  · intro zone z' gives place
    cases found : request.zoneColors[zone]? with
    | none =>
        refine absurd ?_ gives
        show request.zoneColors[zone]?.getD [] = []
        rw [found]
        rfl
    | some xs =>
        rw [givenTo_all found] at gives ⊢
        have window := given_pointed fits.room place found gives
        apply slice_eq
        intro p inside
        exact window_storeZones windowed tiled' room pointed run (zones ▸ place) found (by omega) inside

theorem setZones_preserves (windowed : c.Windowed) (accounted : c.Accounted)
    (forced : (ZoneWrite.all request).Forced) (exist : request.zoneColors.length ≤ c.zones.length) :
    EndsWith (Resized (.all request) c) ((ZoneWrite.all request).perform resizeZone) c ↔
      ForceFits c (.all request) := by
  rw [endsWith_iff (setZones_forced forced exist)]
  constructor
  · rintro ⟨d, run, resized⟩
    obtain ⟨b, sized, stored⟩ := Option.bind_eq_some_iff.mp run
    by_cases reads : ReadsFit c
    · rw [forceSizes_some windowed reads] at sized
      obtain ⟨same, length⟩ := storeZones_keeps sized
      obtain ⟨same', length'⟩ := storeZones_keeps stored
      have zones : d.zones = (base c (.all request)).zones := by rw [same', same]
      obtain ⟨room, small⟩ := fits_of_resized forced (windowed.tiled_of_accounted accounted) zones
        (length'.trans length) resized
      obtain ⟨others, -⟩ := (resized_iff forced small room (by rw [same', same])).mp resized
      refine ⟨room, small, fun zone z kept found => (others zone z kept found).2, ?_⟩
      exact (givenBack_fits forced small).mp ⟨by rw [sized]; rfl, reads⟩
    · rw [forceSizes_none windowed reads] at sized
      cases sized
  · intro fits
    obtain ⟨b, d, back, run, resized⟩ := resized_of_fits forced exist fits
    have reads := ((givenBack_fits forced fits.small).mpr fits.colors).2
    refine ⟨d, ?_, resized⟩
    rw [forceSizes_some windowed reads, back]
    exact run

end
/-! ### Both methods -/

section
variable {resizeZone : Nat → UInt32 → RGBController → RGBController} {c : RGBController}

theorem setZone_missing {request : ZoneRequest} (missing : ¬ request.zoneIdx.toNat < c.zones.length) :
    ∃ e, IsError e ∧ (ZoneWrite.one request).perform resizeZone c = (.error e, c) := by
  have read : (get : Control RGBController RGBController) c = (.ok c, c) := rfl
  have sized : sizeZone resizeZone request.force request.zoneIdx.toNat request.colors.length c =
      (.error (.failure (.error errZoneIndexOutOfRange (ascii "Zone index out of range"))), c) := by
    rw [sizeZone, bind_ok read, List.getElem?_eq_none (by omega)]
    rfl
  exact ⟨_, Stop.noConfusion, bind_error sized⟩

theorem setZones_missing {request : ZonesRequest} (missing : ¬ request.zoneColors.length ≤ c.zones.length) :
    ∃ e, IsError e ∧ (ZoneWrite.all request).perform resizeZone c = (.error e, c) := by
  have read : (get : Control RGBController RGBController) c = (.ok c, c) := rfl
  have sized : ∃ e, sizeZones resizeZone request.force request.zoneColors c = (.error (.failure e), c) := by
    rw [sizeZones, bind_ok read, checkZoneNumber, if_pos (.inl (by omega))]
    exact ⟨_, rfl⟩
  obtain ⟨e, sized⟩ := sized
  exact ⟨_, Stop.noConfusion, bind_error sized⟩

end

/-- Forced sizes preserve the other zones, exactly when everything lies inside the vectors and the vectors
hold the same at the new places as at the old ones. -/
theorem forced_resize_preserves (resizeZone : Nat → UInt32 → RGBController → RGBController)
    {c : RGBController} (windowed : c.Windowed) (accounted : c.Accounted) (write : ZoneWrite)
    (forced : write.Forced) :
    EndsWith (Resized write c) (write.perform resizeZone) c ↔
      (write.ZonesExist c → ForceFits c write) := by
  cases write with
  | color zoneIdx value => exact absurd forced id
  | one request =>
      by_cases exist : request.zoneIdx.toNat < c.zones.length
      · rw [setZone_preserves windowed accounted forced exist]
        exact ⟨fun fits _ => fits, fun fits => fits exist⟩
      · obtain ⟨e, counts, run⟩ := @setZone_missing resizeZone c request exist
        exact iff_of_true (endsWith_of_error counts run) fun exist' => absurd exist' exist
  | all request =>
      by_cases exist : request.zoneColors.length ≤ c.zones.length
      · rw [setZones_preserves windowed accounted forced exist]
        exact ⟨fun fits _ => fits, fun fits => fits exist⟩
      · obtain ⟨e, counts, run⟩ := @setZones_missing resizeZone c request exist
        exact iff_of_true (endsWith_of_error counts run) fun exist' => absurd exist' exist

def forcedRequest (zoneIdx : UInt32) (colors : List RGBColor) : ZoneRequest :=
  { force := true, colors, deviceIdx := 0, zoneIdx }

theorem stripAndLamp_accounted : stripAndLamp.Accounted := by
  constructor
  · decide
  · decide

/-- Behind the lamp lies no other zone. -/
theorem forced_resize_preserves_lamp :
    EndsWith (Resized (.one (forcedRequest 1 [7, 8])) stripAndLamp)
      ((ZoneWrite.one (forcedRequest 1 [7, 8])).perform sameSize) stripAndLamp := by
  apply (forced_resize_preserves sameSize stripAndLamp_windowed stripAndLamp_accounted
    (.one (forcedRequest 1 [7, 8])) ⟨rfl, List.cons_ne_nil _ _⟩).mpr
  intro _
  constructor
  · rintro (_ | _ | zone) z given found
    · exact absurd rfl given
    · cases found
      rfl
    · cases found
  · decide
  · rintro (_ | _ | zone) z kept found
    · cases found
      decide
    · cases kept
    · cases found
  · rintro (_ | _ | zone) z kept found
    · cases found
      decide
    · cases kept
    · cases found

/-- The lamp behind the strip gets a new LED. -/
theorem forced_resize_preserves_strip : stripAndLamp.Windowed ∧ stripAndLamp.Accounted ∧
    ¬ EndsWith (Resized (.one (forcedRequest 0 [1, 2, 3])) stripAndLamp)
      ((ZoneWrite.one (forcedRequest 0 [1, 2, 3])).perform sameSize) stripAndLamp := by
  refine ⟨stripAndLamp_windowed, stripAndLamp_accounted, ?_⟩
  intro preserved
  have fits := (setZone_preserves stripAndLamp_windowed stripAndLamp_accounted
    ⟨rfl, List.cons_ne_nil _ _⟩ (by decide)).mp preserved
  exact absurd (fits.leds 1 _ rfl rfl) (by decide)

end JsonRpc
end SyncRGB
