import SyncRGB.Cli.ApplyOptions

/-! The color slots that the command line sets in a mode with a color for each LED. -/
namespace SyncRGB
open ByteCodec VectorEdit RGBController
namespace Cli

/-- The slots that the options are about: the window of the zone, or all of them. -/
def targetRange (options : DeviceOptions) (device : RGBController) : Option (Nat × Nat) :=
  if options.zone < 0 then some (0, device.colors.length)
  else device.zones[sizeT options.zone]?.map fun z => (z.startIdx.toNat, z.getLEDsInZone.toNat)

/-- The color for a LED of the range; the last one given is for all LEDs behind it too. -/
def colorFor (colors : List Rgb) (j : Nat) : RGBColor := (colors[min j (colors.length - 1)]?.getD (0, 0, 0)).toColor

/-- The stores go to the slots of the range and no others, and leave each LED its color. -/
structure SpreadsRightly (options : DeviceOptions) (device : RGBController) (start count : Nat) : Prop where
  slots : ∃ first stores, perLedStores options device = some (first, stores) ∧
    List.range' first stores.length = List.range' start count
  colors : ∃ d, applyOptions options device = some (.updates d true) ∧
    (∀ j < count, d.colors[start + j]? = some (colorFor options.colors j)) ∧
    ∀ slot, slot < start ∨ start + count ≤ slot → d.colors[slot]? = device.colors[slot]?

/-- Without a zone there are as many LEDs as colors; a zone has its LEDs inside of its window, and that inside of the
colors. -/
def SpreadFits (options : DeviceOptions) (device : RGBController) : Prop :=
  if options.zone < 0 then device.leds.length % 2 ^ 32 = device.colors.length
  else ∀ z, device.zones[sizeT options.zone]? = some z → z.getLEDsInZone = z.ledsCount ∧
    (z.ledsCount = 0 ∨ z.startIdx.toNat + z.ledsCount.toNat ≤ device.colors.length)

section
variable {options : DeviceOptions} {device : RGBController} {start count : Nat}

/-- The index that is carried along is that of the color in front, or of the last. -/
theorem spreadColors_eq {colors : List Rgb} (some_ : colors ≠ []) (ledCount ledIdx : Nat) {lastSetColor : Nat}
    (carried : lastSetColor = min (ledIdx - 1) (colors.length - 1)) :
    spreadColors colors ledCount ledIdx lastSetColor = some ((List.range' ledIdx ledCount).map (colorFor colors)) := by
  have pos := List.length_pos_iff.mpr some_
  induction ledCount generalizing ledIdx lastSetColor with
  | zero => rfl
  | succ ledCount ih =>
      have next : (if ledIdx < colors.length then ledIdx else lastSetColor) = min ledIdx (colors.length - 1) := by
        split
        · omega
        · omega
      have inside : min ledIdx (colors.length - 1) < colors.length := by omega
      have here : colorFor colors ledIdx = (colors[min ledIdx (colors.length - 1)]).toColor := by
        rw [colorFor, List.getElem?_eq_getElem inside]
        rfl
      have rest : spreadColors colors ledCount (ledIdx + 1) (min ledIdx (colors.length - 1)) =
          some ((List.range' (ledIdx + 1) ledCount).map (colorFor colors)) := ih (ledIdx + 1) rfl
      rw [spreadColors, next, List.getElem?_eq_getElem inside, Option.bind_eq_bind, Option.bind_some, rest,
        Option.bind_eq_bind, Option.bind_some, List.range'_succ, List.map_cons, here]
      rfl

/-- The stores for a pointer and a number of LEDs. -/
theorem perLedStores_eq (some_ : options.colors ≠ []) {startFrom : Option Nat} {ledCount : UInt32}
    (target : storeTarget options device = some (startFrom, ledCount)) :
    perLedStores options device =
      if ledCount = 0 then some (0, [])
      else startFrom.map fun start => (start, (List.range ledCount.toNat).map (colorFor options.colors)) := by
  have none_ : ¬ options.colors.length = 0 := fun zero => some_ (List.length_eq_zero_iff.mp zero)
  rw [perLedStores, if_neg none_, target, Option.bind_eq_bind, Option.bind_some]
  dsimp only
  rw [spreadColors_eq some_ ledCount.toNat 0 (Nat.zero_min _).symm, Option.bind_eq_bind, Option.bind_some,
    ← List.range_eq_range']
  by_cases zero : ledCount = 0
  · rw [if_pos zero, zero]
    rfl
  · have full : ¬ (List.range ledCount.toNat).map (colorFor options.colors) = [] := by
      rw [List.map_eq_nil_iff, List.range_eq_nil]
      exact fun same => zero (UInt32.toNat_inj.mp same)
    rw [if_neg zero, if_neg full]
    cases startFrom with
    | none => rfl
    | some start => rfl

/-- The stores where the target has so many LEDs, and starts there unless it has none. -/
theorem perLedStores_of_target (some_ : options.colors ≠ []) {startFrom : Option Nat} {ledCount : UInt32}
    (target : storeTarget options device = some (startFrom, ledCount)) (length : ledCount.toNat = count)
    (starts : count = 0 ∨ startFrom = some start) :
    perLedStores options device =
      some (if count = 0 then 0 else start, (List.range count).map (colorFor options.colors)) := by
  rw [perLedStores_eq some_ target]
  by_cases none_ : ledCount = 0
  · subst none_
    subst length
    rfl
  · have used : count ≠ 0 := fun zero => none_ (UInt32.toNat_inj.mp (length.trans zero))
    rw [if_neg none_, if_neg used, starts.resolve_left used, length]
    rfl

/-- Stores that are made fit. -/
theorem fits_of_storeColors {colors stored : List RGBColor} (used : count ≠ 0)
    (store : storeColors colors start ((List.range count).map (colorFor options.colors)) = some stored) :
    start + count ≤ colors.length := by
  by_contra outside
  rw [storeColors_eq, if_neg] at store
  · cases store
  · rw [List.map_eq_nil_iff, List.range_eq_nil, List.length_map, List.length_range]
    omega

/-- What a store block of the right length leaves. -/
theorem applyOptions_perLed {m : Mode} (found : device.modes[(parseMode options device).toNat]? = some m)
    (perLed : (applyMode options m).colorMode = modeColorsPerLed) {first : Nat} {stores : List RGBColor}
    (target : perLedStores options device = some (first, stores)) :
    applyOptions options device =
      (storeColors device.colors first stores).map fun colors =>
        .updates { setMode (parseMode options device) (applyMode options m) device with colors } true := by
  rw [applyOptions, found, Option.bind_eq_bind, Option.bind_some, applyColors, if_pos perLed, target,
    Option.bind_eq_bind, Option.bind_some]
  dsimp only
  cases storeColors device.colors first stores with
  | none => rfl
  | some colors => rfl

/-- Stores of a block that fits, or of nothing, leave each LED its color and everything else alone. -/
theorem storeColors_spread (given : List Rgb) {colors : List RGBColor}
    (fits : count = 0 ∨ start + count ≤ colors.length) :
    ∃ stored, storeColors colors start ((List.range count).map (colorFor given)) = some stored ∧
      (∀ j < count, stored[start + j]? = some (colorFor given j)) ∧
      ∀ slot, slot < start ∨ start + count ≤ slot → stored[slot]? = colors[slot]? := by
  have length : ((List.range count).map (colorFor given)).length = count := by
    rw [List.length_map, List.length_range]
  rcases fits with none_ | fits
  · subst none_
    exact ⟨colors, rfl, fun j inside => absurd inside (Nat.not_lt_zero j), fun _ _ => rfl⟩
  · refine ⟨overwrite start ((List.range count).map (colorFor given)) colors, ?_, ?_, ?_⟩
    · rw [storeColors_eq, if_pos]
      exact .inr (by rwa [length])
    · intro j inside
      rw [getElem?_overwrite_inside (by omega) (by rwa [length]), List.getElem?_map,
        List.getElem?_range inside, Option.map_some]
    · rintro slot (before | behind)
      · exact getElem?_overwrite_of_lt (by omega) before
      · exact getElem?_overwrite_of_le (by omega) (by rwa [length])

/-- For any pointer and number of LEDs that the stores are made from. -/
theorem spreadsRightly_iff (some_ : options.colors ≠ []) {m : Mode}
    (found : device.modes[(parseMode options device).toNat]? = some m)
    (perLed : (applyMode options m).colorMode = modeColorsPerLed) {startFrom : Option Nat} {ledCount : UInt32}
    (target : storeTarget options device = some (startFrom, ledCount)) :
    SpreadsRightly options device start count ↔
      ledCount.toNat = count ∧ (count = 0 ∨ startFrom = some start ∧ start + count ≤ device.colors.length) := by
  constructor
  · have stores := perLedStores_eq some_ target
    rintro ⟨⟨first, block, stored, slots⟩, d, applied, -, -⟩
    rw [applyOptions_perLed found perLed stored] at applied
    rw [stored] at stores
    obtain ⟨length, same⟩ := List.range'_inj.mp slots
    by_cases none_ : ledCount = 0
    · rw [if_pos none_] at stores
      cases stores
      subst none_
      exact ⟨length, .inl length.symm⟩
    · rw [if_neg none_] at stores
      cases startFrom with
      | none => cases stores
      | some _ =>
          cases stores
          rw [List.length_map, List.length_range] at length same
          have used : ledCount.toNat ≠ 0 := fun zero => none_ (UInt32.toNat_inj.mp zero)
          have start_ : first = start := same.resolve_left used
          subst start_
          obtain ⟨stored, store, -⟩ := Option.map_eq_some_iff.mp applied
          exact ⟨length, .inr ⟨rfl, length ▸ fits_of_storeColors used store⟩⟩
  · rintro ⟨length, fits⟩
    have block := perLedStores_of_target some_ target length (fits.imp id And.left)
    have room : count = 0 ∨ (if count = 0 then 0 else start) + count ≤ device.colors.length := by
      split
      · exact .inl ‹_›
      · exact fits.imp id And.right
    obtain ⟨stored, store, inside, outside⟩ := storeColors_spread options.colors room
    refine ⟨⟨_, _, block, ?_⟩, ?_⟩
    · rw [List.range'_inj, List.length_map, List.length_range]
      refine ⟨rfl, ?_⟩
      split
      · exact .inl ‹_›
      · exact .inr rfl
    · refine ⟨_, by rw [applyOptions_perLed found perLed block, store]; rfl, ?_, ?_⟩
      · intro j before
        have used : count ≠ 0 := by omega
        rw [if_neg used] at inside
        exact inside j before
      · intro slot away
        by_cases used : count = 0
        · apply outside
          rw [if_pos used]
          omega
        · rw [if_neg used] at outside
          exact outside slot away

/-- Each LED of the range gets its color and no other slot is touched, exactly where the LEDs of the target are those
of its window. -/
theorem colors_spread_iff (windowed : device.Windowed) (some_ : options.colors ≠ []) {m : Mode}
    (found : device.modes[(parseMode options device).toNat]? = some m)
    (perLed : (applyMode options m).colorMode = modeColorsPerLed)
    (range : targetRange options device = some (start, count)) :
    SpreadsRightly options device start count ↔ SpreadFits options device := by
  unfold targetRange at range
  unfold SpreadFits
  by_cases all : options.zone < 0
  · rw [if_pos all] at range ⊢
    cases range
    have target : storeTarget options device = some (some 0, UInt32.ofNat device.leds.length) := if_pos all
    rw [spreadsRightly_iff some_ found perLed target, UInt32.toNat_ofNat']
    exact and_iff_left (.inr ⟨rfl, (Nat.zero_add _).le⟩)
  · rw [if_neg all] at range ⊢
    obtain ⟨z, zone, ends⟩ := Option.map_eq_some_iff.mp range
    cases ends
    have target : storeTarget options device = some (z.colors, z.ledsCount) := by
      rw [storeTarget, if_neg all, zone, Option.map_some]
    rw [spreadsRightly_iff some_ found perLed target, zone, (windowed.zone zone).2]
    constructor
    · rintro ⟨length, fits⟩ z' same
      cases same
      refine ⟨UInt32.toNat_inj.mp length.symm, ?_⟩
      rw [← UInt32.toNat_inj, length]
      exact fits.imp id And.right
    · intro fits
      obtain ⟨length, room⟩ := fits z rfl
      refine ⟨congrArg UInt32.toNat length.symm, ?_⟩
      rw [length]
      rcases room with none_ | room
      · exact .inl (congrArg UInt32.toNat none_)
      · by_cases used : z.ledsCount.toNat = 0
        · exact .inl used
        · have lit : 0 < z.ledsCount := UInt32.lt_iff_toNat_lt.mpr (Nat.pos_of_ne_zero used)
          rw [if_pos ⟨by omega, lit⟩]
          exact .inr ⟨rfl, room⟩

end

/-- An effects-only zone of two LEDs with one slot, and a lamp behind it, in a mode with a color for each LED. -/
def cappedStrip : RGBController := setupColors
  { RGBController.new 0 with
    zones := [{ Zone.new with ledsCount := 2, flags := 1 }, { Zone.new with ledsCount := 1 }]
    modes := [{ Mode.new with colorMode := modeColorsPerLed }] }

def redZone (zone : Int32) : DeviceOptions := { DeviceOptions.new 0 with zone, colors := [(255, 0, 0)] }

theorem cappedStrip_windowed : cappedStrip.Windowed := windowed_setupColors _

/-- A zone of three LEDs behind one of two. -/
def twoStrips : RGBController := setupColors
  { RGBController.new 0 with
    zones := [{ Zone.new with ledsCount := 2 }, { Zone.new with ledsCount := 3 }]
    modes := [{ Mode.new with colorMode := modeColorsPerLed }] }

/-- Red and green for the second zone. -/
def redGreen : DeviceOptions := { DeviceOptions.new 0 with zone := 1, colors := [(255, 0, 0), (0, 255, 0)] }

theorem colors_spread_strips : SpreadsRightly redGreen twoStrips 2 3 := by
  have windowed : twoStrips.Windowed := windowed_setupColors _
  have mode : twoStrips.modes[(parseMode redGreen twoStrips).toNat]? =
      some { Mode.new with colorMode := modeColorsPerLed } := rfl
  apply (colors_spread_iff windowed (List.cons_ne_nil _ _) mode rfl rfl).mpr
  intro z found
  cases found
  exact ⟨rfl, .inr (by decide)⟩

/-- The second LED of the strip is stored into the slot of the lamp. -/
theorem colors_spread_strip : cappedStrip.Windowed ∧ targetRange (redZone 0) cappedStrip = some (0, 1) ∧
    ¬ SpreadsRightly (redZone 0) cappedStrip 0 1 := by
  refine ⟨cappedStrip_windowed, rfl, ?_⟩
  rintro ⟨⟨first, stores, stored, slots⟩, -⟩
  have two : perLedStores (redZone 0) cappedStrip = some (0, [255, 255]) := rfl
  rw [two] at stored
  cases stored
  exact absurd slots (by decide)

end Cli
end SyncRGB
