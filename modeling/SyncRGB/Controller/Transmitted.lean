import SyncRGB.Controller.RoundTrip

/-! The round trip of an ordinary controller: plain texts, counts that fit 16
bits. The far side gets every field its version transmits as it was, and
constructor values elsewhere, except for the zone windows. -/
namespace SyncRGB
open ByteCodec Reader

def Mode.transmitted (v : Nat) (m : Mode) : Mode :=
  if 3 ≤ v then m
  else { m with brightnessMin := Mode.new.brightnessMin, brightnessMax := Mode.new.brightnessMax,
                brightness := Mode.new.brightness }

/-- The zone as version `v` transmits it. The window fields are never transmitted. -/
def Zone.transmitted (v : Nat) (z : Zone) : Zone :=
  { z with
    leds := Zone.new.leds
    colors := Zone.new.colors
    startIdx := Zone.new.startIdx
    ledsMin := if z.effectsOnly ∧ v < 5 then 1 else z.ledsMin
    ledsMax := if z.effectsOnly ∧ v < 5 then 1 else z.ledsMax
    ledsCount := if z.effectsOnly ∧ v < 5 then 1 else z.ledsCount
    segments := if 4 ≤ v then z.segments else Zone.new.segments
    flags := if 5 ≤ v then z.flags else Zone.new.flags }

/-- The zone with its window fields as the constructor leaves them. -/
def Zone.unplaced (z : Zone) : Zone :=
  { z with leds := Zone.new.leds, colors := Zone.new.colors, startIdx := Zone.new.startIdx }

namespace RGBController

/-- The controller as version `v` transmits it, over a freshly constructed one. -/
def transmitted (v : Nat) (c fresh : RGBController) : RGBController :=
  { c with
    vendor := if 1 ≤ v then c.vendor else fresh.vendor
    zones := c.zones.map (Zone.transmitted v)
    modes := c.modes.map (Mode.transmitted v)
    ledAltNames := if 5 ≤ v then c.ledAltNames else fresh.ledAltNames
    flags := if 5 ≤ v then c.flags else fresh.flags }

def unplaced (c : RGBController) : RGBController := { c with zones := c.zones.map Zone.unplaced }

def strings (c : RGBController) : List Bytes :=
  [c.name, c.vendor, c.description, c.version, c.serial, c.location] ++ c.modes.map Mode.name ++
  (c.zones.flatMap fun z => z.name :: z.segments.map Segment.name) ++ c.leds.map Led.name ++
  c.ledAltNames

/-- Plain texts and 16-bit counts, with one color for every LED of the zones. -/
structure Describable (v : Nat) (c : RGBController) : Prop where
  plain : ∀ s ∈ c.strings, (0 : UInt8) ∉ s ∧ s.length ≤ 65534
  modes : c.modes.length ≤ 65535
  modeColors : ∀ m ∈ c.modes, m.colors.length ≤ 65535
  zones : c.zones.length ≤ 65535
  segments : ∀ z ∈ c.zones, z.segments.length ≤ 65535
  matrix : ∀ z ∈ c.zones, ∀ m, z.matrixMap = some m → 8 + 4 * m.height.toNat * m.width.toNat ≤ 65535
  leds : c.leds.length ≤ 65535
  colors : c.colors.length ≤ 65535
  altNames : c.ledAltNames.length ≤ 65535
  counted : c.colors.length = ledSum c.zones
  occupied : v < 5 → ∀ z ∈ c.zones, z.effectsOnly → 1 ≤ z.ledsCount.toNat
  size : c.sizeSum v < 2 ^ 32

/-- The length limits alone. -/
structure WithinLimits (v : Nat) (c : RGBController) : Prop where
  plain : ∀ s ∈ c.strings, (0 : UInt8) ∉ s ∧ s.length ≤ 65534
  modes : c.modes.length ≤ 65535
  modeColors : ∀ m ∈ c.modes, m.colors.length ≤ 65535
  zones : c.zones.length ≤ 65535
  segments : ∀ z ∈ c.zones, z.segments.length ≤ 65535
  matrix : ∀ z ∈ c.zones, ∀ m, z.matrixMap = some m → 8 + 4 * m.height.toNat * m.width.toNat ≤ 65535
  leds : c.leds.length ≤ 65535
  colors : c.colors.length ≤ 65535
  altNames : c.ledAltNames.length ≤ 65535
  size : c.sizeSum v < 2 ^ 32

theorem Describable.withinLimits {v : Nat} {c : RGBController} (h : c.Describable v) :
    c.WithinLimits v :=
  { h with }

end RGBController

/-! ### Nothing is cut -/

theorem Mode.sent_eq {v : Nat} {m : Mode} (plain : (0 : UInt8) ∉ m.name)
    (colors : m.colors.length ≤ 65535) : m.sent v = m.transmitted v := by
  have whole : m.colors.take (count16 m.colors.length) = m.colors := take_count16 (by omega)
  unfold Mode.sent Mode.transmitted
  rw [cstr_of_no_nul plain, whole]
  split_ifs <;> rfl

theorem Segment.sent_eq {s : Segment} (plain : (0 : UInt8) ∉ s.name) : s.sent = s := by
  rw [Segment.sent, cstr_of_no_nul plain]

theorem Led.sent_eq {l : Led} (plain : (0 : UInt8) ∉ l.name) : l.sent = l := by
  rw [Led.sent, cstr_of_no_nul plain]

theorem product_toNat {h w : UInt32} (fits : 8 + 4 * h.toNat * w.toNat ≤ 65535) :
    8 + 4 * (h * w).toNat ≤ 65535 := by
  have wrapped := Nat.mod_le (h.toNat * w.toNat) (2 ^ 32)
  rw [Nat.mul_assoc] at fits
  rw [UInt32.toNat_mul]
  omega

theorem Zone.sentMatrix_eq {z : Zone}
    (fits : ∀ m, z.matrixMap = some m → 8 + 4 * m.height.toNat * m.width.toNat ≤ 65535) :
    z.sentMatrix = z.matrixMap := by
  unfold Zone.sentMatrix Zone.matrixLen
  cases hm : z.matrixMap with
  | none => rfl
  | some m =>
      have len := product_toNat (fits m hm)
      rw [if_pos (by simp only; omega)]

theorem Zone.sent_eq {v : Nat} {z : Zone} (plain : (0 : UInt8) ∉ z.name)
    (names : ∀ s ∈ z.segments, (0 : UInt8) ∉ s.name) (segments : z.segments.length ≤ 65535)
    (fits : ∀ m, z.matrixMap = some m → 8 + 4 * m.height.toNat * m.width.toNat ≤ 65535) :
    z.sent v = z.transmitted v := by
  have all : z.sentSegments.map Segment.sent = z.segments := by
    rw [Zone.sentSegments, take_count16 (by omega)]
    exact (List.map_congr_left fun s hs => Segment.sent_eq (names s hs)).trans (List.map_id _)
  unfold Zone.sent Zone.transmitted Zone.sentSize
  rw [cstr_of_no_nul plain, all, Zone.sentMatrix_eq fits]

namespace RGBController
variable {v : Nat} {c : RGBController}

theorem forall_strings (P : Bytes → Prop) :
    (∀ s ∈ c.strings, P s) ↔ P c.name ∧ P c.vendor ∧ P c.description ∧ P c.version ∧ P c.serial ∧
      P c.location ∧ (∀ m ∈ c.modes, P m.name) ∧
      (∀ z ∈ c.zones, P z.name ∧ ∀ s ∈ z.segments, P s.name) ∧ (∀ l ∈ c.leds, P l.name) ∧
      ∀ s ∈ c.ledAltNames, P s := by
  simp only [strings, List.forall_mem_append, List.forall_mem_cons, List.not_mem_nil,
    false_implies, implies_true, and_true, List.forall_mem_map, List.forall_mem_flatMap, and_assoc]

theorem strlen_le {s : Bytes} (h : (0 : UInt8) ∉ s ∧ s.length ≤ 65534) : strlen s ≤ 65534 := by
  rw [strlen, cstr_of_no_nul h.1]
  exact h.2

theorem WithinLimits.textsFit (h : c.WithinLimits v) : c.TextsFit v := by
  obtain ⟨name, vendor, description, version, serial, location, modes, zones, leds, altNames⟩ :=
    (forall_strings _).mp h.plain
  exact
    { name := strlen_le name
      vendor := fun _ => strlen_le vendor
      description := strlen_le description
      version := strlen_le version
      serial := strlen_le serial
      location := strlen_le location
      modes := fun m hm => strlen_le (modes m (List.mem_of_mem_take hm))
      zones := fun z hz => strlen_le (zones z (List.mem_of_mem_take hz)).1
      segments := fun z hz _ s hs =>
        strlen_le ((zones z (List.mem_of_mem_take hz)).2 s (List.mem_of_mem_take hs))
      leds := fun l hl => strlen_le (leds l (List.mem_of_mem_take hl))
      altNames := fun _ s hs => strlen_le (altNames s hs) }

theorem matrixExcess_eq_zero {z : Zone}
    (fits : ∀ m, z.matrixMap = some m → 8 + 4 * m.height.toNat * m.width.toNat ≤ 65535) :
    z.matrixExcess = 0 := by
  unfold Zone.matrixExcess
  cases hm : z.matrixMap with
  | none => rfl
  | some m =>
      have len := product_toNat (fits m hm)
      simp only
      split_ifs
      · omega
      · rfl

theorem WithinLimits.roomEnough (h : c.WithinLimits v) : c.RoomEnough v := by
  have excess : c.matrixExcess = 0 := by
    rw [matrixExcess, List.sum_eq_zero_iff]
    intro n hn
    obtain ⟨z, hz, rfl⟩ := List.mem_map.mp hn
    exact matrixExcess_eq_zero (h.matrix z (List.mem_of_mem_take hz))
  have size := h.size
  unfold RoomEnough
  omega

theorem unreadNames_eq_nil (h : c.ledAltNames.length ≤ 65535) : c.unreadNames = [] :=
  drop_count16 (by omega)

theorem u32Value_flagBytes (h : c.ledAltNames.length ≤ 65535) : u32Value c.flagBytes = c.flags := by
  rw [flagBytes, unreadNames_eq_nil h]
  exact u32Value_u32 c.flags

theorem WithinLimits.sent_eq (h : c.WithinLimits v) (fresh : RGBController) :
    c.sent v fresh = c.transmitted v fresh := by
  obtain ⟨name, vendor, description, version, serial, location, modes, zones, leds, altNames⟩ :=
    (forall_strings _).mp h.plain
  have hmodes := h.modes
  have hzones := h.zones
  have hleds := h.leds
  have hcolors := h.colors
  have haltNames := h.altNames
  have sentModes : c.sentModes.map (Mode.sent v) = c.modes.map (Mode.transmitted v) := by
    rw [RGBController.sentModes, take_count16 (by omega)]
    exact List.map_congr_left fun m hm => Mode.sent_eq (modes m hm).1 (h.modeColors m hm)
  have sentZones : c.sentZones.map (Zone.sent v) = c.zones.map (Zone.transmitted v) := by
    rw [RGBController.sentZones, take_count16 (by omega)]
    exact List.map_congr_left fun z hz => Zone.sent_eq (zones z hz).1.1
      (fun s hs => ((zones z hz).2 s hs).1) (h.segments z hz) (h.matrix z hz)
  have sentLeds : c.sentLeds.map Led.sent = c.leds := by
    rw [RGBController.sentLeds, take_count16 (by omega)]
    exact (List.map_congr_left fun l hl => Led.sent_eq (leds l hl).1).trans (List.map_id _)
  have sentColors : c.sentColors = c.colors := take_count16 (by omega)
  have readNames : c.readNames.map cstr = c.ledAltNames := by
    rw [RGBController.readNames, take_count16 (by omega)]
    exact (List.map_congr_left fun s hs => cstr_of_no_nul (altNames s hs).1).trans (List.map_id _)
  unfold sent transmitted
  rw [cstr_of_no_nul name.1, cstr_of_no_nul vendor.1, cstr_of_no_nul description.1,
    cstr_of_no_nul version.1, cstr_of_no_nul serial.1, cstr_of_no_nul location.1, sentModes,
    sentZones, sentLeds, sentColors, readNames, u32Value_flagBytes haltNames]

/-! ### The controller on the far side -/

theorem Describable.idleZones_eq_zero (h : c.Describable v) : idleZones v c.zones = 0 := by
  rw [idleZones, List.countP_eq_zero]
  intro z hz
  simp only [decide_eq_true_eq, not_and, not_lt]
  intro effects none
  by_contra old
  have led := h.occupied (by omega) z hz effects
  rw [none] at led
  exact absurd led (by decide)

theorem Describable.ledSum_sent (h : c.Describable v) (fresh : RGBController) :
    ledSum (c.sent v fresh).zones = (c.sent v fresh).colors.length := by
  have zones := h.zones
  have sum := SyncRGB.ledSum_sent v c.zones
  rw [h.idleZones_eq_zero, Nat.add_zero] at sum
  have colors : (c.sent v fresh).colors = c.colors := by
    rw [h.withinLimits.sent_eq]
    rfl
  rw [colors, h.counted, sent, sentZones, take_count16 (by omega)]
  exact sum

theorem unplaced_setupZones (numLeds numColors : Nat) (total : UInt32) (zs : List Zone) :
    (setupZones numLeds numColors total zs).map Zone.unplaced = zs.map Zone.unplaced := by
  induction zs generalizing total with
  | nil => rfl
  | cons z zs ih =>
      rw [setupZones_cons, List.map_cons, ih, List.map_cons]
      rfl

section Blind
variable {α : Type} {f : Zone → α} (blind : ∀ z, f z.unplaced = f z)
include blind

/-- What does not look at the windows. -/
theorem map_unplaced (zs : List Zone) : (zs.map Zone.unplaced).map f = zs.map f := by
  rw [List.map_map]
  apply List.map_congr_left
  intro z _
  exact blind z

theorem map_setupZones (numLeds numColors : Nat) (total : UInt32) (zs : List Zone) :
    (setupZones numLeds numColors total zs).map f = zs.map f := by
  rw [← map_unplaced blind, unplaced_setupZones, map_unplaced blind]

end Blind

/-- With a color for every LED, `SetupColors` only places the zones. -/
theorem setupColors_unplaced (small : ledSum c.zones < 2 ^ 32)
    (one : c.colors.length = ledSum c.zones) : c.setupColors.unplaced = c.unplaced := by
  rw [setupColors_of_length small one]
  exact congrArg (fun zones => { c with zones }) (unplaced_setupZones _ _ 0 c.zones)

theorem transmitted_unplaced (v : Nat) (c fresh : RGBController) :
    (c.transmitted v fresh).unplaced = c.transmitted v fresh :=
  congrArg (fun zones => { c.transmitted v fresh with zones }) List.map_map

theorem WithinLimits.read (h : c.WithinLimits v) (memory : Nat → UInt8) (type : Int32) :
    ∃ buf p, c.getDeviceDescription memory v = some buf ∧
      (readDeviceDescription v (new type)).exec buf 0 =
        some ((c.sent v (new type)).setupColors, p) := by
  obtain ⟨buf, encoded⟩ := Option.isSome_iff_exists.mp
    ((getDeviceDescription_isSome_iff h.textsFit memory).mpr h.roomEnough)
  obtain ⟨p, decoded⟩ := read_getDeviceDescription h.textsFit encoded type
  exact ⟨buf, p, encoded, decoded⟩

theorem Describable.ledSum_sent_small (h : c.Describable v) (fresh : RGBController) :
    ledSum (c.sent v fresh).zones < 2 ^ 32 := by
  have cut := Nat.mod_lt c.colors.length (show 0 < 2 ^ 16 by decide)
  rw [h.ledSum_sent]
  exact (List.length_take_le _ _).trans_lt (by unfold count16; omega)

theorem Describable.back_unplaced (h : c.Describable v) (fresh : RGBController) :
    (c.sent v fresh).setupColors.unplaced = c.transmitted v fresh := by
  rw [setupColors_unplaced (h.ledSum_sent_small fresh) (h.ledSum_sent fresh).symm,
    h.withinLimits.sent_eq, transmitted_unplaced]

/-- What is read back is what was transmitted, up to the window fields, and those are set for it. -/
theorem read_describable (memory : Nat → UInt8) (type : Int32) (h : c.Describable v) :
    ∃ buf back p, c.getDeviceDescription memory v = some buf ∧
      (readDeviceDescription v (new type)).exec buf 0 = some (back, p) ∧
      back.unplaced = c.transmitted v (new type) ∧ back.LaidOut := by
  obtain ⟨buf, p, encoded, decoded⟩ := h.withinLimits.read memory type
  have small := h.ledSum_sent_small (new type)
  exact ⟨buf, _, p, encoded, decoded, h.back_unplaced (new type), laidOut_setupColors small⟩

/-- A matrix zone with a segment and an effects-only zone, one LED each. -/
def twoZones : RGBController :=
  { new 2 with
    name := [75]
    leds := [⟨[76], 0⟩, ⟨[77], 1⟩]
    colors := [255, 65280]
    modes := [{ Mode.new with name := [68], brightness := 9, colors := [7] }]
    zones := [
      { Zone.new with
        name := [90], ledsCount := 1, matrixMap := some ⟨1, 1, ⟨[0], rfl⟩⟩
        segments := [⟨[83], 1, 0, 1⟩] },
      { Zone.new with name := [89], ledsCount := 1, flags := 1 }] }

theorem twoZones_describable {v : Nat} (size : twoZones.sizeSum v < 2 ^ 32) :
    twoZones.Describable v where
  plain := by decide
  modes := by decide
  modeColors := by decide
  zones := by decide
  segments := by decide
  matrix := by
    intro z hz m hm
    simp only [twoZones, List.mem_cons, List.not_mem_nil, or_false] at hz
    rcases hz with rfl | rfl
    · obtain rfl := Option.some.inj hm
      decide
    · cases hm
  leds := by decide
  colors := by decide
  altNames := by decide
  counted := by decide
  occupied := fun _ => by decide
  size := size

theorem read_twoZones :
    ∃ buf back p, twoZones.getDeviceDescription (fun _ => 0) 3 = some buf ∧
      (readDeviceDescription 3 (new 0)).exec buf 0 = some (back, p) ∧
      back.unplaced = twoZones.transmitted 3 (new 0) ∧ back.LaidOut :=
  read_describable (fun _ => 0) 0 (twoZones_describable (by decide))

/-- The second zone comes back with a start index, which is never transmitted. -/
theorem twoZones_placed :
    twoZones.Describable 5 ∧ ∃ buf back p, twoZones.getDeviceDescription (fun _ => 0) 5 = some buf ∧
      (readDeviceDescription 5 (new 0)).exec buf 0 = some (back, p) ∧
      back ≠ twoZones.transmitted 5 (new 0) := by
  have describable : twoZones.Describable 5 := twoZones_describable (by decide)
  obtain ⟨buf, p, encoded, decoded⟩ := describable.withinLimits.read (fun _ => 0) 0
  refine ⟨describable, buf, _, p, encoded, decoded, fun same => ?_⟩
  have starts := congrArg (fun c => c.zones.map Zone.startIdx) same
  exact absurd starts (by decide)

end RGBController
end SyncRGB
