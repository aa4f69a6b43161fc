import SyncRGB.Controller.RoundTrip

/-! LED accounting across the wire. The far side has as many LEDs as were sent,
but a zone may count differently there: below version 5 an effects-only zone
arrives as a fixed zone of one LED, even when it has none. -/
namespace SyncRGB
open ByteCodec Reader
namespace RGBController

def Survives (memory : Nat → UInt8) (v : Nat) (type : Int32) (c : RGBController) : Prop :=
  ∃ buf back p, c.getDeviceDescription memory v = some buf ∧
    (readDeviceDescription v (new type)).exec buf 0 = some (back, p) ∧
    back.Accounted ∧ ∀ z ∈ back.zones, back.WindowInside z

/-- The LEDs gained by idle effects-only zones are those lost with zones beyond the 16-bit count. -/
def Balanced (v : Nat) (c : RGBController) : Prop :=
  idleZones v c.sentZones = ledSum (c.zones.drop (count16 c.zones.length))

variable {v : Nat} {c : RGBController}

theorem idleZones_le (v : Nat) (zs : List Zone) : idleZones v zs ≤ zs.length := List.countP_le_length

theorem sentZones_length_lt (c : RGBController) : c.sentZones.length < 2 ^ 16 := by
  rw [sentZones, ← take_count16_length]
  exact count16_lt _

theorem ledSum_zones (c : RGBController) :
    ledSum c.sentZones + ledSum (c.zones.drop (count16 c.zones.length)) = ledSum c.zones := by
  rw [← ledSum_append, sentZones, List.take_append_drop]

theorem sent_leds_length (small : c.leds.length ≤ 65535) (fresh : RGBController) :
    (c.sent v fresh).leds.length = c.leds.length := by
  rw [sent, sentLeds, take_count16 (by omega), List.length_map]

theorem ledSum_sent_small (accounted : c.Accounted) (small : c.leds.length ≤ 65535)
    (fresh : RGBController) : ledSum (c.sent v fresh).zones < 2 ^ 32 := by
  have zones := ledSum_sent v c.sentZones
  have idle := idleZones_le v c.sentZones
  have count := c.sentZones_length_lt
  have sums := c.ledSum_zones
  have leds := accounted.1
  show ledSum (c.sentZones.map (Zone.sent v)) < _
  omega

theorem accounted_sent_iff (accounted : c.Accounted) (small : c.leds.length ≤ 65535)
    (fresh : RGBController) : (c.sent v fresh).setupColors.Accounted ↔ c.Balanced v := by
  have colors := setupColors_colors_length (ledSum_sent_small (v := v) accounted small fresh)
  have zones := ledSum_sent v c.sentZones
  have sums := c.ledSum_zones
  have leds := accounted.1
  have owned : ledSum (c.sent v fresh).setupColors.zones = ledSum (c.sentZones.map (Zone.sent v)) :=
    setupZones_ledSum _ _ 0 _
  have lights : (c.sent v fresh).setupColors.leds.length = c.leds.length :=
    sent_leds_length (v := v) small fresh
  rw [Accounted, colors, owned, lights, Balanced]
  show _ ∧ c.leds.length = ledSum (c.sentZones.map (Zone.sent v)) ↔ _
  omega

theorem survives_iff (memory : Nat → UInt8) (type : Int32) (accounted : c.Accounted)
    (small : c.leds.length ≤ 65535) (texts : c.TextsFit v) :
    c.Survives memory v type ↔ c.RoomEnough v ∧ c.Balanced v := by
  constructor
  · rintro ⟨buf, back, p, encoded, decoded, owned, -⟩
    obtain ⟨q, read⟩ := read_getDeviceDescription texts encoded type
    rw [read] at decoded
    obtain ⟨rfl, -⟩ := Prod.mk.inj (Option.some.inj decoded)
    refine ⟨(getDeviceDescription_isSome_iff texts memory).mp ?_,
      (accounted_sent_iff accounted small (new type)).mp owned⟩
    rw [encoded]
    rfl
  · rintro ⟨room, balanced⟩
    obtain ⟨buf, encoded⟩ := Option.isSome_iff_exists.mp
      ((getDeviceDescription_isSome_iff texts memory).mpr room)
    obtain ⟨p, decoded⟩ := read_getDeviceDescription texts encoded type
    have owned := (accounted_sent_iff accounted small (new type)).mpr balanced
    have laid := laidOut_setupColors (ledSum_sent_small (v := v) accounted small (new type))
    exact ⟨buf, _, p, encoded, decoded, owned, windows_inside owned laid⟩

/-- An addressable strip that is not set up yet: an effects-only zone without LEDs. -/
def idleStrip : RGBController :=
  { new 4 with zones := [{ Zone.new with type := 1, ledsMax := 120, flags := 1 }] }

theorem idleStrip_textsFit : idleStrip.TextsFit 4 := (textsFit_iff 4 idleStrip).mpr (by decide)

theorem idleStrip_lost :
    idleStrip.Accounted ∧ idleStrip.leds.length ≤ 65535 ∧
      ¬ idleStrip.Survives (fun _ => 0) 4 0 := by
  have accounted : idleStrip.Accounted := ⟨by decide, rfl⟩
  refine ⟨accounted, by decide, ?_⟩
  rintro ⟨buf, back, p, encoded, decoded, owned, -⟩
  obtain ⟨q, read⟩ := read_getDeviceDescription idleStrip_textsFit encoded 0
  rw [read] at decoded
  obtain ⟨rfl, -⟩ := Prod.mk.inj (Option.some.inj decoded)
  exact absurd ((accounted_sent_iff accounted (by decide) (new 0)).mp owned) (by
    unfold Balanced idleZones
    decide)

/-- At version 5 the flag is sent, and the strip stays empty. -/
theorem idleStrip_survives : idleStrip.Survives (fun _ => 0) 5 0 := by
  refine (survives_iff (fun _ => 0) 0 ⟨by decide, rfl⟩ (by decide)
    ((textsFit_iff 5 idleStrip).mpr (by decide))).mpr ⟨?_, ?_⟩
  · unfold RoomEnough
    decide
  · unfold Balanced idleZones
    decide

end RGBController
end SyncRGB
