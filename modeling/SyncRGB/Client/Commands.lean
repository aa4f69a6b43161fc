import SyncRGB.Controller.ColorCommands
import SyncRGB.Controller.Partition
import SyncRGB.Server.Dispatch

/-! The color and segment commands of `RGBController_Network`: the packets a mirror sends, and what the server
makes of them for the controller that it mirrors. -/
namespace SyncRGB
open ByteCodec Reader VectorEdit

namespace RGBControllerNetwork

/-- A request header with `size` and as many bytes of `data`; `none` when there are fewer. -/
def request (devIdx pktId : UInt32) (data : Bytes) (size : UInt32) : Option NetPacket :=
  if size.toNat ≤ data.length then
    some ⟨devIdx, pktId, data.take size.toNat, (List.length_take_le _ _).trans_lt size.toNat_lt⟩
  else none

/-- The size is copied from the front of the description. -/
def describedRequest (devIdx pktId : UInt32) (data : Bytes) : Option NetPacket := do
  let size ← (u32.exec data 0).map Prod.fst
  request devIdx pktId data size

section
variable (memory : Nat → UInt8) (devIdx : UInt32)

/-- `RGBController_Network::DeviceUpdateLEDs`. -/
def deviceUpdateLEDs (m : RGBController) : Option NetPacket := do
  describedRequest devIdx 1050 (← m.getColorDescription memory)

/-- `RGBController_Network::UpdateZoneLEDs`. -/
def updateZoneLEDs (zone : Int32) (m : RGBController) : Option NetPacket := do
  describedRequest devIdx 1051 (← m.getZoneColorDescription memory zone)

/-- `RGBController_Network::UpdateSingleLED`. -/
def updateSingleLED (led : Int32) (m : RGBController) : Option NetPacket := do
  request devIdx 1052 (← m.getSingleLEDColorDescription memory led) (4 + 4)

/-- `RGBController_Network::AddSegment`, up to its packet. -/
def addSegment (zone : Int32) (newSegment : Segment) : Option NetPacket := do
  describedRequest devIdx 1002 (← RGBController.getSegmentDescription memory zone newSegment)

end
end RGBControllerNetwork

/-- The packet is built, and every server that has `s` at its index puts the same controller in the place
of `s`, one for which `outcome` holds. -/
def Performs (packet : Option NetPacket) (s : RGBController) (outcome : RGBController → Prop) : Prop :=
  ∃ p, packet = some p ∧ ∃ s', outcome s' ∧ ∀ (services : Services) (server : NetworkServer),
    server.controllers[p.pktDevIdx.toNat]? = some s →
      server.dispatch services p =
        .done { server with controllers := server.controllers.set p.pktDevIdx.toNat s' }

/-- Only colors change, and the slots of `window` are those of `m`. -/
def Recolored (m s : RGBController) (window : Set Nat) (s' : RGBController) : Prop :=
  ∃ colors : List RGBColor, s' = { s with colors } ∧ colors.length = s.colors.length ∧
    (∀ slot ∈ window, colors[slot]? = m.colors[slot]?) ∧ ∀ slot ∉ window, colors[slot]? = s.colors[slot]?

/-! ### Packets -/

section Packets
variable {devIdx pktId : UInt32} {qs : List Put} {n : Nat}

/-- The packet of a description that begins with its size. -/
def describedPacket (devIdx pktId : UInt32) (qs : List Put) (n : Nat) (total : 4 + stored qs = n)
    (small : n < 2 ^ 32) : NetPacket :=
  ⟨devIdx, pktId, contents (Put.u32 (.ofNat n) :: qs), by
    rw [contents_length, stored_cons, Put.u32_length, total]
    exact small⟩

theorem request_whole {data : Bytes} {size : UInt32} (whole : data.length = size.toNat) :
    RGBControllerNetwork.request devIdx pktId data size =
      some ⟨devIdx, pktId, data, whole.trans_lt size.toNat_lt⟩ := by
  rw [RGBControllerNetwork.request, if_pos whole.ge]
  simp only [List.take_of_length_le whole.le]

theorem description_length (total : 4 + stored qs = n) :
    (contents (Put.u32 (.ofNat n) :: qs)).length = n := by
  rw [contents_length, stored_cons, Put.u32_length, total]

theorem exec_description_size (total : 4 + stored qs = n) (small : n < 2 ^ 32) :
    u32.exec (contents (Put.u32 (.ofNat n) :: qs)) 0 = some (.ofNat n, 4) := by
  have front := Reads.u32 (.ofNat n) [] (contents qs) ((description_length total).trans_lt small)
  rwa [u32_length] at front

theorem describedRequest_eq (total : 4 + stored qs = n) (small : n < 2 ^ 32) :
    RGBControllerNetwork.describedRequest devIdx pktId (contents (Put.u32 (.ofNat n) :: qs)) =
      some (describedPacket devIdx pktId qs n total small) := by
  have whole : (contents (Put.u32 (.ofNat n) :: qs)).length = (UInt32.ofNat n).toNat := by
    rw [description_length total]
    exact (UInt32.toNat_ofNat_of_lt' small).symm
  rw [RGBControllerNetwork.describedRequest, exec_description_size total small]
  exact request_whole whole

variable {total : 4 + stored qs = n} {small : n < 2 ^ 32} {s s' : RGBController} {server : NetworkServer}

theorem describedPacket_length : (describedPacket devIdx pktId qs n total small).data.length = n :=
  description_length total

theorem embeddedSize_describedPacket :
    NetworkServer.embeddedSize (describedPacket devIdx pktId qs n total small) = some (.ofNat n) := by
  rw [NetworkServer.embeddedSize]
  exact congrArg (Option.map Prod.fst) (exec_description_size total small)

theorem pktSize_describedPacket : (describedPacket devIdx pktId qs n total small).pktSize = .ofNat n := by
  rw [NetPacket.pktSize, describedPacket_length]

/-- A description passes the size test. -/
theorem sized_describedPacket (accepted : Bool) (mismatch : Outcome)
    (set : RGBController → Reader (Option RGBController)) :
    server.sized (describedPacket devIdx pktId qs n total small) accepted mismatch set =
      server.onController (describedPacket devIdx pktId qs n total small) set := by
  rw [NetworkServer.sized, embeddedSize_describedPacket, pktSize_describedPacket]
  simp only [beq_self_eq_true, Bool.true_or, if_true]

theorem described_describedPacket (mismatch : Outcome)
    (set : RGBController → Reader (Option RGBController)) :
    server.described (describedPacket devIdx pktId qs n total small) mismatch set =
      server.onController (describedPacket devIdx pktId qs n total small) set := by
  have data : (describedPacket devIdx pktId qs n total small).data ≠ [] := by
    intro empty
    have length : (describedPacket devIdx pktId qs n total small).data.length = n := describedPacket_length
    rw [empty, List.length_nil] at length
    omega
  rw [NetworkServer.described, if_neg data, sized_describedPacket]

theorem onController_eq {p : NetPacket} {set : RGBController → Reader (Option RGBController)} {r : Nat}
    (found : server.controllers[p.pktDevIdx.toNat]? = some s)
    (run : (set s).exec p.data 0 = some (some s', r)) :
    server.onController p set =
      .done { server with controllers := server.controllers.set p.pktDevIdx.toNat s' } := by
  rw [NetworkServer.onController, found]
  simp only [run]

end Packets

/-! ### What is performed -/

section Performing
variable {packet : Option NetPacket} {p : NetPacket} {s s' : RGBController} {outcome : RGBController → Prop}

/-- Where the server stores `s'`, the outcome has to hold of it. -/
theorem performs_iff (built : packet = some p)
    (done : ∀ (services : Services) (server : NetworkServer),
      server.controllers[p.pktDevIdx.toNat]? = some s →
        server.dispatch services p =
          .done { server with controllers := server.controllers.set p.pktDevIdx.toNat s' }) :
    Performs packet s outcome ↔ outcome s' := by
  constructor
  · rintro ⟨q, sent, s'', holds, same⟩
    obtain rfl : p = q := Option.some.inj (built.symm.trans sent)
    -- any server will do to tell which controller is stored
    let server : NetworkServer := ⟨List.replicate (p.pktDevIdx.toNat + 1) s, false, 5⟩
    have found : server.controllers[p.pktDevIdx.toNat]? = some s := by simp [server]
    have twice := (done idleServices server found).symm.trans (same idleServices server found)
    have stored := congrArg (fun cs : List RGBController => cs[p.pktDevIdx.toNat]?)
      (congrArg NetworkServer.controllers (Outcome.done.inj twice))
    simp only [server, List.getElem?_set_self (show p.pktDevIdx.toNat <
      (List.replicate (p.pktDevIdx.toNat + 1) s).length by simp), Option.some.injEq] at stored
    rwa [stored]
  · intro holds
    exact ⟨p, built, s', holds, done⟩

theorem not_performs_of_none (none_ : packet = none) : ¬ Performs packet s outcome := by
  rintro ⟨p, sent, -⟩
  rw [none_] at sent
  cases sent

end Performing

/-! ### Recoloring -/

/-- A mirror and the controller it mirrors; only their colors differ. -/
structure MirrorOf (m s : RGBController) : Prop where
  zones : m.zones = s.zones
  leds : m.leds = s.leds
  modes : m.modes = s.modes
  mirrorWindowed : m.Windowed
  serverWindowed : s.Windowed
  few : m.colors.length ≤ 65535

theorem MirrorOf.length {m s : RGBController} (mirror : MirrorOf m s) : m.colors.length = s.colors.length := by
  rw [mirror.mirrorWindowed.length, mirror.serverWindowed.length, mirror.zones]

theorem recolored_iff {m s : RGBController} {window : Set Nat} {colors : List RGBColor} :
    Recolored m s window { s with colors } ↔ colors.length = s.colors.length ∧
      (∀ slot ∈ window, colors[slot]? = m.colors[slot]?) ∧ ∀ slot ∉ window, colors[slot]? = s.colors[slot]? := by
  constructor
  · rintro ⟨own, same, rest⟩
    obtain rfl : colors = own := congrArg RGBController.colors same
    exact rest
  · intro all
    exact ⟨colors, rfl, all⟩

/-- A controller that is left alone takes over the colors it has already. -/
theorem recolored_self_iff {m s : RGBController} {window : Set Nat} :
    Recolored m s window s ↔ ∀ slot ∈ window, s.colors[slot]? = m.colors[slot]? := by
  have own : Recolored m s window s ↔ s.colors.length = s.colors.length ∧ _ ∧ _ := recolored_iff
  rw [own]
  constructor
  · rintro ⟨-, inside, -⟩
    exact inside
  · intro inside
    exact ⟨rfl, inside, fun _ _ => rfl⟩

/-- The colors that the zone command counts start in the window of the zone. Where it counts more of them
than the window has, or fewer, the rest has to agree already. -/
def ZoneCounted (m s : RGBController) (z : Zone) : Prop :=
  (count16 z.ledsCount.toNat = 0 ∨ z.startIdx.toNat + count16 z.ledsCount.toNat ≤ m.colors.length) ∧
    ∀ slot, z.startIdx.toNat + min (count16 z.ledsCount.toNat) z.getLEDsInZone.toNat ≤ slot →
      slot < z.startIdx.toNat + max (count16 z.ledsCount.toNat) z.getLEDsInZone.toNat →
      m.colors[slot]? = s.colors[slot]?

/-- The slot has a color, and the LED is one that the server knows; one behind the last it lets pass. -/
def LedKnown (m s : RGBController) (led : Int32) : Prop :=
  sizeT led < m.colors.length ∧ (sizeT led ≤ s.leds.length ∨ m.colors[sizeT led]? = s.colors[sizeT led]?)

theorem recolored_count_iff {m s : RGBController} {z : Zone} {n : Nat} {colors : List RGBColor}
    (length : colors.length = s.colors.length)
    (slots : ∀ slot, colors[slot]? =
      if z.startIdx.toNat ≤ slot ∧ slot < z.startIdx.toNat + n then m.colors[slot]? else s.colors[slot]?) :
    Recolored m s z.slots { s with colors } ↔
      ∀ slot, z.startIdx.toNat + min n z.getLEDsInZone.toNat ≤ slot →
        slot < z.startIdx.toNat + max n z.getLEDsInZone.toNat → m.colors[slot]? = s.colors[slot]? := by
  rw [recolored_iff]
  constructor
  · rintro ⟨-, inside, outside⟩ slot lower upper
    by_cases counted : slot < z.startIdx.toNat + n
    · have stored := slots slot
      rw [if_pos (by omega)] at stored
      rw [← stored]
      apply outside
      rintro ⟨-, window⟩
      omega
    · have kept := slots slot
      rw [if_neg (by omega)] at kept
      rw [← kept]
      exact (inside slot ⟨by omega, by omega⟩).symm
  · intro agree
    refine ⟨length, ?_, ?_⟩
    · rintro slot ⟨lower, upper⟩
      rw [slots slot]
      split_ifs with counted
      · rfl
      · exact (agree slot (by omega) (by omega)).symm
    · intro slot outside
      have away : ¬ (z.startIdx.toNat ≤ slot ∧ slot < z.startIdx.toNat + z.getLEDsInZone.toNat) := outside
      rw [slots slot]
      split_ifs with counted
      · exact agree slot (by omega) (by omega)
      · rfl

/-! ### The commands -/

namespace RGBControllerNetwork
variable (memory : Nat → UInt8) (devIdx : UInt32) {m s : RGBController}

/-- The color command takes all colors over. -/
theorem deviceUpdateLEDs_performs (mirror : MirrorOf m s) :
    Performs (deviceUpdateLEDs memory devIdx m) s (· = { s with colors := m.colors }) := by
  have few := mirror.few
  have length := mirror.length
  have small : 4 + 2 + m.colors.length * 4 < 2 ^ 32 := by omega
  have total : 4 + stored (Put.u16 m.colors.length :: m.colors.flatMap fun x => [Put.u32 x]) =
      4 + 2 + m.colors.length * 4 := by
    rw [stored_cons, stored_words, Put.u16_length]
    omega
  have built : deviceUpdateLEDs memory devIdx m = some (describedPacket devIdx 1050 _ _ total small) := by
    rw [deviceUpdateLEDs, RGBController.getColorDescription_eq memory few]
    exact describedRequest_eq total small
  have all : overwrite 0 m.colors s.colors = m.colors := by
    rw [VectorEdit.overwrite, List.take_zero, List.nil_append, List.drop_of_length_le (by omega), List.append_nil]
  have run := (RGBController.reads_setColorDescription (c := s) rfl (by omega) length.le
    (.ofNat (4 + 2 + m.colors.length * 4))).whole ((description_length total).trans_lt small)
  rw [all] at run
  refine ⟨_, built, _, rfl, ?_⟩
  intro services server found
  show server.described _ _ _ = _
  rw [described_describedPacket]
  exact onController_eq found run

theorem addSegment_performs {zone : Int32} {z : Zone} (found : s.zones[sizeT zone]? = some z) {g : Segment}
    (plain : (0 : UInt8) ∉ g.name) (fits : g.name.length ≤ 65534) :
    Performs (addSegment memory devIdx zone g) s
      (· = { s with zones := s.zones.set (sizeT zone) { z with segments := z.segments ++ [g] } }) := by
  have text : strlen g.name ≤ 65534 := by rwa [strlen, cstr_of_no_nul plain]
  have small : 4 + 4 + g.size < 2 ^ 32 := by
    unfold Segment.size
    omega
  have total : 4 + stored (Put.i32 zone :: g.puts) = 4 + 4 + g.size := by
    rw [stored_cons, stored_segmentPuts text, Put.i32_length]
    omega
  have built : addSegment memory devIdx zone g = some (describedPacket devIdx 1002 _ _ total small) := by
    rw [addSegment, RGBController.getSegmentDescription_eq memory zone text]
    exact describedRequest_eq total small
  have run := (RGBController.reads_setSegmentDescription (c := s) plain fits
    (.ofNat (4 + 4 + g.size))).whole ((description_length total).trans_lt small)
  rw [RGBController.addSegment, RGBController.modifySegments, found] at run
  refine ⟨_, built, _, rfl, ?_⟩
  intro services server own
  have kind : (describedPacket devIdx 1002 _ _ total small).kind = some .addSegment := rfl
  rw [NetworkServer.dispatch, kind]
  simp only
  rw [sized_describedPacket]
  exact onController_eq own run

section Zone
variable {zone : Int32} {z : Zone}

/-- The colors that the zone command sends, and what the server stores. -/
theorem updateZoneLEDs_performs_of_load (nonneg : 0 ≤ zone.toInt) (mirror : MirrorOf m s)
    (found : s.zones[sizeT zone]? = some z) {xs : List RGBColor} {s' : RGBController}
    (load : m.loadZoneColors z (count16 z.ledsCount.toNat) = some xs)
    (length : xs.length = count16 z.ledsCount.toNat)
    (store : s.storeZoneColors (sizeT zone) xs = some s') (outcome : RGBController → Prop) :
    Performs (updateZoneLEDs memory devIdx zone m) s outcome ↔ outcome s' := by
  have few : xs.length < 2 ^ 16 := by
    rw [length]
    exact count16_lt _
  have small : 4 + 4 + 2 + xs.length * 4 < 2 ^ 32 := by omega
  have total : 4 + stored (Put.i32 zone :: Put.u16 xs.length :: xs.flatMap fun x => [Put.u32 x]) =
      4 + 4 + 2 + xs.length * 4 := by
    rw [stored_cons, stored_cons, stored_words, Put.i32_length, Put.u16_length]
    omega
  have own : m.zones[sizeT zone]? = some z := by rw [mirror.zones, found]
  have built : updateZoneLEDs memory devIdx zone m = some (describedPacket devIdx 1051 _ _ total small) := by
    rw [updateZoneLEDs, RGBController.getZoneColorDescription_of_load memory own load length]
    exact describedRequest_eq total small
  have long := description_length total
  have run := (RGBController.reads_setZoneColorDescription (c := s) nonneg
    (List.getElem?_eq_some_iff.mp found).1 few (.ofNat (4 + 4 + 2 + xs.length * 4))).whole
    (long.trans_lt small)
  rw [store] at run
  apply performs_iff built
  intro services server at_
  show server.described _ _ _ = _
  rw [described_describedPacket]
  apply onController_eq at_
  rw [exec_peek_bind, if_pos ?_]
  · exact run
  · rw [exec_skip_size, exec_i32 (describedPacket_length.trans_lt small),
      if_pos (by rw [describedPacket_length]; omega)]
    rfl

theorem updateZoneLEDs_performs_iff (nonneg : 0 ≤ zone.toInt) (mirror : MirrorOf m s)
    (found : s.zones[sizeT zone]? = some z) :
    Performs (updateZoneLEDs memory devIdx zone m) s (Recolored m s z.slots) ↔ ZoneCounted m s z := by
  have own : m.zones[sizeT zone]? = some z := by rw [mirror.zones, found]
  have length := mirror.length
  by_cases idle : count16 z.ledsCount.toNat = 0
  · have load : m.loadZoneColors z (count16 z.ledsCount.toNat) = some [] := by
      rw [RGBController.loadZoneColors, if_pos idle]
    rw [updateZoneLEDs_performs_of_load memory devIdx nonneg mirror found load idle.symm rfl,
      ZoneCounted, and_iff_right (.inl idle)]
    apply recolored_count_iff rfl
    intro slot
    rw [if_neg (by omega)]
  · have leds : 0 < z.ledsCount.toNat := Nat.pos_of_ne_zero fun zero => idle (by rw [zero]; rfl)
    have used := Zone.getLEDsInZone_pos leds
    by_cases room : z.startIdx.toNat + count16 z.ledsCount.toNat ≤ m.colors.length
    · have pointer : z.colors = some z.startIdx.toNat := by
        rw [(mirror.mirrorWindowed.zone own).2, if_pos ⟨by omega, used⟩]
      have load : m.loadZoneColors z (count16 z.ledsCount.toNat) =
          some (slice z.startIdx.toNat (count16 z.ledsCount.toNat) m.colors) := by
        rw [RGBController.loadZoneColors_eq (Nat.pos_of_ne_zero idle) pointer, if_pos room]
      have count : (slice z.startIdx.toNat (count16 z.ledsCount.toNat) m.colors).length =
          count16 z.ledsCount.toNat := by
        rw [slice_length]
        omega
      have filled : slice z.startIdx.toNat (count16 z.ledsCount.toNat) m.colors ≠ [] := by
        intro empty
        rw [empty] at count
        exact idle count.symm
      have store := RGBController.storeZoneColors_eq mirror.serverWindowed found
        (slice z.startIdx.toNat (count16 z.ledsCount.toNat) m.colors)
      rw [if_neg filled, if_pos ⟨used, by omega⟩] at store
      rw [updateZoneLEDs_performs_of_load memory devIdx nonneg mirror found load count store, ZoneCounted,
        and_iff_right (.inr room)]
      apply recolored_count_iff
      · exact VectorEdit.overwrite_length (by omega)
      · exact getElem?_overwrite_slice (by omega) room
    · have outside : ¬ ZoneCounted m s z := by
        rintro ⟨none_ | room', -⟩
        · exact idle none_
        · exact room room'
      apply iff_of_false (not_performs_of_none _) outside
      have load : m.loadZoneColors z (count16 z.ledsCount.toNat) = none := by
        by_cases pointed : 0 < m.colors.length ∧ 0 < z.getLEDsInZone
        · have pointer : z.colors = some z.startIdx.toNat := by
            rw [(mirror.mirrorWindowed.zone own).2, if_pos pointed]
          rw [RGBController.loadZoneColors_eq (Nat.pos_of_ne_zero idle) pointer, if_neg room]
        · have pointer : z.colors = none := by
            rw [(mirror.mirrorWindowed.zone own).2, if_neg pointed]
          rw [RGBController.loadZoneColors, if_neg idle, pointer]
          rfl
      rw [updateZoneLEDs, RGBController.getZoneColorDescription, own]
      simp only [load, Option.bind_eq_bind, Option.bind_some, Option.bind_none]

end Zone

/-- Eight bytes pass the size test of the LED command; the decoder then works on them. -/
theorem updateSingleLed_eq {server : NetworkServer} {p : NetPacket} (eight : p.data.length = 8)
    {s' : RGBController} {r : Nat} (found : server.controllers[p.pktDevIdx.toNat]? = some s)
    (run : s.setSingleLEDColorDescription.exec p.data 0 = some (some s', r)) :
    server.updateSingleLed p =
      .done { server with controllers := server.controllers.set p.pktDevIdx.toNat s' } := by
  have data : p.data ≠ [] := by
    intro empty
    rw [empty] at eight
    cases eight
  have size : p.pktSize = 8 := by
    rw [NetPacket.pktSize, eight]
    rfl
  have led : (i32.exec p.data 0).isSome := by
    rw [exec_i32 p.sized, if_pos (by omega)]
    rfl
  rw [NetworkServer.updateSingleLed, if_neg data, if_pos size]
  apply onController_eq found
  rw [exec_peek_bind, if_pos led]
  exact run

theorem updateSingleLED_performs_iff (mirror : MirrorOf m s) (led : Int32) :
    Performs (updateSingleLED memory devIdx led m) s (Recolored m s {sizeT led}) ↔
      LedKnown m s led := by
  have length := mirror.length
  by_cases slot : sizeT led < m.colors.length
  · have color : m.colors[sizeT led]? = some m.colors[sizeT led] := List.getElem?_eq_getElem slot
    have whole : (contents [Put.i32 led, Put.u32 m.colors[sizeT led]]).length = (4 + 4 : UInt32).toNat := by
      rw [contents_length]
      simp
    have built : updateSingleLED memory devIdx led m = some ⟨devIdx, 1052, _, whole.trans_lt (by decide)⟩ := by
      rw [updateSingleLED, RGBController.getSingleLEDColorDescription_eq memory color]
      exact request_whole whole
    rw [LedKnown, and_iff_right slot]
    by_cases known : sizeT led ≤ s.leds.length
    · have run := (RGBController.reads_setSingleLEDColorDescription (c := s) known (length ▸ slot)
        m.colors[sizeT led]).whole (whole.trans_lt (by decide))
      have done : Performs _ s (Recolored m s {sizeT led}) ↔ _ :=
        performs_iff built fun services server found => updateSingleLed_eq whole found run
      rw [done, recolored_iff]
      apply iff_of_true _ (.inl known)
      refine ⟨List.length_set, ?_, ?_⟩
      · rintro _ rfl
        rw [List.getElem?_set_self (length ▸ slot), color]
      · intro other away
        exact List.getElem?_set_ne fun same => away same.symm
    · have run := RGBController.exec_setSingleLEDColorDescription_beyond (c := s) (Nat.not_le.mp known)
        m.colors[sizeT led]
      have done : Performs _ s (Recolored m s {sizeT led}) ↔ _ :=
        performs_iff built fun services server found => updateSingleLed_eq whole found run
      rw [done, recolored_self_iff, or_iff_right known]
      constructor
      · intro agree
        exact (agree _ rfl).symm
      · rintro agree _ rfl
        exact agree.symm
  · have color : m.colors[sizeT led]? = none := List.getElem?_eq_none (Nat.not_lt.mp slot)
    apply iff_of_false (not_performs_of_none _) fun known => slot known.1
    rw [updateSingleLED, RGBController.getSingleLEDColorDescription, color]
    rfl

/-- The four commands. All colors and a segment always arrive; the colors of a zone do so just when the LEDs
that the command counts are those of the window or the others agree already, and a single color just when the
LED has one and the server knows it or has the same color. -/
theorem commands_perform {m s : RGBController} (mirror : MirrorOf m s) {zone : Int32} (nonneg : 0 ≤ zone.toInt)
    {z : Zone} (found : s.zones[sizeT zone]? = some z) (led : Int32) {g : Segment}
    (plain : (0 : UInt8) ∉ g.name) (fits : g.name.length ≤ 65534) :
    Performs (deviceUpdateLEDs memory devIdx m) s (· = { s with colors := m.colors }) ∧
      Performs (addSegment memory devIdx zone g) s
        (· = { s with zones := s.zones.set (sizeT zone) { z with segments := z.segments ++ [g] } }) ∧
      (Performs (updateZoneLEDs memory devIdx zone m) s (Recolored m s z.slots) ↔ ZoneCounted m s z) ∧
      (Performs (updateSingleLED memory devIdx led m) s (Recolored m s {sizeT led}) ↔ LedKnown m s led) :=
  ⟨deviceUpdateLEDs_performs memory devIdx mirror, addSegment_performs memory devIdx found plain fits,
    updateZoneLEDs_performs_iff memory devIdx nonneg mirror found,
    updateSingleLED_performs_iff memory devIdx mirror led⟩

/-- An effects-only zone of two LEDs in front of an ordinary zone of one. -/
def capped (colors : List RGBColor) : RGBController :=
  RGBController.setupColors { RGBController.new 0 with
    leds := [⟨[65], 0⟩, ⟨[66], 1⟩]
    colors
    zones := [{ Zone.new with ledsCount := 2, flags := 1 }, { Zone.new with ledsCount := 1 }] }

theorem capped_mirror : MirrorOf (capped [1, 2]) (capped [3, 4]) where
  zones := rfl
  leds := rfl
  modes := rfl
  mirrorWindowed := RGBController.windowed_setupColors _
  serverWindowed := RGBController.windowed_setupColors _
  few := by decide

theorem commands_perform_capped :
    ∃ z, (capped [3, 4]).zones[sizeT 1]? = some z ∧
      Performs (deviceUpdateLEDs (fun _ => 0) 7 (capped [1, 2])) (capped [3, 4])
        (· = { capped [3, 4] with colors := (capped [1, 2]).colors }) ∧
      Performs (addSegment (fun _ => 0) 7 1 ⟨[83], 1, 0, 1⟩) (capped [3, 4])
        (· = { capped [3, 4] with
          zones := (capped [3, 4]).zones.set (sizeT 1) { z with segments := z.segments ++ [⟨[83], 1, 0, 1⟩] } }) ∧
      (Performs (updateZoneLEDs (fun _ => 0) 7 1 (capped [1, 2])) (capped [3, 4])
          (Recolored (capped [1, 2]) (capped [3, 4]) z.slots) ↔ ZoneCounted (capped [1, 2]) (capped [3, 4]) z) ∧
      (Performs (updateSingleLED (fun _ => 0) 7 0 (capped [1, 2])) (capped [3, 4])
          (Recolored (capped [1, 2]) (capped [3, 4]) {sizeT 0}) ↔ LedKnown (capped [1, 2]) (capped [3, 4]) 0) :=
  ⟨_, rfl, commands_perform (fun _ => 0) 7 capped_mirror (by decide) rfl 0 (by decide) (by decide)⟩

/-- The command for the first zone counts two LEDs and stores the color of the second zone with it. -/
theorem capped_overwrites :
    MirrorOf (capped [1, 2]) (capped [3, 4]) ∧
      ∃ z, (capped [3, 4]).zones[sizeT 0]? = some z ∧ z.slots = {0} ∧
        Performs (updateZoneLEDs (fun _ => 0) 7 0 (capped [1, 2])) (capped [3, 4])
          (· = { capped [3, 4] with colors := [1, 2] }) ∧
        ¬ Performs (updateZoneLEDs (fun _ => 0) 7 0 (capped [1, 2])) (capped [3, 4])
          (Recolored (capped [1, 2]) (capped [3, 4]) z.slots) := by
  refine ⟨capped_mirror, _, rfl, ?_, ?_, ?_⟩
  · ext slot
    constructor
    · rintro ⟨-, below⟩
      exact Nat.lt_one_iff.mp below
    · rintro rfl
      exact ⟨Nat.le_refl 0, Nat.one_pos⟩
  · exact (updateZoneLEDs_performs_of_load (fun _ => 0) 7 (by decide) capped_mirror rfl rfl rfl rfl _).mpr rfl
  · rw [updateZoneLEDs_performs_iff (fun _ => 0) 7 (by decide) capped_mirror rfl]
    rintro ⟨-, agree⟩
    exact absurd (agree 1 (by decide) (by decide)) (by decide)

end RGBControllerNetwork
end SyncRGB
