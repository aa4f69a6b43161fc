import SyncRGB.Ddp.EndpointTable
import SyncRGB.Ddp.Fragments

/-! The packets of an update, and those that repeat it. -/
namespace SyncRGB
open ByteCodec VectorEdit
namespace DDPController

/-! ### One packet -/

theorem readPacket_ddpPacket (sequenceNumber : UInt8) {data : Bytes} {length : UInt16} (offset : UInt32)
    (there : length.toNat ≤ data.length) :
    readPacket (ddpPacket sequenceNumber data length offset) = some (offset.toNat, data.take length.toNat) := by
  generalize first : ([0x41, sequenceNumber &&& 0x0F, 1, 1] : Bytes) = flags
  have flagsLength : flags.length = 4 := by rw [← first]; rfl
  have packet : ddpPacket sequenceNumber data length offset =
      flags ++ (htonl offset ++ (htons length ++ data.take length.toNat)) := by
    rw [ddpPacket, first, List.append_assoc, List.append_assoc]
  have offsetField : slice 4 4 (ddpPacket sequenceNumber data length offset) = htonl offset := by
    rw [packet, slice, List.drop_left' flagsLength]
    exact List.take_left' (be_length 4 _)
  have lengthField : slice 8 2 (ddpPacket sequenceNumber data length offset) = htons length := by
    rw [packet, slice, ← List.append_assoc, List.drop_left' (by rw [List.length_append, flagsLength]; rfl)]
    exact List.take_left' (be_length 2 _)
  have dataField : (ddpPacket sequenceNumber data length offset).drop 10 = data.take length.toNat := by
    rw [packet, ← List.append_assoc, ← List.append_assoc]
    exact List.drop_left' (by rw [List.length_append, List.length_append, flagsLength]; rfl)
  have total : (ddpPacket sequenceNumber data length offset).length = 10 + length.toNat := by
    rw [packet, List.length_append, List.length_append, List.length_append, flagsLength, List.length_take_of_le there]
    show 4 + (4 + (2 + length.toNat)) = _
    omega
  rw [readPacket, lengthField, beValue_htons, if_pos total, offsetField, beValue_htonl, dataField]

theorem fragments_cons {packet : Bytes} {packets : List Bytes} {fragment : Nat × Bytes} {frs : List (Nat × Bytes)}
    (first : readPacket packet = some fragment) (rest : fragments packets = some frs) :
    fragments (packet :: packets) = some (fragment :: frs) := by
  rw [fragments, List.mapM_cons, first]
  show (fragments packets >>= fun frs => pure (fragment :: frs)) = _
  rw [rest]
  rfl

/-! ### The packets of a device -/

section
variable {send : Bytes → Bool} (succeeds : ∀ packet, send packet = true)
include succeeds

/-- The packets behind those that have been sent. They do not depend on the sequence number. -/
theorem fragments_sendChunks (deviceData : Bytes) (totalBytes bytesSent : UInt32)
    (whole : deviceData.length = totalBytes.toNat) (within : bytesSent.toNat ≤ totalBytes.toNat) :
    ∃ frs, (∀ sequenceNumber, fragments (sendChunks send sequenceNumber deviceData totalBytes bytesSent) = some frs) ∧
      (∀ fragment ∈ frs, fragment.2.length ≤ 1440) ∧ Tiles bytesSent.toNat frs totalBytes.toNat ∧
      frs.flatMap Prod.snd = deviceData.drop bytesSent.toNat := by
  induction left : totalBytes.toNat - bytesSent.toNat using Nat.strong_induction_on generalizing bytesSent with
  | _ left ih =>
      by_cases more : bytesSent < totalBytes
      · have below : bytesSent.toNat < totalBytes.toNat := UInt32.lt_iff_toNat_lt.mp more
        have next := toNat_add_chunkSize more
        have size := chunkSize_toNat more
        obtain ⟨frs, reads, short, tiles, data⟩ :=
          ih _ (by omega) (bytesSent + chunkSize totalBytes bytesSent) (by omega) rfl
        have narrow : (chunkSize totalBytes bytesSent).toUInt16.toNat = (chunkSize totalBytes bytesSent).toNat := by
          rw [UInt32.toNat_toUInt16]
          exact Nat.mod_eq_of_lt (by omega)
        have there : (chunkSize totalBytes bytesSent).toUInt16.toNat ≤ (deviceData.drop bytesSent.toNat).length := by
          rw [List.length_drop]
          omega
        have length : ((deviceData.drop bytesSent.toNat).take (chunkSize totalBytes bytesSent).toNat).length =
            (chunkSize totalBytes bytesSent).toNat := by
          rw [List.length_take_of_le]
          rwa [narrow] at there
        refine ⟨(bytesSent.toNat, (deviceData.drop bytesSent.toNat).take (chunkSize totalBytes bytesSent).toNat) :: frs,
          fun sequenceNumber => ?_, List.forall_mem_cons.mpr ⟨?_, short⟩, ⟨rfl, ?_⟩, ?_⟩
        · rw [sendChunks, dif_pos more]
          dsimp only
          rw [if_pos (succeeds _)]
          exact fragments_cons (by rw [readPacket_ddpPacket _ _ there, narrow]) (reads sequenceNumber)
        · rw [length]
          omega
        · rw [length, size]
          rwa [next] at tiles
        · rw [List.flatMap_cons, data, next, ← size, ← List.drop_drop, List.take_append_drop]
      · have all : bytesSent.toNat = totalBytes.toNat := by
          have above := mt UInt32.lt_iff_toNat_lt.mpr more
          omega
        refine ⟨[], fun sequenceNumber => ?_, fun fragment mem => absurd mem List.not_mem_nil, all, ?_⟩
        · rw [sendChunks, dif_neg more]
          rfl
        · rw [List.flatMap_nil, List.drop_eq_nil_of_le (by omega)]

end

/-! ### The bytes of a device -/

section
variable {colors : List RGBColor}

theorem ledBytes_length (colors : List RGBColor) (index : Nat) : (ledBytes colors index).length = 3 := by
  unfold ledBytes
  split <;> rfl

theorem deviceBytes_length (colors : List RGBColor) (offset numLeds : Nat) :
    (deviceBytes colors offset numLeds).length = 3 * numLeds := by
  rw [deviceBytes, length_flatMap_of_blocks (fun led => ledBytes_length colors (offset + led)), List.length_range]

theorem deviceBytes_succ (colors : List RGBColor) (offset numLeds : Nat) :
    deviceBytes colors offset (numLeds + 1) =
      deviceBytes colors offset numLeds ++ ledBytes colors (offset + numLeds) := by
  rw [deviceBytes, List.range_succ, List.flatMap_append, List.flatMap_singleton]
  rfl

/-- Behind the last color there are zeros only. -/
theorem deviceBytes_behind {offset numLeds : Nat} (behind : colors.length ≤ offset + numLeds) (more : Nat) :
    deviceBytes colors offset (numLeds + more) = deviceBytes colors offset numLeds ++ List.replicate (3 * more) 0 := by
  induction more with
  | zero => rw [Nat.add_zero, Nat.mul_zero, List.replicate_zero, List.append_nil]
  | succ more ih =>
      have dark : ledBytes colors (offset + (numLeds + more)) = List.replicate 3 0 := by
        rw [ledBytes, List.getElem?_eq_none (by omega)]
        rfl
      rw [← Nat.add_assoc, deviceBytes_succ, ih, dark, List.append_assoc, List.replicate_append_replicate]
      rfl

/-- The bytes of the LEDs so far stand in front of zeros. -/
theorem storeLeds_eq (colors : List RGBColor) {offset numLeds : Nat} (bytes : 3 * numLeds < 2 ^ 32)
    (colorsEnd : offset + numLeds < 2 ^ 32) {count ledIdx : Nat} (total : ledIdx + count = numLeds) :
    storeLeds colors (.ofNat offset) count (.ofNat ledIdx)
        (deviceBytes colors offset ledIdx ++ List.replicate (3 * count) 0) =
      some (deviceBytes colors offset numLeds) := by
  induction count generalizing ledIdx with
  | zero =>
      rw [Nat.mul_zero, List.replicate_zero, List.append_nil, ← total]
      rfl
  | succ count ih =>
      have small {n : Nat} (below : n < 2 ^ 32) : (UInt32.ofNat n).toNat = n := UInt32.toNat_ofNat_of_lt' below
      have index : (UInt32.ofNat offset + UInt32.ofNat ledIdx).toNat = offset + ledIdx := by
        rw [← UInt32.ofNat_add, small (by omega)]
      have pixel {place : Nat} (below : place < 3) :
          (UInt32.ofNat ledIdx * 3 + UInt32.ofNat place).toNat = (deviceBytes colors offset ledIdx).length + place := by
        have product : UInt32.ofNat ledIdx * 3 = UInt32.ofNat (ledIdx * 3) := (UInt32.ofNat_mul ledIdx 3).symm
        rw [product, ← UInt32.ofNat_add, small (by omega), deviceBytes_length, Nat.mul_comm]
      rw [storeLeds, index]
      cases color_ : colors[offset + ledIdx]? with
      | none =>
          have behind : colors.length ≤ offset + ledIdx := List.getElem?_eq_none_iff.mp color_
          rw [← total, deviceBytes_behind behind]
      | some color =>
          have zeros : List.replicate (3 * (count + 1)) (0 : UInt8) = 0 :: 0 :: 0 :: List.replicate (3 * count) 0 := rfl
          have stored : deviceBytes colors offset (ledIdx + 1) =
              deviceBytes colors offset ledIdx ++ rgbBytes color := by
            rw [deviceBytes_succ, ledBytes, color_]
          have led : UInt32.ofNat ledIdx + 1 = UInt32.ofNat (ledIdx + 1) := (UInt32.ofNat_add ledIdx 1).symm
          have counted : ledIdx + 1 + count = numLeds := by omega
          rw [zeros, led]
          refine (storeAt_three (pixel (by decide)) (pixel (by decide)) (pixel (by decide)) _ _ _ 0 0 0 _ _).trans ?_
          rw [show [rgbGetRValue color, rgbGetGValue color, rgbGetBValue color] = rgbBytes color from rfl, ← stored]
          exact ih counted

end

/-! ### All devices -/

/-- The counts that the code takes in 32 bits do not wrap, up to the last device with a color. -/
def Countable (colors : List RGBColor) (offset : Nat) (devices : List DDPDevice) : Prop :=
  ∀ k dev, devices[k]? = some dev → offset + ledsOf (devices.take k) < colors.length →
    3 * dev.numLeds.toNat < 2 ^ 32 ∧ offset + ledsOf (devices.take k) + dev.numLeds.toNat < 2 ^ 32

theorem ledsOf_cons (dev : DDPDevice) (rest : List DDPDevice) :
    ledsOf (dev :: rest) = dev.numLeds.toNat + ledsOf rest := List.sum_cons

section
variable {colors : List RGBColor} {offset : Nat} {dev : DDPDevice} {rest : List DDPDevice}

theorem offset_take_succ (k : Nat) :
    offset + dev.numLeds.toNat + ledsOf (rest.take k) = offset + ledsOf ((dev :: rest).take (k + 1)) := by
  rw [List.take_succ_cons, ledsOf_cons, Nat.add_assoc]

theorem Countable.head (count : Countable colors offset (dev :: rest)) (left : offset < colors.length) :
    3 * dev.numLeds.toNat < 2 ^ 32 ∧ offset + dev.numLeds.toNat < 2 ^ 32 := count 0 dev rfl left

theorem Countable.tail (count : Countable colors offset (dev :: rest)) :
    Countable colors (offset + dev.numLeds.toNat) rest := by
  intro k other found left
  rw [offset_take_succ] at left ⊢
  exact count (k + 1) other found left

end

section
variable {send : DDPDevice → Bytes → Bool} (succeeds : ∀ dev packet, send dev packet = true)
include succeeds

/-- The packets of a device that fits, whatever the sequence number. -/
theorem sendDevice (colors : List RGBColor) {offset : Nat} {dev : DDPDevice} (bytes : 3 * dev.numLeds.toNat < 2 ^ 32)
    (leds : offset + dev.numLeds.toNat < 2 ^ 32) :
    ∃ deviceData frs, storeLeds colors (.ofNat offset) dev.numLeds.toNat 0
        (List.replicate (dev.numLeds * 3).toNat 0) = some deviceData ∧
      (∀ sequenceNumber, fragments (sendChunks (send dev) sequenceNumber deviceData (dev.numLeds * 3) 0) = some frs) ∧
      Reproduces colors offset dev frs := by
  have total : (dev.numLeds * 3).toNat = 3 * dev.numLeds.toNat := by
    rw [UInt32.toNat_mul, Nat.mul_comm]
    exact Nat.mod_eq_of_lt bytes
  have stored := storeLeds_eq colors bytes leds (Nat.zero_add dev.numLeds.toNat)
  obtain ⟨frs, reads, short, tiles, data⟩ := fragments_sendChunks (succeeds dev)
    (deviceBytes colors offset dev.numLeds.toNat) (dev.numLeds * 3) 0
    (by rw [deviceBytes_length, total]) (Nat.zero_le _)
  rw [total] at tiles
  refine ⟨_, frs, ?_, reads, short, tiles, fun memory same => ?_⟩
  · rw [total]
    exact stored
  · rw [Tiles.writeBlocks_whole tiles same, data]
    rfl

theorem sendColors_eq (colors : List RGBColor) {devices : List DDPDevice} {offset : Nat}
    (small : offset < 2 ^ 32) (count : Countable colors offset devices) :
    ∃ parts, SendsColored colors offset devices parts ∧ ∀ sequenceNumber, ∃ sent,
      sendColors send sequenceNumber colors devices (.ofNat offset) = some sent ∧
        sent.map fragments = parts.map some := by
  induction devices generalizing offset with
  | nil =>
      refine ⟨[], ⟨fun k dev found => ?_, fun k _ => rfl, le_refl _⟩, fun _ => ⟨[], rfl, rfl⟩⟩
      cases found
  | cons dev rest ih =>
      have start : (UInt32.ofNat offset).toNat = offset := UInt32.toNat_ofNat_of_lt' small
      by_cases ended : colors.length ≤ offset
      · refine ⟨[], ⟨fun k other _ left => ?_, fun k _ => rfl, Nat.zero_le _⟩, fun _ => ⟨[], ?_, rfl⟩⟩
        · omega
        · rw [sendColors, start, if_pos ended]
      · obtain ⟨bytes, leds⟩ := count.head (Nat.lt_of_not_le ended)
        obtain ⟨deviceData, frs, stored, reads, right⟩ := sendDevice succeeds colors bytes leds
        have next : UInt32.ofNat offset + dev.numLeds = UInt32.ofNat (offset + dev.numLeds.toNat) := by
          rw [UInt32.ofNat_add, UInt32.ofNat_toNat]
        obtain ⟨parts, colored, others⟩ := ih leds count.tail
        refine ⟨frs :: parts, ⟨fun k other found left => ?_, fun k ended => ?_, ?_⟩, fun sequenceNumber => ?_⟩
        · cases k with
          | zero =>
              cases found
              exact ⟨frs, rfl, right⟩
          | succ k =>
              rw [← offset_take_succ] at left ⊢
              exact colored.reached k other found left
        · cases k with
          | zero => exact absurd ended ‹_›
          | succ k =>
              rw [← offset_take_succ] at ended
              exact colored.behind k ended
        · exact Nat.succ_le_succ colored.others
        · obtain ⟨sent, ran, same⟩ := others sequenceNumber
          refine ⟨sendChunks (send dev) sequenceNumber deviceData (dev.numLeds * 3) 0 :: sent, ?_,
            congrArg₂ List.cons (reads sequenceNumber) same⟩
          rw [sendColors, start, if_neg ended]
          dsimp only
          rw [stored, next, ran]
          rfl

end

/-! ### Runs -/

section
variable {send : DDPDevice → Bytes → Bool}

/-- What the steps between two updates leave alone. -/
theorem Idle.keeps {c c' : DDPController} (idle : Idle send c c') :
    c'.devices = c.devices ∧ c'.lastColors = c.lastColors := by
  cases idle with
  | keepalive ran =>
      unfold DDPController.keepalive at ran
      split at ran
      · obtain ⟨sent, -, rest⟩ := Option.bind_eq_some_iff.mp ran
        cases rest
        exact ⟨rfl, rfl⟩
      · cases ran
        exact ⟨rfl, rfl⟩
  | setKeepaliveTime timeMs => exact ⟨rfl, rfl⟩

theorem keeps_of_idle {c c' : DDPController} (idle : Relation.ReflTransGen (Idle send) c c') :
    c'.devices = c.devices ∧ c'.lastColors = c.lastColors := by
  induction idle with
  | refl => exact ⟨rfl, rfl⟩
  | tail _ step ih =>
      obtain ⟨devices, colors⟩ := Idle.keeps step
      exact ⟨devices.trans ih.1, colors.trans ih.2⟩

theorem keepalive_sent {c : DDPController} {time : Int} {sent : List (List Bytes)} (due : c.Due time)
    (sending : sendColors send c.sequenceNumber c.lastColors c.devices 0 = some sent) :
    c.keepalive send time = some (sent, { c with lastUpdateTime := time }) := by
  rw [DDPController.keepalive, if_pos due]
  exact Option.bind_eq_some_iff.mpr ⟨sent, sending, rfl⟩

/-- An update sends every device with a color left its part, and the keepalives behind it repeat its fragments. -/
theorem updateLEDs_sends (succeeds : ∀ dev packet, send dev packet = true) (c : DDPController)
    (colors : List RGBColor) (count : Countable colors 0 c.devices) (now : Int) :
    ∃ sent c' parts, c.updateLEDs send colors now = some (sent, c') ∧ sent.map fragments = parts.map some ∧
      SendsColored colors 0 c.devices parts ∧
      ∀ later, Relation.ReflTransGen (Idle send) c' later → ∀ time, ∃ again after,
        later.keepalive send time = some (again, after) ∧
          again.map fragments = if later.Due time then parts.map some else [] := by
  obtain ⟨parts, colored, runs⟩ := sendColors_eq succeeds colors (Nat.two_pow_pos 32) count
  obtain ⟨sent, ran, same⟩ := runs c.sequenceNumber
  by_cases closed : c.udpPorts = 0
  · have none_ : c.devices = [] := by
      by_contra some_
      exact c.opened some_ closed
    rw [none_] at ran
    cases ran
    refine ⟨[], c, parts, by rw [updateLEDs, if_pos closed], same, colored, fun later idle time => ?_⟩
    have devices : later.devices = [] := (keeps_of_idle idle).1.trans none_
    by_cases due : later.Due time
    · refine ⟨[], _, keepalive_sent due (by rw [devices]; rfl), ?_⟩
      rw [if_pos due, ← same]
    · exact ⟨[], later, by rw [keepalive, if_neg due], by rw [if_neg due]; rfl⟩
  · have update : c.updateLEDs send colors now = some (sent,
        { c with lastColors := colors, lastUpdateTime := now, sequenceNumber := c.sequenceNumber + 1 }) := by
      rw [updateLEDs, if_neg closed]
      exact Option.bind_eq_some_iff.mpr ⟨sent, ran, rfl⟩
    refine ⟨sent, _, parts, update, same, colored, fun later idle time => ?_⟩
    obtain ⟨devices, last⟩ := keeps_of_idle idle
    by_cases due : later.Due time
    · obtain ⟨again, repeated, sameAgain⟩ := runs later.sequenceNumber
      have sending : sendColors send later.sequenceNumber later.lastColors later.devices 0 = some again := by
        rw [devices, last]
        exact repeated
      exact ⟨again, _, keepalive_sent due sending, by rw [if_pos due, sameAgain]⟩
    · exact ⟨[], later, by rw [keepalive, if_neg due], by rw [if_neg due]; rfl⟩

end

/-! ### A single device -/

def single (dev : DDPDevice) : DDPController where
  devices := [dev]
  udpPorts := 1
  opened := fun _ => Nat.one_ne_zero
  sequenceNumber := 0
  lastColors := []
  lastUpdateTime := 0
  keepaliveTimeMs := 1000

def allSent (_ : DDPDevice) (_ : Bytes) : Bool := true

/-- A strip whose data takes two packets. -/
def strip : DDPDevice := { lamp with numLeds := 500 }

theorem countable_single {dev : DDPDevice} (small : 3 * dev.numLeds.toNat < 2 ^ 32) (colors : List RGBColor) :
    Countable colors 0 [dev] := by
  intro k other found _
  cases k with
  | zero =>
      cases found
      refine ⟨small, ?_⟩
      change 0 + 0 + dev.numLeds.toNat < 2 ^ 32
      omega
  | succ k => cases found

theorem updateLEDs_sends_strip :
    ∃ sent c' parts, (single strip).updateLEDs allSent [0x0000FF, 0x00FF00] 0 = some (sent, c') ∧
      sent.map fragments = parts.map some ∧ SendsColored [0x0000FF, 0x00FF00] 0 [strip] parts ∧
      ∀ later, Relation.ReflTransGen (Idle allSent) c' later → ∀ time, ∃ again after,
        later.keepalive allSent time = some (again, after) ∧
          again.map fragments = if later.Due time then parts.map some else [] :=
  updateLEDs_sends (fun _ _ => rfl) (single strip) _ (countable_single (by decide) _) 0

/-- Without colors nothing is sent to the lamp. -/
theorem lamp_skipped :
    ¬ ∃ sent c' parts, (single lamp).updateLEDs allSent [] 0 = some (sent, c') ∧
      sent.map fragments = parts.map some ∧ SendsAll [] [lamp] parts := by
  rintro ⟨sent, c', parts, ran, same, all⟩
  have nothing : (single lamp).updateLEDs allSent [] 0 =
      some ([], { single lamp with sequenceNumber := 1 }) := rfl
  rw [nothing] at ran
  cases ran
  obtain rfl : parts = [] := List.map_eq_nil_iff.mp same.symm
  have none_ : 0 = 3 := (all 0 lamp rfl).tiles
  cases none_

end DDPController
end SyncRGB
