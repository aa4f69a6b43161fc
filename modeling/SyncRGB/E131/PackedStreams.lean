import SyncRGB.E131.ChannelPacking
import SyncRGB.VectorEdit.RowMajor

/-! When `DeviceUpdateLEDs` stores the bytes of the colors where they belong. -/
namespace SyncRGB
open ByteCodec VectorEdit
namespace E131

variable {colors : List RGBColor} {dev : E131Device}

theorem fillPacket_done {ops : FloatOps} {univ : UInt32} {c : Cursor} (done : c.done = true) :
    fillPacket ops colors dev univ c = ([], c) := by
  rw [fillPacket, dif_neg]
  rintro ⟨open_, -⟩
  rw [done] at open_
  cases open_

/-! ### One packet -/

/-- The counters in front of a byte of the device, which is stored in that channel. -/
def cursorAt (dev : E131Device) (base channel i : Nat) : Cursor where
  channelIdx := .ofNat channel
  ledIdx := i / 3
  rgbIdx := ⟨i % 3, Nat.mod_lt i (by decide)⟩
  done := decide (dev.numLeds.toNat ≤ i / 3)
  colorIdx := .ofNat (base + i / 3)

theorem cursorAt_next (base channel i : Nat) :
    (cursorAt dev base channel i).next dev.numLeds.toNat = cursorAt dev base (channel + 1) (i + 1) := by
  have step (place : Fin 3) (at_ : i % 3 = place.val) :
      (⟨i % 3, Nat.mod_lt i (by decide)⟩ : Fin 3) = place := Fin.ext at_
  obtain zero | one | two : i % 3 = 0 ∨ i % 3 = 1 ∨ i % 3 = 2 := by omega
  · have led : (i + 1) / 3 = i / 3 := by omega
    have place : (i + 1) % 3 = 1 := by omega
    simp [Cursor.next, Packing.next, cursorAt, step 0 zero, led, place]
  · have led : (i + 1) / 3 = i / 3 := by omega
    have place : (i + 1) % 3 = 2 := by omega
    simp [Cursor.next, Packing.next, cursorAt, step 1 one, led, place]
  · have led : (i + 1) / 3 = i / 3 + 1 := by omega
    have place : (i + 1) % 3 = 0 := by omega
    simp [Cursor.next, Packing.next, cursorAt, step 2 two, led, place, ← Nat.add_assoc]

/-- The store of a byte into a channel. -/
def storeAt (colors : List RGBColor) (base : Nat) (univ : UInt32) (channel i : Nat) : Store where
  univ
  channelIdx := .ofNat channel
  value := (readColor colors (.ofNat (base + i / 3))).bind fun color => (rgbBytes color)[i % 3]?

theorem value_cursorAt (base channel i : Nat) :
    (cursorAt dev base channel i).value colors =
      (readColor colors (.ofNat (base + i / 3))).bind fun color => (rgbBytes color)[i % 3]? := by
  show (readColor colors (.ofNat (base + i / 3))).map _ = _
  rw [Option.map_eq_bind]
  congr 1
  funext color
  obtain zero | one | two : i % 3 = 0 ∨ i % 3 = 1 ∨ i % 3 = 2 := by omega
  · simp only [cursorAt, zero]
    rfl
  · simp only [cursorAt, one]
    rfl
  · simp only [cursorAt, two]
    rfl

/-- How many bytes go into the packet whose next free channel is given. -/
def room (dev : E131Device) (channel i : Nat) : Nat :=
  min (3 * dev.numLeds.toNat - i) (dev.universeSize.toNat + 1 - channel)

theorem fillPacket_eq (base : Nat) (univ : UInt32) {channel i : Nat} (narrow : channel + room dev channel i < 2 ^ 32) :
    fillPacket exactOps colors dev univ (cursorAt dev base channel i) =
      ((List.range (room dev channel i)).map fun j => storeAt colors base univ (channel + j) (i + j),
        cursorAt dev base (channel + room dev channel i) (i + room dev channel i)) := by
  induction count : room dev channel i generalizing channel i with
  | zero =>
      rw [fillPacket, dif_neg]
      · rfl
      · rintro ⟨open_, more⟩
        have unfinished : i / 3 < dev.numLeds.toNat := by simpa [cursorAt] using open_
        have fits : (UInt32.ofNat channel).toNat ≤ dev.universeSize.toNat :=
          UInt32.le_iff_toNat_le.mp (of_decide_eq_true more)
        rw [UInt32.toNat_ofNat_of_lt' (by simp only [UInt32.size]; omega)] at fits
        unfold room at count
        omega
  | succ k ih =>
      have first : room dev (channel + 1) (i + 1) = k := by unfold room at count ⊢; omega
      have unfinished : i / 3 < dev.numLeds.toNat := by unfold room at count; omega
      have fits : (UInt32.ofNat channel).toNat ≤ dev.universeSize.toNat := by
        rw [UInt32.toNat_ofNat_of_lt' (by simp only [UInt32.size]; omega)]
        unfold room at count
        omega
      have open_ : (cursorAt dev base channel i).done = false := by simpa [cursorAt] using unfinished
      have more : exactOps.atMost (cursorAt dev base channel i).channelIdx dev.universeSize = true :=
        decide_eq_true (UInt32.le_iff_toNat_le.mpr fits)
      rw [fillPacket, dif_pos ⟨open_, more⟩, cursorAt_next, ih (by omega) first, List.range_succ_eq_map, List.map_cons,
        List.map_map, value_cursorAt]
      refine Prod.ext (congrArg (List.cons (storeAt colors base univ channel i)) ?_) ?_
      · apply List.map_congr_left
        intro j _
        show storeAt colors base univ (channel + 1 + j) (i + 1 + j) =
          storeAt colors base univ (channel + (j + 1)) (i + (j + 1))
        rw [Nat.add_assoc, Nat.add_comm 1 j, Nat.add_assoc i, Nat.add_comm 1 j]
      · show cursorAt dev base (channel + 1 + k) (i + 1 + k) = _
        rw [Nat.add_assoc, Nat.add_comm 1, Nat.add_assoc i, Nat.add_comm 1]

/-! ### All packets of a universe -/

theorem fillPackets_away {ops : FloatOps} {univ : UInt32} {packets : List UInt32} (away : univ ∉ packets) (c : Cursor) :
    fillPackets ops colors dev univ packets c = ([], c) := by
  induction packets with
  | nil => rfl
  | cons packet rest ih =>
      obtain ⟨other, behind⟩ := not_or.mp (mt List.mem_cons.mpr away)
      rw [fillPackets, if_neg fun both => other both.2.symm, ih behind]

/-- A universe with one packet. -/
theorem fillPackets_eq {ops : FloatOps} {univ : UInt32} {packets : List UInt32} (once : packets.Nodup)
    (listed : univ ∈ packets) (c : Cursor) :
    fillPackets ops colors dev univ packets c = fillPacket ops colors dev univ c := by
  induction packets with
  | nil => exact absurd listed List.not_mem_nil
  | cons packet rest ih =>
      obtain ⟨away, once⟩ := List.nodup_cons.mp once
      rw [fillPackets]
      by_cases here : packet = univ
      · subst here
        cases closed : c.done with
        | false =>
            simp only [and_self, if_true, fillPackets_away away, List.append_nil]
        | true =>
            rw [if_neg (fun both => Bool.noConfusion both.1), fillPackets_away away, fillPacket_done closed]
      · rw [if_neg fun both => here both.2, ih once ((List.mem_cons.mp listed).resolve_left fun same => here same.symm)]

/-! ### The places alone -/

theorem packUniverse_of_fillPacket (ops : FloatOps) (univ : UInt32) (c : Cursor) :
    packUniverse ops dev c.toPacking = ((fillPacket ops colors dev univ c).1.map Store.channelIdx,
      (fillPacket ops colors dev univ c).2.toPacking) := by
  induction c using fillPacket.induct ops colors dev univ with
  | case1 c more ih =>
      have next : (c.next dev.numLeds.toNat).toPacking = c.toPacking.next dev.numLeds.toNat := rfl
      rw [next] at ih
      rw [packUniverse, dif_pos more, fillPacket, dif_pos more, ih]
      rfl
  | case2 c stop =>
      rw [packUniverse, dif_neg stop, fillPacket, dif_neg stop]
      rfl

theorem univ_of_fillPacket {ops : FloatOps} {univ : UInt32} {c : Cursor} :
    ∀ store ∈ (fillPacket ops colors dev univ c).1, store.univ = univ := by
  induction c using fillPacket.induct ops colors dev univ with
  | case1 c more ih =>
      rw [fillPacket, dif_pos more]
      exact List.forall_mem_cons.mpr ⟨rfl, ih⟩
  | case2 c stop =>
      rw [fillPacket, dif_neg stop]
      exact fun store member => absurd member List.not_mem_nil

/-- Universes and channels do not depend on the colors. -/
theorem packed_eq_fillDevice (ops : FloatOps) {packets : List UInt32} (once : packets.Nodup)
    (listed : ∀ univ ∈ universesOf ops dev, univ ∈ packets) (colorIdx : Int32) :
    packed ops dev =
      (fillDevice ops colors dev packets colorIdx).1.map fun store => (store.univ, store.channelIdx) := by
  have walk (univs : List UInt32) (c : Cursor) (there : ∀ univ ∈ univs, univ ∈ packets) :
      packUniverses ops dev univs c.toPacking =
        (fillUniverses ops colors dev packets univs c).1.map fun store => (store.univ, store.channelIdx) := by
    induction univs generalizing c with
    | nil => rfl
    | cons univ rest ih =>
        obtain ⟨here, behind⟩ := List.forall_mem_cons.mp there
        have others := ih { (fillPacket ops colors dev univ c).2 with channelIdx := 1 } behind
        rw [packUniverses, fillUniverses, fillPackets_eq once here, packUniverse_of_fillPacket ops,
          List.map_append]
        refine congrArg₂ List.append ?_ others
        rw [List.map_map]
        refine List.map_congr_left fun store member => ?_
        rw [Function.comp_apply, univ_of_fillPacket store member]
  exact walk _ ⟨.start dev.startChannel, colorIdx⟩ listed

/-! ### All universes of a device -/

/-- The store of a byte of the device. -/
def byteStore (colors : List RGBColor) (dev : E131Device) (base i : Nat) : Store :=
  let behind := dev.startChannel.toNat - 1 + i
  storeAt colors base (dev.startUniverse + .ofNat (behind / dev.universeSize.toNat))
    (1 + behind % dev.universeSize.toNat) i

/-- The bytes that are stored when the given number of universes is full. -/
def filledUpTo (dev : E131Device) (count : Nat) : Nat :=
  min (3 * dev.numLeds.toNat) (count * dev.universeSize.toNat - (dev.startChannel.toNat - 1))

/-- No counter of channels wraps. -/
def Narrow (dev : E131Device) : Prop :=
  dev.universeSize.toNat + 1 < 2 ^ 32 ∨ dev.startChannel.toNat + 3 * dev.numLeds.toNat < 2 ^ 32

section
variable {m i channel : Nat}

/-- The byte goes to a channel of the universe with number `m`, or there are no more bytes. -/
def Placed (dev : E131Device) (m i channel : Nat) : Prop :=
  3 * dev.numLeds.toNat ≤ i ∨ dev.startChannel.toNat - 1 + i = cell dev.universeSize.toNat m (channel - 1)

variable (free : 1 ≤ channel) (inside : channel ≤ dev.universeSize.toNat) (place : Placed dev m i channel)
include free inside place

theorem add_room_lt (addressed : Addressed dev) (narrow : Narrow dev) : channel + room dev channel i < 2 ^ 32 := by
  have below := dev.universeSize.toNat_lt
  have first := addressed.start
  unfold room
  unfold Narrow at narrow
  unfold Placed cell at place
  omega

theorem placed_behind : Placed dev (m + 1) (i + room dev channel i) 1 := by
  have next : (m + 1) * dev.universeSize.toNat = m * dev.universeSize.toNat + dev.universeSize.toNat := by ring
  unfold room
  unfold Placed cell at place ⊢
  omega

theorem add_room_le (count : Nat) : i + room dev channel i ≤ max i (filledUpTo dev (m + (count + 1))) := by
  have total : (m + (count + 1)) * dev.universeSize.toNat =
      m * dev.universeSize.toNat + dev.universeSize.toNat + count * dev.universeSize.toNat := by ring
  have few : room dev channel i ≤ 3 * dev.numLeds.toNat - i := Nat.min_le_left _ _
  have short : room dev channel i ≤ dev.universeSize.toNat + 1 - channel := Nat.min_le_right _ _
  by_cases all : 3 * dev.numLeds.toNat ≤ i
  · exact Nat.le_trans (by omega) (Nat.le_max_left _ _)
  · have at_ : dev.startChannel.toNat - 1 + i = m * dev.universeSize.toNat + (channel - 1) := place.resolve_left all
    exact Nat.le_trans (Nat.le_min.mpr ⟨by omega, by omega⟩) (Nat.le_max_right _ _)

end

section
variable (colors) {packets : List UInt32} (once : packets.Nodup) (addressed : Addressed dev) (narrow : Narrow dev)
  (base : Nat)
include once addressed narrow

/-- The universes from the one with number `m` on, when its first free channel is `channel`. -/
theorem fillUniverses_eq {count m i channel : Nat}
    (listed : ∀ k, m ≤ k → k < m + count → dev.startUniverse + .ofNat k ∈ packets)
    (free : 1 ≤ channel) (inside : channel ≤ dev.universeSize.toNat) (place : Placed dev m i channel) :
    ∃ last, fillUniverses exactOps colors dev packets
        ((List.range' m count).map fun k => dev.startUniverse + .ofNat k) (cursorAt dev base channel i) =
      ((List.range' i (filledUpTo dev (m + count) - i)).map (byteStore colors dev base),
        cursorAt dev base last (max i (filledUpTo dev (m + count)))) := by
  induction count generalizing m i channel with
  | zero =>
      have full : filledUpTo dev m ≤ i := by unfold filledUpTo; unfold Placed cell at place; omega
      refine ⟨channel, ?_⟩
      rw [Nat.add_zero, Nat.sub_eq_zero_of_le full, Nat.max_eq_left full]
      rfl
  | succ count ih =>
      have wide := add_room_lt free inside place addressed narrow
      have behind := placed_behind free inside place
      obtain ⟨last, others⟩ := ih (fun k from_ below => listed k (by omega) (by omega)) (le_refl 1) (by omega) behind
      have here (j : Nat) (below : j < room dev channel i) :
          storeAt colors base (dev.startUniverse + .ofNat m) (channel + j) (i + j) =
            byteStore colors dev base (i + j) := by
        have at_ : dev.startChannel.toNat - 1 + (i + j) = cell dev.universeSize.toNat m (channel - 1 + j) := by
          unfold room at below
          unfold Placed cell at place
          unfold cell
          omega
        have col : channel - 1 + j < dev.universeSize.toNat := by unfold room at below; omega
        have shift : 1 + (channel - 1 + j) = channel + j := by omega
        simp only [byteStore, at_, cell_div col, cell_mod col, shift]
      have front : (List.range (room dev channel i)).map (fun j =>
            storeAt colors base (dev.startUniverse + .ofNat m) (channel + j) (i + j)) =
          (List.range' i (room dev channel i)).map (byteStore colors dev base) := by
        rw [List.range'_eq_map_range, List.map_map]
        exact List.map_congr_left fun j mem => here j (List.mem_range.mp mem)
      have reach := add_room_le free inside place count
      have same : m + 1 + count = m + (count + 1) := by omega
      have split : filledUpTo dev (m + (count + 1)) - i =
          room dev channel i + (filledUpTo dev (m + (count + 1)) - (i + room dev channel i)) := by omega
      have stop : max (i + room dev channel i) (filledUpTo dev (m + (count + 1))) =
          max i (filledUpTo dev (m + (count + 1))) := by omega
      rw [same, stop] at others
      have stores := congrArg Prod.fst others
      have cursor := congrArg Prod.snd others
      refine ⟨last, ?_⟩
      simp only [List.range'_succ, List.map_cons, fillUniverses]
      rw [fillPackets_eq once (listed m le_rfl (by omega)), fillPacket_eq base _ wide]
      refine Prod.ext ?_ cursor
      rw [split, ← List.range'_append_1, List.map_append]
      exact congrArg₂ List.append front stores

/-- A device with LEDs, whose universes have packets. -/
theorem fillDevice_eq (leds : 1 ≤ dev.numLeds.toNat) (listed : ∀ univ ∈ universesOf exactOps dev, univ ∈ packets) :
    ∃ last, fillDevice exactOps colors dev packets (.ofNat base) =
      ((List.range (filledUpTo dev (totalUniverses exactOps dev).toNat)).map (byteStore colors dev base),
        cursorAt dev base last (filledUpTo dev (totalUniverses exactOps dev).toNat)) := by
  have start : cursorAt dev base dev.startChannel.toNat 0 = ⟨.start dev.startChannel, .ofNat base⟩ := by
    have unfinished : ¬ dev.numLeds.toNat ≤ 0 / 3 := by omega
    simp only [cursorAt, UInt32.ofNat_toNat, decide_eq_false unfinished]
    rfl
  have each (k : Nat) (_ : 0 ≤ k) (below : k < 0 + (totalUniverses exactOps dev).toNat) :
      dev.startUniverse + .ofNat k ∈ packets :=
    listed _ (List.mem_map.mpr ⟨k, List.mem_range.mpr (by omega), rfl⟩)
  have first : dev.startChannel.toNat - 1 + 0 = cell dev.universeSize.toNat 0 (dev.startChannel.toNat - 1) := by
    unfold cell
    omega
  obtain ⟨last, filled⟩ :=
    fillUniverses_eq colors once addressed narrow base each addressed.start addressed.inside (.inr first)
  rw [start, Nat.zero_add, Nat.sub_zero, Nat.zero_max, ← List.range_eq_range', ← List.range_eq_range'] at filled
  exact ⟨last, filled⟩

end

/-! ### The number of universes -/

theorem totalUniverses_toNat (addressed : Addressed dev) :
    (totalUniverses exactOps dev).toNat =
      ((3 * dev.numLeds.toNat + dev.startChannel.toNat) % 2 ^ 32 + dev.universeSize.toNat - 1) /
        dev.universeSize.toNat := by
  have size := addressed.size
  have channels : (dev.numLeds * 3 + dev.startChannel).toNat =
      (3 * dev.numLeds.toNat + dev.startChannel.toNat) % 2 ^ 32 := by
    rw [UInt32.toNat_add, UInt32.toNat_mul, Nat.mod_add_mod, Nat.mul_comm]
    rfl
  have below := (dev.numLeds * 3 + dev.startChannel).toNat_lt
  show (UInt32.ofNat (((dev.numLeds * 3 + dev.startChannel).toNat + dev.universeSize.toNat - 1) /
    dev.universeSize.toNat)).toNat = _
  rw [UInt32.toNat_ofNat_of_lt', channels]
  rw [UInt32.size, Nat.div_lt_iff_lt_mul size]
  omega

/-- All bytes find a place exactly when the number of channels does not wrap. -/
theorem filledUpTo_total (addressed : Addressed dev) :
    filledUpTo dev (totalUniverses exactOps dev).toNat = 3 * dev.numLeds.toNat ↔
      3 * dev.numLeds.toNat + dev.startChannel.toNat < 2 ^ 32 ∨ dev.numLeds.toNat = 0 := by
  have size := addressed.size
  have start := addressed.start
  rw [totalUniverses_toNat addressed]
  generalize counted : (3 * dev.numLeds.toNat + dev.startChannel.toNat) % 2 ^ 32 = channels
  have upper := Nat.div_mul_le_self (channels + dev.universeSize.toNat - 1) dev.universeSize.toNat
  have lower := Nat.lt_div_mul_add (a := channels + dev.universeSize.toNat - 1) size
  have bound := dev.universeSize.toNat_lt
  unfold filledUpTo
  omega

end E131
end SyncRGB
