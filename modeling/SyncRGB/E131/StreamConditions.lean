import SyncRGB.E131.PackedStreams

/-! The devices whose bytes `DeviceUpdateLEDs` stores where they belong. -/
namespace SyncRGB
open ByteCodec VectorEdit
namespace E131

variable {colors : List RGBColor} {dev : E131Device}

/-! ### One byte -/

theorem readColor_ofNat {index : Nat} (small : index < 2 ^ 31) (colors : List RGBColor) :
    readColor colors (.ofNat index) = colors[index]? := by
  have value : (Int32.ofNat index).toInt = index := Int32.toInt_ofNat_of_lt small
  unfold readColor
  rw [if_neg, value, Int.toNat_natCast]
  rw [Int32.lt_iff_toInt_lt, value]
  exact Int.not_lt.mpr (Int.natCast_nonneg index)

/-- The index behind the largest one is negative. -/
theorem readColor_wrapped (colors : List RGBColor) : readColor colors (.ofNat (2 ^ 31)) = none := rfl

theorem value_byteStore (dev : E131Device) {base i : Nat} (small : base + i / 3 < 2 ^ 31) :
    (byteStore colors dev base i).value = (rgbStream colors)[3 * base + i]? := by
  have place : 3 * base + i = 3 * (base + i / 3) + i % 3 := by omega
  rw [place, getElem?_rgbStream colors _ (Nat.mod_lt i (by decide)), ← readColor_ofNat small]
  rfl

theorem channelIdx_byteStore (addressed : Addressed dev) (colors : List RGBColor) (base i : Nat) :
    (byteStore colors dev base i).channelIdx.toNat =
      1 + (dev.startChannel.toNat - 1 + i) % dev.universeSize.toNat := by
  have below := dev.universeSize.toNat_lt
  have col := Nat.mod_lt (dev.startChannel.toNat - 1 + i) addressed.size
  exact UInt32.toNat_ofNat_of_lt' (by rw [UInt32.size]; omega)

/-- The last byte of a device lies in its last universe. -/
theorem div_le_last (addressed : Addressed dev) {i : Nat} (inside : i < 3 * dev.numLeds.toNat) :
    (dev.startChannel.toNat - 1 + i) / dev.universeSize.toNat ≤
      (dev.startChannel.toNat + 3 * dev.numLeds.toNat - 2) / dev.universeSize.toNat := by
  have start := addressed.start
  exact Nat.div_le_div_right (by omega)

theorem view_byteStore (addressed : Addressed dev) (fits : Fits dev) {base i : Nat}
    (small : base + i / 3 < 2 ^ 31) (inside : i < 3 * dev.numLeds.toNat) :
    (byteStore colors dev base i).view = placed colors dev base i := by
  have within := div_le_last addressed inside
  have last := fits.universes
  have number : (UInt32.ofNat ((dev.startChannel.toNat - 1 + i) / dev.universeSize.toNat)).toNat =
      (dev.startChannel.toNat - 1 + i) / dev.universeSize.toNat :=
    UInt32.toNat_ofNat_of_lt' (by rw [UInt32.size]; omega)
  have univ : (byteStore colors dev base i).univ.toNat =
      dev.startUniverse.toNat + (dev.startChannel.toNat - 1 + i) / dev.universeSize.toNat := by
    show (dev.startUniverse + UInt32.ofNat _).toNat = _
    rw [UInt32.toNat_add, number, Nat.mod_eq_of_lt (by omega)]
  exact Prod.ext univ (Prod.ext (channelIdx_byteStore addressed colors base i) (value_byteStore dev small))

/-! ### One device -/

/-- The stores of a device are its bytes, each read and each in a slot of its packet. -/
structure StoresStream (colors : List RGBColor) (dev : E131Device) (base : Nat) (stores : List Store) : Prop where
  stream : stores.map Store.view = (List.range (3 * dev.numLeds.toNat)).map (placed colors dev base)
  sound : ∀ store ∈ stores, store.Sound

namespace StoresStream
variable {base : Nat} {stores : List Store} (right : StoresStream colors dev base stores)
include right

theorem length_eq : stores.length = 3 * dev.numLeds.toNat := by
  have lengths := congrArg List.length right.stream
  rwa [List.length_map, List.length_map, List.length_range] at lengths

theorem exists_store {i : Nat} (inside : i < 3 * dev.numLeds.toNat) :
    ∃ store ∈ stores, store.view = placed colors dev base i := by
  have member : placed colors dev base i ∈ stores.map Store.view := by
    rw [right.stream]
    exact List.mem_map.mpr ⟨i, List.mem_range.mpr inside, rfl⟩
  exact List.mem_map.mp member

/-- Otherwise there is a byte for the first channel behind the packet, or the first byte is for one. -/
theorem slots (addressed : Addressed dev) (leds : 1 ≤ dev.numLeds.toNat) :
    dev.universeSize.toNat ≤ 512 ∨ dev.startChannel.toNat - 1 + 3 * dev.numLeds.toNat ≤ 512 := by
  by_contra wide
  obtain ⟨store, member, at_⟩ := right.exists_store (i := 512 - (dev.startChannel.toNat - 1)) (by omega)
  have slot := (right.sound store member).slot
  have channel : store.channelIdx.toNat = 1 + (dev.startChannel.toNat - 1 + (512 - (dev.startChannel.toNat - 1))) %
      dev.universeSize.toNat := congrArg (fun view => view.2.1) at_
  have inside := addressed.inside
  have start := addressed.start
  rw [Nat.mod_eq_of_lt (by omega)] at channel
  omega

theorem universes (addressed : Addressed dev) (leds : 1 ≤ dev.numLeds.toNat) :
    dev.startUniverse.toNat + (dev.startChannel.toNat + 3 * dev.numLeds.toNat - 2) / dev.universeSize.toNat
      < 2 ^ 32 := by
  have start := addressed.start
  have last : dev.startChannel.toNat + 3 * dev.numLeds.toNat - 2 =
      dev.startChannel.toNat - 1 + (3 * dev.numLeds.toNat - 1) := by omega
  obtain ⟨store, -, at_⟩ := right.exists_store (i := 3 * dev.numLeds.toNat - 1) (by omega)
  have univ : store.univ.toNat = _ := congrArg Prod.fst at_
  rw [last]
  calc
    _ = store.univ.toNat := univ.symm
    _ < 2 ^ 32 := store.univ.toNat_lt

theorem enough (leds : 1 ≤ dev.numLeds.toNat) : base + dev.numLeds.toNat ≤ colors.length := by
  obtain ⟨store, member, at_⟩ := right.exists_store (i := 3 * dev.numLeds.toNat - 1) (by omega)
  have value : store.value = (rgbStream colors)[3 * base + (3 * dev.numLeds.toNat - 1)]? :=
    congrArg (fun view => view.2.2) at_
  have read := (right.sound store member).read
  rw [value] at read
  obtain ⟨byte, found⟩ := Option.isSome_iff_exists.mp read
  have below := (List.getElem?_eq_some_iff.mp found).1
  rw [rgbStream_length] at below
  omega

end StoresStream

theorem Fits.narrow (fits : Fits dev) : Narrow dev := by
  have slots := fits.slots
  unfold Narrow
  omega

section
variable (colors) {packets : List UInt32} (once : packets.Nodup) (addressed : Addressed dev)
  (listed : ∀ univ ∈ universesOf exactOps dev, univ ∈ packets)
include once addressed listed

/-- All bytes of a device that fits are stored, and the next device goes on behind its colors. -/
theorem fillDevice_fits (fits : Fits dev) (base : Nat) :
    ∃ last, fillDevice exactOps colors dev packets (.ofNat base) =
      ((List.range (3 * dev.numLeds.toNat)).map (byteStore colors dev base),
        cursorAt dev base last (3 * dev.numLeds.toNat)) := by
  have full := (filledUpTo_total addressed).mpr (.inl fits.channels)
  have filled := fillDevice_eq colors once addressed fits.narrow base fits.leds listed
  rwa [full] at filled

/-- A device without LEDs gets one byte stored, which is read from the color of the next LED. -/
theorem fillDevice_empty (none_ : dev.numLeds.toNat = 0) (base : Nat) :
    (fillDevice exactOps colors dev packets (.ofNat base)).1 ≠ [] := by
  have start := addressed.start
  have size := addressed.size
  have counted : (totalUniverses exactOps dev).toNat ≠ 0 := by
    have below := dev.startChannel.toNat_lt
    rw [totalUniverses_toNat addressed, none_, Nat.mul_zero, Nat.zero_add, Nat.mod_eq_of_lt below]
    exact Nat.ne_of_gt (Nat.div_pos (by omega) size)
  obtain ⟨count, total⟩ := Nat.exists_eq_succ_of_ne_zero counted
  have universes : universesOf exactOps dev = (dev.startUniverse + .ofNat 0) ::
      (List.range' 1 count).map fun univIdx => dev.startUniverse + UInt32.ofNat univIdx := by
    rw [universesOf, total, List.range_eq_range', Nat.succ_eq_add_one, List.range'_succ, List.map_cons]
  have first := listed _ (universes ▸ List.mem_cons_self)
  have free : exactOps.atMost dev.startChannel dev.universeSize = true :=
    decide_eq_true (UInt32.le_iff_toNat_le.mpr addressed.inside)
  rw [fillDevice, universes, fillUniverses, fillPackets_eq once first, fillPacket, dif_pos ⟨rfl, free⟩]
  exact List.cons_ne_nil _ _

theorem storesStream_iff {base : Nat} (start : base ≤ 2 ^ 31) :
    StoresStream colors dev base (fillDevice exactOps colors dev packets (.ofNat base)).1 ↔
      Fits dev ∧ base + dev.numLeds.toNat ≤ colors.length ∧ base + dev.numLeds.toNat ≤ 2 ^ 31 := by
  constructor
  · intro right
    have leds : 1 ≤ dev.numLeds.toNat := by
      by_contra none_
      have length := right.length_eq
      have empty : (fillDevice exactOps colors dev packets (.ofNat base)).1.length = 0 := by omega
      exact fillDevice_empty colors once addressed listed (by omega) base (List.length_eq_zero_iff.mp empty)
    have slots := right.slots addressed leds
    have narrow : Narrow dev := by unfold Narrow; omega
    obtain ⟨last, filled⟩ := fillDevice_eq colors once addressed narrow base leds listed
    have full : filledUpTo dev (totalUniverses exactOps dev).toNat = 3 * dev.numLeds.toNat := by
      have length := right.length_eq
      rwa [filled, List.length_map, List.length_range] at length
    have channels := ((filledUpTo_total addressed).mp full).resolve_right (by omega)
    refine ⟨⟨leds, channels, slots, right.universes addressed leds⟩, right.enough leds, ?_⟩
    by_contra above
    have member : byteStore colors dev base (3 * (2 ^ 31 - base)) ∈
        (fillDevice exactOps colors dev packets (.ofNat base)).1 := by
      rw [filled, full]
      exact List.mem_map.mpr ⟨_, List.mem_range.mpr (by omega), rfl⟩
    have read := (right.sound _ member).read
    have index : base + 3 * (2 ^ 31 - base) / 3 = 2 ^ 31 := by omega
    have value : (byteStore colors dev base (3 * (2 ^ 31 - base))).value = none := by
      show (readColor colors (.ofNat (base + 3 * (2 ^ 31 - base) / 3))).bind _ = none
      rw [index, readColor_wrapped]
      rfl
    rw [value] at read
    cases read
  · rintro ⟨fits, enough, indices⟩
    obtain ⟨last, filled⟩ := fillDevice_fits colors once addressed listed fits base
    rw [filled]
    constructor
    · rw [List.map_map]
      apply List.map_congr_left
      intro i mem
      have inside := List.mem_range.mp mem
      exact view_byteStore addressed fits (by omega) inside
    · intro store member
      obtain ⟨i, mem, rfl⟩ := List.mem_map.mp member
      have inside := List.mem_range.mp mem
      constructor
      · rw [value_byteStore dev (by omega), List.getElem?_eq_getElem (by rw [rgbStream_length]; omega)]
        rfl
      · have slots := fits.slots
        have col := Nat.mod_lt (dev.startChannel.toNat - 1 + i) addressed.size
        have low := Nat.mod_le (dev.startChannel.toNat - 1 + i) dev.universeSize.toNat
        rw [channelIdx_byteStore addressed]
        omega

end

/-! ### All devices -/

/-- From any color on that is there. -/
theorem storesStreams_iff (colors : List RGBColor) {packets : List UInt32} (once : packets.Nodup)
    {devices : List E131Device} (addressed : ∀ dev ∈ devices, Addressed dev)
    (listed : ∀ dev ∈ devices, ∀ univ ∈ universesOf exactOps dev, univ ∈ packets) {base : Nat}
    (there : base ≤ colors.length) (start : base ≤ 2 ^ 31) :
    (fillDevices exactOps colors packets devices (.ofNat base)).map (List.map Store.view) =
          streams colors base devices ∧
        (∀ stores ∈ fillDevices exactOps colors packets devices (.ofNat base), ∀ store ∈ stores, store.Sound) ↔
      (∀ dev ∈ devices, Fits dev) ∧ base + ledsOf devices ≤ colors.length ∧ base + ledsOf devices ≤ 2 ^ 31 := by
  induction devices generalizing base with
  | nil => simpa [fillDevices, streams, ledsOf] using ⟨there, start⟩
  | cons dev rest ih =>
      obtain ⟨addressedHere, addressedRest⟩ := List.forall_mem_cons.mp addressed
      obtain ⟨listedHere, listedRest⟩ := List.forall_mem_cons.mp listed
      have first := storesStream_iff colors once addressedHere listedHere start
      have total : ledsOf (dev :: rest) = dev.numLeds.toNat + ledsOf rest := List.sum_cons
      have next (fits : Fits dev) :
          (fillDevice exactOps colors dev packets (.ofNat base)).2.colorIdx = .ofNat (base + dev.numLeds.toNat) := by
        obtain ⟨last, filled⟩ := fillDevice_fits colors once addressedHere listedHere fits base
        rw [filled]
        show Int32.ofNat (base + 3 * dev.numLeds.toNat / 3) = _
        rw [Nat.mul_div_cancel_left _ (by decide)]
      rw [total, ← Nat.add_assoc, List.forall_mem_cons, fillDevices, streams, List.map_cons, List.forall_mem_cons]
      constructor
      · rintro ⟨views, soundHere, soundRest⟩
        obtain ⟨viewsHere, viewsRest⟩ := List.cons.inj views
        obtain ⟨fits, enough, indices⟩ := first.mp ⟨viewsHere, soundHere⟩
        rw [next fits] at viewsRest soundRest
        obtain ⟨fitsRest, both⟩ := (ih addressedRest listedRest enough indices).mp ⟨viewsRest, soundRest⟩
        exact ⟨⟨fits, fitsRest⟩, both⟩
      · rintro ⟨⟨fits, fitsRest⟩, enough, indices⟩
        have right := first.mpr ⟨fits, by omega, by omega⟩
        obtain ⟨viewsRest, soundRest⟩ :=
          (ih addressedRest listedRest (by omega) (by omega)).mpr ⟨fitsRest, enough, indices⟩
        rw [next fits]
        exact ⟨congrArg₂ List.cons right.stream viewsRest, right.sound, soundRest⟩

theorem nodup_universes (ops : FloatOps) (devices : List E131Device) : (universes ops devices).Nodup := by
  have added (univs given : List UInt32) (once : given.Nodup) : (univs.foldl addUniverse given).Nodup := by
    induction univs generalizing given with
    | nil => exact once
    | cons univ univs ih =>
        apply ih
        unfold addUniverse
        split
        · exact once
        · rename_i new
          exact List.nodup_append.mpr ⟨once, List.nodup_singleton univ, by
            rintro _ there _ here rfl
            exact new (List.mem_singleton.mp here ▸ there)⟩
  exact added _ [] List.nodup_nil

/-- Every universe into which something is stored has its packet. -/
theorem univ_of_fillPackets {ops : FloatOps} {univ : UInt32} {packets : List UInt32} {c : Cursor} :
    ∀ store ∈ (fillPackets ops colors dev univ packets c).1, store.univ ∈ packets := by
  induction packets generalizing c with
  | nil => exact fun store member => absurd member List.not_mem_nil
  | cons packet rest ih =>
      rw [fillPackets]
      split
      · rename_i here
        intro store member
        rcases List.mem_append.mp member with mine | later
        · rw [univ_of_fillPacket store mine, ← here.2]
          exact List.mem_cons_self
        · exact List.mem_cons_of_mem packet (ih store later)
      · exact fun store member => List.mem_cons_of_mem packet (ih store member)

theorem univ_of_fillUniverses {ops : FloatOps} {packets univs : List UInt32} {c : Cursor} :
    ∀ store ∈ (fillUniverses ops colors dev packets univs c).1, store.univ ∈ packets := by
  induction univs generalizing c with
  | nil => exact fun store member => absurd member List.not_mem_nil
  | cons univ rest ih => exact List.forall_mem_append.mpr ⟨univ_of_fillPackets, ih⟩

theorem univ_of_fillDevices {ops : FloatOps} {packets : List UInt32} {devices : List E131Device} {colorIdx : Int32} :
    ∀ stores ∈ fillDevices ops colors packets devices colorIdx, ∀ store ∈ stores, store.univ ∈ packets := by
  induction devices generalizing colorIdx with
  | nil => exact fun stores member => absurd member List.not_mem_nil
  | cons dev rest ih => exact List.forall_mem_cons.mpr ⟨univ_of_fillUniverses, ih⟩

/-- The bytes of the colors come where they belong exactly when all devices fit and there is a color for each LED. -/
theorem packsStreams_iff (colors : List RGBColor) (devices : List E131Device)
    (addressed : ∀ dev ∈ devices, Addressed dev) : PacksStreams colors devices ↔ Packable colors devices := by
  have listed (dev : E131Device) (member : dev ∈ devices) (univ : UInt32) (used : univ ∈ universesOf exactOps dev) :
      univ ∈ universes exactOps devices := mem_universes.mpr ⟨dev, member, used⟩
  have whole := storesStreams_iff colors (nodup_universes exactOps devices) addressed listed
    (Nat.zero_le colors.length) (Nat.zero_le _)
  rw [Nat.zero_add] at whole
  constructor
  · intro packs
    obtain ⟨fits, enough, indices⟩ := whole.mp ⟨packs.streams, packs.sound⟩
    exact ⟨fits, enough, indices⟩
  · intro packable
    obtain ⟨streams, sound⟩ := whole.mpr ⟨packable.fits, packable.enough, packable.indices⟩
    exact ⟨streams, sound, univ_of_fillDevices⟩

theorem addressed_strip (numLeds startUniverse : UInt32) : Addressed (strip numLeds startUniverse) :=
  ⟨(by decide : 1 ≤ (512 : UInt32).toNat), (by decide : 1 ≤ (1 : UInt32).toNat),
    (by decide : (1 : UInt32).toNat ≤ (512 : UInt32).toNat)⟩

/-- A red and a green LED. -/
theorem packsStreams_two_leds :
    (∀ dev ∈ [strip 2 1], Addressed dev) ∧ PacksStreams [0x0000FF, 0x00FF00] [strip 2 1] := by
  have addressed : ∀ dev ∈ [strip 2 1], Addressed dev := List.forall_mem_singleton.mpr (addressed_strip 2 1)
  have fits : Fits (strip 2 1) := ⟨by decide, by decide, .inl (by decide), by decide⟩
  exact ⟨addressed, (packsStreams_iff _ _ addressed).mpr
    ⟨List.forall_mem_singleton.mpr fits, by decide, by decide⟩⟩

/-- A strip without LEDs gets a byte stored nevertheless. -/
theorem empty_strip_stores : Addressed (strip 0 1) ∧ ¬ PacksStreams [] [strip 0 1] := by
  refine ⟨addressed_strip 0 1, fun packs => ?_⟩
  have listed : ∀ univ ∈ universesOf exactOps (strip 0 1), univ ∈ universes exactOps [strip 0 1] :=
    fun univ used => mem_universes.mpr ⟨_, List.mem_singleton.mpr rfl, used⟩
  have stores := fillDevice_empty [] (nodup_universes exactOps [strip 0 1]) (addressed_strip 0 1) listed
    rfl 0
  exact stores (List.map_eq_nil_iff.mp (List.cons.inj packs.streams).1)

end E131
end SyncRGB
