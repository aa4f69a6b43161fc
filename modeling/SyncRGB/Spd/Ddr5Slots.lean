import SyncRGB.Spd.Identification

/-! Detection on a bus of DDR5, where every module has a page of its own. -/
namespace SyncRGB.Spd

namespace SmBus
variable {b b' : SmBus}

/-- All modules are of DDR5: the hub shows its magic numbers on every page. -/
def Ddr5 (b : SmBus) : Prop :=
  ∀ m ∈ b.modules, m.2.ddr = .ddr5 ∧ m.2.content 0 0x82 = 18 ∧
    ∀ page, m.2.content page 0 = 0x51 ∧ m.2.content page 1 &&& 0xEF = 0x08

theorem Ddr5.at (five : b.Ddr5) {addr : Nat} {m : SpdModule} (found : b.modules.lookup addr = some m) :
    m.ddr = .ddr5 ∧ m.content 0 0x82 = 18 ∧ ∀ page, m.content page 0 = 0x51 ∧ m.content page 1 &&& 0xEF = 0x08 :=
  five (addr, m) (mem_of_lookup found)

/-- A module turns to a page. -/
def turn (b : SmBus) (addr page : Nat) : SmBus := b.writeByteData addr 0x0B (.ofNat page)

theorem lookup_turn (addr page other : Nat) :
    (b.turn addr page).modules.lookup other =
      (b.modules.lookup other).map fun m => if other = addr then m.write 0x0B (.ofNat page) else m :=
  lookup_map_value (fun (key : Nat) (m : SpdModule) => if key = addr then m.write 0x0B (.ofNat page) else m) b.modules
    other

theorem write_page {m : SpdModule} (hub : m.ddr = .ddr5) {page : Nat} (small : page < 16) :
    m.write 0x0B (.ofNat page) = { m with page } := by
  have byte : (UInt8.ofNat page).toNat = page := UInt8.toNat_ofNat_of_lt' (Nat.lt_of_lt_of_le small (by decide))
  simp [SpdModule.write, hub, byte]

theorem Ddr5.turn (five : b.Ddr5) {page : Nat} (small : page < 16) (addr : Nat) : (b.turn addr page).Ddr5 := by
  intro m member
  obtain ⟨old, before, rfl⟩ := List.mem_map.mp member
  have same := five old before
  by_cases here : old.1 = addr
  · simpa only [if_pos here, write_page same.1 small] using same
  · simpa only [if_neg here] using same

theorem Ddr5.page_turn (five : b.Ddr5) {addr page : Nat} (small : page < 16) {m : SpdModule}
    (found : (b.turn addr page).modules.lookup addr = some m) : m.page = page := by
  rw [lookup_turn] at found
  obtain ⟨old, before, rfl⟩ := Option.map_eq_some_iff.mp found
  rw [if_pos rfl, write_page (five.at before).1 small]

/-- The same modules as at first, where those with a slot have stayed on the page of their identification. -/
structure Settles (b : SmBus) (found : List Nat) (b' : SmBus) : Prop where
  five : b'.Ddr5
  byte : b'.byte = b.byte
  occupied : b'.occupied = b.occupied
  page : ∀ addr ∈ found, ∀ m, b'.modules.lookup addr = some m → m.page = 4

theorem Settles.refl (five : b.Ddr5) : b.Settles [] b where
  five := five
  byte := rfl
  occupied := rfl
  page _ none_ := absurd none_ List.not_mem_nil

theorem Settles.own {found : List Nat} (settles : b.Settles found b') : b'.own = b.own := by
  funext ddr addr i
  rw [SmBus.own, SmBus.own, settles.byte]

theorem Settles.turn {found : List Nat} (settles : b.Settles found b') {addr page : Nat} (small : page < 16)
    (apart : addr ∈ found → page = 4) : b.Settles found (b'.turn addr page) where
  five := settles.five.turn small addr
  byte := by
    rw [← settles.byte]
    funext other page' offset
    rw [SmBus.byte, SmBus.byte, lookup_turn]
    cases at_ : b'.modules.lookup other with
    | none => rfl
    | some m =>
        by_cases here : other = addr
        · simp [here, write_page (settles.five.at at_).1 small]
        · simp [here]
  occupied := by
    rw [← settles.occupied]
    funext other
    simp [SmBus.occupied, lookup_turn]
  page := by
    intro other member m at_
    by_cases here : other = addr
    · subst here
      exact (settles.five.page_turn small at_).trans (apart member)
    · rw [lookup_turn] at at_
      obtain ⟨old, before, rfl⟩ := Option.map_eq_some_iff.mp at_
      simpa [here] using settles.page other member old before

end SmBus

section Ddr5
variable {b : SmBus}

theorem byteAt_turned {i : Nat} (inside : i < 2048) {address : Nat}
    (on : ∀ m, b.modules.lookup address = some m → m.page = i / 128) :
    SpdAccessor.byteAt i ⟨.ddr5, address, i / 128⟩ b = (b.own .ddr5 address i, ⟨.ddr5, address, i / 128⟩, b) := by
  have room : ¬ 2048 ≤ i := Nat.not_le.mpr inside
  have memory : i % 128 ||| 128 ≠ 11 := by
    have above : 128 ≤ i % 128 ||| 128 := Nat.right_le_or
    omega
  have read : b.readByteData address (i % 128 ||| 128) =
      (b.modules.lookup address).map fun m => m.content (i / 128) (i % 128 ||| 128) := by
    rw [SmBus.readByteData]
    cases found : b.modules.lookup address with
    | none => rfl
    | some m => simp [SpdModule.read, memory, on m found]
  simp [SpdAccessor.byteAt, SpdAccessor.setPage, Ddr.eepromLength, Ddr.pageOf, Ddr.offsetOf, room, read, SmBus.own,
    SmBus.byte]

theorem byteAt_five_new (five : b.Ddr5) {i : Nat} (inside : i < 2048) (address : Nat) :
    SpdAccessor.byteAt i (.new .ddr5 address) b =
      (b.own .ddr5 address i, ⟨.ddr5, address, i / 128⟩, b.turn address (i / 128)) := by
  have small : i / 128 < 16 := by omega
  have turns : SpdAccessor.byteAt i (.new .ddr5 address) b =
      SpdAccessor.byteAt i ⟨.ddr5, address, i / 128⟩ (b.turn address (i / 128)) := by
    have room : ¬ 2048 ≤ i := Nat.not_le.mpr inside
    have fresh : 255 ≠ i / 128 := by omega
    simp [SpdAccessor.byteAt, SpdAccessor.setPage, SpdAccessor.new, Ddr.pageOf, Ddr.eepromLength, room, fresh,
      SmBus.turn]
  have settles : b.Settles [] (b.turn address (i / 128)) := (SmBus.Settles.refl five).turn small fun none_ =>
    absurd none_ List.not_mem_nil
  rw [turns, byteAt_turned inside fun m found => five.page_turn small found, settles.own]

theorem bytesAt_turned {addrs : List Nat} (inside : ∀ i ∈ addrs, i / 128 = 4) {address : Nat}
    (on : ∀ m, b.modules.lookup address = some m → m.page = 4) :
    SpdAccessor.bytesAt addrs ⟨.ddr5, address, 4⟩ b = (addrs.map (b.own .ddr5 address), ⟨.ddr5, address, 4⟩, b) := by
  induction addrs with
  | nil => rfl
  | cons i addrs ih =>
      obtain ⟨here, others⟩ := List.forall_mem_cons.mp inside
      have read := byteAt_turned (show i < 2048 by omega) (here ▸ on)
      rw [here] at read
      simp [SpdAccessor.bytesAt, read, ih others]

/-- The wrapper of a module, whose accessor is on the page of the identifier. -/
def SmBus.settled5 (b : SmBus) (addr : Nat) : SpdWrapper :=
  ⟨addr, 18, some ⟨.ddr5, addr, 4⟩, SpdAccessor.jedecOf (b.own .ddr5 addr 0x200) (b.own .ddr5 addr 0x201)⟩

theorem jedecId_settled5 (b : SmBus) (addr : Nat) : (b.settled5 addr).jedecId = b.jedec .ddr5 addr := by
  simp only [SmBus.settled5, SmBus.jedec, Ddr.jedecIdAddr, Nat.reduceAdd]

variable {b' : SmBus} {found : List Nat}

theorem detectMemoryType_five (settles : b.Settles found b') {memType : UInt8}
    (known : memType = reserved ∨ memType = 18) (addr : Nat) :
    detectMemoryType memType addr b' =
      if b.occupied addr then (some 18, b'.turn addr 0) else (none, b') := by
  have quick : b'.writeQuick = false := by
    rw [SmBus.writeQuick, List.any_eq_false]
    intro m member
    simp [(settles.five m member).1]
  have older : ddr4IsAvailable b' addr = (false, b') := by
    rw [ddr4IsAvailable, quick, if_neg Bool.false_ne_true]
  have tried : memType = reserved ∨ memType ∈ ddr5Types := known.imp_right fun same => by simp [same, ddr5Types]
  rw [← settles.occupied, detectMemoryType]
  simp only [older, ite_self, if_pos tried]
  cases at_ : b'.modules.lookup addr with
  | none =>
      have absent : b'.occupied addr = false := by rw [SmBus.occupied, at_, Option.isSome_none]
      have silent (offset : Nat) : b'.readByteData addr offset = none := by
        rw [SmBus.readByteData, at_, Option.map_none]
      simp [ddr5IsAvailable, ddr5Magic, silent, absent]
  | some m =>
      obtain ⟨hub, type, magic⟩ := settles.five.at at_
      have present : b'.occupied addr = true := by rw [SmBus.occupied, at_, Option.isSome_some]
      have shown : ddr5IsAvailable b' addr = (true, b') := by
        simp [ddr5IsAvailable, ddr5Magic, SmBus.readByteData, at_, SpdModule.read, magic]
      have read := byteAt_five_new settles.five (show 2 < 2048 by decide) addr
      have eighteen : b'.own .ddr5 addr 2 = 18 := by
        simp [SmBus.own, SmBus.byte, at_, Ddr.pageOf, Ddr.offsetOf, type]
      simp [shown, SpdAccessor.memoryType, read, eighteen, present]

/-- A wrapper for a module that is not on the page of the identifier yet turns it there. -/
theorem make_five_new (settles : b.Settles found b') (addr : Nat) :
    SpdWrapper.make addr 18 (some (.new .ddr5 addr)) b' = (b.settled5 addr, b'.turn addr 4) := by
  have on : ∀ m, (b'.turn addr 4).modules.lookup addr = some m → m.page = 4 :=
    fun m at_ => settles.five.page_turn (by decide) at_
  have turned : (b'.turn addr 4).own = b.own :=
    (settles.turn (by decide) fun _ => rfl : b.Settles found (b'.turn addr 4)).own
  have high := byteAt_five_new settles.five (show 0x200 < 2048 by decide) addr
  have low := byteAt_turned (show 0x201 < 2048 by decide) on
  rw [settles.own] at high
  rw [turned] at low
  have jedecId : SpdAccessor.jedecId (.new .ddr5 addr) b' =
      (SpdAccessor.jedecOf (b.own .ddr5 addr 0x200) (b.own .ddr5 addr 0x201), ⟨.ddr5, addr, 4⟩, b'.turn addr 4) := by
    exact jedecId_of_bytes high low
  rw [SpdWrapper.make, jedecId]
  rfl

theorem copy_settled5 (settles : b.Settles found b') {addr : Nat} (member : addr ∈ found) :
    (b.settled5 addr).copy b' = (b.settled5 addr, b') := by
  have on := settles.page addr member
  have high := byteAt_turned (show 0x200 < 2048 by decide) on
  have low := byteAt_turned (show 0x201 < 2048 by decide) on
  rw [settles.own] at high low
  have jedecId : SpdAccessor.jedecId ⟨.ddr5, addr, 4⟩ b' =
      (SpdAccessor.jedecOf (b.own .ddr5 addr 0x200) (b.own .ddr5 addr 0x201), ⟨.ddr5, addr, 4⟩, b') := by
    exact jedecId_of_bytes high low
  have copied : (b.settled5 addr).copy b' = SpdWrapper.make addr 18 (some ⟨.ddr5, addr, 4⟩) b' := rfl
  rw [copied, SpdWrapper.make, jedecId]
  rfl

theorem copyAll_settled5 (settles : b.Settles found b') {addrs : List Nat} (members : ∀ addr ∈ addrs, addr ∈ found) :
    SpdWrapper.copyAll (addrs.map b.settled5) b' = (addrs.map b.settled5, b') := by
  induction addrs with
  | nil => rfl
  | cons addr addrs ih =>
      obtain ⟨here, others⟩ := List.forall_mem_cons.mp members
      simp [SpdWrapper.copyAll, copy_settled5 settles here, ih others]

/-- What one address adds. -/
theorem probe_five (grows : Nat → Bool) (settles : b.Settles found b') {memType : UInt8}
    (known : memType = reserved ∨ memType = 18) {addr : Nat} (other : addr ∉ found) :
    ∃ b'', Dimms.probe grows ⟨memType, found.map b.settled5, b'⟩ addr =
        ⟨if b.occupied addr then 18 else memType, (found ++ [addr].filter b.occupied).map b.settled5, b''⟩ ∧
      b.Settles (found ++ [addr].filter b.occupied) b'' := by
  rw [Dimms.probe, detectMemoryType_five settles known]
  cases present : b.occupied addr with
  | false => exact ⟨b', by simp [present], by simpa [present] using settles⟩
  | true =>
      have probed : b.Settles found (b'.turn addr 0) := settles.turn (by decide) fun member => absurd member other
      have turned : b.Settles (found ++ [addr]) ((b'.turn addr 0).turn addr 4) := by
        have kept : b.Settles found ((b'.turn addr 0).turn addr 4) := probed.turn (by decide) fun _ => rfl
        refine ⟨kept.five, kept.byte, kept.occupied, fun a member m at_ => ?_⟩
        rcases List.mem_append.mp member with before | same
        · exact kept.page a before m at_
        · obtain rfl := List.mem_singleton.mp same
          exact probed.five.page_turn (by decide) at_
      have made : SpdWrapper.ofDetector addr 18 (b'.turn addr 0) = (b.settled5 addr, _) := make_five_new probed addr
      have copied := copy_settled5 turned (List.mem_append_right found List.mem_cons_self)
      have grown : (if grows found.length then
            SpdWrapper.copyAll (found.map b.settled5) ((b'.turn addr 0).turn addr 4)
          else (found.map b.settled5, (b'.turn addr 0).turn addr 4)) =
            (found.map b.settled5, (b'.turn addr 0).turn addr 4) := by
        rw [copyAll_settled5 turned fun a => List.mem_append_left _, ite_self]
      refine ⟨(b'.turn addr 0).turn addr 4, ?_, by simpa [present] using turned⟩
      simp [made, SpdWrapper.pushBack, copied, grown, present]

theorem probes_five (grows : Nat → Bool) (settles : b.Settles found b') {memType : UInt8}
    (known : memType = reserved ∨ memType = 18) {addrs : List Nat} (distinct : (found ++ addrs).Nodup) :
    ∃ b'' memType', addrs.foldl (Dimms.probe grows) ⟨memType, found.map b.settled5, b'⟩ =
        ⟨memType', (found ++ addrs.filter b.occupied).map b.settled5, b''⟩ ∧
      b.Settles (found ++ addrs.filter b.occupied) b'' := by
  induction addrs generalizing found b' memType with
  | nil => exact ⟨b', memType, by simp, by simpa using settles⟩
  | cons addr addrs ih =>
      have other : addr ∉ found := fun member =>
        (List.nodup_append.mp distinct).2.2 addr member addr List.mem_cons_self rfl
      obtain ⟨next, probed, settled⟩ := probe_five grows settles known other
      have split : found ++ (addr :: addrs).filter b.occupied =
          found ++ [addr].filter b.occupied ++ addrs.filter b.occupied := by
        rw [List.append_assoc, ← List.filter_append]
        rfl
      have fewer : (found ++ [addr].filter b.occupied ++ addrs).Nodup := by
        refine distinct.sublist ?_
        rw [List.append_assoc]
        exact (List.Sublist.refl found).append ((List.filter_sublist (l := [addr])).append (List.Sublist.refl addrs))
      have still : (if b.occupied addr then 18 else memType) = reserved ∨
          (if b.occupied addr then 18 else memType) = 18 := by
        split_ifs
        · exact .inr rfl
        · exact known
      obtain ⟨last, memType', run, settles'⟩ := ih settled still fewer
      rw [List.foldl_cons, probed, split]
      exact ⟨last, memType', run, settles'⟩

theorem detectDimms_five (five : b.Ddr5) (grows : Nat → Bool) :
    ∃ b' memType, detectDimms grows b = ⟨memType, (dimmAddresses.filter b.occupied).map b.settled5, b'⟩ ∧
      b.Settles (dimmAddresses.filter b.occupied) b' := by
  have distinct : dimmAddresses.Nodup := List.nodup_range'
  obtain ⟨b', memType, run, settles⟩ := probes_five grows (.refl five) (.inl rfl) distinct
  exact ⟨b', memType, run, settles⟩

theorem ddr5_readsOwn (five : b.Ddr5) (grows : Nat → Bool) : (detectDimms grows b).ReadsOwn .ddr5 b := by
  obtain ⟨b', memType, detected, settles⟩ := detectDimms_five five grows
  rw [detected]
  intro s member
  obtain ⟨addr, found, rfl⟩ := List.mem_map.mp member
  have on := settles.page addr found
  constructor
  · have inside : ∀ i ∈ List.range' 0x209 30, i / 128 = 4 := by decide
    have text := bytesAt_turned inside on
    rw [settles.own] at text
    simp [SpdWrapper.partNumber, SmBus.settled5, SpdAccessor.partNumber, Ddr.partNrStart, Ddr.partNrLen, text]
  · intro index inside
    have inside : index < 85 := inside
    have page : (0x22B + index) / 128 = 4 := by omega
    have read := byteAt_turned (show 0x22B + index < 2048 by omega) (page ▸ on)
    rw [page, settles.own] at read
    simp [SpdWrapper.manufacturerData, SmBus.settled5, SpdAccessor.manufacturerData, Ddr.manufSpecificLen,
      Ddr.manufSpecificStart, Nat.not_le.mpr inside, read]

/-- The modules with an identifier are found, and their slots read their own identification. -/
theorem ddr5_detection (five : b.Ddr5) (grows : Nat → Bool) :
    (∀ jedecId, (slotsWithJedec jedecId (detectDimms grows b).slots).map SpdWrapper.addr = b.slotsOf .ddr5 jedecId) ∧
      (detectDimms grows b).ReadsOwn .ddr5 b := by
  refine ⟨fun jedecId => ?_, ddr5_readsOwn five grows⟩
  obtain ⟨_, _, detected, _⟩ := detectDimms_five five grows
  rw [detected]
  exact slotsWithJedec_addrs (fun _ => rfl) (jedecId_settled5 b) jedecId

end Ddr5

/-- One hub, in the second slot, on some page. -/
def secondHub : SmBus :=
  ⟨[(0x51, ⟨.ddr5, fun page offset =>
    if offset = 0 then 0x51 else if offset = 1 then 0x08 else if page = 0 ∧ offset = 0x82 then 18 else 0x4D, 3⟩)]⟩

theorem secondHub_ddr5 : secondHub.Ddr5 := by
  intro m member
  obtain rfl := List.mem_singleton.mp member
  exact ⟨rfl, rfl, fun _ => ⟨rfl, show (0x08 : UInt8) &&& 0xEF = 0x08 by decide⟩⟩

theorem ddr5_detection_secondHub :
    (slotsWithJedec 0x4D4C (detectDimms (fun _ => true) secondHub).slots).map SpdWrapper.addr = [0x51] ∧
      (detectDimms (fun _ => true) secondHub).ReadsOwn .ddr5 secondHub := by
  obtain ⟨found, reads⟩ := ddr5_detection secondHub_ddr5 fun _ => true
  exact ⟨(found 0x4D4C).trans (by decide), reads⟩

end SyncRGB.Spd
