import SyncRGB.Spd.Identification

/-! Detection on a bus of DDR4, where one command turns the pages of all modules. -/
namespace SyncRGB.Spd

namespace SmBus
variable {b : SmBus}

/-- All modules are of DDR4, and say so on their first page. -/
def Ddr4 (b : SmBus) : Prop :=
  ∀ m ∈ b.modules, m.2.ddr = .ddr4 ∧ m.2.content 0 0 = 0x23 ∧ m.2.content 0 2 = 12

theorem Ddr4.at (four : b.Ddr4) {addr : Nat} {m : SpdModule} (found : b.modules.lookup addr = some m) :
    m.ddr = .ddr4 ∧ m.content 0 0 = 0x23 ∧ m.content 0 2 = 12 :=
  four (addr, m) (mem_of_lookup found)

theorem Ddr4.selectPage (four : b.Ddr4) (page : Nat) : (b.selectPage page).Ddr4 := by
  intro m member
  obtain ⟨old, before, rfl⟩ := List.mem_map.mp member
  have same := four old before
  simpa [SpdModule.hear, same.1] using same.2

theorem Ddr4.readByteData (four : b.Ddr4) (page addr offset : Nat) :
    (b.selectPage page).readByteData addr offset = (b.modules.lookup addr).map fun m => m.content page offset := by
  rw [SmBus.readByteData, lookup_selectPage]
  cases found : b.modules.lookup addr with
  | none => rfl
  | some m => simp [SpdModule.hear, SpdModule.read, (four.at found).1]

theorem Ddr4.writeQuick (four : b.Ddr4) : b.writeQuick = true ∨ b = ⟨[]⟩ := by
  obtain ⟨_ | ⟨m, modules⟩⟩ := b
  · exact .inr rfl
  · exact .inl (by simp [SmBus.writeQuick, (four m List.mem_cons_self).1])

end SmBus

/-- A page of a module of DDR4 has the identification that belongs on its second page. -/
def SmBus.IdentifiedOn (b : SmBus) (page addr : Nat) : Prop :=
  SpdAccessor.unpadded ((List.range' 0x149 20).map fun i => b.byte addr page (i % 256)) =
      SpdAccessor.unpadded ((List.range' 0x149 20).map (b.own .ddr4 addr)) ∧
    ∀ index < 29, b.byte addr page ((0x161 + index) % 256) = b.own .ddr4 addr (0x161 + index)

theorem identifiedOn_second (b : SmBus) (addr : Nat) : b.IdentifiedOn 1 addr := by
  have second {i : Nat} (there : i / 256 = 1) : b.byte addr 1 (i % 256) = b.own .ddr4 addr i := by
    rw [SmBus.own, Ddr.pageOf, Ddr.offsetOf, there]
  have text : ∀ i ∈ List.range' 0x149 20, i / 256 = 1 := by decide
  constructor
  · rw [List.map_congr_left fun i member => second (text i member)]
  · exact fun index inside => second (by omega)

section Ddr4
variable {b : SmBus} (four : b.Ddr4)
include four

theorem ddr4IsAvailable_eq (addr : Nat) : ddr4IsAvailable b addr = (b.occupied addr, b.selectPage 0) := by
  have answers : ((b.selectPage 0).readByteData addr 0 == some 0x23) = b.occupied addr := by
    rw [four.readByteData, SmBus.occupied]
    cases found : b.modules.lookup addr with
    | none => rfl
    | some m => simp [(four.at found).2.1]
  rcases four.writeQuick with quick | rfl
  · rw [ddr4IsAvailable, answers, if_pos quick]
  · rfl

/-- Probing leaves all modules on their first page. -/
theorem detectMemoryType_eq {memType : UInt8} (known : memType = reserved ∨ memType = 12) (addr : Nat) :
    detectMemoryType memType addr b = (if b.occupied addr then some 12 else none, b.selectPage 0) := by
  have tried : memType = reserved ∨ memType ∈ ddr4Types := known.imp_right fun same => by simp [same, ddr4Types]
  rw [detectMemoryType, if_pos tried, ddr4IsAvailable_eq four]
  cases found : b.modules.lookup addr with
  | some m =>
      have present : b.occupied addr = true := by rw [SmBus.occupied, found, Option.isSome_some]
      simp [present, SpdAccessor.memoryType, SpdAccessor.byteAt, SpdAccessor.setPage, SpdAccessor.new, Ddr.eepromLength,
        Ddr.pageOf, Ddr.offsetOf, four.readByteData, found, (four.at found).2.2]
  | none =>
      have absent : b.occupied addr = false := by rw [SmBus.occupied, found, Option.isSome_none]
      have silent (offset : Nat) : (b.selectPage 0).readByteData addr offset = none := by
        rw [four.readByteData, found, Option.map_none]
      have off : ddr5IsAvailable (b.selectPage 0) addr = (false, b.selectPage 0) := by
        simp [ddr5IsAvailable, ddr5Magic, silent]
      simp [absent, off, silent]

/-- An accessor that has its page reads from the page that the modules are on. -/
theorem byteAt_cached {addr : Nat} (inside : addr < 512) (address page : Nat) :
    SpdAccessor.byteAt addr ⟨.ddr4, address, addr / 256⟩ (b.selectPage page) =
      (b.byte address page (addr % 256), ⟨.ddr4, address, addr / 256⟩, b.selectPage page) := by
  have room : ¬ 512 ≤ addr := Nat.not_le.mpr inside
  simp [SpdAccessor.byteAt, SpdAccessor.setPage, Ddr.eepromLength, Ddr.pageOf, Ddr.offsetOf, room, four.readByteData,
    SmBus.byte]

theorem byteAt_new {addr : Nat} (inside : addr < 512) (address : Nat) :
    SpdAccessor.byteAt addr (.new .ddr4 address) b =
      (b.byte address (addr / 256) (addr % 256), ⟨.ddr4, address, addr / 256⟩, b.selectPage (addr / 256)) := by
  have room : ¬ 512 ≤ addr := Nat.not_le.mpr inside
  have fresh : 255 ≠ addr / 256 := by omega
  simp [SpdAccessor.byteAt, SpdAccessor.setPage, SpdAccessor.new, Ddr.eepromLength, Ddr.pageOf, Ddr.offsetOf, room,
    fresh, four.readByteData, SmBus.byte]

theorem bytesAt_cached {addrs : List Nat} (inside : ∀ addr ∈ addrs, addr / 256 = 1) (address page : Nat) :
    SpdAccessor.bytesAt addrs ⟨.ddr4, address, 1⟩ (b.selectPage page) =
      (addrs.map fun addr => b.byte address page (addr % 256), ⟨.ddr4, address, 1⟩, b.selectPage page) := by
  induction addrs with
  | nil => rfl
  | cons addr addrs ih =>
      obtain ⟨here, others⟩ := List.forall_mem_cons.mp inside
      have read := byteAt_cached four (show addr < 512 by omega) address page
      rw [here] at read
      simp [SpdAccessor.bytesAt, read, ih others]

omit four in
/-- The wrapper of a module: its accessor is on the second page, where the identifier is. -/
def SmBus.settled (b : SmBus) (addr : Nat) : SpdWrapper :=
  ⟨addr, 12, some ⟨.ddr4, addr, 1⟩, SpdAccessor.jedecOf (b.byte addr 1 0x40) (b.byte addr 1 0x41)⟩

omit four in
theorem jedecId_settled (b : SmBus) (addr : Nat) : (b.settled addr).jedecId = b.jedec .ddr4 addr := by
  simp only [SmBus.settled, SmBus.jedec, SmBus.own, Ddr.jedecIdAddr, Ddr.pageOf, Ddr.offsetOf, Nat.reduceAdd,
    Nat.reduceDiv, Nat.reduceMod]

omit four in
@[simp]
theorem settled_selectPage (page : Nat) : (b.selectPage page).settled = b.settled := by
  funext addr
  simp [SmBus.settled]

theorem make_new (addr : Nat) :
    SpdWrapper.make addr 12 (some (.new .ddr4 addr)) b = (b.settled addr, b.selectPage 1) := by
  have high := byteAt_new four (show 0x140 < 512 by decide) addr
  have low := byteAt_cached four (show 0x141 < 512 by decide) addr 1
  simp only [Nat.reduceDiv, Nat.reduceMod] at high low
  have jedecId : SpdAccessor.jedecId (.new .ddr4 addr) b =
      (SpdAccessor.jedecOf (b.byte addr 1 0x40) (b.byte addr 1 0x41), ⟨.ddr4, addr, 1⟩, b.selectPage 1) :=
    jedecId_of_bytes high low
  rw [SpdWrapper.make, jedecId]
  rfl

theorem copy_settled (addr : Nat) : (b.settled addr).copy b = (b.settled addr, b.selectPage 1) :=
  make_new four addr

theorem copyAll_settled (addrs : List Nat) :
    SpdWrapper.copyAll (addrs.map b.settled) (b.selectPage 1) = (addrs.map b.settled, b.selectPage 1) := by
  induction addrs with
  | nil => rfl
  | cons addr addrs ih =>
      have copied := copy_settled (four.selectPage 1) addr
      rw [settled_selectPage, SmBus.selectPage_selectPage] at copied
      simp [SpdWrapper.copyAll, copied, ih]

/-- What one address adds, from any pages. -/
theorem probe_eq {grows : Nat → Bool} {memType : UInt8} (known : memType = reserved ∨ memType = 12) (found : List Nat)
    (addr : Nat) :
    Dimms.probe grows ⟨memType, found.map b.settled, b⟩ addr =
      if b.occupied addr then ⟨12, (found ++ [addr]).map b.settled, b.selectPage 1⟩
      else ⟨memType, found.map b.settled, b.selectPage 0⟩ := by
  rw [Dimms.probe, detectMemoryType_eq four known]
  cases present : b.occupied addr with
  | false => rfl
  | true =>
      have made := make_new (four.selectPage 0) addr
      have copied := copy_settled (four.selectPage 1) addr
      rw [settled_selectPage, SmBus.selectPage_selectPage] at made copied
      have detected : SpdWrapper.ofDetector addr 12 (b.selectPage 0) = (b.settled addr, b.selectPage 1) := made
      have grown : (if grows found.length then SpdWrapper.copyAll (found.map b.settled) (b.selectPage 1)
          else (found.map b.settled, b.selectPage 1)) = (found.map b.settled, b.selectPage 1) := by
        rw [copyAll_settled four, ite_self]
      simp [detected, SpdWrapper.pushBack, copied, grown]

omit four in
/-- The bus behind the probes of some addresses. -/
def SmBus.probed (b : SmBus) (addrs : List Nat) : SmBus :=
  match addrs.getLast? with
  | none => b
  | some last => b.selectPage (if b.occupied last then 1 else 0)

theorem probes_eq {grows : Nat → Bool} {memType : UInt8} (known : memType = reserved ∨ memType = 12)
    (found addrs : List Nat) :
    addrs.foldl (Dimms.probe grows) ⟨memType, found.map b.settled, b⟩ =
      ⟨if addrs.any b.occupied then 12 else memType, (found ++ addrs.filter b.occupied).map b.settled,
        b.probed addrs⟩ := by
  induction addrs generalizing b memType found with
  | nil => simp [SmBus.probed]
  | cons addr addrs ih =>
      have turned (page : Nat) (same : page = if b.occupied addr then 1 else 0) :
          (b.selectPage page).probed addrs = b.probed (addr :: addrs) := by
        cases addrs with
        | nil => rw [same]; rfl
        | cons next addrs =>
            rw [SmBus.probed, SmBus.probed, List.getLast?_cons_cons,
              List.getLast?_eq_some_getLast (List.cons_ne_nil _ _)]
            simp
      rw [List.foldl_cons, probe_eq four known]
      cases present : b.occupied addr with
      | true =>
          have later := ih (four.selectPage 1) (.inr rfl) (found ++ [addr])
          rw [settled_selectPage, SmBus.occupied_selectPage, turned 1 (by rw [present, if_pos rfl])] at later
          rw [if_pos rfl, later]
          simp [present]
      | false =>
          have later := ih (four.selectPage 0) known found
          rw [settled_selectPage, SmBus.occupied_selectPage, turned 0 (by rw [present]; rfl)] at later
          rw [if_neg Bool.false_ne_true, later]
          simp [present]

theorem partNumber_settled (addr page : Nat) :
    (b.settled addr).partNumber (b.selectPage page) = (SpdAccessor.unpadded
      ((List.range' 0x149 20).map fun i => b.byte addr page (i % 256)), b.settled addr, b.selectPage page) := by
  have inside : ∀ i ∈ List.range' 0x149 20, i / 256 = 1 := by decide
  have text := bytesAt_cached four inside addr page
  simp [SpdWrapper.partNumber, SmBus.settled, SpdAccessor.partNumber, Ddr.partNrStart, Ddr.partNrLen, text]

theorem manufacturerData_settled {index : Nat} (inside : index < 29) (addr page : Nat) :
    (b.settled addr).manufacturerData index (b.selectPage page) =
      (b.byte addr page ((0x161 + index) % 256), b.settled addr, b.selectPage page) := by
  have read := byteAt_cached four (show 0x161 + index < 512 by omega) addr page
  rw [show (0x161 + index) / 256 = 1 by omega] at read
  simp [SpdWrapper.manufacturerData, SmBus.settled, SpdAccessor.manufacturerData, Ddr.manufSpecificLen,
    Ddr.manufSpecificStart, Nat.not_le.mpr inside, read]

theorem detectDimms_eq (grows : Nat → Bool) :
    detectDimms grows b =
      ⟨if dimmAddresses.any b.occupied then 12 else reserved, (dimmAddresses.filter b.occupied).map b.settled,
        b.selectPage (if b.occupied 0x57 then 1 else 0)⟩ :=
  probes_eq four (.inl rfl) [] dimmAddresses

theorem readsOwn_settled_iff (memType : UInt8) (addrs : List Nat) (page : Nat) :
    Dimms.ReadsOwn .ddr4 b ⟨memType, addrs.map b.settled, b.selectPage page⟩ ↔
      ∀ addr ∈ addrs, b.IdentifiedOn page addr := by
  rw [Dimms.ReadsOwn, List.forall_mem_map]
  refine forall₂_congr fun addr _ => and_congr ?_ (forall₂_congr fun index inside => ?_)
  · rw [partNumber_settled four]
    simp only [Prod.mk.injEq, and_true]
    rfl
  · rw [manufacturerData_settled four inside]
    simp only [Prod.mk.injEq, and_true]
    rfl

/-- The probe of the last address leaves all modules on their first page where it finds none there. -/
theorem ddr4_readsOwn_iff (grows : Nat → Bool) :
    (detectDimms grows b).ReadsOwn .ddr4 b ↔
      b.occupied 0x57 = true ∨ ∀ addr ∈ dimmAddresses, b.occupied addr = true → b.IdentifiedOn 0 addr := by
  rw [detectDimms_eq four, readsOwn_settled_iff four]
  cases last : b.occupied 0x57 with
  | true => exact iff_of_true (fun addr _ => identifiedOn_second b addr) (.inl rfl)
  | false =>
      simp only [List.mem_filter, Bool.false_eq_true, false_or, if_false]
      exact forall_congr' fun addr => and_imp

/-- The modules with an identifier are found. Their slots read their own identification exactly where the last address
has a module, or the first pages have it too. -/
theorem ddr4_detection (grows : Nat → Bool) :
    (∀ jedecId, (slotsWithJedec jedecId (detectDimms grows b).slots).map SpdWrapper.addr = b.slotsOf .ddr4 jedecId) ∧
      ((detectDimms grows b).ReadsOwn .ddr4 b ↔
        b.occupied 0x57 = true ∨ ∀ addr ∈ dimmAddresses, b.occupied addr = true → b.IdentifiedOn 0 addr) := by
  refine ⟨fun jedecId => ?_, ddr4_readsOwn_iff four grows⟩
  rw [detectDimms_eq four]
  exact slotsWithJedec_addrs (fun _ => rfl) (jedecId_settled b) jedecId

end Ddr4

/-- One module, in the second slot, with nothing but its type on the first page. -/
def secondSlot : SmBus :=
  ⟨[(0x51, ⟨.ddr4, fun page offset =>
    if page = 0 then if offset = 0 then 0x23 else if offset = 2 then 12 else 0 else 0x4D, 0⟩)]⟩

theorem secondSlot_ddr4 : secondSlot.Ddr4 := by
  intro m member
  obtain rfl := List.mem_singleton.mp member
  exact ⟨rfl, rfl, rfl⟩

theorem ddr4_detection_secondSlot : ¬ (detectDimms (fun _ => false) secondSlot).ReadsOwn .ddr4 secondSlot := by
  intro reads
  rcases (ddr4_detection secondSlot_ddr4 _).2.mp reads with last | first
  · exact absurd last (by decide)
  · exact absurd ((first 0x51 (by decide) (by decide)).2 0 (by decide)) (by decide)

end SyncRGB.Spd
