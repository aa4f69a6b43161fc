import SyncRGB.Spd.DimmSlots

/-! What the memory modules of a bus have to say, and what the slots have to know of them. -/
namespace SyncRGB.Spd

theorem lookup_map_value {α β γ : Type} [BEq α] [LawfulBEq α] (f : α → β → γ) (l : List (α × β)) (key : α) :
    (l.map fun m => (m.1, f m.1 m.2)).lookup key = (l.lookup key).map (f key) := by
  induction l with
  | nil => rfl
  | cons m l ih =>
      rw [List.map_cons, List.lookup_cons, List.lookup_cons, ih]
      cases same : key == m.1 with
      | false => rfl
      | true => rw [eq_of_beq same, Option.map_some]

theorem mem_of_lookup {α β : Type} [BEq α] [LawfulBEq α] {l : List (α × β)} {key : α} {value : β}
    (found : l.lookup key = some value) : (key, value) ∈ l := by
  obtain ⟨front, back, rfl, _⟩ := List.lookup_eq_some_iff.mp found
  exact List.mem_append_right front List.mem_cons_self

namespace SmBus
variable {b : SmBus}

def occupied (b : SmBus) (addr : Nat) : Bool := (b.modules.lookup addr).isSome

/-- The byte of a module on a page, and that of a failed read where there is none. -/
def byte (b : SmBus) (addr page offset : Nat) : UInt8 :=
  ((b.modules.lookup addr).map fun m => m.content page offset).getD 0xFF

theorem lookup_selectPage (page addr : Nat) :
    (b.selectPage page).modules.lookup addr = (b.modules.lookup addr).map (·.hear page) :=
  lookup_map_value (fun _ => SpdModule.hear page) b.modules addr

@[simp]
theorem selectPage_selectPage (p q : Nat) : (b.selectPage p).selectPage q = b.selectPage q := by
  have twice (m : SpdModule) : (m.hear p).hear q = m.hear q := by
    unfold SpdModule.hear
    split_ifs <;> simp_all
  simp [selectPage, twice]

@[simp]
theorem occupied_selectPage (page : Nat) : (b.selectPage page).occupied = b.occupied := by
  funext addr
  simp [occupied, lookup_selectPage]

@[simp]
theorem byte_selectPage (page : Nat) : (b.selectPage page).byte = b.byte := by
  have same (m : SpdModule) : (m.hear page).content = m.content := by
    unfold SpdModule.hear
    split_ifs <;> rfl
  funext addr page' offset
  simp [byte, lookup_selectPage, Function.comp_def, same]

end SmBus

/-- The byte of a module at an address of its memory. -/
def SmBus.own (b : SmBus) (ddr : Ddr) (addr i : Nat) : UInt8 := b.byte addr (ddr.pageOf i) (ddr.offsetOf i)

/-- Every slot reads the identification of its own module, and a read changes nothing for those after it. -/
def Dimms.ReadsOwn (ddr : Ddr) (b : SmBus) (d : Dimms) : Prop :=
  ∀ s ∈ d.slots,
    s.partNumber d.bus =
      (SpdAccessor.unpadded ((List.range' ddr.partNrStart ddr.partNrLen).map (b.own ddr s.addr)), s, d.bus) ∧
    ∀ index < ddr.manufSpecificLen,
      s.manufacturerData index d.bus = (b.own ddr s.addr (ddr.manufSpecificStart + index), s, d.bus)

/-- The identifier of a module. -/
def SmBus.jedec (b : SmBus) (ddr : Ddr) (addr : Nat) : Nat :=
  SpdAccessor.jedecOf (b.own ddr addr ddr.jedecIdAddr) (b.own ddr addr (ddr.jedecIdAddr + 1))

/-- The slots whose modules have an identifier. -/
def SmBus.slotsOf (b : SmBus) (ddr : Ddr) (jedecId : Nat) : List Nat :=
  dimmAddresses.filter fun addr => b.occupied addr && b.jedec ddr addr == jedecId

theorem jedecId_of_bytes {a a' a'' : SpdAccessor} {b b' b'' : SmBus} {high low : UInt8}
    (first : SpdAccessor.byteAt a.ddr.jedecIdAddr a b = (high, a', b'))
    (second : SpdAccessor.byteAt (a'.ddr.jedecIdAddr + 1) a' b' = (low, a'', b'')) :
    a.jedecId b = (SpdAccessor.jedecOf high low, a'', b'') := by
  rw [SpdAccessor.jedecId]
  simp only [first, second]

theorem slotsWithJedec_addrs {b : SmBus} {ddr : Ddr} {settled : Nat → SpdWrapper}
    (addr : ∀ a, (settled a).addr = a) (jedec : ∀ a, (settled a).jedecId = b.jedec ddr a) (jedecId : Nat) :
    (slotsWithJedec jedecId ((dimmAddresses.filter b.occupied).map settled)).map SpdWrapper.addr =
      b.slotsOf ddr jedecId := by
  have same : SpdWrapper.addr ∘ settled = id := funext addr
  rw [slotsWithJedec, SmBus.slotsOf, List.filter_map, List.map_map, List.filter_filter, same, List.map_id]
  refine List.filter_congr fun a _ => ?_
  rw [Function.comp_apply, jedec, Bool.and_comm]

end SyncRGB.Spd
