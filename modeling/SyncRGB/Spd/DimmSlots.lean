import Mathlib.Data.List.Basic

/-! The memory modules of a bus: the accessors that read their identification, and the slots that detection makes of
them, where no kernel driver serves the modules. A module shows a page of its bytes at a time. -/
namespace SyncRGB.Spd

inductive Ddr
  | ddr4
  | ddr5
deriving DecidableEq

/-- The bytes by page and offset, and the selected page. -/
structure SpdModule where
  ddr : Ddr
  content : Nat → Nat → UInt8
  page : Nat

namespace SpdModule

/-- The hub of DDR5 has its page in a register. -/
def read (m : SpdModule) (offset : Nat) : UInt8 :=
  if m.ddr = .ddr5 ∧ offset = 0x0B then .ofNat m.page else m.content m.page offset

def write (m : SpdModule) (offset : Nat) (value : UInt8) : SpdModule :=
  match m.ddr with
  | .ddr4 => { m with content := fun page i => if page = m.page ∧ i = offset then value else m.content page i }
  | .ddr5 => if offset = 0x0B then { m with page := value.toNat } else m

/-- All modules of DDR4 hear the command that selects a page. -/
def hear (page : Nat) (m : SpdModule) : SpdModule := if m.ddr = .ddr4 then { m with page } else m

end SpdModule

/-- The modules by their addresses. -/
structure SmBus where
  modules : List (Nat × SpdModule)

namespace SmBus

/-- Nothing where no module answers. -/
def readByteData (b : SmBus) (addr offset : Nat) : Option UInt8 := (b.modules.lookup addr).map (·.read offset)

def writeByteData (b : SmBus) (addr offset : Nat) (value : UInt8) : SmBus :=
  ⟨b.modules.map fun m => (m.1, if m.1 = addr then m.2.write offset value else m.2)⟩

/-- A write to `0x36 + page`. -/
def selectPage (b : SmBus) (page : Nat) : SmBus := ⟨b.modules.map fun m => (m.1, m.2.hear page)⟩

/-- Whether a quick write to `0x36` is answered. -/
def writeQuick (b : SmBus) : Bool := b.modules.any fun m => m.2.ddr = .ddr4

end SmBus

/-! ### Accessors -/

namespace Ddr

def eepromLength : Ddr → Nat
  | ddr4 => 512
  | ddr5 => 2048

def pageOf (addr : Nat) : Ddr → Nat
  | ddr4 => addr / 256
  | ddr5 => addr / 128

def offsetOf (addr : Nat) : Ddr → Nat
  | ddr4 => addr % 256
  | ddr5 => addr % 128 ||| 0x80

def jedecIdAddr : Ddr → Nat
  | ddr4 => 0x140
  | ddr5 => 0x200

def partNrStart : Ddr → Nat
  | ddr4 => 0x149
  | ddr5 => 0x209

def partNrLen : Ddr → Nat
  | ddr4 => 20
  | ddr5 => 30

def manufSpecificStart : Ddr → Nat
  | ddr4 => 0x161
  | ddr5 => 0x22B

def manufSpecificLen : Ddr → Nat
  | ddr4 => 29
  | ddr5 => 85

end Ddr

/-- `DDR4DirectAccessor` and `DDR5DirectAccessor`, with the page that they selected last. -/
structure SpdAccessor where
  ddr : Ddr
  address : Nat
  currentPage : Nat

namespace SpdAccessor

def new (ddr : Ddr) (address : Nat) : SpdAccessor := ⟨ddr, address, 0xFF⟩

/-- Only the accessor of DDR5 hands its page on. -/
def copy (a : SpdAccessor) : SpdAccessor :=
  match a.ddr with
  | .ddr4 => new .ddr4 a.address
  | .ddr5 => a

def setPage (page : Nat) (a : SpdAccessor) (b : SmBus) : SpdAccessor × SmBus :=
  if a.currentPage = page then (a, b)
  else match a.ddr with
    | .ddr4 => ({ a with currentPage := page }, b.selectPage page)
    | .ddr5 => ({ a with currentPage := page }, b.writeByteData a.address 0x0B (.ofNat page))

/-- `at`. A read that fails gives minus one, cut to a byte. -/
def byteAt (addr : Nat) (a : SpdAccessor) (b : SmBus) : UInt8 × SpdAccessor × SmBus :=
  if a.ddr.eepromLength ≤ addr then (0xFF, a, b)
  else match setPage (a.ddr.pageOf addr) a b with
    | (a, b) => ((b.readByteData a.address (a.ddr.offsetOf addr)).getD 0xFF, a, b)

def bytesAt : List Nat → SpdAccessor → SmBus → List UInt8 × SpdAccessor × SmBus
  | [], a, b => ([], a, b)
  | addr :: addrs, a, b =>
      match byteAt addr a b with
      | (byte, a, b) => match bytesAt addrs a b with
        | (bytes, a, b) => (byte :: bytes, a, b)

def memoryType (a : SpdAccessor) (b : SmBus) : UInt8 × SpdAccessor × SmBus := byteAt 2 a b

/-- Two bytes as an identifier, in 16 bits. -/
def jedecOf (high low : UInt8) : Nat := (256 * high.toNat + low.toNat % 128 + 65535) % 65536

def jedecId (a : SpdAccessor) (b : SmBus) : Nat × SpdAccessor × SmBus :=
  match byteAt a.ddr.jedecIdAddr a b with
  | (high, a, b) => match byteAt (a.ddr.jedecIdAddr + 1) a b with
    | (low, a, b) => (jedecOf high low, a, b)

/-- The text up to its last character that is no padding, and one more. -/
def unpadded (text : List UInt8) : List UInt8 :=
  text.take ((text.reverse.dropWhile fun c => c == 0 || c == 32).length + 1)

/-- `part_number`, by `read_part_nr_at`. -/
def partNumber (a : SpdAccessor) (b : SmBus) : List UInt8 × SpdAccessor × SmBus :=
  match bytesAt (List.range' a.ddr.partNrStart a.ddr.partNrLen) a b with
  | (text, a, b) => (unpadded text, a, b)

def manufacturerData (index : Nat) (a : SpdAccessor) (b : SmBus) : UInt8 × SpdAccessor × SmBus :=
  if a.ddr.manufSpecificLen ≤ index then (0, a, b) else byteAt (a.ddr.manufSpecificStart + index) a b

end SpdAccessor

/-- `DDR4DirectAccessor::isAvailable`. -/
def ddr4IsAvailable (b : SmBus) (addr : Nat) : Bool × SmBus :=
  if b.writeQuick then ((b.selectPage 0).readByteData addr 0 == some 0x23, b.selectPage 0) else (false, b)

/-- Whether the hub shows its magic numbers, if it answers. -/
def ddr5Magic (b : SmBus) (addr : Nat) : Option Bool := do
  let magic ← b.readByteData addr 0
  let sensor ← b.readByteData addr 1
  return magic == 0x51 && sensor &&& 0xEF == 0x08

/-- `DDR5DirectAccessor::isAvailable`. On another page than the first one it tries once more. -/
def ddr5IsAvailable (b : SmBus) (addr : Nat) : Bool × SmBus :=
  match ddr5Magic b addr with
  | none => (false, b)
  | some true => (true, b)
  | some false =>
      match b.readByteData addr 0x0B with
      | none => (false, b)
      | some page =>
          if 0 < page ∧ page < 16 then
            (ddr5Magic (b.writeByteData addr 0x0B 0) addr == some true, b.writeByteData addr 0x0B 0)
          else (false, b)

/-! ### Detection -/

/-- `SPDMemoryType`. -/
def reserved : UInt8 := 0
def ddr4Types : List UInt8 := [12, 14, 16, 17]
def ddr5Types : List UInt8 := [18, 19]

/-- `SPDDetector::detect_memory_type`: the type where there is a module of DDR4 or DDR5. -/
def detectMemoryType (memType : UInt8) (addr : Nat) (b : SmBus) : Option UInt8 × SmBus :=
  match if memType = reserved ∨ memType ∈ ddr4Types then ddr4IsAvailable b addr else (false, b) with
  | (true, b) => match (SpdAccessor.new .ddr4 addr).memoryType b with
    | (found, _, b) => (some found, b)
  | (false, b) =>
      match if memType = reserved ∨ memType ∈ ddr5Types then ddr5IsAvailable b addr else (false, b) with
      | (true, b) => match (SpdAccessor.new .ddr5 addr).memoryType b with
        | (found, _, b) => (some found, b)
      | (false, b) =>
          if memType = reserved then
            ((b.readByteData addr 2).filter fun found => found ∈ ddr4Types ++ ddr5Types, b)
          else (none, b)

/-- `SPDAccessor::for_memory_type`. -/
def forMemoryType (memType : UInt8) (addr : Nat) : Option SpdAccessor :=
  if memType = 12 then some (.new .ddr4 addr) else if memType = 18 then some (.new .ddr5 addr) else none

structure SpdWrapper where
  addr : Nat
  memType : UInt8
  accessor : Option SpdAccessor
  jedecId : Nat

namespace SpdWrapper

/-- Both constructors read the identifier once. -/
def make (addr : Nat) (memType : UInt8) (accessor : Option SpdAccessor) (b : SmBus) : SpdWrapper × SmBus :=
  match accessor with
  | none => (⟨addr, memType, none, 0⟩, b)
  | some a => match a.jedecId b with
    | (jedecId, a, b) => (⟨addr, memType, some a, jedecId⟩, b)

def ofDetector (addr : Nat) (memType : UInt8) (b : SmBus) : SpdWrapper × SmBus :=
  make addr memType (forMemoryType memType addr) b

def copy (s : SpdWrapper) (b : SmBus) : SpdWrapper × SmBus := make s.addr s.memType (s.accessor.map (·.copy)) b

def copyAll : List SpdWrapper → SmBus → List SpdWrapper × SmBus
  | [], b => ([], b)
  | s :: slots, b =>
      match s.copy b with
      | (s, b) => match copyAll slots b with
        | (slots, b) => (s :: slots, b)

/-- `push_back`. A vector that grows copies the wrappers that it has. -/
def pushBack (grows : Bool) (slots : List SpdWrapper) (s : SpdWrapper) (b : SmBus) : List SpdWrapper × SmBus :=
  match s.copy b with
  | (s, b) => match if grows then copyAll slots b else (slots, b) with
    | (slots, b) => (slots ++ [s], b)

def partNumber (s : SpdWrapper) (b : SmBus) : List UInt8 × SpdWrapper × SmBus :=
  match s.accessor with
  | none => ([], s, b)
  | some a => match a.partNumber b with
    | (text, a, b) => (text, { s with accessor := some a }, b)

def manufacturerData (index : Nat) (s : SpdWrapper) (b : SmBus) : UInt8 × SpdWrapper × SmBus :=
  match s.accessor with
  | none => (0, s, b)
  | some a => match a.manufacturerData index b with
    | (byte, a, b) => (byte, { s with accessor := some a }, b)

end SpdWrapper

/-- `slots_with_jedec`. -/
def slotsWithJedec (jedecId : Nat) (slots : List SpdWrapper) : List SpdWrapper :=
  slots.filter fun s => s.jedecId == jedecId

/-- What detection knows of a bus so far: the type of its modules, and the occupied slots. -/
structure Dimms where
  dimmType : UInt8
  slots : List SpdWrapper
  bus : SmBus

/-- One address in the loop of `DetectDevicesCoroutine`; `grows` tells the sizes at which the vector grows. -/
def Dimms.probe (grows : Nat → Bool) (d : Dimms) (addr : Nat) : Dimms :=
  match detectMemoryType d.dimmType addr d.bus with
  | (none, b) => { d with bus := b }
  | (some found, b) => match SpdWrapper.ofDetector addr found b with
    | (s, b) => match SpdWrapper.pushBack (grows d.slots.length) d.slots s b with
      | (slots, b) => ⟨found, slots, b⟩

/-- The addresses of the slots. -/
def dimmAddresses : List Nat := List.range' 0x50 8

def detectDimms (grows : Nat → Bool) (b : SmBus) : Dimms := dimmAddresses.foldl (Dimms.probe grows) ⟨reserved, [], b⟩

end SyncRGB.Spd
