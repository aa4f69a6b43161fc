import SyncRGB.ByteCodec.Bytes
import SyncRGB.Pawn.Backings

/-! The loader: what it reads of an image, what it refuses, and the machine it makes of the rest. -/
namespace SyncRGB.Amx
open HostMemory ByteCodec

inductive LoaderError
  | invalidFile
  | unsupportedFileVersion
  | unsupportedAmxVersion
  | featureNotSupported
  | wrongCellSize
  | nativeNotResolved
  | unknown
deriving DecidableEq, Repr

/-- Besides its errors: an access outside of the image or of the allocation. -/
inductive LoadFault
  | error (e : LoaderError)
  | outside
deriving DecidableEq, Repr

abbrev Load := Except LoadFault

def refuse (e : LoaderError) {α : Type} : Load α := .error (.error e)

/-- An access to so many bytes of a buffer of a size. -/
def inBounds (size offset count : Nat) : Load Unit := if offset + count ≤ size then .ok () else .error .outside

def readLe (buf : Bytes) (count offset : Nat) : Load Nat := do
  inBounds buf.length offset count
  return leValue ((buf.drop offset).take count)

structure Header where
  size : Nat
  magic : Nat
  fileVersion : Nat
  amxVersion : Nat
  flags : Nat
  defsize : Nat
  cod : Nat
  dat : Nat
  hea : Nat
  stp : Nat
  cip : Nat
  publics : Nat
  natives : Nat
  libraries : Nat
  pubvars : Nat
  tags : Nat
deriving DecidableEq, Repr

def headerSize : Nat := 60

def readHeader (buf : Bytes) : Load Header := do
  if buf.length < headerSize then refuse .invalidFile
  else
    let size ← readLe buf 4 0
    let magic ← readLe buf 2 4
    let fileVersion ← readLe buf 1 6
    let amxVersion ← readLe buf 1 7
    let flags ← readLe buf 2 8
    let defsize ← readLe buf 2 10
    let cod ← readLe buf 4 12
    let dat ← readLe buf 4 16
    let hea ← readLe buf 4 20
    let stp ← readLe buf 4 24
    let cip ← readLe buf 4 28
    let publics ← readLe buf 4 32
    let natives ← readLe buf 4 36
    let libraries ← readLe buf 4 40
    let pubvars ← readLe buf 4 44
    let tags ← readLe buf 4 48
    return ⟨size, magic, fileVersion, amxVersion, flags, defsize, cod, dat, hea, stp, cip, publics, natives, libraries,
      pubvars, tags⟩

/-- Of 32, 64 and 16 bits. -/
def magics : List Nat := [0xF1E0, 0xF1E1, 0xF1E2]

/-- The driver's cells have 64 bits. -/
def expectedMagic : Nat := 0xF1E1

def amxVersionSupported : Nat := 11
def flagOverlay : Nat := 1
def flagSleep : Nat := 8

def checkHeader (bufSize : Nat) (h : Header) : Load Unit :=
  if h.magic ≠ expectedMagic then refuse (if h.magic ∈ magics then .wrongCellSize else .invalidFile)
  else if bufSize < h.size then refuse .invalidFile
  else if h.fileVersion ≠ 11 then refuse .unsupportedFileVersion
  else if amxVersionSupported < h.amxVersion then refuse .unsupportedAmxVersion
  else if h.flags &&& flagOverlay ≠ 0 ∨ h.flags &&& flagSleep ≠ 0 then refuse .featureNotSupported
  else if h.defsize < 8 then refuse .invalidFile
  else return ()

/-- The entries from an offset on. -/
def entries {α : Type} (entrySize : Nat) (fn : Nat → Load α) : (offset count : Nat) → Load (List α)
  | _, 0 => return []
  | offset, count + 1 => do
      let x ← fn offset
      let xs ← entries entrySize fn (offset + entrySize) count
      return x :: xs

/-- An entry that is refused ends it; what the loader returns then is the reason. -/
def iterValarray {α : Type} (bufSize beginOffset endOffset entrySize : Nat) (fn : Nat → Load α) : Load (List α) :=
  if bufSize < beginOffset then refuse .invalidFile
  else if bufSize < endOffset then refuse .invalidFile
  else if endOffset < beginOffset ∨ (endOffset - beginOffset) % entrySize ≠ 0 then refuse .invalidFile
  else entries entrySize fn beginOffset ((endOffset - beginOffset) / entrySize)

def countValarray (bufSize beginOffset endOffset entrySize : Nat) : Load Nat :=
  List.length <$> iterValarray bufSize beginOffset endOffset entrySize fun _ => return ()

/-- The text up to its end, which has to be in the image. -/
def nameAt (buf : Bytes) (nameofs : Nat) : Load Bytes :=
  if nameofs + strlen (buf.drop nameofs) < buf.length then return cstr (buf.drop nameofs) else refuse .invalidFile

/-- A public function or variable: the name and the address. -/
def symbolAt (buf : Bytes) (p : Nat) : Load (Bytes × Cell 64) := do
  let address ← readLe buf 4 p
  let nameofs ← readLe buf 4 (p + 4)
  let name ← nameAt buf nameofs
  return (name, BitVec.ofNat 64 address)

section
variable {ν : Type} (table : List (Bytes × ν))

def nativeAt (buf : Bytes) (p : Nat) : Load ν := do
  let nameofs ← readLe buf 4 (p + 4)
  let name ← nameAt buf nameofs
  match table.find? (·.1 = name) with
  | none => refuse .nativeNotResolved
  | some (_, callback) => return callback

/-- What the counting passes find; the passes behind them read the same bytes again. -/
structure Tables (ν : Type) where
  codeCount : Nat
  dataCount : Nat
  publics : List (Bytes × Cell 64)
  natives : List ν
  pubvars : List (Bytes × Cell 64)

def readTables (buf : Bytes) (h : Header) : Load (Tables ν) := do
  let codeCount ← countValarray buf.length h.cod h.dat 8
  let dataCount ← countValarray buf.length h.dat h.hea 8
  let publics ← iterValarray buf.length h.publics h.natives h.defsize (symbolAt buf)
  let natives ← iterValarray buf.length h.natives h.libraries h.defsize (nativeAt table buf)
  if h.libraries ≠ h.pubvars then refuse .featureNotSupported
  else
    let pubvars ← iterValarray buf.length h.pubvars h.tags h.defsize (symbolAt buf)
    return ⟨codeCount, dataCount, publics, natives, pubvars⟩

end

section
variable {ν : Type}

/-- The difference is one of 32 bits. -/
def dataAllocCount (h : Header) (t : Tables ν) : Nat := t.dataCount + ((h.stp + 2 ^ 32 - h.hea) % 2 ^ 32 + 8 - 1) / 8

def namesSize (symbols : List (Bytes × Cell 64)) : Nat := (symbols.map fun s => s.1.length + 1).sum

def stringBufferSize (t : Tables ν) : Nat := namesSize t.publics + namesSize t.pubvars

/-- To the alignment of pool memory. -/
def alignUp (n : Nat) : Nat := (n + 16 - 1) / 16 * 16

def dataOffset (t : Tables ν) : Nat := alignUp (t.codeCount * 8)
def publicsOffset (h : Header) (t : Tables ν) : Nat := dataOffset t + alignUp (dataAllocCount h t * 8)
def pubvarsOffset (h : Header) (t : Tables ν) : Nat := publicsOffset h t + alignUp (t.publics.length * 16)
def nativesOffset (h : Header) (t : Tables ν) : Nat := pubvarsOffset h t + alignUp (t.pubvars.length * 16)
def stringsOffset (h : Header) (t : Tables ν) : Nat := nativesOffset h t + alignUp (t.natives.length * 8)

/-- A native is counted with the size of a public here. -/
def allocSize (h : Header) (t : Tables ν) : Nat :=
  nativesOffset h t + alignUp (t.natives.length * 16) + stringBufferSize t

/-- So many elements of a size, one after the other. -/
def touchAll (size elementSize offset : Nat) : Nat → Load Unit
  | 0 => return ()
  | count + 1 => do
      inBounds size offset elementSize
      touchAll size elementSize (offset + elementSize) count

/-- A table and the names behind its entries; where the next name goes. -/
def fillSymbols (size elementOffset stringOffset : Nat) : List (Bytes × Cell 64) → Load Nat
  | [] => return stringOffset
  | s :: symbols => do
      inBounds size stringOffset s.1.length
      inBounds size elementOffset 16
      fillSymbols size (elementOffset + 16) (stringOffset + (s.1.length + 1)) symbols

/-- The accesses to the image and to the allocation once it is there; what is left of the names' buffer. -/
def fillAllocation (bufSize : Nat) (h : Header) (t : Tables ν) : Load Nat := do
  let size := allocSize h t
  inBounds bufSize h.cod (h.dat - h.cod)
  inBounds size 0 (h.dat - h.cod)
  touchAll size 8 0 t.codeCount
  inBounds bufSize h.dat (h.hea - h.dat)
  inBounds size (dataOffset t) (h.hea - h.dat)
  -- as many as the code has
  touchAll size 8 (dataOffset t) t.codeCount
  let strings ← fillSymbols size (publicsOffset h t) (stringsOffset h t) t.publics
  touchAll size 8 (nativesOffset h t) t.natives.length
  fillSymbols size (pubvarsOffset h t) strings t.pubvars

/-- The cells of a section. -/
def cellsOf (bytes : Bytes) : Nat → List (Cell 64)
  | 0 => []
  | count + 1 => BitVec.ofNat 64 (leValue (bytes.take 8)) :: cellsOf (bytes.drop 8) count

def codeCells (buf : Bytes) (h : Header) (t : Tables ν) : List (Cell 64) := cellsOf (buf.drop h.cod) t.codeCount

/-- The rest is the heap and the stack. -/
def dataCells (buf : Bytes) (h : Header) (t : Tables ν) : List (Cell 64) :=
  cellsOf (buf.drop h.dat) t.dataCount ++ List.replicate (dataAllocCount h t - t.dataCount) 0

end

/-- The loader after `init`, where code and data are blocks of the host. -/
structure Loaded (ν : Type) where
  code : ContiguousBuffer
  data : PagedBuffers 64 5
  cod : Cell 64
  dat : Cell 64
  stk : Cell 64
  stp : Cell 64
  hea : Cell 64
  main : Cell 64
  publics : List (Bytes × Cell 64)
  pubvars : List (Bytes × Cell 64)
  natives : List ν

def publicOf (v : Bytes) (symbols : List (Bytes × Cell 64)) : Cell 64 :=
  match symbols.find? (·.1 = v) with
  | none => 0
  | some (_, address) => address

variable {ν : Type}

def Loaded.getPublic (l : Loaded ν) (v : Bytes) : Cell 64 := publicOf v l.publics

/-- Minus one stands for no entry point. -/
def mainOf (h : Header) : Cell 64 := if h.cip = 2 ^ 32 - 1 then 0 else BitVec.ofNat 64 h.cip

/-- The last cell of the data. -/
def stackTop (h : Header) (t : Tables ν) : Cell 64 := (BitVec.ofNat 64 (dataAllocCount h t) - 1) * 8

/-- The registers, once code and data have their addresses; the end of the names' buffer may not be the end of the
allocation. -/
def setUpRegisters (h : Header) (t : Tables ν) (strings : Nat) (code : ContiguousBuffer) (codeBase : Cell 64) :
    Option (Option (PagedBuffers 64 5 × Cell 64)) → Load (Loaded ν)
  | none => .error .outside
  | some none => refuse .unknown
  | some (some (data, dataBase)) =>
      if allocSize h t ≤ strings then refuse .unknown
      else
        return ⟨code, data, codeBase, dataBase, stackTop h t, stackTop h t, BitVec.ofNat 64 (t.dataCount * 8), mainOf h,
          t.publics, t.pubvars, t.natives⟩

def setUp (host : Blocks (Cell 64)) (h : Header) (t : Tables ν) (strings : Nat) : Load (Loaded ν) :=
  match ContiguousBuffer.empty.map 64 ⟨host.length, 0⟩ t.codeCount with
  | none => refuse .unknown
  | some (code, codeBase) =>
      setUpRegisters h t strings code codeBase (PagedBuffers.empty.map ⟨host.length + 1, 0⟩ (dataAllocCount h t))

/-- With the allocation. -/
def loadAllocated (host : Blocks (Cell 64)) (buf : Bytes) (h : Header) (t : Tables ν) :
    Load (Loaded ν × Blocks (Cell 64)) := do
  let strings ← fillAllocation buf.length h t
  let loaded ← setUp host h t strings
  return (loaded, host ++ [codeCells buf h t, dataCells buf h t])

/-- With a header that is fine. -/
def loadImage (pool : Nat → Bool) (table : List (Bytes × ν)) (host : Blocks (Cell 64)) (buf : Bytes) (h : Header) :
    Load (Loaded ν × Blocks (Cell 64)) := do
  let t ← readTables table buf h
  if pool (allocSize h t) then loadAllocated host buf h t else refuse .unknown

/-- `init` with the blocks of the host behind it; `pool` says which sizes can be allocated. -/
def loaderInit (pool : Nat → Bool) (table : List (Bytes × ν)) (host : Blocks (Cell 64)) (buf : Bytes) :
    Load (Loaded ν × Blocks (Cell 64)) := do
  let h ← readHeader buf
  checkHeader buf.length h
  loadImage pool table host buf h

end SyncRGB.Amx
