import Mathlib.Data.BitVec
import SyncRGB.HostMemory.Cells
import SyncRGB.Effect.Wp

/-! The abstract machine that runs compiled Pawn code: its registers, its instructions, and the loop of a call. -/
namespace SyncRGB.Amx
open Effect HostMemory

abbrev Cell (w : Nat) := BitVec w

def cellBytes (w : Nat) : Cell w := BitVec.ofNat w (w / 8)

def misalignMask (w : Nat) : Cell w := cellBytes w - 1

inductive Error
  | accessViolation
  | accessViolationCode
  | invalidInstruction
  | invalidOperand
  | divisionWithZero
  | halt
  | bounds
  | callbackAbort
deriving DecidableEq, Repr

/-- Besides its errors: an access outside of the blocks of the host, arithmetic that C++ leaves undefined,
a loop that does not end, and a store through a null pointer. -/
inductive Fault
  | error (e : Error)
  | outside
  | undefined
  | endless
  | nullWrite
deriving DecidableEq, Repr

/-- `translate` of the two backings. -/
structure MemoryManager (w : Nat) where
  code : Cell w → Option Pointer
  data : Cell w → Option Pointer

/-- The registers, the blocks of the host that hold code and data, and what natives may use besides. -/
structure Machine (w : Nat) (Ω : Type) where
  pri : Cell w
  alt : Cell w
  frm : Cell w
  cip : Cell w
  dat : Cell w
  cod : Cell w
  stp : Cell w
  stk : Cell w
  hea : Cell w
  host : Blocks (Cell w)
  world : Ω
deriving DecidableEq, Repr

abbrev Step (w : Nat) (Ω α : Type) := Changing Fault (Machine w Ω) α

/-- What is called for an index, on the machine as it is then. -/
abbrev Callback (w : Nat) (Ω : Type) := Cell w → Step w Ω Unit

variable {w : Nat} {Ω : Type}

def setPri (c : Cell w) : Step w Ω Unit := updating fun m => { m with pri := c }
def setAlt (c : Cell w) : Step w Ω Unit := updating fun m => { m with alt := c }
def setFrm (c : Cell w) : Step w Ω Unit := updating fun m => { m with frm := c }
def setCip (c : Cell w) : Step w Ω Unit := updating fun m => { m with cip := c }
def setStk (c : Cell w) : Step w Ω Unit := updating fun m => { m with stk := c }
def setHea (c : Cell w) : Step w Ω Unit := updating fun m => { m with hea := c }

def getPri : Step w Ω (Cell w) := reading Machine.pri
def getAlt : Step w Ω (Cell w) := reading Machine.alt
def getFrm : Step w Ω (Cell w) := reading Machine.frm
def getCip : Step w Ω (Cell w) := reading Machine.cip
def getStk : Step w Ω (Cell w) := reading Machine.stk
def getHea : Step w Ω (Cell w) := reading Machine.hea

def fault (e : Error) {α : Type} : Step w Ω α := failing (.error e)

/-- A cell behind a pointer of a backing. -/
def loadFrom (p : Option Pointer) (none_ : Error) : Step w Ω (Cell w) := fun m =>
  match p with
  | none => (.error (.error none_), m)
  | some p =>
      match m.host.read p with
      | none => (.error .outside, m)
      | some c => (.ok c, m)

def storeTo (p : Option Pointer) (none_ : Error) (c : Cell w) : Step w Ω Unit := fun m =>
  match p with
  | none => (.error (.error none_), m)
  | some p =>
      match m.host.write p c with
      | none => (.error .outside, m)
      | some host => (.ok (), { m with host })

section
variable (mem : MemoryManager w)

/-- `data_v2p` and `code_v2p`. -/
def Machine.dataAt (m : Machine w Ω) (v : Cell w) : Option Pointer := mem.data (m.dat + v)
def Machine.codeAt (m : Machine w Ω) (v : Cell w) : Option Pointer := mem.code (m.cod + v)

/-- `DATA(v)` alone. -/
def checkData (v : Cell w) : Step w Ω Unit := fun m =>
  if (m.dataAt mem v).isSome then (.ok (), m) else (.error (.error .accessViolation), m)

/-- `DATA(v)` and `RESULT()`. -/
def loadData (v : Cell w) : Step w Ω (Cell w) := fun m => loadFrom (m.dataAt mem v) .accessViolation m

def storeData (v c : Cell w) : Step w Ω Unit := fun m => storeTo (m.dataAt mem v) .accessViolation c m

/-- `CODEDATA(v)` and `RESULT()`. -/
def loadCode (v : Cell w) : Step w Ω (Cell w) := fun m => loadFrom (m.codeAt mem v) .accessViolation m

/-- `OPERAND()`; the opcode is read in the same way. -/
def operand : Step w Ω (Cell w) := fun m =>
  loadFrom (m.codeAt mem m.cip) .accessViolationCode { m with cip := m.cip + cellBytes w }

def push (c : Cell w) : Step w Ω Unit := do
  setStk ((← getStk) - cellBytes w)
  storeData mem (← getStk) c

def pop : Step w Ω (Cell w) := do
  let c ← loadData mem (← getStk)
  setStk ((← getStk) + cellBytes w)
  return c

/-- The operand as an offset from the frame. -/
def local_ : Step w Ω (Cell w) := do
  let o ← operand mem
  return (← getFrm) + o

/-- Jumps are relative to their own instruction. -/
def jump (o : Cell w) : Step w Ω Unit := do setCip ((← getCip) - 2 * cellBytes w + o)

/-- `i` from `start` on, for so many cells. -/
def eachCell (body : Cell w → Step w Ω Unit) : Nat → Cell w → Step w Ω Unit
  | 0, _ => return ()
  | n + 1, i => do
      body i
      eachCell body n (i + cellBytes w)

/-- How often `i += cell_bytes` comes before `i < size` fails. If it never does, all cells have their turn
first and then again. -/
def turns (size : Cell w) : Nat := (size.toNat + (w / 8) - 1) / (w / 8)

def neverReached (size : Cell w) : Bool := 2 ^ w - w / 8 < size.toNat

/-- `for(cell i = 0; i < size; i += cell_bytes)`. -/
def forCells (size : Cell w) (body : Cell w → Step w Ω Unit) : Step w Ω Unit := do
  eachCell body (turns size) 0
  if neverReached size then failing .endless else return ()

/-- The loop of a comparison, which ends at the first difference. -/
def compareCells (size alt : Cell w) : Nat → Cell w → Step w Ω Unit
  | 0, _ => if neverReached size then failing .endless else return ()
  | n + 1, i => do
      let tmp ← loadData mem ((← getPri) + i)
      setPri ((← loadData mem (alt + i)) - tmp)
      if (← getPri) = 0 then compareCells size alt n (i + cellBytes w) else return ()

/-- Parts of a cell: the address, and how many bits its byte is from the low end. -/
def alignedAddress (v : Cell w) : Cell w := v &&& ~~~misalignMask w
def subcellBits (v : Cell w) : Nat := ((v &&& misalignMask w) * 8).toNat

/-- The mask of an access to 1, 2 or 4 bytes. -/
def subcellMask (o : Cell w) : Option (Cell w) :=
  if o = 1 then some 0xFF
  else if o = 2 then some 0xFFFF
  else if o = 4 then some 0xFFFFFFFF
  else none

/-- The access spans across cells. -/
def spans (v o : Cell w) : Prop := alignedAddress v ≠ (v + o - 1) &&& ~~~misalignMask w

instance (v o : Cell w) : Decidable (spans v o) :=
  inferInstanceAs (Decidable (alignedAddress v ≠ (v + o - 1) &&& ~~~misalignMask w))

def loadSubcell (o v : Cell w) : Step w Ω (Cell w) :=
  if spans v o then fault .invalidOperand
  else do
    checkData mem (alignedAddress v)
    match subcellMask o with
    | some mask => return ((← loadData mem (alignedAddress v)) >>> subcellBits v) &&& mask
    | none => fault .invalidOperand

def storeSubcell (o v pri : Cell w) : Step w Ω Unit :=
  if spans v o then fault .invalidOperand
  else do
    checkData mem (alignedAddress v)
    match subcellMask o with
    | some mask => do
        let c ← loadData mem (alignedAddress v)
        storeData mem (alignedAddress v) ((c &&& ~~~(mask <<< subcellBits v)) ||| ((pri &&& mask) <<< subcellBits v))
    | none => fault .invalidOperand

end

/-! ### Arithmetic -/

/-- Shifts by the width or more are undefined. -/
def shifted (amount : Cell w) (c : Cell w) : Step w Ω (Cell w) :=
  if amount.toNat < w then return c else failing .undefined

/-- Quotient and remainder that are rounded down. -/
def divided (pri alt : Cell w) : Step w Ω (Cell w × Cell w) :=
  if pri = 0 then fault .divisionWithZero
  else if alt.sdivOverflow pri then failing .undefined
  else
    let q := alt.sdiv pri
    let r := alt.srem pri
    if r ≠ 0 ∧ (r ^^^ pri).msb then return (q - 1, r + pri) else return (q, r)

def truth (b : Bool) : Cell w := if b then 1 else 0

/-- The control registers by number. -/
def control (m : Machine w Ω) (o : Cell w) : Option (Cell w) := [m.cod, m.dat, m.hea, m.stp, m.stk, m.frm, m.cip][o.toNat]?

def setControl (o : Cell w) : Option (Cell w → Step w Ω Unit) :=
  if o = 2 then some setHea
  else if o = 4 then some setStk
  else if o = 5 then some setFrm
  else if o = 6 then some setCip
  else none

end SyncRGB.Amx
