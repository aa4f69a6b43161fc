import SyncRGB.Pawn.DriverNatives
import SyncRGB.Pawn.LoaderChecks

/-! A loaded program and the calls of its functions through the driver, with a buffer of the caller mapped for the
time of a call. -/
namespace SyncRGB.Amx
open Effect HostMemory ByteCodec Transition
variable {Ω : Type}

/-- The context of a program; its natives are pointers into the driver. -/
structure Vm (Ω : Type) where
  machine : Machine 64 Ω
  code : ContiguousBuffer
  data : PagedBuffers 64 5
  main : Cell 64
  publics : List (Bytes × Cell 64)
  natives : List (NativeFn Ω)

/-- After `init`. -/
def vmOf (l : Loaded (NativeFn Ω)) (host : Blocks (Cell 64)) (world : Ω) : Vm Ω where
  machine := ⟨0, 0, 0, 0, l.dat, l.cod, l.stp, l.stk, l.hea, host, world⟩
  code := l.code
  data := l.data
  main := l.main
  publics := l.publics
  natives := l.natives

/-- The addresses while the pages are these. -/
def Vm.memory (vm : Vm Ω) (pages : PagedBuffers 64 5) : MemoryManager 64 := ⟨vm.code.translate, pages.translate⟩

def Vm.callback (k : Kernel Ω) (vm : Vm Ω) (pages : PagedBuffers 64 5) : Callback 64 Ω :=
  let mem := vm.memory pages
  amxCallback mem ((nativesOf k).map fun entry => entry.2 mem vm.publics) (vm.natives.map fun native => native mem vm.publics)

/-- One buffer of the kernel serves both ways; it is as large as the larger one and begins with the input. -/
structure IoBuffer where
  bytes : Bytes
  inSize : Nat
  outSize : Nat
  covers : bytes.length = max inSize outSize
  small : bytes.length < 2 ^ 32

def statusSuccess : BitVec 32 := 0
def statusUnsuccessful : BitVec 32 := 0xC0000001
def statusInvalidParameter : BitVec 32 := 0xC000000D
def statusObjectNameNotFound : BitVec 32 := 0xC0000034

def ntSuccess (status : BitVec 32) : Bool := !status.msb

/-- A call that comes back, with the buffer, or what stops the machine. -/
inductive Executed (Ω : Type)
  | returned (status : BitVec 32) (vm : Vm Ω) (buffer : List (Cell 64))
  | stopped (fault : Fault)

/-- `ioctl_`. -/
def ioctlHead : Bytes := [105, 111, 99, 116, 108, 95]

/-- The name of the function; the other checks come first. -/
def ioctlName (io : IoBuffer) : Option Bytes :=
  if io.inSize < 32 then none
  else
    let arr := cstr (io.bytes.take 32)
    if arr.length = 32 ∨ arr.take 6 ≠ ioctlHead then none else some arr

def IoBuffer.cells (io : IoBuffer) : List (Cell 64) := cellsOf io.bytes (io.bytes.length / 8)

/-- How a call goes: its status with the machine and the pages then, or what stops the machine. -/
abbrev Outcome (Ω : Type) := Except Fault (BitVec 32 × Machine 64 Ω × PagedBuffers 64 5)

def callFunction (k : Kernel Ω) (fuel : Nat) (vm : Vm Ω) (pages : PagedBuffers 64 5) (fn : Cell 64) (args : List (Cell 64))
    (m : Machine 64 Ω) : Option (Outcome Ω) :=
  let (status, world) := k.precall fn m.world
  if ntSuccess status then
    match call (vm.memory pages) (vm.callback k pages) fuel fn args { m with world } with
    | none => none
    | some (.ok _, n) => some (.ok (n.pri.setWidth 32, { n with world := k.postcall n.world }, pages))
    | some (.error (.error _), n) => some (.ok (statusUnsuccessful, { n with world := k.postcall n.world }, pages))
    | some (.error fault, _) => some (.error fault)
  else some (.ok (status, { m with world }, pages))

/-- The pages without a buffer; `none` is an access outside of them. -/
def withPages (status : BitVec 32) (m : Machine 64 Ω) : Option (PagedBuffers 64 5) → Outcome Ω
  | none => .error .outside
  | some pages => .ok (status, m, pages)

/-- Behind a call that comes back. -/
def unmapAfter (va : Cell 64) (size : Nat) : Option (Outcome Ω) → Option (Outcome Ω)
  | none => none
  | some (.error fault) => some (.error fault)
  | some (.ok (status, m, pages)) => some (withPages status m (pages.unmap va size))

/-- Around a call that gets the address, if there is one. -/
def onceMapped (pages : PagedBuffers 64 5) (size : Nat) (m : Machine 64 Ω)
    (inside : PagedBuffers 64 5 → Cell 64 → Option (Outcome Ω)) :
    Option (Option (PagedBuffers 64 5 × Cell 64)) → Option (Outcome Ω)
  | none => some (.error .outside)
  | some none => some (.ok (statusUnsuccessful, m, pages))
  | some (some (pages, va)) => unmapAfter va size (inside pages va)

def whileMapped (pages : PagedBuffers 64 5) (buf : Pointer) (size : Nat) (m : Machine 64 Ω)
    (inside : PagedBuffers 64 5 → Cell 64 → Option (Outcome Ω)) : Option (Outcome Ω) :=
  onceMapped pages size m inside (pages.map buf size)

/-- The machine without the buffer, which is its last block. -/
def returned (vm : Vm Ω) (pages : PagedBuffers 64 5) (status : BitVec 32) (m : Machine 64 Ω) : Executed Ω :=
  .returned status { vm with machine := { m with host := m.host.dropLast }, data := pages } (m.host.cells (m.host.length - 1))

/-- Input and output at addresses of their own. -/
def callWithBuffers (k : Kernel Ω) (fuel : Nat) (vm : Vm Ω) (io : IoBuffer) (fn : Cell 64) (m : Machine 64 Ω) :
    Option (Outcome Ω) :=
  let buffer := vm.machine.host.length
  let cellInCount := io.inSize / 8 - 4
  let cellOutCount := io.outSize / 8
  whileMapped vm.data ⟨buffer, 4⟩ cellInCount m fun pages cellInVa =>
    whileMapped pages ⟨buffer, 0⟩ cellOutCount m fun pages cellOutVa =>
      callFunction k fuel vm pages fn
        [cellInVa - m.dat, BitVec.ofNat 64 cellInCount, cellOutVa - m.dat, BitVec.ofNat 64 cellOutCount] m

/-- `vm_execute_function` for a loaded program. -/
def executeFunction (k : Kernel Ω) (fuel : Nat) (vm : Vm Ω) (io : IoBuffer) : Option (Executed Ω) :=
  match ioctlName io with
  | none => some (.returned statusInvalidParameter vm io.cells)
  | some name =>
      let fn := publicOf name vm.publics
      if fn = 0 then some (.returned statusObjectNameNotFound vm io.cells)
      else
        let host := vm.machine.host ++ [io.cells]
        match callWithBuffers k fuel vm io fn { vm.machine with host } with
        | none => none
        | some (.error fault) => some (.stopped fault)
        | some (.ok (status, m, pages)) => some (returned vm pages status m)

/-- A call through the driver that comes back. -/
def Executes (k : Kernel Ω) (vm : Vm Ω) (io : IoBuffer) (vm' : Vm Ω) : Prop :=
  ∃ fuel status buffer, executeFunction k fuel vm io = some (.returned status vm' buffer)

end SyncRGB.Amx
