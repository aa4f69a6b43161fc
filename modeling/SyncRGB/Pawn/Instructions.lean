import SyncRGB.Pawn.Machine

/-! The instructions of the machine, one step of it, and a call. -/
namespace SyncRGB.Amx
open Effect HostMemory

inductive Opcode
  | nop
  | loadPri | loadAlt | loadSPri | loadSAlt | lrefSPri | lrefSAlt | loadI | lodbI
  | constPri | constAlt | addrPri | addrAlt
  | stor | storS | srefS | storI | strbI
  | alignPri | lctrl | sctrl | xchg
  | pushPri | pushAlt | pushrPri | popPri | popAlt | pick | stack | heap
  | proc | ret | retn | call | jump | jzer | jnz
  | shl | shr | sshr | shlCPri | shlCAlt
  | smul | sdiv | add | sub | and | or | xor | not | neg | invert
  | eq | neq | sless | sleq | sgrtr | sgeq
  | incPri | incAlt | incI | decPri | decAlt | decI
  | movs | cmps | fill
  | halt | bounds | sysreq | switch | swapPri | swapAlt | break | casetbl
deriving DecidableEq, Repr

/-- In the order of their numbers. -/
def opcodes : List Opcode := [
  .nop, .loadPri, .loadAlt, .loadSPri, .loadSAlt, .lrefSPri, .lrefSAlt, .loadI, .lodbI, .constPri, .constAlt,
  .addrPri, .addrAlt, .stor, .storS, .srefS, .storI, .strbI, .alignPri, .lctrl, .sctrl, .xchg, .pushPri, .pushAlt,
  .pushrPri, .popPri, .popAlt, .pick, .stack, .heap, .proc, .ret, .retn, .call, .jump, .jzer, .jnz, .shl, .shr,
  .sshr, .shlCPri, .shlCAlt, .smul, .sdiv, .add, .sub, .and, .or, .xor, .not, .neg, .invert, .eq, .neq, .sless,
  .sleq, .sgrtr, .sgeq, .incPri, .incAlt, .incI, .decPri, .decAlt, .decI, .movs, .cmps, .fill, .halt, .bounds,
  .sysreq, .switch, .swapPri, .swapAlt, .break, .casetbl]

def casetblNumber : Nat := 74

example : opcodes[casetblNumber]? = some .casetbl := rfl

section
variable {w : Nat} {Ω : Type} (mem : MemoryManager w) (callback : Callback w Ω)

def cbidSingleStep : Cell w := -1
def cbidBreak : Cell w := -2

/-- `callback shouldnt modify these after return`. -/
def fireCallback (index : Cell w) : Step w Ω Unit := fun m =>
  let (result, n) := callback index m
  (result, { n with alt := m.alt, frm := m.frm, cip := m.cip, stp := m.stp, stk := m.stk })

/-- `PRI` from a function of both registers. -/
def alu (f : Cell w → Cell w → Cell w) : Step w Ω Unit := do setPri (f (← getPri) (← getAlt))

/-- A signed result has to be in range. -/
def checked (overflow : Cell w → Cell w → Bool) (f : Cell w → Cell w → Cell w) : Step w Ω Unit := do
  if overflow (← getPri) (← getAlt) then failing .undefined else alu f

/-- `DATA(v)` with `RESULT()` changed in place. -/
def modifyData (v : Cell w) (f : Cell w → Cell w) : Step w Ω Unit := do storeData mem v (f (← loadData mem v))

/-- The top of the stack against a register. -/
def swapTop (c : Cell w) : Step w Ω (Cell w) := do
  let top ← loadData mem (← getStk)
  storeData mem (← getStk) c
  return top

/-- `record_count` records of a value and where to go on. -/
def matchRecord (pri : Cell w) : Nat → Cell w → Step w Ω Unit
  | 0, _ => return ()
  | n + 1, casetbl => do
      let testVal ← loadCode mem casetbl
      let matchCip ← loadCode mem (casetbl + cellBytes w)
      let casetbl := casetbl + cellBytes w + cellBytes w
      if pri = testVal then setCip (casetbl - cellBytes w * 2 + matchCip) else matchRecord pri n casetbl

def switchTo (casetbl : Cell w) : Step w Ω Unit := do
  let opcode ← loadCode mem casetbl
  if opcode ≠ BitVec.ofNat w casetblNumber then fault .invalidOperand
  else do
    let casetbl := casetbl + cellBytes w
    let recordCount ← loadCode mem casetbl
    let casetbl := casetbl + cellBytes w
    let noMatch ← loadCode mem casetbl
    let casetbl := casetbl + cellBytes w
    setCip (casetbl - cellBytes w * 2 + noMatch)
    matchRecord mem (← getPri) recordCount.toNat casetbl

/-- The cases of the `switch` over the opcode. -/
def execute : Opcode → Step w Ω Unit
  | .nop => return ()
  | .loadPri => do setPri (← loadData mem (← operand mem))
  | .loadAlt => do setAlt (← loadData mem (← operand mem))
  | .loadSPri => do setPri (← loadData mem (← local_ mem))
  | .loadSAlt => do setAlt (← loadData mem (← local_ mem))
  | .lrefSPri => do setPri (← loadData mem (← loadData mem (← local_ mem)))
  | .lrefSAlt => do setAlt (← loadData mem (← loadData mem (← local_ mem)))
  | .loadI => do setPri (← loadData mem (← getPri))
  | .lodbI => do
      let o ← operand mem
      setPri (← loadSubcell mem o (← getPri))
  | .constPri => do setPri (← operand mem)
  | .constAlt => do setAlt (← operand mem)
  | .addrPri => do setPri (← local_ mem)
  | .addrAlt => do setAlt (← local_ mem)
  | .stor => do
      let v ← operand mem
      storeData mem v (← getPri)
  | .storS => do
      let v ← local_ mem
      storeData mem v (← getPri)
  | .srefS => do
      let v ← loadData mem (← local_ mem)
      storeData mem v (← getPri)
  | .storI => do storeData mem (← getAlt) (← getPri)
  | .strbI => do
      let o ← operand mem
      storeSubcell mem o (← getAlt) (← getPri)
  | .alignPri => do
      let o ← operand mem
      if o < cellBytes w then setPri ((← getPri) ^^^ (cellBytes w - o)) else return ()
  | .lctrl => do
      let o ← operand mem
      match ← reading (control · o) with
      | some c => setPri c
      | none => fault .invalidOperand
  | .sctrl => do
      match setControl (← operand mem) with
      | some set => do set (← getPri)
      | none => fault .invalidOperand
  | .xchg => do
      let alt ← getAlt
      setAlt (← getPri)
      setPri alt
  | .pushPri => do push mem (← getPri)
  | .pushAlt => do push mem (← getAlt)
  | .pushrPri => do push mem ((← getPri) + (← reading Machine.dat))
  | .popPri => do setPri (← pop mem)
  | .popAlt => do setAlt (← pop mem)
  | .pick => do
      let o ← operand mem
      setPri (← loadData mem ((← getStk) + o))
  | .stack => do
      let o ← operand mem
      setStk ((← getStk) + o)
      setAlt (← getStk)
  | .heap => do
      let o ← operand mem
      setAlt (← getHea)
      setHea ((← getHea) + o)
  | .proc => do
      push mem (← getFrm)
      setFrm (← getStk)
  | .ret => do
      setFrm (← pop mem)
      setCip (← pop mem)
  | .retn => do
      setFrm (← pop mem)
      setCip (← pop mem)
      let size ← loadData mem (← getStk)
      setStk ((← getStk) + (size + cellBytes w))
  | .call => do
      let o ← operand mem
      push mem (← getCip)
      jump o
  | .jump => do jump (← operand mem)
  | .jzer => do
      let o ← operand mem
      if (← getPri) = 0 then jump o else return ()
  | .jnz => do
      let o ← operand mem
      if (← getPri) ≠ 0 then jump o else return ()
  | .shl => do
      let n ← getAlt
      setPri (← shifted n ((← getPri) <<< n))
  | .shr => do
      let n ← getAlt
      setPri (← shifted n ((← getPri) >>> n))
  | .sshr => do
      let n ← getAlt
      setPri (← shifted n ((← getPri).sshiftRight n.toNat))
  | .shlCPri => do
      let n ← operand mem
      setPri (← shifted n ((← getPri) <<< n))
  | .shlCAlt => do
      let n ← operand mem
      setAlt (← shifted n ((← getAlt) <<< n))
  | .smul => checked BitVec.smulOverflow (· * ·)
  | .sdiv => do
      let qr ← divided (← getPri) (← getAlt)
      setPri qr.1
      setAlt qr.2
  | .add => alu fun pri alt => pri + alt
  | .sub => alu fun pri alt => alt - pri
  | .and => alu fun pri alt => pri &&& alt
  | .or => alu fun pri alt => pri ||| alt
  | .xor => alu fun pri alt => pri ^^^ alt
  | .not => alu fun pri _ => truth (pri = 0)
  | .neg => checked (fun pri _ => pri.negOverflow) fun pri _ => -pri
  | .invert => alu fun pri _ => ~~~pri
  | .eq => alu fun pri alt => truth (pri = alt)
  | .neq => alu fun pri alt => truth (pri ≠ alt)
  | .sless => alu fun pri alt => truth (pri.slt alt)
  | .sleq => alu fun pri alt => truth (pri.sle alt)
  | .sgrtr => alu fun pri alt => truth (alt.slt pri)
  | .sgeq => alu fun pri alt => truth (alt.sle pri)
  | .incPri => do setPri ((← getPri) + 1)
  | .incAlt => do setAlt ((← getAlt) + 1)
  | .incI => do modifyData mem (← getPri) (· + 1)
  | .decPri => do setPri ((← getPri) - 1)
  | .decAlt => do setAlt ((← getAlt) - 1)
  | .decI => do modifyData mem (← getPri) (· - 1)
  | .movs => do
      let size ← operand mem
      forCells size fun i => do
        let tmp ← loadData mem ((← getPri) + i)
        storeData mem ((← getAlt) + i) tmp
  | .cmps => do
      let size ← operand mem
      -- the address in `PRI` is gone before the loop uses it
      setPri 0
      compareCells mem size (← getAlt) (turns size) 0
  | .fill => do
      let size ← operand mem
      forCells size fun i => do storeData mem ((← getAlt) + i) (← getPri)
  | .halt => do
      setPri (← operand mem)
      fault .halt
  | .bounds => do
      let o ← operand mem
      if o < (← getPri) then fault .bounds else return ()
  | .sysreq => do fireCallback callback (← operand mem)
  | .switch => do
      let o ← operand mem
      switchTo mem ((← getCip) - 2 * cellBytes w + o)
  | .swapPri => do setPri (← swapTop mem (← getPri))
  | .swapAlt => do setAlt (← swapTop mem (← getAlt))
  | .break => fireCallback callback cbidBreak
  | .casetbl => fault .invalidInstruction

def step : Step w Ω Unit := do
  match opcodes[(← operand mem).toNat]? with
  | some opcode => execute mem callback opcode
  | none => fault .invalidInstruction

/-- One turn of the loop of a call. -/
def turn : Step w Ω Unit := do
  fireCallback callback cbidSingleStep
  step mem callback

/-- The loop of `call_raw` with so many turns at most. -/
def loop : Nat → Machine w Ω → Option (Except Fault Unit × Machine w Ω)
  | 0, _ => none
  | fuel + 1, m =>
      if m.cip = 0 then some (.ok (), m)
      else
        match turn mem callback m with
        | (.ok (), n) => loop fuel n
        | (.error e, n) => some (.error e, n)

/-- Where it ends, the cell for the result is `PRI`. -/
def callRaw (fuel : Nat) (cip : Cell w) (m : Machine w Ω) : Option (Except Fault Unit × Machine w Ω) :=
  match push mem 0 m with
  | (.ok (), n) => loop mem callback fuel { n with cip }
  | (.error e, n) => some (.error e, { n with cip })

/-- The last argument first. -/
def pushArguments : List (Cell w) → Step w Ω Unit
  | [] => return ()
  | arg :: args => do
      pushArguments args
      push mem arg

/-- The arguments and how many bytes they take. -/
def pushFrame (args : List (Cell w)) : Step w Ω Unit := do
  pushArguments mem args
  push mem (cellBytes w * BitVec.ofNat w args.length)

def call (fuel : Nat) (cip : Cell w) (args : List (Cell w)) (m : Machine w Ω) :
    Option (Except Fault Unit × Machine w Ω) :=
  match pushFrame mem args m with
  | (.ok (), n) => callRaw mem callback fuel cip n
  | (.error e, n) => some (.error e, n)

end
end SyncRGB.Amx
