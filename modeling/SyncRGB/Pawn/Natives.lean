import SyncRGB.ByteCodec.Bytes
import SyncRGB.Pawn.Instructions

/-! What a program can call: the functions of the driver behind their wrappers, which take arguments from the stack
and bring the values of references back, and the natives that do this on their own. -/
namespace SyncRGB.Amx
open Effect HostMemory ByteCodec

/-- The types of parameters: `cell`, `cell&`, and arrays of these. -/
inductive Parameter
  | value
  | reference
  | values (n : Nat)
  | references (n : Nat)
deriving DecidableEq, Repr

/-- `arg_wrapper`: the values, and where the destructor writes them. -/
inductive Wrapper (w : Nat)
  | value (v : Cell w)
  | reference (p : Option Pointer) (v : Cell w)
  | values (vs : List (Cell w))
  | references (ps : List (Option Pointer)) (vs : List (Cell w))

/-- A wrapper before `init`. -/
def Parameter.wrapper {w : Nat} : Parameter → Wrapper w
  | .value => .value 0
  | .reference => .reference none 0
  | .values n => .values (List.replicate n 0)
  | .references n => .references (List.replicate n none) (List.replicate n 0)

namespace Wrapper
variable {w : Nat}

/-- What the function is called with. -/
def contents : Wrapper w → List (Cell w)
  | value v => [v]
  | reference _ v => [v]
  | values vs => vs
  | references _ vs => vs

/-- What the destructor writes. -/
def stores : Wrapper w → List (Option Pointer × Cell w)
  | value _ | values _ | reference none _ => []
  | reference (some p) v => [(some p, v)]
  | references ps vs => ps.zip vs

/-- What the function leaves. -/
def after : Wrapper w → List (Cell w) → Wrapper w
  | value v, _ => value v
  | reference p v, new => reference p (new.headD v)
  | values vs, _ => values vs
  | references ps vs, new => references ps (vs.mapIdx fun i v => new.getD i v)

end Wrapper

section
variable {w : Nat} {Ω : Type} (mem : MemoryManager w)

/-- A cell behind a pointer that may be null. -/
def Machine.cellAt (m : Machine w Ω) : Option Pointer → Except Fault (Cell w)
  | none => .error (.error .accessViolation)
  | some p =>
      match m.host.read p with
      | none => .error .outside
      | some c => .ok c

def Machine.argument (m : Machine w Ω) (argv : Cell w) (index : Nat) : Except Fault (Cell w) :=
  m.cellAt (m.dataAt mem (argv + BitVec.ofNat w index * cellBytes w))

/-- The elements of an array with their places. -/
def Machine.elements (m : Machine w Ω) : (base : Cell w) → Nat → Except Fault (List (Pointer × Cell w))
  | _, 0 => .ok []
  | base, n + 1 =>
      match mem.data base with
      | none => .error (.error .accessViolation)
      | some p => do
          let c ← m.cellAt (some p)
          let rest ← m.elements (base + cellBytes w) n
          return (p, c) :: rest

def Parameter.init (m : Machine w Ω) (argv : Cell w) (index : Nat) : Parameter → Except Fault (Wrapper w)
  | .value => do return .value (← m.argument mem argv index)
  | .reference => do
      match mem.data (← m.argument mem argv index) with
      | none => .error (.error .accessViolation)
      | some p => return .reference (some p) 0
  | .values n => do
      let es ← m.elements mem (← m.argument mem argv index) n
      return .values (es.map Prod.snd)
  | .references n => do
      let es ← m.elements mem (← m.argument mem argv index) n
      return .references (es.map fun e => some e.1) (es.map Prod.snd)

/-- `init_wtuple`: all wrappers, and how the first failure comes out. -/
def initWrappers (m : Machine w Ω) (argv : Cell w) : Nat → List Parameter → List (Wrapper w) × Except Fault Unit
  | _, [] => ([], .ok ())
  | index, p :: ps =>
      match p.init mem m argv index with
      | .error e => (p.wrapper :: ps.map Parameter.wrapper, .error e)
      | .ok first =>
          let (rest, result) := initWrappers m argv (index + 1) ps
          (first :: rest, result)

/-- The destructor of an array of references does not look whether there is a place. -/
def writeBack : Option Pointer × Cell w → Step w Ω Unit
  | (none, _) => failing .nullWrite
  | (some p, c) => storeTo (some p) .accessViolation c

def Wrapper.destroy (x : Wrapper w) : Step w Ω Unit := x.stores.forM writeBack

/-- What a function of the driver leaves: its result, the references, memory and all else. -/
structure Leaving (w : Nat) (Ω : Type) where
  retval : Cell w
  new : List (List (Cell w))
  host : Blocks (Cell w)
  world : Ω

/-- A function of the driver behind its wrapper, with all that it may use besides its arguments. Some of them write
memory of the host on their own. -/
structure Function (w : Nat) (Ω : Type) where
  params : List Parameter
  run : List (List (Cell w)) → Blocks (Cell w) → Ω → Leaving w Ω

/-- All blocks of the host stay, and the function writes cells in `reach` only. -/
def Function.Reaches (f : Function w Ω) (reach : Pointer → Prop) : Prop :=
  ∀ args host world, Blocks.Confined reach host (f.run args host world).host

/-- The function leaves the memory of the host alone. -/
def Function.Quiet (f : Function w Ω) : Prop := f.Reaches fun _ => False

/-- `native_callback_wrapper2`; a function without a result leaves zero. -/
def Function.callback (f : Function w Ω) (argc argv : Cell w) : Step w Ω Unit := fun m =>
  if argc ≠ BitVec.ofNat w f.params.length then (.error (.error .invalidOperand), m)
  else
    match initWrappers mem m argv 0 f.params with
    | (wrappers, .error e) => (do wrappers.forM Wrapper.destroy; failing e : Step w Ω Unit) m
    | (wrappers, .ok _) =>
        let left := f.run (wrappers.map Wrapper.contents) m.host m.world
        (wrappers.mapIdx fun i x => x.after (left.new.getD i [])).forM Wrapper.destroy
          { m with pri := left.retval, host := left.host, world := left.world }

/-- What stands behind a name. -/
inductive Native (w : Nat) (Ω : Type)
  | function (f : Function w Ω)
  | plain (callback : (argc argv : Cell w) → Step w Ω Unit)
  | callNative

/-- `call_native` takes an argument away each time, so its depth is `argc`. -/
def Native.callback (table : List (Native w Ω)) : (depth : Nat) → Native w Ω → (argc argv : Cell w) → Step w Ω Unit
  | _, .function f, argc, argv => f.callback mem argc argv
  | _, .plain callback, argc, argv => callback argc argv
  | 0, .callNative, _, _ => do
      setPri 0
      fault .invalidOperand
  | depth + 1, .callNative, argc, argv => do
      setPri 0
      let index ← loadData mem argv
      match table[index.toNat]? with
      | none => fault .invalidOperand
      | some native => native.callback table depth (argc - 1) (argv + cellBytes w)

/-- `amx_callback` of a loader whose natives are found in the table; the driver has nothing for single steps and
breaks. -/
def amxCallback (table natives : List (Native w Ω)) : Callback w Ω := fun index =>
  if index = cbidSingleStep ∨ index = cbidBreak then return ()
  else
    match natives[index.toNat]? with
    | none => fault .invalidOperand
    | some native => do
        let stk ← getStk
        let argc := (← loadData mem stk) / cellBytes w
        native.callback mem table argc.toNat argc (stk + cellBytes w)

end
end SyncRGB.Amx
