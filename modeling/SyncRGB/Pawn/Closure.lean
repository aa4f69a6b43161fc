import SyncRGB.Pawn.Instructions

/-! What every instruction is put together from. A property of computations that the parts have, and that is
kept when one goes on behind another, is one of every step. -/
namespace SyncRGB.Amx
open Effect HostMemory
variable {w : Nat} {Ω : Type} {mem : MemoryManager w} {callback : Callback w Ω}

/-- Only registers that no access goes through. -/
def RegistersOnly (f : Machine w Ω → Machine w Ω) : Prop :=
  ∀ m, (f m).dat = m.dat ∧ (f m).cod = m.cod ∧ (f m).stp = m.stp ∧ (f m).host = m.host ∧ (f m).world = m.world

structure Closed (mem : MemoryManager w) (callback : Callback w Ω) (P : ∀ {α : Type}, Step w Ω α → Prop) : Prop where
  pure : ∀ {α : Type} (a : α), P (Pure.pure a)
  bind : ∀ {α β : Type} {m : Step w Ω α} {f : α → Step w Ω β}, P m → (∀ a, P (f a)) → P (m >>= f)
  reading : ∀ {α : Type} (f : Machine w Ω → α), P (reading f)
  registers : ∀ {f : Machine w Ω → Machine w Ω}, RegistersOnly f → P (updating f)
  failing : ∀ {α : Type} {e : Fault}, e ≠ .outside → P (failing e : Step w Ω α)
  checkData : ∀ v, P (checkData mem v)
  loadData : ∀ v, P (loadData mem v)
  loadCode : ∀ v, P (loadCode mem v)
  operand : P (operand mem)
  storeData : ∀ v c, P (storeData mem v c)
  fireCallback : ∀ index, P (fireCallback callback index)

namespace Closed
variable {P : ∀ {α : Type}, Step w Ω α → Prop}

theorem either {α : Type} {c : Prop} [Decidable c] {m n : Step w Ω α} (yes : P m) (no : P n) :
    P (if c then m else n) := by
  split
  · exact yes
  · exact no

variable (closed : Closed mem callback P)
include closed

theorem setPri (c : Cell w) : P (setPri c) := closed.registers fun _ => ⟨rfl, rfl, rfl, rfl, rfl⟩
theorem setAlt (c : Cell w) : P (setAlt c) := closed.registers fun _ => ⟨rfl, rfl, rfl, rfl, rfl⟩
theorem setFrm (c : Cell w) : P (setFrm c) := closed.registers fun _ => ⟨rfl, rfl, rfl, rfl, rfl⟩
theorem setCip (c : Cell w) : P (setCip c) := closed.registers fun _ => ⟨rfl, rfl, rfl, rfl, rfl⟩
theorem setStk (c : Cell w) : P (setStk c) := closed.registers fun _ => ⟨rfl, rfl, rfl, rfl, rfl⟩
theorem setHea (c : Cell w) : P (setHea c) := closed.registers fun _ => ⟨rfl, rfl, rfl, rfl, rfl⟩

theorem fault (e : Error) {α : Type} : P (fault e : Step w Ω α) := closed.failing nofun

theorem getting {β : Type} {f : Cell w → Step w Ω β} (register : Machine w Ω → Cell w) (rest : ∀ c, P (f c)) :
    P (Effect.reading register >>= f) := closed.bind (closed.reading register) rest

theorem push (c : Cell w) : P (push mem c) :=
  closed.getting Machine.stk fun _ => closed.bind (closed.setStk _) fun _ =>
    closed.getting Machine.stk fun _ => closed.storeData _ c

theorem pop : P (pop mem : Step w Ω (Cell w)) :=
  closed.getting Machine.stk fun _ => closed.bind (closed.loadData _) fun c =>
    closed.getting Machine.stk fun _ => closed.bind (closed.setStk _) fun _ => closed.pure c

theorem local_ : P (local_ mem : Step w Ω (Cell w)) :=
  closed.bind closed.operand fun _ => closed.getting Machine.frm fun _ => closed.pure _

theorem jump (o : Cell w) : P (jump o : Step w Ω Unit) := closed.getting Machine.cip fun _ => closed.setCip _

theorem alu (f : Cell w → Cell w → Cell w) : P (alu f : Step w Ω Unit) :=
  closed.getting Machine.pri fun _ => closed.getting Machine.alt fun _ => closed.setPri _

theorem checked (overflow : Cell w → Cell w → Bool) (f : Cell w → Cell w → Cell w) :
    P (checked overflow f : Step w Ω Unit) :=
  closed.getting Machine.pri fun _ => closed.getting Machine.alt fun _ =>
    either (closed.failing nofun) (closed.alu f)

theorem shifted (amount c : Cell w) : P (shifted amount c : Step w Ω (Cell w)) :=
  either (closed.pure c) (closed.failing nofun)

theorem divided (pri alt : Cell w) : P (divided pri alt : Step w Ω (Cell w × Cell w)) :=
  either (closed.fault _) <| either (closed.failing nofun) <| either (closed.pure _) (closed.pure _)

theorem eachCell {body : Cell w → Step w Ω Unit} (each : ∀ i, P (body i)) (n : Nat) (i : Cell w) :
    P (eachCell body n i) := by
  induction n generalizing i with
  | zero => exact closed.pure ()
  | succ n ih => exact closed.bind (each i) fun _ => ih _

theorem forCells (size : Cell w) {body : Cell w → Step w Ω Unit} (each : ∀ i, P (body i)) : P (forCells size body) :=
  closed.bind (closed.eachCell each _ _) fun _ => either (closed.failing nofun) (closed.pure ())

theorem compareCells (size alt : Cell w) (n : Nat) (i : Cell w) :
    P (compareCells mem size alt n i : Step w Ω Unit) := by
  induction n generalizing i with
  | zero => exact either (closed.failing nofun) (closed.pure ())
  | succ n ih =>
      exact closed.getting Machine.pri fun _ => closed.bind (closed.loadData _) fun _ =>
        closed.bind (closed.loadData _) fun _ => closed.bind (closed.setPri _) fun _ =>
          closed.getting Machine.pri fun _ => either (ih _) (closed.pure ())

theorem loadSubcell (o v : Cell w) : P (loadSubcell mem o v : Step w Ω (Cell w)) := by
  refine either (closed.fault _) (closed.bind (closed.checkData _) fun _ => ?_)
  split
  · exact closed.bind (closed.loadData _) fun _ => closed.pure _
  · exact closed.fault _

theorem storeSubcell (o v pri : Cell w) : P (storeSubcell mem o v pri : Step w Ω Unit) := by
  refine either (closed.fault _) (closed.bind (closed.checkData _) fun _ => ?_)
  split
  · exact closed.bind (closed.loadData _) fun _ => closed.storeData _ _
  · exact closed.fault _

theorem modifyData (v : Cell w) (f : Cell w → Cell w) : P (modifyData mem v f : Step w Ω Unit) :=
  closed.bind (closed.loadData v) fun _ => closed.storeData v _

theorem swapTop (c : Cell w) : P (swapTop mem c : Step w Ω (Cell w)) :=
  closed.getting Machine.stk fun _ => closed.bind (closed.loadData _) fun top =>
    closed.getting Machine.stk fun _ => closed.bind (closed.storeData _ c) fun _ => closed.pure top

theorem matchRecord (pri : Cell w) (n : Nat) (casetbl : Cell w) :
    P (matchRecord mem pri n casetbl : Step w Ω Unit) := by
  induction n generalizing casetbl with
  | zero => exact closed.pure ()
  | succ n ih =>
      exact closed.bind (closed.loadCode _) fun _ => closed.bind (closed.loadCode _) fun _ =>
        either (closed.setCip _) (ih _)

theorem switchTo (casetbl : Cell w) : P (switchTo mem casetbl : Step w Ω Unit) :=
  closed.bind (closed.loadCode _) fun _ => either (closed.fault _) <|
    closed.bind (closed.loadCode _) fun _ => closed.bind (closed.loadCode _) fun _ =>
      closed.bind (closed.setCip _) fun _ => closed.getting Machine.pri fun _ => closed.matchRecord _ _ _

theorem control (o : Cell w) : P (do
    match ← Effect.reading (control · o) with
    | some c => Amx.setPri c
    | none => Amx.fault .invalidOperand : Step w Ω Unit) := by
  refine closed.bind (closed.reading _) fun c => ?_
  cases c with
  | none => exact closed.fault _
  | some c => exact closed.setPri c

theorem setControl (o : Cell w) : P (do
    match setControl o with
    | some set => do set (← getPri)
    | none => Amx.fault .invalidOperand : Step w Ω Unit) := by
  unfold Amx.setControl
  split_ifs
  · exact closed.getting Machine.pri closed.setHea
  · exact closed.getting Machine.pri closed.setStk
  · exact closed.getting Machine.pri closed.setFrm
  · exact closed.getting Machine.pri closed.setCip
  · exact closed.fault _

/-- One case for each instruction. -/
theorem execute (opcode : Opcode) : P (execute mem callback opcode) := by
  cases opcode with
  | nop => exact closed.pure ()
  | loadPri => exact closed.bind closed.operand fun _ => closed.bind (closed.loadData _) closed.setPri
  | loadAlt => exact closed.bind closed.operand fun _ => closed.bind (closed.loadData _) closed.setAlt
  | loadSPri => exact closed.bind closed.local_ fun _ => closed.bind (closed.loadData _) closed.setPri
  | loadSAlt => exact closed.bind closed.local_ fun _ => closed.bind (closed.loadData _) closed.setAlt
  | lrefSPri =>
      exact closed.bind closed.local_ fun _ => closed.bind (closed.loadData _) fun _ =>
        closed.bind (closed.loadData _) closed.setPri
  | lrefSAlt =>
      exact closed.bind closed.local_ fun _ => closed.bind (closed.loadData _) fun _ =>
        closed.bind (closed.loadData _) closed.setAlt
  | loadI => exact closed.getting Machine.pri fun _ => closed.bind (closed.loadData _) closed.setPri
  | lodbI =>
      exact closed.bind closed.operand fun _ => closed.getting Machine.pri fun _ =>
        closed.bind (closed.loadSubcell _ _) closed.setPri
  | constPri => exact closed.bind closed.operand closed.setPri
  | constAlt => exact closed.bind closed.operand closed.setAlt
  | addrPri => exact closed.bind closed.local_ closed.setPri
  | addrAlt => exact closed.bind closed.local_ closed.setAlt
  | stor => exact closed.bind closed.operand fun _ => closed.getting Machine.pri fun _ => closed.storeData _ _
  | storS => exact closed.bind closed.local_ fun _ => closed.getting Machine.pri fun _ => closed.storeData _ _
  | srefS =>
      exact closed.bind closed.local_ fun _ => closed.bind (closed.loadData _) fun _ =>
        closed.getting Machine.pri fun _ => closed.storeData _ _
  | storI =>
      exact closed.getting Machine.alt fun _ => closed.getting Machine.pri fun _ => closed.storeData _ _
  | strbI =>
      exact closed.bind closed.operand fun _ => closed.getting Machine.alt fun _ =>
        closed.getting Machine.pri fun _ => closed.storeSubcell _ _ _
  | alignPri =>
      exact closed.bind closed.operand fun _ =>
        either (closed.getting Machine.pri fun _ => closed.setPri _) (closed.pure ())
  | lctrl => exact closed.bind closed.operand closed.control
  | sctrl => exact closed.bind closed.operand closed.setControl
  | xchg =>
      exact closed.getting Machine.alt fun _ => closed.getting Machine.pri fun _ =>
        closed.bind (closed.setAlt _) fun _ => closed.setPri _
  | pushPri => exact closed.getting Machine.pri closed.push
  | pushAlt => exact closed.getting Machine.alt closed.push
  | pushrPri => exact closed.getting Machine.pri fun _ => closed.getting Machine.dat fun _ => closed.push _
  | popPri => exact closed.bind closed.pop closed.setPri
  | popAlt => exact closed.bind closed.pop closed.setAlt
  | pick =>
      exact closed.bind closed.operand fun _ => closed.getting Machine.stk fun _ =>
        closed.bind (closed.loadData _) closed.setPri
  | stack =>
      exact closed.bind closed.operand fun _ => closed.getting Machine.stk fun _ =>
        closed.bind (closed.setStk _) fun _ => closed.getting Machine.stk closed.setAlt
  | heap =>
      exact closed.bind closed.operand fun _ => closed.getting Machine.hea fun _ =>
        closed.bind (closed.setAlt _) fun _ => closed.getting Machine.hea fun _ => closed.setHea _
  | proc =>
      exact closed.getting Machine.frm fun _ => closed.bind (closed.push _) fun _ =>
        closed.getting Machine.stk closed.setFrm
  | ret => exact closed.bind closed.pop fun _ => closed.bind (closed.setFrm _) fun _ => closed.bind closed.pop closed.setCip
  | retn =>
      exact closed.bind closed.pop fun _ => closed.bind (closed.setFrm _) fun _ => closed.bind closed.pop fun _ =>
        closed.bind (closed.setCip _) fun _ => closed.getting Machine.stk fun _ =>
          closed.bind (closed.loadData _) fun _ => closed.getting Machine.stk fun _ => closed.setStk _
  | call =>
      exact closed.bind closed.operand fun _ => closed.getting Machine.cip fun _ =>
        closed.bind (closed.push _) fun _ => closed.jump _
  | jump => exact closed.bind closed.operand closed.jump
  | jzer =>
      exact closed.bind closed.operand fun _ => closed.getting Machine.pri fun _ =>
        either (closed.jump _) (closed.pure ())
  | jnz =>
      exact closed.bind closed.operand fun _ => closed.getting Machine.pri fun _ =>
        either (closed.jump _) (closed.pure ())
  | shl | shr | sshr =>
      exact closed.getting Machine.alt fun _ => closed.getting Machine.pri fun _ =>
        closed.bind (closed.shifted _ _) closed.setPri
  | shlCPri =>
      exact closed.bind closed.operand fun _ => closed.getting Machine.pri fun _ =>
        closed.bind (closed.shifted _ _) closed.setPri
  | shlCAlt =>
      exact closed.bind closed.operand fun _ => closed.getting Machine.alt fun _ =>
        closed.bind (closed.shifted _ _) closed.setAlt
  | smul | neg => exact closed.checked _ _
  | sdiv =>
      exact closed.getting Machine.pri fun _ => closed.getting Machine.alt fun _ =>
        closed.bind (closed.divided _ _) fun _ => closed.bind (closed.setPri _) fun _ => closed.setAlt _
  | add | sub | and | or | xor | not | invert | eq | neq | sless | sleq | sgrtr | sgeq => exact closed.alu _
  | incPri | decPri => exact closed.getting Machine.pri fun _ => closed.setPri _
  | incAlt | decAlt => exact closed.getting Machine.alt fun _ => closed.setAlt _
  | incI | decI => exact closed.getting Machine.pri fun _ => closed.modifyData _ _
  | movs =>
      exact closed.bind closed.operand fun _ => closed.forCells _ fun _ => closed.getting Machine.pri fun _ =>
        closed.bind (closed.loadData _) fun _ => closed.getting Machine.alt fun _ => closed.storeData _ _
  | cmps =>
      exact closed.bind closed.operand fun _ => closed.bind (closed.setPri _) fun _ =>
        closed.getting Machine.alt fun _ => closed.compareCells _ _ _ _
  | fill =>
      exact closed.bind closed.operand fun _ => closed.forCells _ fun _ => closed.getting Machine.alt fun _ =>
        closed.getting Machine.pri fun _ => closed.storeData _ _
  | halt => exact closed.bind closed.operand fun _ => closed.bind (closed.setPri _) fun _ => closed.fault _
  | bounds =>
      exact closed.bind closed.operand fun _ => closed.getting Machine.pri fun _ =>
        either (closed.fault _) (closed.pure ())
  | sysreq => exact closed.bind closed.operand closed.fireCallback
  | switch => exact closed.bind closed.operand fun _ => closed.getting Machine.cip fun _ => closed.switchTo _
  | swapPri => exact closed.getting Machine.pri fun _ => closed.bind (closed.swapTop _) closed.setPri
  | swapAlt => exact closed.getting Machine.alt fun _ => closed.bind (closed.swapTop _) closed.setAlt
  | «break» => exact closed.fireCallback _
  | casetbl => exact closed.fault _

theorem step : P (step mem callback) := by
  refine closed.bind closed.operand fun number => ?_
  cases opcodes[number.toNat]? with
  | none => exact closed.fault _
  | some opcode => exact closed.execute opcode

theorem turn : P (turn mem callback) := closed.bind (closed.fireCallback _) fun _ => closed.step

theorem pushArguments (args : List (Cell w)) : P (pushArguments mem args : Step w Ω Unit) := by
  induction args with
  | nil => exact closed.pure ()
  | cons arg args ih => exact closed.bind ih fun _ => closed.push arg

theorem pushFrame (args : List (Cell w)) : P (pushFrame mem args : Step w Ω Unit) :=
  closed.bind (closed.pushArguments args) fun _ => closed.push _

end Closed
end SyncRGB.Amx
