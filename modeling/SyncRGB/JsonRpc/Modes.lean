import SyncRGB.Controller.Updates
import SyncRGB.Effect.Keeps
import SyncRGB.JsonRpc.Colors

/-! The mode methods of the JSON-RPC handler. -/
namespace SyncRGB
open ByteCodec Effect

/-- `RGBController::SetMode`, the flag for the device thread apart. -/
def RGBController.setMode (mode : Int32) (c : RGBController) : RGBController := { c with activeMode := mode }

namespace JsonRpc

/-- A method on the controllers: what it wrote before an exception stays written. -/
abbrev Change (σ α : Type) := Changing Failure σ α

def device (params : Json) : Change (List RGBController) (Nat × RGBController) := do
  let deviceIdx ← (params.get "deviceIndex" >>= Json.toWord : Handled UInt32)
  match (← get)[deviceIdx.toNat]? with
  | some c => return (deviceIdx.toNat, c)
  | none => throw (.error errDeviceIndexOutOfRange (ascii "Device index out of range"))

def checkMode (modeIdx : UInt32) (c : RGBController) : Handled Unit :=
  if modeIdx.toNat < c.modes.length then return ()
  else throw (.error errModeIndexOutOfRange (ascii "Mode index out of range"))

/-- `JSONRPCHandler::SetMode`. -/
def setMode (params : Json) : Change (List RGBController) Unit := do
  params.require ["deviceIndex", "modeIndex"] "Missing required parameters: deviceIndex, modeIndex"
  let modeIdx ← (params.get "modeIndex" >>= Json.toWord : Handled UInt32)
  let (i, c) ← device params
  checkMode modeIdx c
  modify fun cs => cs.modify i (RGBController.setMode modeIdx.toInt32)

/-- `JSONRPCHandler::SetCustomMode`. -/
def setCustomMode (params : Json) : Change (List RGBController) Unit := do
  params.require ["deviceIndex"] "Missing 'deviceIndex' parameter"
  let (i, _) ← device params
  modify fun cs => cs.modify i RGBController.setCustomMode

/-- The colors of a mode are replaced one by one. -/
def pushColors (uninitialized : Nat → UInt32) : Nat → List Json → Change Mode Unit
  | _, [] => return ()
  | n, color :: rest => do
      let color ← parseColor (uninitialized n) color
      modify fun m => { m with colors := m.colors ++ [color] }
      pushColors uninitialized (n + 1) rest

/-- The parameters that the mode object has. -/
def updateParameters (uninitialized : Nat → UInt32) (modeObj : Json) : Change Mode Unit := do
  if modeObj.contains "speed" then
    let speed ← (modeObj.get "speed" >>= Json.toWord : Handled UInt32)
    modify fun m => { m with speed }
  if modeObj.contains "direction" then
    let direction ← (modeObj.get "direction" >>= Json.toWord : Handled UInt32)
    modify fun m => { m with direction }
  if modeObj.contains "colors" then
    match ← modeObj.get "colors" with
    | .array colors =>
        modify fun m => { m with colors := [] }
        pushColors uninitialized 0 colors
    | _ => return ()

def onMode (i modeIdx : Nat) (work : Change Mode Unit) : Change (List RGBController) Unit :=
  fun cs => match cs[i]?.bind fun c => c.modes[modeIdx]? with
    | some m =>
        let (result, m) := work m
        (result, cs.modify i fun c => { c with modes := c.modes.set modeIdx m })
    | none => (.ok (), cs)

/-- `JSONRPCHandler::UpdateMode`. -/
def updateMode (uninitialized : Nat → UInt32) (params : Json) : Change (List RGBController) Unit := do
  params.require ["deviceIndex", "mode"] "Missing required parameters: deviceIndex, mode"
  let modeObj ← params.get "mode"
  modeObj.require ["index"] "Mode object missing 'index' field"
  let modeIdx ← (modeObj.get "index" >>= Json.toWord : Handled UInt32)
  let (i, c) ← device params
  checkMode modeIdx c
  onMode i modeIdx.toNat (updateParameters uninitialized modeObj)
  modify fun cs => cs.modify i (RGBController.setMode modeIdx.toInt32)

end JsonRpc
end SyncRGB
