import SyncRGB.Controller.ZoneSizes
import SyncRGB.Effect.Atomic
import SyncRGB.JsonRpc.Handler
import SyncRGB.JsonRpc.Modes

/-! What the methods of the JSON-RPC handler share: how they stop, how they reach a device, and their
replies. -/
namespace SyncRGB
open ByteCodec Effect RGBController

namespace Json

def ofUInt32 (n : UInt32) : Json := unsigned n.toUInt64
def ofSize (n : Nat) : Json := unsigned (UInt64.ofNat n)

end Json

namespace JsonRpc

def invalidParams : Int := -32602
def errZoneIndexOutOfRange : Int := -32002
def errLedIndexOutOfRange : Int := -32003
def errResizeNotSupported : Int := -32014
def errKeyNameNotFound : Int := -32017

/-- A method ends without a reply by an error or a JSON exception, by another exception with its `what()`,
or by an access outside a vector, behind which nothing is defined. -/
inductive Stop where
  | failure (f : Failure)
  | exception (what : Bytes)
  | outside
  deriving DecidableEq

abbrev Control (σ α : Type) := Changing Stop σ α

def handled {σ α : Type} (x : Handled α) : Control σ α := liftM (x.mapError Stop.failure)

def changing {σ α : Type} (m : Change σ α) : Control σ α := fun s =>
  let (result, s) := m s
  (result.mapError Stop.failure, s)

def refuse {α : Type} (code : Int) (message : String) : Handled α := throw (.error code (ascii message))

/-- A step that may leave the vectors. -/
def storing {σ : Type} (f : σ → Option σ) : Control σ Unit := fun s =>
  match f s with
  | some s => (.ok (), s)
  | none => (.error .outside, s)

/-- Work on a device that has been found. -/
def onDevice (i : Nat) (work : Control RGBController Unit) : Control (List RGBController) Unit :=
  fun cs => match cs[i]? with
    | some c =>
        let (result, c) := work c
        (result, cs.set i c)
    | none => (.ok (), cs)

def deviceAt (deviceIdx : UInt32) : Change (List RGBController) (Nat × RGBController) := do
  match (← get)[deviceIdx.toNat]? with
  | some c => return (deviceIdx.toNat, c)
  | none => throw (.error errDeviceIndexOutOfRange (ascii "Device index out of range"))

def word (key : String) (params : Json) : Handled UInt32 := params.get key >>= Json.toWord

def checkZone (zoneIdx : UInt32) (c : RGBController) : Handled Unit :=
  if zoneIdx.toNat < c.zones.length then return ()
  else refuse errZoneIndexOutOfRange "Zone index out of range"

def checkLed (ledIdx : UInt32) (c : RGBController) : Handled Unit :=
  if ledIdx.toNat < c.leds.length then return ()
  else refuse errLedIndexOutOfRange "LED index out of range"

/-- `result["success"] = true`. -/
def success : Json := .object [(ascii "success", .boolean true)]

end JsonRpc
end SyncRGB
