import SyncRGB.JsonRpc.Control

/-! The methods of the JSON-RPC handler that change zones and segments. -/
namespace SyncRGB
open ByteCodec Effect RGBController
namespace JsonRpc

def resizeZoneParams (params : Json) : Handled (UInt32 × UInt32) := do
  params.require ["deviceIndex", "zoneIndex", "newSize"]
    "Missing required parameters: deviceIndex, zoneIndex, newSize"
  let zoneIdx ← word "zoneIndex" params
  let newSize ← word "newSize" params
  return (zoneIdx, newSize)

/-- A zone with one possible size is not resizable. -/
def checkResizable (zoneIdx : UInt32) (c : RGBController) : Handled Unit :=
  match c.zones[zoneIdx.toNat]? with
  | some z =>
      if z.ledsMin = z.ledsMax then refuse errResizeNotSupported "Zone is not resizeable" else return ()
  | none => refuse errZoneIndexOutOfRange "Zone index out of range"

/-- `JSONRPCHandler::ResizeZone`. -/
def resizeZone (driver : Nat → Nat → UInt32 → RGBController → RGBController) (params : Json) :
    Control (List RGBController) Json := do
  let (zoneIdx, newSize) ← handled (resizeZoneParams params)
  let (i, c) ← changing (device params)
  handled (checkResizable zoneIdx c)
  onDevice i (modify (driver i zoneIdx.toNat newSize))
  return success

def clearSegmentsParams (params : Json) : Handled UInt32 := do
  params.require ["deviceIndex", "zoneIndex"] "Missing required parameters: deviceIndex, zoneIndex"
  word "zoneIndex" params

/-- `JSONRPCHandler::ClearSegments`. -/
def clearSegments (params : Json) : Control (List RGBController) Json := do
  let zoneIdx ← handled (clearSegmentsParams params)
  let (i, c) ← changing (device params)
  handled (checkZone zoneIdx c)
  onDevice i (storing (RGBController.clearSegments zoneIdx.toInt32))
  return success

/-- The type of a new segment is left as it is found. -/
def addSegmentParams (uninitialized : Int32) (params : Json) : Handled (UInt32 × Segment) := do
  params.require ["deviceIndex", "zoneIndex", "segment"]
    "Missing required parameters: deviceIndex, zoneIndex, segment"
  let zoneIdx ← word "zoneIndex" params
  let segmentObj ← params.get "segment"
  let startIdx ← segmentObj.valueOf "start" Json.toWord 0
  let ledsCount ← segmentObj.valueOf "length" Json.toWord 0
  let name ← segmentObj.valueOf "name" Json.toBytes []
  return (zoneIdx, { name, type := uninitialized, startIdx, ledsCount })

/-- `JSONRPCHandler::AddSegment`. -/
def addSegment (uninitialized : Int32) (params : Json) : Control (List RGBController) Json := do
  let (zoneIdx, newSeg) ← handled (addSegmentParams uninitialized params)
  let (i, c) ← changing (device params)
  handled (checkZone zoneIdx c)
  onDevice i (storing (RGBController.addSegment zoneIdx.toInt32 newSeg))
  return success

end JsonRpc
end SyncRGB
