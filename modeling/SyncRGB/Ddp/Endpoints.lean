import SyncRGB.ByteCodec.Bytes

/-! The endpoints that the DDP controller finds for its devices. -/
namespace SyncRGB
open ByteCodec

structure DDPDevice where
  ip : Bytes
  port : UInt16
  numLeds : UInt32
  deriving DecidableEq

/-- The sixteen characters of the address and the port. -/
structure DDPEndpoint where
  ip : Bytes
  port : UInt16
  deriving DecidableEq

namespace DDPDevice

def key (dev : DDPDevice) : Bytes × UInt16 := (dev.ip, dev.port)

/-- The address is a text that has its end among sixteen characters. -/
structure Short (dev : DDPDevice) : Prop where
  length : dev.ip.length ≤ 15
  text : 0 ∉ dev.ip

end DDPDevice

namespace DDPEndpoint

def key (endpoint : DDPEndpoint) : Bytes × UInt16 := (cstr endpoint.ip, endpoint.port)

/-- The `strncpy` of 15 characters, which fills up with NUL, and the end. -/
def ofDevice (dev : DDPDevice) : DDPEndpoint where
  ip := (cstr dev.ip).take 15 ++ List.replicate (16 - ((cstr dev.ip).take 15).length) 0
  port := dev.port

/-- The `strcmp` and the comparison of the ports. -/
def serves (dev : DDPDevice) (endpoint : DDPEndpoint) : Bool :=
  cstr endpoint.ip == cstr dev.ip && endpoint.port == dev.port

end DDPEndpoint

namespace DDPController

/-- The block behind `unique_endpoints`, without an endpoint where nothing has been stored yet. A null pointer has no
entries. -/
abbrev Table := List (Option DDPEndpoint)

/-- The loops over `ep_idx`. They fail where they read an entry that is not there or not stored yet. -/
def findEndpoint (table : Table) (dev : DDPDevice) : Nat → Nat → Option (Option Nat)
  | 0, _ => some none
  | count + 1, epIdx =>
      match table[epIdx]? with
      | some (some endpoint) =>
          if endpoint.serves dev then some (some epIdx) else findEndpoint table dev count (epIdx + 1)
      | _ => none

/-- The first pass, over the table as it is before. -/
def countEndpoints (table : Table) : List DDPDevice → Nat → Option Nat
  | [], num => some num
  | dev :: rest, num => do
      let found ← findEndpoint table dev num 0
      countEndpoints table rest (if found.isSome then num else num + 1)

/-- The second pass. It fails where it stores behind the table. -/
def fillEndpoints : List DDPDevice → Nat → Table → Option (Nat × Table)
  | [], count, table => some (count, table)
  | dev :: rest, count, table => do
      let found ← findEndpoint table dev count 0
      if found.isSome then fillEndpoints rest count table
      else if count < table.length then
        fillEndpoints rest (count + 1) (table.set count (some (.ofDevice dev)))
      else none

structure NetPorts where
  uniqueEndpoints : Table
  numEndpoints : Nat
  /-- How many entries have been filled. -/
  endpointCount : Nat
  deriving DecidableEq

/-- `DDPController::InitializeNetPorts`, on the null pointer of a new controller. At its end it reads every entry. -/
def initializeNetPorts (devices : List DDPDevice) : Option NetPorts :=
  if devices.isEmpty then some ⟨[], 0, 0⟩
  else do
    let numEndpoints ← countEndpoints [] devices 0
    let filled ← fillEndpoints devices 0 (List.replicate numEndpoints none)
    if filled.2.all Option.isSome then some ⟨filled.2, numEndpoints, filled.1⟩ else none

/-- `DDPController::GetPortIndex`. -/
def getPortIndex (ports : NetPorts) (dev : DDPDevice) : Option (Option Nat) :=
  findEndpoint ports.uniqueEndpoints dev ports.numEndpoints 0

/-! ### What the table is for -/

def keys (table : Table) : List (Option (Bytes × UInt16)) := table.map (Option.map DDPEndpoint.key)

structure TableRight (devices : List DDPDevice) (ports : NetPorts) : Prop where
  allocated : ports.uniqueEndpoints.length = ports.numEndpoints
  filled : ports.endpointCount = ports.numEndpoints
  once : (keys ports.uniqueEndpoints).Nodup
  stored (key : Option (Bytes × UInt16)) : key ∈ keys ports.uniqueEndpoints ↔ ∃ dev ∈ devices, key = some dev.key
  found : ∀ dev ∈ devices, ∃ i, getPortIndex ports dev = some (some i) ∧
    (keys ports.uniqueEndpoints)[i]? = some (some dev.key)

/-- All reads meet endpoints that are stored, and the table is right. -/
def EndpointsRight (devices : List DDPDevice) : Prop :=
  ∃ ports, initializeNetPorts devices = some ports ∧ TableRight devices ports

end DDPController
end SyncRGB
