import Mathlib.Data.Prod.Lex
import SyncRGB.ByteCodec.Bytes
import SyncRGB.VectorEdit.IndexLoop
import SyncRGB.VectorEdit.Positions

/-! The keymap of `KeyboardLayoutManager` and the edits made to it, one index loop of the source a loop here. Where
an edit is `none` it has accessed the vector outside of it. Indices are natural numbers: a keymap is taken to have
fewer than 2^32 keys. -/
namespace SyncRGB
open ByteCodec VectorEdit

inductive KeyboardOpcode where
  | insertShiftRight
  | swapOnly
  | removeShiftLeft
  | insShftAdjacent
  | insertRow
  | removeRow
  | addAltName
  | missing (code : Int32)
  deriving DecidableEq

/-- `keyboard_led`; the names are C strings. -/
structure KeyboardLed where
  zone : UInt8
  row : UInt8
  col : UInt8
  value : UInt32
  name : Bytes
  altName : Bytes
  opcode : KeyboardOpcode
  deriving DecidableEq

abbrev Keymap := List KeyboardLed

namespace KeyboardLed

/-- The place of a key in the order of the keymap: row first, then column. -/
def position (key : KeyboardLed) : Nat ×ₗ Nat := toLex (key.row.toNat, key.col.toNat)

/-- `InsertKey` moves the keys of the row from the inserted key on one column to the right. -/
def shiftRight (insKey key : KeyboardLed) : KeyboardLed :=
  if key.row = insKey.row ∧ insKey.col ≤ key.col then { key with col := key.col + 1 } else key

/-- Where the search of `InsertKey` stops. -/
def insertStops (insKey key : KeyboardLed) : Bool :=
  insKey.row < key.row || (insKey.row = key.row && insKey.col ≤ key.col)

/-- Where the loop of `SwapKey` stops: at the key to swap, or behind its place. -/
def swapStops (swpKey key : KeyboardLed) : Bool :=
  (swpKey.row = key.row && swpKey.col = key.col) ||
    (swpKey.row < key.row || (key.row = swpKey.row && swpKey.col < key.col))

/-- Where the loop of `RemoveKey` stops: at the key to remove, or at the first one to the right of it. -/
def removeStops (rmvKey key : KeyboardLed) : Bool :=
  (rmvKey.row = key.row && rmvKey.col = key.col) || (rmvKey.row = key.row && rmvKey.col < key.col)

end KeyboardLed

namespace Keymap

/-- `KeyboardLayoutManager::InsertKey`. -/
def insertKey (insKey : KeyboardLed) (keymap : Keymap) : Option Keymap := do
  let keyIdx ← scan insKey.insertStops keymap
  if keyIdx = keymap.length then return keymap ++ [insKey]
  else
    let _logged ← keymap[keyIdx]?
    let (keymap, keyIdx) ←
      if insKey.name = [] then pure (keymap, keyIdx)
      else (insertAt keymap keyIdx insKey).map fun keymap => (keymap, keyIdx + 1)
    sweep insKey.shiftRight (fun key => insKey.row < key.row) keyIdx keymap

/-- `KeyboardLayoutManager::SwapKey`. -/
def swapKey (swpKey : KeyboardLed) (keymap : Keymap) : Option Keymap := do
  if keymap.length = 0 then return keymap ++ [swpKey]
  else
    let keyIdx ← scan swpKey.swapStops keymap
    if keyIdx < keymap.length then
      let key ← keymap[keyIdx]?
      if swpKey.row = key.row ∧ swpKey.col = key.col then
        if swpKey.name = [] then eraseAt keymap keyIdx
        else return keymap.set keyIdx { key with name := swpKey.name, value := swpKey.value }
      else if swpKey.name = [] then return keymap
      else if keyIdx = 0 then insertAt keymap 0 swpKey
      else insertAt keymap (keyIdx - 1) swpKey
    else return keymap

/-- `KeyboardLayoutManager::RemoveKey`. -/
def removeKey (rmvKey : KeyboardLed) (keymap : Keymap) : Option Keymap := do
  let keyIdx ← scan rmvKey.removeStops keymap
  if keyIdx < keymap.length then
    let key ← keymap[keyIdx]?
    let keymap ←
      if rmvKey.row = key.row ∧ rmvKey.col = key.col then eraseAt keymap keyIdx else pure keymap
    sweep (fun key => if rmvKey.row = key.row then { key with col := key.col - 1 } else key)
      (fun key => rmvKey.row ≠ key.row) keyIdx keymap
  else return keymap

/-- `KeyboardLayoutManager::AddAltName`. -/
def addAltName (altKey : KeyboardLed) (keymap : Keymap) : Option Keymap := do
  let keyIdx ← scan (fun key => altKey.row = key.row && altKey.col = key.col) keymap
  if keyIdx < keymap.length then
    let key ← keymap[keyIdx]?
    return keymap.set keyIdx { key with altName := altKey.altName }
  else return keymap

end Keymap

/-- The keymap with the dimensions that the last update has found. -/
structure KeyboardLayoutManager where
  rows : UInt8
  cols : UInt8
  keymap : Keymap
  deriving DecidableEq

namespace KeyboardLayoutManager

/-- `KeyboardLayoutManager::InsertRow`, and whether the row was in range. -/
def insertRow (insRow : UInt8) (s : KeyboardLayoutManager) : Option (Bool × KeyboardLayoutManager) := do
  if s.rows ≤ insRow then return (false, s)
  else
    let keyIdx ← scan (fun key => insRow ≤ key.row) s.keymap
    let key ← s.keymap[keyIdx]?
    if insRow ≤ key.row then
      let keymap ← sweep (fun key => { key with row := key.row + 1 }) (fun _ => false) keyIdx s.keymap
      return (true, { s with keymap })
    else return (true, s)

/-- `KeyboardLayoutManager::RemoveRow`. -/
def removeRow (rmvRow : UInt8) (s : KeyboardLayoutManager) : Option KeyboardLayoutManager := do
  if s.rows ≤ rmvRow then return s
  else
    let (keyIdx, keymap) ← eraseWhile (fun key => key.row ≤ rmvRow) (fun key => rmvRow = key.row) s.keymap
    let key ← keymap[keyIdx]?
    if rmvRow < key.row then
      let keymap ← sweep (fun key => { key with row := key.row - 1 }) (fun _ => false) keyIdx keymap
      return { s with keymap }
    else return { s with keymap }

/-- `KeyboardLayoutManager::UpdateDimensions`. -/
def updateDimensions (s : KeyboardLayoutManager) : KeyboardLayoutManager :=
  let maxRow := s.keymap.foldl (fun maxRow key => if maxRow < key.row then key.row else maxRow) 0
  let maxCol := s.keymap.foldl (fun maxCol key => if maxCol < key.col then key.col else maxCol) 0
  { s with rows := maxRow + 1, cols := maxCol + 1 }

/-- An edit that is made to the keymap alone. -/
def onKeymap (edit : Keymap → Option Keymap) (s : KeyboardLayoutManager) : Option KeyboardLayoutManager :=
  (edit s.keymap).map fun keymap => { s with keymap }

/-- One edit in `KeyboardLayoutManager::OpCodeSwitch`. -/
def edit (s : KeyboardLayoutManager) (changeKey : KeyboardLed) : Option KeyboardLayoutManager :=
  match changeKey.opcode with
  | .insertShiftRight => s.onKeymap (Keymap.insertKey changeKey)
  | .swapOnly => s.onKeymap (Keymap.swapKey changeKey)
  | .removeShiftLeft => s.onKeymap (Keymap.removeKey changeKey)
  | .insShftAdjacent => some s
  | .insertRow => do
      let (inserted, s) ← s.insertRow changeKey.row
      if inserted then s.onKeymap (Keymap.swapKey changeKey) else return s
  | .removeRow => s.removeRow changeKey.row
  | .addAltName => s.onKeymap (Keymap.addAltName changeKey)
  | .missing _ => some s

/-- `KeyboardLayoutManager::OpCodeSwitch`, which the `ChangeKeys` methods call. The dimensions follow once all
edits are made. -/
def opCodeSwitch (changeKeys : List KeyboardLed) (s : KeyboardLayoutManager) : Option KeyboardLayoutManager := do
  let s ← changeKeys.foldlM edit s
  return s.updateDimensions

end KeyboardLayoutManager
end SyncRGB
