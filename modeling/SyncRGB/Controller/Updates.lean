import SyncRGB.ByteCodec.Bounds
import SyncRGB.Controller.Description

/-! The operations a client can have performed on a controller. Each decodes its
packet data, read from offset 0, and then touches modes, zones or colors by the
indices it found there: the decoder is `none` when it reads outside the data, its
result is `none` when it touches a slot that does not exist. -/
namespace SyncRGB
open ByteCodec Reader

/-- `(size_t)i`: a negative index becomes huge. -/
def sizeT (i : Int32) : Nat := (i.toInt % 2 ^ 64).toNat

def storeColors : List RGBColor → Nat → List RGBColor → Option (List RGBColor)
  | colors, _, [] => some colors
  | colors, i, x :: xs =>
      if i < colors.length then storeColors (colors.set i x) (i + 1) xs else none

namespace RGBController

/-- `RGBController::SetModeDescription`. -/
def setModeDescription (v : Nat) (c : RGBController) : Reader (Option RGBController) := do
  skip 4
  let modeIdx ← i32
  if sizeT modeIdx > c.modes.length then return some c
  else
    let target := c.modes[sizeT modeIdx]?
    let newMode ← readModeOver v (target.getD Mode.new)
    return target.map fun _ =>
      { c with activeMode := modeIdx, modes := c.modes.set (sizeT modeIdx) newMode }

/-- `RGBController::SetColorDescription`. -/
def setColorDescription (c : RGBController) : Reader (Option RGBController) := do
  skip 4
  let numColors ← u16
  if numColors > c.colors.length then return some c
  else
    let newColors ← many numColors u32
    return (storeColors c.colors 0 newColors).map fun colors => { c with colors }

/-- Store through the color pointer of a zone. Zone and pointer are used once per color. -/
def storeZoneColors (c : RGBController) (zoneIdx : Nat) (newColors : List RGBColor) :
    Option RGBController :=
  if newColors = [] then some c
  else do
    let z ← c.zones[zoneIdx]?
    let start ← z.colors
    let colors ← storeColors c.colors start newColors
    return { c with colors }

/-- `RGBController::SetZoneColorDescription`. -/
def setZoneColorDescription (c : RGBController) : Reader (Option RGBController) := do
  skip 4
  let zoneIdx ← u32
  if zoneIdx.toNat > c.zones.length then return some c
  else
    let numColors ← u16
    let newColors ← many numColors u32
    return c.storeZoneColors zoneIdx.toNat newColors

/-- `RGBController::SetSingleLEDColorDescription`. -/
def setSingleLEDColorDescription (c : RGBController) : Reader (Option RGBController) := do
  let ledIdx ← i32
  if sizeT ledIdx > c.leds.length then return some c
  else
    let color ← u32
    return (storeColors c.colors (sizeT ledIdx) [color]).map fun colors => { c with colors }

/-- `zones[zone].segments` changes; the index is not checked. -/
def modifySegments (zone : Int32) (f : List Segment → List Segment) (c : RGBController) :
    Option RGBController :=
  c.zones[sizeT zone]?.map fun z =>
    { c with zones := c.zones.set (sizeT zone) { z with segments := f z.segments } }

/-- `RGBController::ClearSegments`. -/
def clearSegments (zone : Int32) : RGBController → Option RGBController :=
  modifySegments zone fun _ => []

/-- `RGBController::AddSegment`. -/
def addSegment (zone : Int32) (newSegment : Segment) : RGBController → Option RGBController :=
  modifySegments zone (· ++ [newSegment])

/-- A C string taken from a heap copy; without a terminator it is read beyond the copy. -/
def copiedText (copy : Bytes) : Reader Bytes := if 0 ∈ copy then return cstr copy else fail

/-- `RGBController::SetSegmentDescription`. -/
def setSegmentDescription (c : RGBController) : Reader (Option RGBController) := do
  skip 4
  let zoneIdx ← u32
  let nameLength ← u16
  let nameCopy ← take nameLength
  let type ← i32
  let startIdx ← u32
  let ledsCount ← u32
  let name ← copiedText nameCopy
  return c.addSegment zoneIdx.toInt32 { name, type, startIdx, ledsCount }

def customModeNames : List Bytes :=
  ["Direct", "Custom", "Static"].map fun name => name.toList.map fun ch => UInt8.ofNat ch.toNat

/-- `MODE_COLORS_PER_LED` or `MODE_COLORS_MODE_SPECIFIC`. -/
def Mode.custom (name : Bytes) (m : Mode) : Bool :=
  m.name == name && (m.colorMode == 1 || m.colorMode == 2)

/-- `RGBController::SetCustomMode`. -/
def setCustomMode (c : RGBController) : RGBController :=
  match customModeNames.findSome? fun name => c.modes.findIdx? (Mode.custom name) with
  | some modeIdx => { c with activeMode := Int32.ofNat modeIdx }
  | none => c

end RGBController

/-! ### The bytes each decoder needs -/

/-- The offset of the color count of a mode whose fields start at `p`. -/
def modeCount (v p : Nat) : Nat := p + if 3 ≤ v then 48 else 36

/-- The fields of a mode at offset `p` and its colors fit. -/
def ModeFieldsFit (v : Nat) (data : Bytes) (p : Nat) : Prop :=
  modeCount v p + 2 + 4 * field16 data (modeCount v p) ≤ data.length

/-- A mode at offset `p`: the name ends inside the data, and the fields behind it fit. -/
def ModeFits (v : Nat) (data : Bytes) (p : Nat) : Prop :=
  0 ∈ data.drop (p + 2) ∧ ModeFieldsFit v data (p + 2 + field16 data p)

section Needs
variable {data : Bytes} (small : data.length < 2 ^ 32)
include small

theorem isSome_colors {α : Type} {p : Nat} (f : Nat → List RGBColor → α) :
    ((do let n ← u16
         let colors ← many n u32
         return f n colors : Reader α).exec data p).isSome ↔
      p + 2 + 4 * field16 data p ≤ data.length := by
  rw [isSome_bind_of (exec_u16 small)]
  constructor
  · rintro ⟨room, colors⟩
    rwa [isSome_map, isSome_many_u32 small room] at colors
  · intro room
    refine ⟨by omega, ?_⟩
    rwa [isSome_map, isSome_many_u32 small (by omega)]

theorem isSome_readModeFields {v : Nat} {m : Mode} {name : Bytes} {p : Nat}
    (inside : p ≤ data.length) :
    ((readModeFields v m name).exec data p).isSome ↔ ModeFieldsFit v data p := by
  unfold readModeFields ModeFieldsFit
  have reach : p + 4 + 4 + 4 + 4 + (if 3 ≤ v then 4 else 0) + (if 3 ≤ v then 4 else 0) + 4 + 4 + 4 +
      (if 3 ≤ v then 4 else 0) + 4 + 4 = modeCount v p := by
    unfold modeCount
    split_ifs <;> omega
  apply Fixed.i32.isSome_bind small inside (by omega)
  intro h₁ value
  apply Fixed.u32.isSome_bind small h₁ (by omega)
  intro h₂ flags
  apply Fixed.u32.isSome_bind small h₂ (by omega)
  intro h₃ speedMin
  apply Fixed.u32.isSome_bind small h₃ (by omega)
  intro h₄ speedMax
  apply (Fixed.u32.since 3 v _).isSome_bind small h₄ (by omega)
  intro h₅ brightnessMin
  apply (Fixed.u32.since 3 v _).isSome_bind small h₅ (by omega)
  intro h₆ brightnessMax
  apply Fixed.u32.isSome_bind small h₆ (by omega)
  intro h₇ colorsMin
  apply Fixed.u32.isSome_bind small h₇ (by omega)
  intro h₈ colorsMax
  apply Fixed.u32.isSome_bind small h₈ (by omega)
  intro h₉ speed
  apply (Fixed.u32.since 3 v _).isSome_bind small h₉ (by omega)
  intro h₁₀ brightness
  apply Fixed.u32.isSome_bind small h₁₀ (by omega)
  intro h₁₁ direction
  apply Fixed.u32.isSome_bind small h₁₁ (by omega)
  intro h₁₂ colorMode
  rw [reach]
  exact isSome_colors small _

theorem isSome_readModeOver {v : Nat} {m : Mode} {p : Nat} (low : p + 2 + 2 ^ 16 ≤ 2 ^ 32) :
    ((readModeOver v m).exec data p).isSome ↔ ModeFits v data p := by
  rw [readModeOver, isSome_bind_of (exec_string small low), ModeFits]
  have terminated : 0 ∈ data.drop (p + 2) → p + 2 ≤ data.length := fun ends => by
    have room := List.length_pos_of_mem ends
    rw [List.length_drop] at room
    omega
  by_cases inside : p + 2 + field16 data p ≤ data.length
  · rw [isSome_readModeFields small inside]
    exact and_congr_left fun _ => and_iff_right_of_imp terminated
  · have reads : ¬ ((readModeFields v m (cstr (data.drop (p + 2)))).exec data
        (p + 2 + field16 data p)).isSome := by
      rw [readModeFields, isSome_bind_of (exec_i32 small)]
      omega
    have fits : ¬ ModeFieldsFit v data (p + 2 + field16 data p) := by
      unfold ModeFieldsFit modeCount
      omega
    simp only [fits, and_false]
    exact iff_of_false (fun h => reads h.2) id

end Needs

namespace RGBController
section Needs
variable {data : Bytes} (small : data.length < 2 ^ 32)
include small

theorem isSome_setModeDescription (v : Nat) (c : RGBController) :
    ((c.setModeDescription v).exec data 0).isSome ↔ 8 ≤ data.length ∧
      (sizeT (field32 data 4).toInt32 ≤ c.modes.length → ModeFits v data 8) := by
  rw [setModeDescription, exec_skip_size, isSome_bind_of (exec_i32 small)]
  apply and_congr_right
  intro _
  split_ifs with beyond
  · exact iff_of_true rfl fun within => absurd within (by omega)
  · rw [isSome_map, isSome_readModeOver small (by decide)]
    exact (imp_iff_right (by omega)).symm

theorem isSome_setColorDescription (c : RGBController) :
    (c.setColorDescription.exec data 0).isSome ↔ 6 ≤ data.length ∧
      (field16 data 4 ≤ c.colors.length → 6 + 4 * field16 data 4 ≤ data.length) := by
  rw [setColorDescription, exec_skip_size, isSome_bind_of (exec_u16 small)]
  apply and_congr_right
  intro room
  split_ifs with beyond
  · exact iff_of_true rfl fun within => absurd within (by omega)
  · rw [isSome_map, isSome_many_u32 small room]
    exact (imp_iff_right (by omega)).symm

theorem isSome_setZoneColorDescription (c : RGBController) :
    (c.setZoneColorDescription.exec data 0).isSome ↔ 8 ≤ data.length ∧
      ((field32 data 4).toNat ≤ c.zones.length → 10 + 4 * field16 data 8 ≤ data.length) := by
  rw [setZoneColorDescription, exec_skip_size, isSome_bind_of (exec_u32 small)]
  apply and_congr_right
  intro room
  split_ifs with beyond
  · exact iff_of_true rfl fun within => absurd within (by omega)
  · rw [isSome_colors small]
    exact (imp_iff_right (by omega)).symm

theorem isSome_setSingleLEDColorDescription (c : RGBController) :
    (c.setSingleLEDColorDescription.exec data 0).isSome ↔ 4 ≤ data.length ∧
      (sizeT (field32 data 0).toInt32 ≤ c.leds.length → 8 ≤ data.length) := by
  rw [setSingleLEDColorDescription, isSome_bind_of (exec_i32 small)]
  apply and_congr (by omega)
  split_ifs with beyond
  · exact iff_of_true rfl fun within => absurd within (by omega)
  · rw [isSome_map, exec_u32 small, Option.isSome_ite]
    exact (imp_iff_right (by omega)).symm

theorem isSome_setSegmentDescription (c : RGBController) :
    (c.setSegmentDescription.exec data 0).isSome ↔ 10 + field16 data 8 + 12 ≤ data.length ∧
      0 ∈ (data.drop 10).take (field16 data 8) := by
  rw [setSegmentDescription, exec_skip_size, isSome_bind_of (exec_u32 small),
    isSome_bind_of (exec_u16 small),
    isSome_bind_of (exec_take_small small _), isSome_bind_of (exec_i32 small),
    isSome_bind_of (exec_u32 small), isSome_bind_of (exec_u32 small), isSome_map, copiedText]
  have text : ((if 0 ∈ (data.drop 10).take (field16 data 8) then
      return cstr ((data.drop 10).take (field16 data 8)) else fail : Reader Bytes).exec data
        (10 + field16 data 8 + 12)).isSome ↔ 0 ∈ (data.drop 10).take (field16 data 8) := by
    split_ifs with ends
    · exact iff_of_true rfl ends
    · exact iff_of_false (by simp) ends
  constructor
  · rintro ⟨-, -, -, -, -, room, ends⟩
    exact ⟨room, text.mp ends⟩
  · rintro ⟨room, ends⟩
    have copy : 10 + field16 data 8 ≤ data.length := by omega
    have type : 10 + field16 data 8 + 4 ≤ data.length := by omega
    have start : 10 + field16 data 8 + 8 ≤ data.length := by omega
    exact ⟨by omega, by omega, copy, type, start, room, text.mpr ends⟩

end Needs
end RGBController
end SyncRGB
