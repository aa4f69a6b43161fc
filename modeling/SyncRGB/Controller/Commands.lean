import SyncRGB.Controller.RoundTrip
import SyncRGB.Controller.Updates
import SyncRGB.VectorEdit.Slices

/-! The descriptions that a client sends of one mode, of colors and of a segment, and the way of a mode back
into a controller. -/
namespace SyncRGB
open ByteCodec Reader VectorEdit

/-- The stores `qs` into a new buffer of `size` bytes; `none` when one of them leaves it. -/
def filled (memory : Nat → UInt8) (size : Nat) (qs : List Put) : Option Bytes :=
  (fill qs (RGBController.alloc memory size) 0).map Prod.fst

namespace RGBController

section
variable (memory : Nat → UInt8) (c : RGBController)

/-- `RGBController::GetModeDescription`. The mode is laid out as in a device description. -/
def getModeDescription (v : Nat) (mode : Int32) : Option Bytes := do
  let m ← c.modes[sizeT mode]?
  let dataSize := 4 + 4 + m.size v
  filled memory dataSize ([Put.u32 (.ofNat dataSize), Put.i32 mode] ++ m.puts v)

/-- `RGBController::GetColorDescription`. -/
def getColorDescription : Option Bytes :=
  let numColors := count16 c.colors.length
  let dataSize := 4 + 2 + numColors * 4
  filled memory dataSize ([Put.u32 (.ofNat dataSize), Put.u16 numColors] ++
    (c.colors.take numColors).flatMap fun x => [Put.u32 x])

/-- The first `numColors` colors behind the pointer of a zone; `none` when one is read outside. -/
def loadZoneColors (z : Zone) (numColors : Nat) : Option (List RGBColor) :=
  if numColors = 0 then some []
  else do
    let start ← z.colors
    if start + numColors ≤ c.colors.length then return slice start numColors c.colors else none

/-- `RGBController::GetZoneColorDescription`. It counts the LEDs of the zone, not those that have a color. -/
def getZoneColorDescription (zone : Int32) : Option Bytes := do
  let z ← c.zones[sizeT zone]?
  let numColors := count16 z.ledsCount.toNat
  let dataSize := 4 + 4 + 2 + numColors * 4
  let colors ← c.loadZoneColors z numColors
  filled memory dataSize ([Put.u32 (.ofNat dataSize), Put.i32 zone, Put.u16 numColors] ++
    colors.flatMap fun x => [Put.u32 x])

/-- `RGBController::GetSingleLEDColorDescription`. -/
def getSingleLEDColorDescription (led : Int32) : Option Bytes := do
  let color ← c.colors[sizeT led]?
  filled memory (4 + 4) [Put.i32 led, Put.u32 color]

end

/-- `RGBController::GetSegmentDescription`. It does not look at the controller. -/
def getSegmentDescription (memory : Nat → UInt8) (zone : Int32) (newSegment : Segment) : Option Bytes :=
  let dataSize := (4 + 4 + newSegment.size) % 2 ^ 32
  filled memory dataSize ([Put.u32 (.ofNat dataSize), Put.i32 zone] ++ newSegment.puts)

end RGBController

/-! ### Full buffers -/

theorem filled_exact {memory : Nat → UInt8} {size : Nat} {qs : List Put} (exact : ∀ q ∈ qs, q.Exact)
    (total : stored qs = size) (small : size < 2 ^ 32) : filled memory size qs = some (contents qs) := by
  have length := RGBController.alloc_length memory size
  have room : 0 + stored qs ≤ (RGBController.alloc memory size).length := by omega
  rw [filled, fill_exact exact (by omega) room, Option.map_some, List.drop_of_length_le (by omega), List.append_nil]
  rfl

/-- Exact stores that need more room than there is leave the buffer. -/
theorem filled_short {memory : Nat → UInt8} {size : Nat} {qs : List Put} (exact : ∀ q ∈ qs, q.Exact)
    (short : size < stored qs) (small : size < 2 ^ 32) : filled memory size qs = none := by
  have length := RGBController.alloc_length memory size
  rw [filled, Option.map_eq_none_iff, ← Option.not_isSome_iff_eq_none, fill_isSome_iff exact (by omega) (by omega)]
  omega

theorem exact_words (xs : List UInt32) : ∀ q ∈ xs.flatMap fun x => [Put.u32 x], q.Exact := by
  intro q member
  obtain ⟨x, -, own⟩ := List.mem_flatMap.mp member
  cases List.mem_singleton.mp own
  exact Put.copy_exact _

theorem exact_putString {s : Bytes} (fits : strlen s ≤ 65534) : ∀ q ∈ putString s, q.Exact := by
  rw [forall_putString Put.copy_exact, Put.Exact, Put.strcpy_length]
  exact (len16_eq_iff s).mpr fits

theorem exact_modePuts {v : Nat} {m : Mode} (fits : strlen m.name ≤ 65534) : ∀ q ∈ m.puts v, q.Exact := by
  rw [forall_modePuts Put.copy_exact, Put.Exact, Put.strcpy_length]
  exact (len16_eq_iff m.name).mpr fits

theorem exact_segmentPuts {s : Segment} (fits : strlen s.name ≤ 65534) : ∀ q ∈ s.puts, q.Exact := by
  rw [forall_segmentPuts Put.copy_exact, Put.Exact, Put.strcpy_length]
  exact (len16_eq_iff s.name).mpr fits

/-- Leading fields are copied as they are. -/
theorem exact_headed {qs rs : List Put} (front : ∀ q ∈ qs, ∃ bs, q = Put.copy bs)
    (rest : ∀ q ∈ rs, q.Exact) : ∀ q ∈ qs ++ rs, q.Exact := by
  rw [List.forall_mem_append]
  refine ⟨?_, rest⟩
  intro q member
  obtain ⟨bs, rfl⟩ := front q member
  exact Put.copy_exact bs

theorem Mode.size_lt (v : Nat) (m : Mode) : 4 + 4 + m.size v < 2 ^ 32 := by
  have name : len16 m.name < 2 ^ 16 := Nat.mod_lt _ (by decide)
  have colors : count16 m.colors.length < 2 ^ 16 := Nat.mod_lt _ (by decide)
  unfold Mode.size
  split_ifs <;> omega

/-! ### Modes -/

/-- The mode as version `v` transmits it, over `old`: below version 3 the brightness of `old` stays. -/
def Mode.over (v : Nat) (m old : Mode) : Mode :=
  { m with
    brightnessMin := if 3 ≤ v then m.brightnessMin else old.brightnessMin
    brightnessMax := if 3 ≤ v then m.brightnessMax else old.brightnessMax
    brightness := if 3 ≤ v then m.brightness else old.brightness }

theorem Mode.sentOver_eq {v : Nat} {m old : Mode} (plain : (0 : UInt8) ∉ m.name)
    (colors : m.colors.length ≤ 65535) : m.sentOver v old = m.over v old := by
  have whole : m.colors.take (count16 m.colors.length) = m.colors := take_count16 (by omega)
  rw [Mode.sentOver, cstr_of_no_nul plain, whole, Mode.over]

namespace RGBController

theorem modePuts_stored {v : Nat} {mode : Int32} {m : Mode} (fits : strlen m.name ≤ 65534) (size : UInt32) :
    stored ([Put.u32 size, Put.i32 mode] ++ m.puts v) = 4 + 4 + m.size v := by
  rw [stored_append, stored_modePuts fits]
  simp only [stored_cons, stored_nil, Put.u32_length, Put.i32_length]

theorem getModeDescription_eq (memory : Nat → UInt8) {v : Nat} {c : RGBController} {mode : Int32} {m : Mode}
    (found : c.modes[sizeT mode]? = some m) (fits : strlen m.name ≤ 65534) :
    c.getModeDescription memory v mode =
      some (contents ([Put.u32 (.ofNat (4 + 4 + m.size v)), Put.i32 mode] ++ m.puts v)) := by
  have exact : ∀ q ∈ [Put.u32 (.ofNat (4 + 4 + m.size v)), Put.i32 mode] ++ m.puts v, q.Exact :=
    exact_headed (by simp [Put.u32, Put.i32]) (exact_modePuts fits)
  rw [getModeDescription, found, Option.bind_eq_bind, Option.bind_some]
  exact filled_exact exact (modePuts_stored fits _) (m.size_lt v)

theorem reads_setModeDescription {v : Nat} {m : Mode} (fits : strlen m.name ≤ 65534) (size : UInt32)
    {mode : Int32} {d : RGBController} {old : Mode} (target : d.modes[sizeT mode]? = some old) :
    Reads (d.setModeDescription v) (contents ([Put.u32 size, Put.i32 mode] ++ m.puts v))
      (some { d with activeMode := mode, modes := d.modes.set (sizeT mode) (m.sentOver v old) }) := by
  have inside : ¬ sizeT mode > d.modes.length := by
    have bound := (List.getElem?_eq_some_iff.mp target).1
    omega
  have stores : Reads (do
        let newMode ← readModeOver v (d.modes[sizeT mode]?.getD Mode.new)
        return d.modes[sizeT mode]?.map fun _ =>
          { d with activeMode := mode, modes := d.modes.set (sizeT mode) newMode })
      (contents (m.puts v))
      (some { d with activeMode := mode, modes := d.modes.set (sizeT mode) (m.sentOver v old) }) := by
    rw [target]
    exact (reads_modeOver fits).map _
  rw [contents_append, contents_cons, contents_cons, contents_nil, List.append_nil, List.append_assoc]
  apply (Reads.skip (ByteCodec.u32 size)).bind
  apply (reads_i32 mode).bind
  rw [if_neg inside]
  exact stores

/-- A mode description takes the mode to the same index of another controller. -/
theorem setModeDescription_getModeDescription (memory : Nat → UInt8) (v : Nat) {c d : RGBController}
    {mode : Int32} {m old : Mode} (found : c.modes[sizeT mode]? = some m)
    (target : d.modes[sizeT mode]? = some old) (plain : (0 : UInt8) ∉ m.name)
    (fits : m.name.length ≤ 65534) (colors : m.colors.length ≤ 65535) :
    ∃ data, c.getModeDescription memory v mode = some data ∧
      (d.setModeDescription v).exec data 0 = some (some
        { d with activeMode := mode, modes := d.modes.set (sizeT mode) (m.over v old) }, data.length) := by
  have text : strlen m.name ≤ 65534 := by rwa [strlen, cstr_of_no_nul plain]
  have small : (contents ([Put.u32 (.ofNat (4 + 4 + m.size v)), Put.i32 mode] ++ m.puts v)).length <
      2 ^ 32 := by
    rw [contents_length, modePuts_stored text]
    exact m.size_lt v
  refine ⟨_, getModeDescription_eq memory found text, ?_⟩
  rw [(reads_setModeDescription text _ target).whole small, Mode.sentOver_eq plain colors]

/-- The second mode of a controller reaches one with another second mode. -/
theorem setModeDescription_second :
    let c : RGBController := { new 2 with modes := [Mode.new, { Mode.new with name := [65], colors := [7] }] }
    let d : RGBController := { new 1 with modes := [Mode.new, { Mode.new with brightness := 9 }] }
    ∃ data, c.getModeDescription (fun _ => 0) 2 1 = some data ∧
      (d.setModeDescription 2).exec data 0 = some (some
        { d with
          activeMode := 1
          modes := d.modes.set (sizeT 1)
            (Mode.over 2 { Mode.new with name := [65], colors := [7] } { Mode.new with brightness := 9 }) },
        data.length) :=
  setModeDescription_getModeDescription (fun _ => 0) 2 rfl rfl (by decide) (by decide) (by decide)

end RGBController
end SyncRGB
