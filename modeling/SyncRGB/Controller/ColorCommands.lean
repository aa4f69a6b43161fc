import SyncRGB.Controller.Commands
import SyncRGB.Controller.ZoneColors

/-! The descriptions of colors and of a segment: what the encoders store and what the decoders make of it. -/
namespace SyncRGB
open ByteCodec Reader VectorEdit

theorem toUInt32_toNat_of_nonneg {i : Int32} (nonneg : 0 ≤ i.toInt) : i.toUInt32.toNat = sizeT i := by
  have bits : i.toInt = if 2 * i.toUInt32.toNat < 2 ^ 32 then (i.toUInt32.toNat : Int) else i.toUInt32.toNat - 2 ^ 32 :=
    BitVec.toInt_eq_toNat_cond i.toBitVec
  have bound := i.toUInt32.toNat_lt
  rw [sizeT]
  split_ifs at bits <;> omega

theorem colorStores_stored {qs : List Put} {xs : List RGBColor} :
    stored (qs ++ xs.flatMap fun x => [Put.u32 x]) = stored qs + xs.length * 4 := by
  rw [stored_append, stored_words]

namespace RGBController
variable {c : RGBController}

/-! ### All colors -/

theorem getColorDescription_eq (memory : Nat → UInt8) (few : c.colors.length ≤ 65535) :
    c.getColorDescription memory =
      some (contents (Put.u32 (.ofNat (4 + 2 + c.colors.length * 4)) :: Put.u16 c.colors.length ::
        c.colors.flatMap fun x => [Put.u32 x])) := by
  have count : count16 c.colors.length = c.colors.length := Nat.mod_eq_of_lt (by omega)
  have exact : ∀ q ∈ [Put.u32 (.ofNat (4 + 2 + c.colors.length * 4)), Put.u16 c.colors.length] ++
      c.colors.flatMap fun x => [Put.u32 x], q.Exact :=
    exact_headed (by simp [Put.u32, Put.u16]) (exact_words c.colors)
  simp only [getColorDescription, count, List.take_length]
  apply filled_exact exact _ (by omega)
  rw [colorStores_stored]
  simp

theorem reads_setColorDescription {n : Nat} {xs : List RGBColor} (length : xs.length = n) (few : n < 2 ^ 16)
    (room : n ≤ c.colors.length) (size : UInt32) :
    Reads c.setColorDescription
      (contents (Put.u32 size :: Put.u16 n :: xs.flatMap fun x => [Put.u32 x]))
      (some { c with colors := overwrite 0 xs c.colors }) := by
  have stores : storeColors c.colors 0 xs = some (overwrite 0 xs c.colors) := by
    rw [storeColors_eq, if_pos (.inr (by omega))]
  have loop : Reads (do
        let newColors ← many n Reader.u32
        return (storeColors c.colors 0 newColors).map fun colors => { c with colors })
      (contents (xs.flatMap fun x => [Put.u32 x])) (some { c with colors := overwrite 0 xs c.colors }) := by
    have back := (reads_words xs length.symm).map fun newColors =>
      (storeColors c.colors 0 newColors).map fun colors => { c with colors }
    rwa [stores] at back
  rw [contents_cons, contents_cons]
  apply (Reads.skip (ByteCodec.u32 size)).bind
  apply (reads_u16 few).bind
  rw [if_neg (by omega)]
  exact loop

/-! ### The colors of a zone -/

theorem loadZoneColors_eq {z : Zone} {n : Nat} (used : 0 < n) {start : Nat} (pointer : z.colors = some start) :
    c.loadZoneColors z n = if start + n ≤ c.colors.length then some (slice start n c.colors) else none := by
  rw [loadZoneColors, if_neg (by omega), pointer]
  rfl

theorem getZoneColorDescription_of_load (memory : Nat → UInt8) {zone : Int32} {z : Zone} {xs : List RGBColor}
    (found : c.zones[sizeT zone]? = some z)
    (load : c.loadZoneColors z (count16 z.ledsCount.toNat) = some xs)
    (length : xs.length = count16 z.ledsCount.toNat) :
    c.getZoneColorDescription memory zone =
      some (contents (Put.u32 (.ofNat (4 + 4 + 2 + xs.length * 4)) :: Put.i32 zone :: Put.u16 xs.length ::
        xs.flatMap fun x => [Put.u32 x])) := by
  have few := count16_lt z.ledsCount.toNat
  have exact : ∀ q ∈ [Put.u32 (.ofNat (4 + 4 + 2 + xs.length * 4)), Put.i32 zone, Put.u16 xs.length] ++
      xs.flatMap fun x => [Put.u32 x], q.Exact :=
    exact_headed (by simp [Put.u32, Put.i32, Put.u16]) (exact_words xs)
  rw [← length] at load
  rw [getZoneColorDescription, found, Option.bind_eq_bind, Option.bind_some]
  simp only [← length, load, Option.bind_eq_bind, Option.bind_some]
  apply filled_exact exact _ (by omega)
  rw [colorStores_stored]
  simp

theorem reads_setZoneColorDescription {zone : Int32} (nonneg : 0 ≤ zone.toInt)
    (inside : sizeT zone < c.zones.length) {xs : List RGBColor} (few : xs.length < 2 ^ 16) (size : UInt32) :
    Reads c.setZoneColorDescription
      (contents (Put.u32 size :: Put.i32 zone :: Put.u16 xs.length :: xs.flatMap fun x => [Put.u32 x]))
      (c.storeZoneColors (sizeT zone) xs) := by
  have index := toUInt32_toNat_of_nonneg nonneg
  have loop := (reads_words xs rfl).map fun newColors =>
    c.storeZoneColors zone.toUInt32.toNat newColors
  rw [← index]
  rw [contents_cons, contents_cons, contents_cons]
  apply (Reads.skip (ByteCodec.u32 size)).bind
  apply (Reads.u32 zone.toUInt32).bind
  rw [if_neg (by omega)]
  apply (reads_u16 few).bind
  exact loop

/-! ### One color -/

theorem getSingleLEDColorDescription_eq (memory : Nat → UInt8) {led : Int32} {color : RGBColor}
    (found : c.colors[sizeT led]? = some color) :
    c.getSingleLEDColorDescription memory led = some (contents [Put.i32 led, Put.u32 color]) := by
  have exact : ∀ q ∈ [Put.i32 led, Put.u32 color], q.Exact := by
    simp [Put.i32, Put.u32, Put.copy_exact]
  rw [getSingleLEDColorDescription, found, Option.bind_eq_bind, Option.bind_some]
  exact filled_exact exact rfl (by decide)

theorem reads_setSingleLEDColorDescription {led : Int32} (inside : sizeT led ≤ c.leds.length)
    (slot : sizeT led < c.colors.length) (color : RGBColor) :
    Reads c.setSingleLEDColorDescription (contents [Put.i32 led, Put.u32 color])
      (some { c with colors := c.colors.set (sizeT led) color }) := by
  have stores : storeColors c.colors (sizeT led) [color] = some (c.colors.set (sizeT led) color) := by
    rw [storeColors, if_pos slot, storeColors]
  have last := (reads_u32 color).map fun color =>
    (storeColors c.colors (sizeT led) [color]).map fun colors => { c with colors }
  rw [stores] at last
  rw [contents_cons, contents_cons, contents_nil, List.append_nil]
  apply (reads_i32 led).bind
  rw [if_neg (by omega)]
  exact last

/-- Behind the LEDs nothing more is read. -/
theorem exec_setSingleLEDColorDescription_beyond {led : Int32} (beyond : c.leds.length < sizeT led)
    (color : RGBColor) :
    c.setSingleLEDColorDescription.exec (contents [Put.i32 led, Put.u32 color]) 0 = some (some c, 4) := by
  have index := (reads_i32 led) [] (Put.u32 color).bytes (by simp [ByteCodec.i32, ByteCodec.u32, Put.i32, Put.u32])
  rw [contents_cons, contents_cons, contents_nil, List.append_nil]
  rw [setSingleLEDColorDescription, exec_bind]
  simp only [List.nil_append, List.length_nil, Nat.zero_add, Put.i32_length] at index
  rw [index, Option.bind_some, if_pos beyond]
  rfl

/-! ### Segments -/

theorem getSegmentDescription_eq (memory : Nat → UInt8) (zone : Int32) {g : Segment}
    (fits : strlen g.name ≤ 65534) :
    getSegmentDescription memory zone g =
      some (contents (Put.u32 (.ofNat (4 + 4 + g.size)) :: Put.i32 zone :: g.puts)) := by
  have small : 4 + 4 + g.size < 2 ^ 32 := by
    unfold Segment.size
    omega
  have exact : ∀ q ∈ [Put.u32 (.ofNat (4 + 4 + g.size)), Put.i32 zone] ++ g.puts, q.Exact :=
    exact_headed (by simp [Put.u32, Put.i32]) (exact_segmentPuts fits)
  rw [getSegmentDescription, Nat.mod_eq_of_lt small]
  apply filled_exact exact _ small
  rw [stored_append, stored_segmentPuts fits]
  simp

theorem reads_setSegmentDescription {zone : Int32} {g : Segment} (plain : (0 : UInt8) ∉ g.name)
    (fits : g.name.length ≤ 65534) (size : UInt32) :
    Reads c.setSegmentDescription (contents (Put.u32 size :: Put.i32 zone :: g.puts)) (c.addSegment zone g) := by
  have text : cstr g.name = g.name := cstr_of_no_nul plain
  have length : len16 g.name = (g.name ++ [0]).length := by
    rw [(len16_eq_iff g.name).mpr (by rwa [strlen, text]), strlen, text, List.length_append,
      List.length_singleton]
  have small : len16 g.name < 2 ^ 16 := Nat.mod_lt _ (by decide)
  have ends : (0 : UInt8) ∈ g.name ++ [0] := List.mem_append_right _ List.mem_cons_self
  have copied : cstr (g.name ++ [0]) = g.name := by
    have front := cstr_terminated g.name []
    rwa [text] at front
  have last : Reads (do
        let name ← copiedText (g.name ++ [0])
        return c.addSegment zone { name, type := g.type, startIdx := g.startIdx, ledsCount := g.ledsCount })
      [] (c.addSegment zone g) := by
    rw [copiedText, if_pos ends, copied]
    exact Reads.pure _
  rw [contents_cons, contents_cons, Segment.puts, putString, Put.strcpy, text]
  simp only [contents_cons, contents_nil, List.cons_append, List.nil_append, List.append_nil]
  apply (Reads.skip (ByteCodec.u32 size)).bind
  apply (Reads.u32 zone.toUInt32).bind
  apply (reads_u16 small).bind
  rw [length]
  apply (Reads.take (g.name ++ [0])).bind
  apply (reads_i32 g.type).bind
  apply (reads_u32 g.startIdx).bind
  rw [← List.append_nil (Put.u32 g.ledsCount).bytes]
  apply (reads_u32 g.ledsCount).bind
  exact last

end RGBController
end SyncRGB
