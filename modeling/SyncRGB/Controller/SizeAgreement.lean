import Mathlib.Data.Nat.ModEq
import SyncRGB.Controller.Description

/-! When the two passes of `GetDeviceDescription` agree. The first pass counts
controller, mode, zone and LED texts and the matrix by their 16-bit lengths but
segments and alternate names in full; the second pass stores every text in full,
the whole matrix, and only the 16-bit number of segments. -/
namespace SyncRGB
open ByteCodec

theorem len16_le (s : Bytes) : len16 s ≤ strlen s + 1 := by
  have h₁ := Nat.mod_le (strlen s) (2 ^ 16)
  have h₂ := Nat.mod_le (strlen s % 2 ^ 16 + 1) (2 ^ 16)
  unfold len16; omega

theorem len16_eq_iff (s : Bytes) : len16 s = strlen s + 1 ↔ strlen s ≤ 65534 := by
  unfold len16; omega

/-! ### Which stores can differ from their step -/

theorem forall_sincePuts {P : Put → Prop} (k v : Nat) (qs : List Put) :
    (∀ q ∈ sincePuts k v qs, P q) ↔ (k ≤ v → ∀ q ∈ qs, P q) := by
  unfold sincePuts
  split <;> rename_i h <;> simp [h]

theorem forall_mem_gated {α : Type} {P : α → Prop} (k v : Nat) (xs : List α) :
    (∀ x ∈ (if k ≤ v then xs else []), P x) ↔ (k ≤ v → ∀ x ∈ xs, P x) := by
  split <;> rename_i h <;> simp [h]

section Stores
variable {P : Put → Prop} (hcopy : ∀ bs, P (Put.copy bs))
include hcopy

theorem forall_putString (s : Bytes) :
    (∀ q ∈ putString s, P q) ↔ P (Put.strcpy s (len16 s)) := by
  simp only [putString, List.forall_mem_cons, List.not_mem_nil, false_implies, implies_true,
    and_true, Put.u16, hcopy, true_and]

theorem forall_modePuts (v : Nat) (m : Mode) :
    (∀ q ∈ m.puts v, P q) ↔ P (Put.strcpy m.name (len16 m.name)) := by
  simp only [Mode.puts, List.forall_mem_append, forall_putString hcopy, forall_sincePuts,
    List.forall_mem_cons, List.not_mem_nil, false_implies, implies_true, and_true, Put.u16,
    Put.u32, Put.i32, hcopy, List.forall_mem_flatMap]

theorem forall_segmentPuts (s : Segment) :
    (∀ q ∈ s.puts, P q) ↔ P (Put.strcpy s.name (len16 s.name)) := by
  simp only [Segment.puts, List.forall_mem_append, forall_putString hcopy, List.forall_mem_cons,
    List.not_mem_nil, false_implies, implies_true, and_true, Put.u32, Put.i32, hcopy]

theorem forall_matrixPuts (z : Zone) : ∀ q ∈ z.matrixPuts, P q := by
  unfold Zone.matrixPuts
  split
  · exact fun q hq => absurd hq List.not_mem_nil
  · split
    · simp only [List.forall_mem_append, List.forall_mem_cons, List.not_mem_nil, false_implies,
        implies_true, and_true, Put.u32, hcopy, List.forall_mem_flatMap]
    · exact fun q hq => absurd hq List.not_mem_nil

theorem forall_zonePuts (v : Nat) (z : Zone) :
    (∀ q ∈ z.puts v, P q) ↔ P (Put.strcpy z.name (len16 z.name)) ∧
      (4 ≤ v → ∀ s ∈ z.sentSegments, P (Put.strcpy s.name (len16 s.name))) := by
  have matrix := forall_matrixPuts hcopy z
  simp only [Zone.puts, List.forall_mem_append, forall_putString hcopy, forall_sincePuts,
    List.forall_mem_cons, List.not_mem_nil, false_implies, implies_true, and_true, Put.u16,
    Put.u32, Put.i32, hcopy, true_and, List.forall_mem_flatMap, forall_segmentPuts hcopy]
  exact and_congr_left fun _ => and_iff_left matrix

theorem forall_ledPuts (l : Led) :
    (∀ q ∈ l.puts, P q) ↔ P (Put.strcpy l.name (len16 l.name)) := by
  simp only [Led.puts, List.forall_mem_append, forall_putString hcopy, List.forall_mem_cons,
    List.not_mem_nil, false_implies, implies_true, and_true, Put.u32, hcopy]

end Stores

namespace RGBController

/-- Every text the second pass stores at version `v`. -/
def sentStrings (v : Nat) (c : RGBController) : List Bytes :=
  [c.name] ++ (if 1 ≤ v then [c.vendor] else []) ++
  [c.description, c.version, c.serial, c.location] ++ c.sentModes.map Mode.name ++
  (c.sentZones.flatMap fun z => z.name :: if 4 ≤ v then z.sentSegments.map Segment.name else []) ++
  c.sentLeds.map Led.name ++ (if 5 ≤ v then c.ledAltNames else [])

/-- Only the texts decide whether a property that holds of plain copies holds of all stores. -/
theorem forall_puts {P : Put → Prop} (hcopy : ∀ bs, P (Put.copy bs)) (v : Nat)
    (c : RGBController) :
    (∀ q ∈ c.puts v, P q) ↔ ∀ s ∈ c.sentStrings v, P (Put.strcpy s (len16 s)) := by
  simp only [puts, bodyPuts, sentStrings, List.forall_mem_append, forall_putString hcopy,
    forall_sincePuts, forall_mem_gated, List.forall_mem_cons, List.not_mem_nil, false_implies,
    implies_true, and_true, Put.u16, Put.u32, Put.i32, hcopy, true_and, List.forall_mem_flatMap,
    List.forall_mem_map, forall_modePuts hcopy, forall_zonePuts hcopy, forall_ledPuts hcopy,
    and_assoc]

theorem puts_step_le (v : Nat) (c : RGBController) :
    ∀ q ∈ c.puts v, q.step ≤ q.bytes.length := by
  rw [forall_puts (fun bs => le_refl bs.length)]
  intro s _
  rw [Put.strcpy_length]
  exact len16_le s

theorem puts_exact_iff (v : Nat) (c : RGBController) :
    (∀ q ∈ c.puts v, q.Exact) ↔ ∀ s ∈ c.sentStrings v, strlen s ≤ 65534 := by
  rw [forall_puts Put.copy_exact]
  refine forall₂_congr fun s _ => ?_
  rw [Put.Exact, Put.strcpy_length]
  exact len16_eq_iff s

end RGBController

/-! ### Counting the stored bytes -/

/-- Segments that the first pass counts and the second leaves out. -/
def Zone.droppedSegments (z : Zone) : List Segment := z.segments.drop (count16 z.segments.length)

/-- Matrix bytes that the second pass stores beyond the 16-bit matrix length. -/
def Zone.matrixExcess (z : Zone) : Nat :=
  match z.matrixMap with
  | none => 0
  | some m => if 0 < z.matrixLen then (2 * 4 + (m.height * m.width).toNat * 4) / 2 ^ 16 * 2 ^ 16 else 0

theorem stored_words (xs : List UInt32) : stored (xs.flatMap fun x => [Put.u32 x]) = xs.length * 4 := by
  induction xs with
  | nil => rfl
  | cons x xs ih =>
      rw [List.flatMap_cons, stored_append, ih]
      simp only [stored_cons, stored_nil, Put.u32_length, List.length_cons]
      omega

theorem stored_putString {s : Bytes} (h : strlen s ≤ 65534) : stored (putString s) = len16 s + 2 := by
  rw [(len16_eq_iff s).mpr h]
  simp only [putString, stored_cons, stored_nil, Put.u16_length, Put.strcpy_length]
  omega

theorem stored_matrixPuts (z : Zone) : stored z.matrixPuts = z.matrixLen + z.matrixExcess := by
  unfold Zone.matrixPuts Zone.matrixExcess
  cases hm : z.matrixMap with
  | none => simp only [stored_nil, Zone.matrixLen, hm]
  | some m =>
      have split := Nat.div_add_mod' (2 * 4 + (m.height * m.width).toNat * 4) (2 ^ 16)
      have len : z.matrixLen = (2 * 4 + (m.height * m.width).toNat * 4) % 2 ^ 16 := by
        simp only [Zone.matrixLen, hm]
      simp only
      split_ifs with h
      · rw [stored_append, stored_words, List.Vector.toList_length]
        simp only [stored_cons, stored_nil, Put.u32_length]
        omega
      · simp only [stored_nil]; omega

theorem stored_modePuts {v : Nat} {m : Mode} (h : strlen m.name ≤ 65534) :
    stored (m.puts v) = m.size v := by
  have colors : (m.colors.take (count16 m.colors.length)).length = count16 m.colors.length :=
    List.length_take_of_le (Nat.mod_le _ _)
  simp only [Mode.puts, Mode.size, stored_append, stored_sincePuts, stored_putString h,
    stored_words, colors, stored_cons, stored_nil, Put.u16_length, Put.u32_length, Put.i32_length]
  split_ifs <;> omega

theorem stored_segmentPuts {s : Segment} (h : strlen s.name ≤ 65534) : stored s.puts = s.size := by
  simp only [Segment.puts, Segment.size, stored_append, stored_putString h, stored_cons,
    stored_nil, Put.u32_length, Put.i32_length, (len16_eq_iff s.name).mpr h]
  omega

theorem stored_segments {z : Zone} (h : ∀ s ∈ z.sentSegments, strlen s.name ≤ 65534) :
    stored (z.sentSegments.flatMap Segment.puts) + (z.droppedSegments.map Segment.size).sum =
      (z.segments.map Segment.size).sum := by
  have sent : z.sentSegments.map (fun s => stored s.puts) = z.sentSegments.map Segment.size :=
    List.map_congr_left fun s hs => stored_segmentPuts (h s hs)
  rw [stored_flatMap, sent, ← List.sum_append, ← List.map_append]
  exact congrArg (fun l => (l.map Segment.size).sum) (List.take_append_drop _ _)

theorem stored_zonePuts {v : Nat} {z : Zone} (hn : strlen z.name ≤ 65534)
    (hs : 4 ≤ v → ∀ s ∈ z.sentSegments, strlen s.name ≤ 65534) :
    stored (z.puts v) + (if 4 ≤ v then (z.droppedSegments.map Segment.size).sum else 0) =
      z.size v + z.matrixExcess := by
  have matrix := stored_matrixPuts z
  simp only [Zone.puts, Zone.size, stored_append, stored_sincePuts, stored_putString hn, matrix,
    stored_cons, stored_nil, Put.u16_length, Put.u32_length, Put.i32_length]
  by_cases h4 : 4 ≤ v
  · have segments := stored_segments (hs h4)
    simp only [if_pos h4]
    split_ifs <;> omega
  · simp only [if_neg h4]
    split_ifs <;> omega

theorem stored_ledPuts {l : Led} (h : strlen l.name ≤ 65534) : stored l.puts = l.size := by
  simp only [Led.puts, Led.size, stored_append, stored_putString h, stored_cons, stored_nil,
    Put.u32_length]

theorem stored_altName {s : Bytes} (h : strlen s ≤ 65534) : stored (putString s) = altNameSize s := by
  rw [stored_putString h, (len16_eq_iff s).mpr h]
  unfold altNameSize; omega

namespace RGBController

def droppedSize (v : Nat) (c : RGBController) : Nat :=
  (c.sentZones.map fun z =>
    if 4 ≤ v then (z.droppedSegments.map Segment.size).sum else 0).sum

def matrixExcess (c : RGBController) : Nat := (c.sentZones.map Zone.matrixExcess).sum

structure TextsFit (v : Nat) (c : RGBController) : Prop where
  name : strlen c.name ≤ 65534
  vendor : 1 ≤ v → strlen c.vendor ≤ 65534
  description : strlen c.description ≤ 65534
  version : strlen c.version ≤ 65534
  serial : strlen c.serial ≤ 65534
  location : strlen c.location ≤ 65534
  modes : ∀ m ∈ c.sentModes, strlen m.name ≤ 65534
  zones : ∀ z ∈ c.sentZones, strlen z.name ≤ 65534
  segments : ∀ z ∈ c.sentZones, 4 ≤ v → ∀ s ∈ z.sentSegments, strlen s.name ≤ 65534
  leds : ∀ l ∈ c.sentLeds, strlen l.name ≤ 65534
  altNames : 5 ≤ v → ∀ s ∈ c.ledAltNames, strlen s ≤ 65534

theorem textsFit_iff (v : Nat) (c : RGBController) :
    c.TextsFit v ↔ ∀ s ∈ c.sentStrings v, strlen s ≤ 65534 := by
  simp only [sentStrings, List.forall_mem_append, forall_mem_gated, List.forall_mem_cons,
    List.not_mem_nil, false_implies, implies_true, and_true, List.forall_mem_flatMap,
    List.forall_mem_map, and_assoc, forall_and]
  constructor
  · intro h
    exact ⟨h.name, h.vendor, h.description, h.version, h.serial, h.location, h.modes, h.zones,
      h.segments, h.leds, h.altNames⟩
  · rintro ⟨h₁, h₂, h₃, h₄, h₅, h₆, h₇, h₈, h₉, h₁₀, h₁₁⟩
    exact ⟨h₁, h₂, h₃, h₄, h₅, h₆, h₇, h₈, h₉, h₁₀, h₁₁⟩

theorem sum_zonePuts {v : Nat} {zs : List Zone} (hn : ∀ z ∈ zs, strlen z.name ≤ 65534)
    (hs : ∀ z ∈ zs, 4 ≤ v → ∀ s ∈ z.sentSegments, strlen s.name ≤ 65534) :
    stored (zs.flatMap (Zone.puts v)) +
        (zs.map fun z => if 4 ≤ v then (z.droppedSegments.map Segment.size).sum else 0).sum =
      (zs.map (Zone.size v)).sum + (zs.map Zone.matrixExcess).sum := by
  rw [stored_flatMap, ← List.sum_map_add, ← List.sum_map_add]
  exact congrArg List.sum (List.map_congr_left fun z hz => stored_zonePuts (hn z hz) (hs z hz))

theorem stored_puts {v : Nat} {c : RGBController} (h : c.TextsFit v) :
    stored (c.puts v) + c.droppedSize v = c.sizeSum v + c.matrixExcess := by
  have zones := sum_zonePuts h.zones h.segments
  have modes : stored (c.sentModes.flatMap (Mode.puts v)) = (c.sentModes.map (Mode.size v)).sum := by
    rw [stored_flatMap]
    exact congrArg List.sum (List.map_congr_left fun m hm => stored_modePuts (h.modes m hm))
  have leds : stored (c.sentLeds.flatMap Led.puts) = (c.sentLeds.map Led.size).sum := by
    rw [stored_flatMap]
    exact congrArg List.sum (List.map_congr_left fun l hl => stored_ledPuts (h.leds l hl))
  have colors : c.sentColors.length = count16 c.colors.length :=
    List.length_take_of_le (Nat.mod_le _ _)
  have vendor : (if 1 ≤ v then stored (putString c.vendor) else 0) =
      if 1 ≤ v then len16 c.vendor + 2 else 0 := by
    split_ifs with h1
    · exact stored_putString (h.vendor h1)
    · rfl
  have altNames : (if 5 ≤ v then 2 + stored (c.ledAltNames.flatMap putString) else 0) =
      if 5 ≤ v then 2 + (c.ledAltNames.map altNameSize).sum else 0 := by
    split_ifs with h5
    · rw [stored_flatMap]
      exact congrArg (2 + List.sum ·)
        (List.map_congr_left fun s hs => stored_altName (h.altNames h5 s hs))
    · rfl
  simp only [puts, bodyPuts, stored_cons, stored_append, stored_nil, stored_sincePuts,
    Put.copy_length, le_length, Put.u16_length, Put.u32_length, Put.i32_length,
    stored_putString h.name, stored_putString h.description, stored_putString h.version,
    stored_putString h.serial, stored_putString h.location, stored_words, modes, leds, colors,
    vendor, altNames, Nat.add_zero]
  unfold sizeSum droppedSize matrixExcess
  omega

@[simp] theorem alloc_length (memory : Nat → UInt8) (n : Nat) : (alloc memory n).length = n := by
  simp only [alloc, List.length_map, List.length_range]

theorem dataSize_lt (v : Nat) (c : RGBController) : c.dataSize v < 2 ^ 32 :=
  Nat.mod_lt _ (by decide)

/-- No store leaves the buffer, the stores copy `data_size` bytes, the cursor ends at
`data_size`, and the first four bytes hold that size. -/
def TwoPassAgree (memory : Nat → UInt8) (v : Nat) (c : RGBController) : Prop :=
  ∃ out, fill (c.puts v) (alloc memory (c.dataSize v)) 0 = some (out, c.dataSize v) ∧
    stored (c.puts v) = c.dataSize v ∧ out.take 4 = le 4 (c.dataSize v)

theorem fill_puts {memory : Nat → UInt8} {v : Nat} {c : RGBController}
    (exact : ∀ q ∈ c.puts v, q.Exact) (total : stored (c.puts v) = c.dataSize v) :
    fill (c.puts v) (alloc memory (c.dataSize v)) 0 = some (contents (c.puts v), c.dataSize v) := by
  have small := dataSize_lt v c
  rw [fill_exact exact (by rw [alloc_length]; exact small) (by rw [alloc_length]; omega), total,
    List.drop_of_length_le (by rw [alloc_length]; omega)]
  simp only [List.take_zero, List.nil_append, List.append_nil, Nat.zero_add]

theorem twoPassAgree_iff_exact (memory : Nat → UInt8) (v : Nat) (c : RGBController) :
    c.TwoPassAgree memory v ↔
      (∀ q ∈ c.puts v, q.Exact) ∧ stored (c.puts v) = c.dataSize v := by
  constructor
  · rintro ⟨out, run, total, -⟩
    have small : (alloc memory (c.dataSize v)).length < 2 ^ 32 := by
      rw [alloc_length]; exact dataSize_lt v c
    exact (fills_iff (puts_step_le v c) small).mp
      ⟨out, by rw [alloc_length]; exact run, by rw [alloc_length]; exact total⟩ |>.imp id
        fun h => by rwa [alloc_length] at h
  · rintro ⟨exact, total⟩
    refine ⟨_, fill_puts exact total, total, ?_⟩
    show (le 4 (c.dataSize v) ++ contents (c.bodyPuts v)).take 4 = _
    exact List.take_left' (le_length 4 _)

/-- The inputs on which both passes agree: every stored text fits its 16-bit length, and what the
first pass counts for unsent segments is, in 32 bits, what matrices exceed their 16-bit length by. -/
def SizesMatch (v : Nat) (c : RGBController) : Prop :=
  (∀ s ∈ c.sentStrings v, strlen s ≤ 65534) ∧
    c.sizeSum v + c.matrixExcess < c.droppedSize v + 2 ^ 32 ∧
    c.droppedSize v ≡ c.matrixExcess [MOD 2 ^ 32]

theorem exact_iff_sizesMatch (v : Nat) (c : RGBController) :
    ((∀ q ∈ c.puts v, q.Exact) ∧ stored (c.puts v) = c.dataSize v) ↔ c.SizesMatch v := by
  rw [puts_exact_iff, SizesMatch, Nat.ModEq]
  refine and_congr_right fun texts => ?_
  have count := stored_puts ((textsFit_iff v c).mpr texts)
  unfold dataSize
  omega

theorem twoPassAgree_iff (memory : Nat → UInt8) (v : Nat) (c : RGBController) :
    c.TwoPassAgree memory v ↔ c.SizesMatch v :=
  (twoPassAgree_iff_exact memory v c).trans (exact_iff_sizesMatch v c)

/-- A name whose 16-bit length wraps to 0. -/
def longNamed : RGBController := { RGBController.new 0 with name := List.replicate 65535 65 }

theorem longNamed_disagree : ¬ longNamed.TwoPassAgree (fun _ => 0) 0 := by
  intro agree
  have exact := ((twoPassAgree_iff_exact _ 0 longNamed).mp agree).1
  have fits := ((textsFit_iff 0 longNamed).mpr ((puts_exact_iff 0 longNamed).mp exact)).name
  have plain : (0 : UInt8) ∉ longNamed.name := fun h =>
    absurd (List.eq_of_mem_replicate h) (by decide)
  have long : strlen longNamed.name = 65535 := by
    rw [strlen, cstr_of_no_nul plain]
    exact List.length_replicate
  omega

end RGBController
end SyncRGB
