import SyncRGB.ByteCodec.Bounds
import SyncRGB.Controller.SizeAgreement
import SyncRGB.Controller.Windows

/-! Decoding an encoded controller. Each block of the description is read back
where it stands; the controller read back is the sent part of the original, its
zone windows set by `SetupColors`. Only the texts have to fit their 16-bit
lengths: lists cut at their 16-bit counts are read back cut. -/
namespace SyncRGB
open ByteCodec Reader

/-! ### What a version transmits -/

def Mode.sent (v : Nat) (m : Mode) : Mode :=
  { m with
    name := cstr m.name
    brightnessMin := if 3 ≤ v then m.brightnessMin else Mode.new.brightnessMin
    brightnessMax := if 3 ≤ v then m.brightnessMax else Mode.new.brightnessMax
    brightness := if 3 ≤ v then m.brightness else Mode.new.brightness
    colors := m.colors.take (count16 m.colors.length) }

/-- What a mode becomes that is read over `old`. -/
def Mode.sentOver (v : Nat) (m old : Mode) : Mode :=
  { m with
    name := cstr m.name
    brightnessMin := if 3 ≤ v then m.brightnessMin else old.brightnessMin
    brightnessMax := if 3 ≤ v then m.brightnessMax else old.brightnessMax
    brightness := if 3 ≤ v then m.brightness else old.brightness
    colors := m.colors.take (count16 m.colors.length) }

def Segment.sent (s : Segment) : Segment := { s with name := cstr s.name }

/-- A map whose 16-bit length wraps to 0 is not sent. -/
def Zone.sentMatrix (z : Zone) : Option MatrixMap := if 0 < z.matrixLen then z.matrixMap else none

/-- The window fields keep the values of the zone constructor. -/
def Zone.sent (v : Nat) (z : Zone) : Zone :=
  { Zone.new with
    name := cstr z.name
    type := z.type
    ledsMin := z.sentSize v z.ledsMin
    ledsMax := z.sentSize v z.ledsMax
    ledsCount := z.sentSize v z.ledsCount
    matrixMap := z.sentMatrix
    segments := if 4 ≤ v then z.sentSegments.map Segment.sent else Zone.new.segments
    flags := if 5 ≤ v then z.flags else Zone.new.flags }

def Led.sent (l : Led) : Led := { l with name := cstr l.name }

namespace RGBController

/-- The alternate names the decoder reads. All of them are stored, under a 16-bit count. -/
def readNames (c : RGBController) : List Bytes := c.ledAltNames.take (count16 c.ledAltNames.length)
def unreadNames (c : RGBController) : List Bytes := c.ledAltNames.drop (count16 c.ledAltNames.length)

/-- The four bytes the decoder takes for the controller flags. -/
def flagBytes (c : RGBController) : Bytes :=
  (contents (c.unreadNames.flatMap putString) ++ ByteCodec.u32 c.flags).take 4

/-- The sent part of `c`, everything else as in the fresh controller. -/
def sent (v : Nat) (c fresh : RGBController) : RGBController where
  name := cstr c.name
  vendor := if 1 ≤ v then cstr c.vendor else fresh.vendor
  description := cstr c.description
  version := cstr c.version
  serial := cstr c.serial
  location := cstr c.location
  leds := c.sentLeds.map Led.sent
  zones := c.sentZones.map (Zone.sent v)
  modes := c.sentModes.map (Mode.sent v)
  colors := c.sentColors
  type := c.type
  activeMode := c.activeMode
  ledAltNames := if 5 ≤ v then c.readNames.map cstr else fresh.ledAltNames
  flags := if 5 ≤ v then u32Value c.flagBytes else fresh.flags

end RGBController

theorem take_count16_length {α : Type} (xs : List α) :
    count16 xs.length = (xs.take (count16 xs.length)).length :=
  (List.length_take_of_le (Nat.mod_le _ _)).symm

theorem take_count16 {α : Type} {xs : List α} (h : xs.length < 2 ^ 16) :
    xs.take (count16 xs.length) = xs := by
  rw [count16, Nat.mod_eq_of_lt h, List.take_length]

theorem drop_count16 {α : Type} {xs : List α} (h : xs.length < 2 ^ 16) :
    xs.drop (count16 xs.length) = [] := by
  rw [count16, Nat.mod_eq_of_lt h, List.drop_length]

/-! ### Reading the blocks back -/

theorem reads_string {s : Bytes} (h : strlen s ≤ 65534) :
    Reads string (contents (putString s)) (cstr s) := by
  have back := Reads.string s (by omega)
  have shape : contents (putString s) = le 2 (strlen s + 1) ++ (cstr s ++ [0]) := by
    rw [← (len16_eq_iff s).mpr h, putString, contents_cons, contents_cons, contents_nil,
      List.append_nil]
    rfl
  rwa [shape]

theorem contents_words (xs : List UInt32) :
    contents (xs.flatMap fun x => [Put.u32 x]) = xs.flatMap ByteCodec.u32 := by
  rw [contents_flatMap]
  exact congrArg (xs.flatMap ·) (funext fun x => List.append_nil _)

theorem reads_words {n : Nat} (xs : List UInt32) (h : n = xs.length) :
    Reads (many n Reader.u32) (contents (xs.flatMap fun x => [Put.u32 x])) xs := by
  have word : ∀ x ∈ xs, Reads Reader.u32 (ByteCodec.u32 x) (id x) := fun x _ => Reads.u32 x
  have back := Reads.many xs h word
  rwa [List.map_id, ← contents_words] at back

theorem reads_many {α β : Type} {m : Reader β} {puts : α → List Put} {dec : α → β} (xs : List α)
    {n : Nat} (len : n = xs.length) (h : ∀ x ∈ xs, Reads m (contents (puts x)) (dec x)) :
    Reads (many n m) (contents (xs.flatMap puts)) (xs.map dec) := by
  rw [contents_flatMap]
  exact Reads.many xs len h

theorem reads_since {α : Type} {m : Reader α} {qs : List Put} {a default : α} (k v : Nat)
    (h : k ≤ v → Reads m (contents qs) a) :
    Reads (since k v m default) (contents (sincePuts k v qs)) (if k ≤ v then a else default) := by
  rw [contents_sincePuts]
  exact Reads.since k v h

theorem reads_u16 {n : Nat} (h : n < 2 ^ 16) : Reads Reader.u16 (Put.u16 n).bytes n := Reads.u16 h
theorem reads_u32 (x : UInt32) : Reads Reader.u32 (Put.u32 x).bytes x := Reads.u32 x
theorem reads_i32 (x : Int32) : Reads Reader.i32 (Put.i32 x).bytes x := Reads.i32 x

theorem reads_since_u32 (k v : Nat) (x default : UInt32) :
    Reads (since k v Reader.u32 default) (contents (sincePuts k v [Put.u32 x]))
      (if k ≤ v then x else default) :=
  reads_since k v fun _ => by simpa only [contents_cons, contents_nil, List.append_nil] using reads_u32 x

theorem count16_lt (n : Nat) : count16 n < 2 ^ 16 := Nat.mod_lt _ (by decide)

theorem reads_modeOver {v : Nat} {old m : Mode} (name : strlen m.name ≤ 65534) :
    Reads (readModeOver v old) (contents (m.puts v)) (m.sentOver v old) := by
  simp only [Mode.puts, contents_append, contents_cons, contents_nil, List.append_nil,
    List.append_assoc]
  apply (reads_string name).bind
  apply (reads_i32 m.value).bind
  apply (reads_u32 m.flags).bind
  apply (reads_u32 m.speedMin).bind
  apply (reads_u32 m.speedMax).bind
  apply (reads_since_u32 3 v m.brightnessMin old.brightnessMin).bind
  apply (reads_since_u32 3 v m.brightnessMax old.brightnessMax).bind
  apply (reads_u32 m.colorsMin).bind
  apply (reads_u32 m.colorsMax).bind
  apply (reads_u32 m.speed).bind
  apply (reads_since_u32 3 v m.brightness old.brightness).bind
  apply (reads_u32 m.direction).bind
  apply (reads_u32 m.colorMode).bind
  apply (reads_u16 (count16_lt m.colors.length)).bind
  exact (reads_words _ (take_count16_length m.colors)).map _

theorem reads_mode {v : Nat} {m : Mode} (name : strlen m.name ≤ 65534) :
    Reads (readMode v) (contents (m.puts v)) (m.sent v) :=
  reads_modeOver name

theorem reads_segment {s : Segment} (name : strlen s.name ≤ 65534) :
    Reads readSegment (contents s.puts) s.sent := by
  simp only [Segment.puts, contents_append, contents_cons, contents_nil, List.append_nil]
  apply (reads_string name).bind
  apply (reads_i32 s.type).bind
  apply (reads_u32 s.startIdx).bind
  exact (reads_u32 s.ledsCount).map _

theorem reads_segments {z : Zone} (names : ∀ s ∈ z.sentSegments, strlen s.name ≤ 65534) :
    Reads readSegments
      (contents (Put.u16 (count16 z.segments.length) :: z.sentSegments.flatMap Segment.puts))
      (z.sentSegments.map Segment.sent) :=
  (reads_u16 (count16_lt _)).bind
    (reads_many z.sentSegments (take_count16_length z.segments) fun s hs => reads_segment (names s hs))

theorem reads_matrixMap (m : MatrixMap) :
    Reads readMatrixMap
      (contents ([Put.u32 m.height, Put.u32 m.width] ++ m.map.toList.flatMap fun x => [Put.u32 x]))
      m := by
  have cells : Reads (vector Reader.u32 (m.height * m.width).toNat)
      (m.map.toList.flatMap ByteCodec.u32) m.map := by
    have cell : ∀ x ∈ m.map.toList, Reads Reader.u32 (ByteCodec.u32 x) (id x) :=
      fun x _ => Reads.u32 x
    have back := Reads.vector m.map cell
    rwa [List.Vector.map_id] at back
  rw [contents_append, contents_words, contents_cons, contents_cons, contents_nil, List.append_nil,
    List.append_assoc]
  exact (reads_u32 m.height).bind ((reads_u32 m.width).bind (cells.map _))

/-- The whole map is stored and read whenever its 16-bit length is not 0. -/
theorem reads_matrix (z : Zone) :
    Reads (readMatrix z.matrixLen) (contents z.matrixPuts) z.sentMatrix := by
  cases hm : z.matrixMap with
  | none =>
      simp only [Zone.matrixPuts, Zone.sentMatrix, Zone.matrixLen, hm, readMatrix]
      exact Reads.pure none
  | some m =>
      simp only [Zone.matrixPuts, Zone.sentMatrix, hm, readMatrix]
      split_ifs
      · exact (reads_matrixMap m).map some
      · exact Reads.pure none

theorem matrixLen_lt (z : Zone) : z.matrixLen < 2 ^ 16 := by
  unfold Zone.matrixLen
  split
  · decide
  · exact Nat.mod_lt _ (by decide)

theorem reads_zone {v : Nat} {z : Zone} (name : strlen z.name ≤ 65534)
    (names : 4 ≤ v → ∀ s ∈ z.sentSegments, strlen s.name ≤ 65534) :
    Reads (readZone v) (contents (z.puts v)) (z.sent v) := by
  simp only [Zone.puts, contents_append, contents_cons, contents_nil, List.append_nil,
    List.append_assoc]
  apply (reads_string name).bind
  apply (reads_i32 z.type).bind
  apply (reads_u32 (z.sentSize v z.ledsMin)).bind
  apply (reads_u32 (z.sentSize v z.ledsMax)).bind
  apply (reads_u32 (z.sentSize v z.ledsCount)).bind
  apply (reads_u16 (matrixLen_lt z)).bind
  apply (reads_matrix z).bind
  apply (reads_since 4 v fun h4 => reads_segments (names h4)).bind
  exact (reads_since_u32 5 v z.flags Zone.new.flags).map _

theorem reads_led {l : Led} (name : strlen l.name ≤ 65534) :
    Reads readLed (contents l.puts) l.sent := by
  simp only [Led.puts, contents_append, contents_cons, contents_nil, List.append_nil]
  exact (reads_string name).bind ((reads_u32 l.value).map _)

namespace RGBController

theorem reads_altNames {c : RGBController} (names : ∀ s ∈ c.ledAltNames, strlen s ≤ 65534) :
    Reads readAltNames
      (contents (Put.u16 (count16 c.ledAltNames.length) :: c.readNames.flatMap putString))
      (c.readNames.map cstr) :=
  (reads_u16 (count16_lt _)).bind
    (reads_many c.readNames (take_count16_length c.ledAltNames) fun s hs =>
      reads_string (names s (List.mem_of_mem_take hs)))

theorem flagBytes_length (c : RGBController) : c.flagBytes.length = 4 := by
  simp only [flagBytes, List.length_take, List.length_append, ByteCodec.u32_length]
  omega

/-- The alternate names and the flags. Behind unread names the flags are taken from a name. -/
theorem readsFront_tail {v : Nat} {c : RGBController}
    (names : 5 ≤ v → ∀ s ∈ c.ledAltNames, strlen s ≤ 65534) (fresh : RGBController)
    (build : List Bytes → UInt32 → RGBController) :
    ReadsFront
      (do let altNames ← since 5 v readAltNames []
          let flags ← since 5 v Reader.u32 fresh.flags
          return build altNames flags)
      (contents (sincePuts 5 v
          (Put.u16 (count16 c.ledAltNames.length) :: c.ledAltNames.flatMap putString)) ++
        contents (sincePuts 5 v [Put.u32 c.flags]))
      (build (if 5 ≤ v then c.readNames.map cstr else [])
        (if 5 ≤ v then u32Value c.flagBytes else fresh.flags)) := by
  by_cases h5 : 5 ≤ v
  · have flags : Reads Reader.u32 c.flagBytes (u32Value c.flagBytes) := by
      have back := (Reads.take c.flagBytes).map u32Value
      rwa [flagBytes_length] at back
    have split : c.ledAltNames.flatMap putString =
        c.readNames.flatMap putString ++ c.unreadNames.flatMap putString := by
      rw [← List.flatMap_append, readNames, unreadNames, List.take_append_drop]
    have shape : contents (Put.u16 (count16 c.ledAltNames.length) :: c.ledAltNames.flatMap putString) ++
        contents [Put.u32 c.flags] =
      contents (Put.u16 (count16 c.ledAltNames.length) :: c.readNames.flatMap putString) ++
        (contents (c.unreadNames.flatMap putString) ++ ByteCodec.u32 c.flags) := by
      rw [split]
      simp only [contents_cons, contents_append, contents_nil, List.append_nil, List.append_assoc]
      rfl
    simp only [since, sincePuts, if_pos h5, shape]
    apply ReadsFront.bind (reads_altNames (names h5))
    exact ⟨c.flagBytes, List.drop 4 _, (List.take_append_drop 4 _).symm, flags.map _⟩
  · simp only [since, sincePuts, if_neg h5]
    exact (Reads.pure _).front

theorem readsFront_description {v : Nat} {c : RGBController} (texts : c.TextsFit v) (type : Int32) :
    ReadsFront (readDeviceDescription v (new type)) (contents (c.puts v))
      (c.sent v (new type)).setupColors := by
  simp only [puts, bodyPuts, contents_append, contents_cons, contents_nil, List.append_nil,
    List.append_assoc]
  apply ReadsFront.bind (Reads.skip (le 4 (c.dataSize v)))
  apply ReadsFront.bind (reads_i32 c.type)
  apply ReadsFront.bind (reads_string texts.name)
  apply ReadsFront.bind (reads_since 1 v fun h1 => reads_string (texts.vendor h1))
  apply ReadsFront.bind (reads_string texts.description)
  apply ReadsFront.bind (reads_string texts.version)
  apply ReadsFront.bind (reads_string texts.serial)
  apply ReadsFront.bind (reads_string texts.location)
  apply ReadsFront.bind (reads_u16 (count16_lt _))
  apply ReadsFront.bind (reads_i32 c.activeMode)
  refine ReadsFront.bind (reads_many c.sentModes (take_count16_length c.modes) fun m hm =>
    reads_mode (texts.modes m hm)) ?_
  apply ReadsFront.bind (reads_u16 (count16_lt _))
  refine ReadsFront.bind (reads_many c.sentZones (take_count16_length c.zones) fun z hz =>
    reads_zone (texts.zones z hz) (texts.segments z hz)) ?_
  apply ReadsFront.bind (reads_u16 (count16_lt _))
  refine ReadsFront.bind (reads_many c.sentLeds (take_count16_length c.leds) fun l hl =>
    reads_led (texts.leds l hl)) ?_
  apply ReadsFront.bind (reads_u16 (count16_lt _))
  apply ReadsFront.bind (reads_words c.sentColors (take_count16_length c.colors))
  exact readsFront_tail texts.altNames (new type) fun altNames flags => setupColors
    { c.sent v (new type) with ledAltNames := altNames, flags }

/-! ### Encoding and decoding together -/

/-- What the second pass stores beyond the first pass's count, a count of 2^32 or more cut to 32
bits, does not exceed what it leaves out. -/
def RoomEnough (v : Nat) (c : RGBController) : Prop :=
  c.sizeSum v / 2 ^ 32 * 2 ^ 32 + c.matrixExcess ≤ c.droppedSize v

theorem roomEnough_iff {v : Nat} {c : RGBController} (texts : c.TextsFit v) :
    c.RoomEnough v ↔ stored (c.puts v) ≤ c.dataSize v := by
  have count := stored_puts texts
  unfold RoomEnough dataSize
  omega

theorem exact_puts {v : Nat} {c : RGBController} (texts : c.TextsFit v) :
    ∀ q ∈ c.puts v, q.Exact :=
  (puts_exact_iff v c).mpr ((textsFit_iff v c).mp texts)

theorem getDeviceDescription_isSome_iff {v : Nat} {c : RGBController} (texts : c.TextsFit v)
    (memory : Nat → UInt8) : (c.getDeviceDescription memory v).isSome ↔ c.RoomEnough v := by
  rw [roomEnough_iff texts, getDeviceDescription, Option.isSome_map, fill_isSome_iff (exact_puts texts)
    (by rw [alloc_length]; exact dataSize_lt v c) (Nat.zero_le _), alloc_length, Nat.zero_add]

/-- An encoded description begins with its stores in order and is as long as counted. -/
theorem getDeviceDescription_eq {v : Nat} {c : RGBController} (texts : c.TextsFit v)
    {memory : Nat → UInt8} {buf : Bytes} (encoded : c.getDeviceDescription memory v = some buf) :
    (∃ rest, buf = contents (c.puts v) ++ rest) ∧ buf.length = c.dataSize v := by
  have small : (alloc memory (c.dataSize v)).length < 2 ^ 32 := by
    rw [alloc_length]; exact dataSize_lt v c
  obtain ⟨⟨out, p⟩, run, rfl⟩ := Option.map_eq_some_iff.mp encoded
  have fits := (fill_isSome_iff (exact_puts texts) small (Nat.zero_le _)).mp (by rw [run]; rfl)
  have whole := (fill_cursor (puts_step_le v c) small run).2
  rw [fill_exact (exact_puts texts) small fits] at run
  obtain ⟨rfl, -⟩ := Prod.mk.inj (Option.some.inj run)
  exact ⟨⟨_, rfl⟩, whole.trans (alloc_length _ _)⟩

theorem getDeviceDescription_size {v : Nat} {c : RGBController} (texts : c.TextsFit v)
    {memory : Nat → UInt8} {buf : Bytes} (encoded : c.getDeviceDescription memory v = some buf) :
    4 ≤ buf.length ∧ field32 buf 0 = UInt32.ofNat buf.length := by
  obtain ⟨⟨rest, shape⟩, length⟩ := getDeviceDescription_eq texts encoded
  rw [puts, contents_cons, List.append_assoc] at shape
  have front : buf.take 4 = le 4 (c.dataSize v) := by
    rw [shape]
    exact List.take_left' (le_length 4 _)
  refine ⟨?_, ?_⟩
  · have leading : (Put.copy (le 4 (c.dataSize v))).bytes.length = 4 := le_length 4 _
    rw [shape, List.length_append, leading]
    exact Nat.le_add_right 4 _
  · have fits : c.dataSize v < 256 ^ 4 := dataSize_lt v c
    show u32Value (buf.take 4) = _
    rw [front, length, u32Value, leValue_le, Nat.mod_eq_of_lt fits]

theorem read_getDeviceDescription {v : Nat} {c : RGBController} (texts : c.TextsFit v)
    {memory : Nat → UInt8} {buf : Bytes} (encoded : c.getDeviceDescription memory v = some buf)
    (type : Int32) :
    ∃ p, (readDeviceDescription v (new type)).exec buf 0 =
      some ((c.sent v (new type)).setupColors, p) := by
  obtain ⟨⟨rest, rfl⟩, whole⟩ := getDeviceDescription_eq texts encoded
  obtain ⟨used, left, split, reads⟩ := readsFront_description texts type
  have small := dataSize_lt v c
  simp only [split, List.append_assoc] at whole ⊢
  exact ⟨_, reads [] _ (by rw [List.nil_append, whole]; exact small)⟩

end RGBController

/-! ### LED counts on the far side -/

/-- Effects-only zones without LEDs, which an old connection presents as zones of one LED. -/
def idleZones (v : Nat) (zs : List Zone) : Nat :=
  zs.countP fun z => z.effectsOnly ∧ z.ledsCount = 0 ∧ v < 5

theorem Zone.sent_effectsOnly (v : Nat) (z : Zone) :
    (z.sent v).effectsOnly = (decide (5 ≤ v) && z.effectsOnly) := by
  show (((if 5 ≤ v then z.flags else 0) &&& 1) != 0) = _
  split_ifs with h5
  · simp [h5, Zone.effectsOnly]
  · simp [h5]

theorem Zone.sent_getLEDsInZone (v : Nat) (z : Zone) :
    (z.sent v).getLEDsInZone = if z.effectsOnly ∧ v < 5 then 1 else z.getLEDsInZone := by
  have count : (z.sent v).ledsCount = if z.effectsOnly ∧ v < 5 then 1 else z.ledsCount := rfl
  rw [Zone.getLEDsInZone, sent_effectsOnly, count, Zone.getLEDsInZone]
  by_cases h5 : 5 ≤ v
  · have current : ¬ v < 5 := by omega
    simp only [h5, current, and_false, if_false, decide_true, Bool.true_and]
  · have old : v < 5 := by omega
    simp only [h5, old, and_true, decide_false, Bool.false_and]
    cases z.effectsOnly <;> rfl

theorem Zone.getLEDsInZone_effectsOnly {z : Zone} (h : z.effectsOnly) :
    z.getLEDsInZone = if z.ledsCount = 0 then 0 else 1 := by
  rw [Zone.getLEDsInZone, if_pos h]
  split_ifs with many none none
  · rw [none] at many
    exact absurd many (by decide)
  · rfl
  · exact none
  · simp only [gt_iff_lt, UInt32.lt_iff_toNat_lt, UInt32.toNat_one, ← UInt32.toNat_inj,
      UInt32.toNat_zero] at many none ⊢
    omega

theorem ledSum_sent (v : Nat) (zs : List Zone) :
    ledSum (zs.map (Zone.sent v)) = ledSum zs + idleZones v zs := by
  induction zs with
  | nil => rfl
  | cons z zs ih =>
      have head : (z.sent v).getLEDsInZone.toNat =
          z.getLEDsInZone.toNat + if z.effectsOnly ∧ z.ledsCount = 0 ∧ v < 5 then 1 else 0 := by
        rw [Zone.sent_getLEDsInZone]
        by_cases effects : z.effectsOnly
        · by_cases old : v < 5
          · rw [if_pos ⟨effects, old⟩, Zone.getLEDsInZone_effectsOnly effects]
            by_cases idle : z.ledsCount = 0 <;> simp [effects, old, idle]
          · simp [old]
        · simp [effects]
      rw [List.map_cons, ledSum_cons, ih, head, ledSum_cons, idleZones, idleZones, List.countP_cons]
      simp only [decide_eq_true_eq]
      omega

end SyncRGB
