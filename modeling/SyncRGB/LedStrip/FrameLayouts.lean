import SyncRGB.LedStrip.Frames

/-! For which colors the frames of a strip are the ones that their layouts give. -/
namespace SyncRGB
open ByteCodec VectorEdit
namespace LEDStripController

section
variable {colors : List RGBColor}

theorem newBuffer_length (fresh : Nat → UInt8) (size : UInt32) : (newBuffer fresh size).length = size.toNat := by
  rw [newBuffer, List.length_map, List.length_range]

/-- The parts of a new buffer for the header, the colors and what stands behind them. -/
theorem newBuffer_split (fresh : Nat → UInt8) {size : UInt32} {header data : Nat} (behind : Nat)
    (total : size.toNat = header + (data + behind)) :
    ∃ front old back, newBuffer fresh size = front ++ (old ++ back) ∧ front.length = header ∧ old.length = data ∧
      back.length = behind := by
  have whole := newBuffer_length fresh size
  generalize newBuffer fresh size = buffer at whole
  refine ⟨buffer.take header, (buffer.drop header).take data, (buffer.drop header).drop data, ?_, ?_, ?_, ?_⟩
  · rw [List.take_append_drop, List.take_append_drop]
  · exact List.length_take_of_le (by omega)
  · exact List.length_take_of_le (by rw [List.length_drop]; omega)
  · rw [List.length_drop, List.length_drop]
    omega

/-- The bytes of the colors replace as many behind the header. -/
theorem copyColors_eq {base colorIdx : UInt32} {front old : Bytes} (back : Bytes)
    (place : (base + colorIdx * 3).toNat = front.length) (room : old.length = 3 * colors.length)
    (fits : front.length + old.length < 2 ^ 32) :
    copyColors base colors colorIdx (front ++ (old ++ back)) = some (front ++ (rgbStream colors ++ back)) := by
  induction colors generalizing colorIdx front old with
  | nil =>
      rw [List.length_eq_zero_iff.mp room]
      rfl
  | cons color rest ih =>
      match old, room with
      | x :: y :: z :: old, room =>
          rw [List.length_cons, List.length_cons, List.length_cons, List.length_cons] at room
          rw [List.length_cons, List.length_cons, List.length_cons] at fits
          have further (k : UInt32) (small : k.toNat < 3) :
              (base + k + colorIdx * 3).toNat = front.length + k.toNat := by
            rw [UInt32.add_assoc, UInt32.add_comm k, ← UInt32.add_assoc, UInt32.toNat_add, place]
            exact Nat.mod_eq_of_lt (by omega)
          have next : (base + (colorIdx + 1) * 3).toNat = (front ++ rgbBytes color).length := by
            rw [UInt32.add_mul, ← UInt32.add_assoc, UInt32.toNat_add, place, List.length_append]
            exact Nat.mod_eq_of_lt (by show front.length + 3 < _; omega)
          have stored := ih next (by omega : old.length = 3 * rest.length)
            (by rw [List.length_append, rgbBytes_length]; omega)
          calc
            copyColors base (color :: rest) colorIdx (front ++ (x :: y :: z :: old ++ back))
              = copyColors base rest (colorIdx + 1) (front ++ rgbBytes color ++ (old ++ back)) :=
                storeAt_three place (further 1 (by decide)) (further 2 (by decide)) _ _ _ x y z (old ++ back) _
            _ = some (front ++ rgbBytes color ++ (rgbStream rest ++ back)) := stored
            _ = some (front ++ (rgbStream (color :: rest) ++ back)) := by
                rw [rgbStream_cons, List.append_assoc, List.append_assoc]

theorem payloadSize_toNat (payload : 3 * colors.length ≤ 65535) : (payloadSize colors).toNat = 3 * colors.length := by
  rw [payloadSize, UInt32.toNat_ofNat_of_lt' (by show _ < 4294967296; omega), Nat.mul_comm]

theorem packetSize_toNat (payload : 3 * colors.length ≤ 65535) {more : UInt32} (small : more.toNat < 8) :
    (payloadSize colors + more).toNat = 3 * colors.length + more.toNat := by
  rw [UInt32.toNat_add, payloadSize_toNat payload]
  exact Nat.mod_eq_of_lt (by omega)

end

/-! ### Adalight and TPM2 -/

theorem readAdalight_eq {msb lsb : UInt8} {data : Bytes} (field : data.length = 3 * beValue [msb, lsb]) :
    readAdalight ([0x41, 0x64, 0x61, msb, lsb, msb ^^^ lsb ^^^ 0x55] ++ data) = some data :=
  if_pos ⟨rfl, rfl, field⟩

theorem readTPM2_eq {msb lsb : UInt8} {data : Bytes} (field : data.length = beValue [msb, lsb]) :
    readTPM2 ([0xC9, 0xDA, msb, lsb] ++ (data ++ [0x36])) = some data := by
  have length : (data ++ [0x36]).length = beValue [msb, lsb] + 1 := by
    rw [List.length_append, field]
    rfl
  exact (if_pos ⟨rfl, length, List.getLast?_concat⟩).trans (congrArg some List.dropLast_concat)

section
variable {colors : List RGBColor} (payload : 3 * colors.length ≤ 65535) (fresh : Nat → UInt8)
include payload

theorem setLEDsAdalight_reads : Reads readAdalight colors (setLEDsAdalight fresh colors) := by
  have count : (UInt32.ofNat colors.length).toNat = colors.length :=
    UInt32.toNat_ofNat_of_lt' (by show _ < 4294967296; omega)
  have size : (UInt32.ofNat colors.length * 3 + 6).toNat = 6 + (3 * colors.length + 0) := by
    rw [UInt32.toNat_add, UInt32.toNat_mul, count]
    show (colors.length * 3 % 4294967296 + 6) % 4294967296 = _
    omega
  obtain ⟨header, old, back, buffer, headerLength, oldLength, backLength⟩ := newBuffer_split fresh 0 size
  match header, headerLength with
  | [a, b, c, d, e, f], _ =>
      set msb := (UInt32.ofNat colors.length >>> 8).toUInt8 with msb_eq
      set lsb := (UInt32.ofNat colors.length &&& 0xFF).toUInt8 with lsb_eq
      have field : beValue [msb, lsb] = colors.length := by
        rw [msb_eq, lsb_eq, bytes_eq_be, beValue_be, count]
        exact Nat.mod_eq_of_lt (by omega)
      have stored : setLEDsAdalight fresh colors =
          copyColors 6 colors 0 ([0x41, 0x64, 0x61, msb, lsb, msb ^^^ lsb ^^^ 0x55] ++ (old ++ back)) := by
        rw [setLEDsAdalight, buffer]
        simp [storeAt, ← msb_eq, ← lsb_eq]
      rw [Reads, stored, copyColors_eq back rfl oldLength (by rw [oldLength]; show 6 + _ < 4294967296; omega),
        List.length_eq_zero_iff.mp backLength, List.append_nil]
      exact readAdalight_eq (by rw [rgbStream_length, field])

theorem setLEDsTPM2_reads : Reads readTPM2 colors (setLEDsTPM2 fresh colors) := by
  have size : (payloadSize colors + 5).toNat = 4 + (3 * colors.length + 1) := by
    rw [packetSize_toNat payload (by decide)]
    show _ + 5 = _
    omega
  have last : (payloadSize colors + 5 - 1).toNat = 4 + 3 * colors.length := by
    have four : payloadSize colors + 5 - 1 = payloadSize colors + 4 := by
      rw [UInt32.sub_eq_add_neg, UInt32.add_assoc]
      rfl
    rw [four, packetSize_toNat payload (by decide), Nat.add_comm]
    rfl
  obtain ⟨header, old, back, buffer, headerLength, oldLength, backLength⟩ := newBuffer_split fresh 1 size
  match header, headerLength, back, backLength with
  | [a, b, c, d], _, [final], _ =>
      set msb := (payloadSize colors >>> 8).toUInt8 with msb_eq
      set lsb := (payloadSize colors &&& 0xFF).toUInt8 with lsb_eq
      have field : beValue [msb, lsb] = 3 * colors.length := by
        rw [msb_eq, lsb_eq, bytes_eq_be, beValue_be, payloadSize_toNat payload]
        exact Nat.mod_eq_of_lt (by omega)
      have ending : storeAt (payloadSize colors + 5 - 1).toNat 0x36 ([0xC9, 0xDA, msb, lsb] ++ old ++ [final]) =
          some ([0xC9, 0xDA, msb, lsb] ++ old ++ [0x36]) :=
        storeAt_append (by rw [last, List.length_append, oldLength]; rfl) _ _ _
      have stored : setLEDsTPM2 fresh colors = copyColors 4 colors 0 ([0xC9, 0xDA, msb, lsb] ++ (old ++ [0x36])) := by
        have front : setLEDsTPM2 fresh colors =
            (storeAt (payloadSize colors + 5 - 1).toNat 0x36 ([0xC9, 0xDA, msb, lsb] ++ old ++ [final])).bind
              (copyColors 4 colors 0) := by
          rw [setLEDsTPM2, buffer]
          simp [storeAt, ← msb_eq, ← lsb_eq]
        rw [front, ending, Option.bind_some, List.append_assoc]
      rw [Reads, stored, copyColors_eq [0x36] rfl oldLength (by rw [oldLength]; show 4 + _ < 4294967296; omega)]
      exact readTPM2_eq (by rw [rgbStream_length, field])

end

/-! ### Keyboard Visualizer -/

theorem readKeyboardVisualizer_append (start : UInt8) (data : Bytes) (msb lsb : UInt8) :
    readKeyboardVisualizer (start :: (data ++ [msb, lsb])) =
      if start = 0xAA ∧ beValue [msb, lsb] = (byteSum (start :: data)).toNat then some data else none := by
  have length : (data ++ [msb, lsb]).length = data.length + 2 := List.length_append
  rw [readKeyboardVisualizer, length, Nat.add_sub_cancel, List.take_left, List.drop_left]
  simp only [Nat.le_add_left, true_and]

section
variable {colors : List RGBColor} (payload : 3 * colors.length ≤ 65535) (fresh : Nat → UInt8)

/-- The checksum of the bytes of the colors. -/
def dataSum (colors : List RGBColor) : UInt16 := byteSum (0xAA :: rgbStream colors)

include payload in
/-- The two stores of the checksum are the last ones. -/
theorem setLEDsKeyboardVisualizer_eq (numLeds : Int32) {first : UInt8} {old back : Bytes}
    (buffer : newBuffer fresh (payloadSize colors + 3) = [first] ++ (old ++ back))
    (oldLength : old.length = 3 * colors.length) :
    setLEDsKeyboardVisualizer fresh numLeds colors =
      (storeAtInt (numLeds.toInt * 3 + 1) (dataSum colors >>> 8).toUInt8 (0xAA :: rgbStream colors ++ back)).bind
        (storeAtInt (numLeds.toInt * 3 + 2) (dataSum colors &&& 0x00FF).toUInt8) := by
  have copied : copyColors 1 colors 0 ([0xAA] ++ (old ++ back)) = some ([0xAA] ++ (rgbStream colors ++ back)) :=
    copyColors_eq back rfl oldLength (by rw [oldLength]; show 1 + _ < 4294967296; omega)
  have summed : (0xAA :: rgbStream colors ++ back).take (payloadSize colors + 1).toNat = 0xAA :: rgbStream colors := by
    apply List.take_left'
    rw [packetSize_toNat payload (by decide), List.length_cons, rgbStream_length]
    rfl
  have started : storeAt 0 0xAA ([first] ++ (old ++ back)) = some ([0xAA] ++ (old ++ back)) := rfl
  rw [setLEDsKeyboardVisualizer, buffer]
  dsimp only
  rw [started, Option.bind_eq_bind, Option.bind_some, copied, Option.bind_some]
  show (storeAtInt _ (byteSum ((0xAA :: rgbStream colors ++ back).take _) >>> 8).toUInt8 _).bind
    (storeAtInt _ (byteSum ((0xAA :: rgbStream colors ++ back).take _) &&& 0x00FF).toUInt8) = _
  rw [summed]
  rfl

theorem storeAtInt_natCast (n : Nat) (byte : UInt8) (serialBuf : Bytes) :
    storeAtInt n byte serialBuf = storeAt n byte serialBuf := by
  rw [storeAtInt, if_neg (by omega), Int.toNat_natCast]

theorem exists_of_storeAtInt {i : Int} {byte : UInt8} {serialBuf stored : Bytes}
    (store : storeAtInt i byte serialBuf = some stored) :
    ∃ n : Nat, i = n ∧ n < serialBuf.length ∧ stored = serialBuf.set n byte := by
  unfold storeAtInt at store
  split at store
  · cases store
  · rename_i natural
    obtain ⟨inside, rfl⟩ := storeAt_eq_some_iff.mp store
    exact ⟨i.toNat, by omega, inside, rfl⟩

include payload

theorem setLEDsKeyboardVisualizer_split :
    ∃ first old x y, newBuffer fresh (payloadSize colors + 3) = [first] ++ (old ++ [x, y]) ∧
      old.length = 3 * colors.length := by
  have size : (payloadSize colors + 3).toNat = 1 + (3 * colors.length + 2) := by
    rw [packetSize_toNat payload (by decide)]
    show _ + 3 = _
    omega
  obtain ⟨header, old, back, buffer, headerLength, oldLength, backLength⟩ := newBuffer_split fresh 2 size
  obtain ⟨first, rfl⟩ := List.length_eq_one_iff.mp headerLength
  obtain ⟨x, y, rfl⟩ := List.length_eq_two.mp backLength
  exact ⟨first, old, x, y, buffer, oldLength⟩

theorem setLEDsKeyboardVisualizer_reads {numLeds : Int32} (same : numLeds.toInt = colors.length) :
    Reads readKeyboardVisualizer colors (setLEDsKeyboardVisualizer fresh numLeds colors) := by
  obtain ⟨first, old, x, y, buffer, oldLength⟩ := setLEDsKeyboardVisualizer_split payload fresh
  have high (byte : UInt8) : storeAtInt (numLeds.toInt * 3 + 1) byte (0xAA :: rgbStream colors ++ [x, y]) =
      some (0xAA :: rgbStream colors ++ [byte, y]) := by
    have place : numLeds.toInt * 3 + 1 = ((0xAA :: rgbStream colors).length : Nat) := by
      rw [same, List.length_cons, rgbStream_length]
      omega
    rw [place, storeAtInt_natCast]
    exact storeAt_append rfl _ _ _
  have low (byte byte' : UInt8) :
      storeAtInt (numLeds.toInt * 3 + 2) byte' (0xAA :: rgbStream colors ++ [byte, y]) =
        some (0xAA :: rgbStream colors ++ [byte, byte']) := by
    have place : numLeds.toInt * 3 + 2 = ((0xAA :: rgbStream colors ++ [byte]).length : Nat) := by
      rw [same, List.length_append, List.length_cons, rgbStream_length, List.length_singleton]
      omega
    have split (last : UInt8) :
        0xAA :: rgbStream colors ++ [byte, last] = 0xAA :: rgbStream colors ++ [byte] ++ [last] :=
      List.append_cons _ _ _
    rw [place, storeAtInt_natCast, split, storeAt_append rfl, split]
  rw [Reads, setLEDsKeyboardVisualizer_eq payload fresh numLeds buffer oldLength, high, Option.bind_some, low]
  refine (readKeyboardVisualizer_append _ _ _ _).trans (if_pos ⟨rfl, ?_⟩)
  rw [bytes_eq_htons, beValue_htons]
  rfl

/-- Where the checksum is not stored behind the data, what is read there is what the buffer held before. -/
theorem unstored_of_reads {numLeds : Int32} (other : numLeds.toInt ≠ colors.length) (x : UInt8)
    (reads : Reads readKeyboardVisualizer colors (setLEDsKeyboardVisualizer (fun _ => x) numLeds colors)) :
    beValue [x, x] = (dataSum colors).toNat := by
  obtain ⟨first, old, u, v, buffer, oldLength⟩ := setLEDsKeyboardVisualizer_split payload fun _ => x
  have constant : ∀ byte ∈ newBuffer (fun _ => x) (payloadSize colors + 3), byte = x := by
    intro byte mem
    obtain ⟨_, _, rfl⟩ := List.mem_map.mp mem
    rfl
  obtain rfl : u = x := constant u (by rw [buffer]; simp)
  obtain rfl : v = u := constant v (by rw [buffer]; simp)
  rw [Reads, setLEDsKeyboardVisualizer_eq payload _ numLeds buffer oldLength] at reads
  obtain ⟨frame, built, read⟩ := Option.bind_eq_some_iff.mp reads
  obtain ⟨middle, high, low⟩ := Option.bind_eq_some_iff.mp built
  obtain ⟨i, iPlace, -, rfl⟩ := exists_of_storeAtInt high
  obtain ⟨j, jPlace, jInside, rfl⟩ := exists_of_storeAtInt low
  have front : (0xAA :: rgbStream colors).length = 3 * colors.length + 1 := by rw [List.length_cons, rgbStream_length]
  rw [List.length_set, List.length_append, front] at jInside
  -- The second store stays inside the buffer, so both are in front of the last two bytes.
  have within : j < 3 * colors.length + 1 := by
    rw [List.length_cons, List.length_singleton] at jInside
    omega
  rw [List.set_append_left _ _ (by omega), List.set_append_left _ _ (by rw [List.length_set]; omega)] at read
  generalize edited : ((0xAA :: rgbStream colors).set i _).set j _ = bytes at read
  cases bytes with
  | nil =>
      have none_ := congrArg List.length edited
      rw [List.length_set, List.length_set, front] at none_
      exact absurd none_ (Nat.succ_ne_zero _)
  | cons start data =>
      rw [List.cons_append, readKeyboardVisualizer_append] at read
      split at read
      · rename_i right
        obtain rfl := Option.some.inj read
        rw [right.2, right.1]
        rfl
      · cases read

theorem numLeds_of_reads {numLeds : Int32}
    (reads : ∀ fresh, Reads readKeyboardVisualizer colors (setLEDsKeyboardVisualizer fresh numLeds colors)) :
    numLeds.toInt = colors.length := by
  by_contra other
  have zero := unstored_of_reads payload other 0 (reads _)
  have one := unstored_of_reads payload other 1 (reads _)
  rw [← zero] at one
  exact absurd one (by decide)

end

/-! ### Basic I2C -/

/-- The blocks of the bytes from block `k` on. -/
def stripBlocks (k : Nat) (bytes : Bytes) : List (UInt8 × Bytes) :=
  match bytes with
  | [] => []
  | byte :: rest => (UInt8.ofNat (30 * k), (byte :: rest).take 30) :: stripBlocks (k + 1) (rest.drop 29)
  termination_by bytes.length
  decreasing_by
    rw [List.length_drop, List.length_cons]
    omega

theorem stripBlocks_of_ne_nil {k : Nat} {bytes : Bytes} (some_ : bytes ≠ []) :
    stripBlocks k bytes = (UInt8.ofNat (30 * k), bytes.take 30) :: stripBlocks (k + 1) (bytes.drop 30) := by
  cases bytes with
  | nil => exact absurd rfl some_
  | cons byte rest => rw [stripBlocks, List.drop_succ_cons]

theorem mem_stripBlocks {k : Nat} {bytes : Bytes} {block : UInt8 × Bytes} (mem : block ∈ stripBlocks k bytes) :
    ∃ j, block.1 = UInt8.ofNat (30 * j) ∧ 30 * j < 30 * k + bytes.length ∧ block.2.length ≤ 30 := by
  fun_induction stripBlocks k bytes with
  | case1 => cases mem
  | case2 k byte rest ih =>
      rcases List.mem_cons.mp mem with rfl | later
      · exact ⟨k, rfl, Nat.lt_add_of_pos_right (Nat.succ_pos _), List.length_take_le _ _⟩
      · obtain ⟨j, start, before, short⟩ := ih later
        refine ⟨j, start, ?_, short⟩
        rw [List.length_drop] at before
        rw [List.length_cons]
        have inside : (rest.drop 29) ≠ [] := by
          rintro empty
          rw [empty, stripBlocks] at later
          cases later
        have longer := List.length_pos_of_ne_nil inside
        rw [List.length_drop] at longer
        omega

theorem flatMap_stripBlocks (k : Nat) (bytes : Bytes) : (stripBlocks k bytes).flatMap Prod.snd = bytes := by
  fun_induction stripBlocks k bytes with
  | case1 => rfl
  | case2 k byte rest ih =>
      rw [List.flatMap_cons, ih, ← List.drop_succ_cons (a := byte), List.take_append_drop]

/-- Nine blocks have a start index of a byte. -/
theorem tiles_stripBlocks {k : Nat} {bytes : Bytes} (within : 30 * k + bytes.length ≤ 270) :
    Tiles (30 * k) (placed (stripBlocks k bytes)) (30 * k + bytes.length) := by
  fun_induction stripBlocks k bytes with
  | case1 => rfl
  | case2 k byte rest ih =>
      rw [List.length_cons] at within
      have start : (UInt8.ofNat (30 * k)).toNat = 30 * k := UInt8.toNat_ofNat_of_lt' (by show _ < 256; omega)
      refine ⟨start, ?_⟩
      show Tiles (30 * k + ((byte :: rest).take 30).length) (placed (stripBlocks (k + 1) (rest.drop 29))) _
      rw [List.length_take, List.length_cons]
      by_cases last : rest.length < 29
      · rw [List.drop_eq_nil_of_le (by omega), stripBlocks]
        show _ = _
        omega
      · have behind := ih (by rw [List.length_drop]; omega)
        rw [List.length_drop] at behind
        have next : 30 * k + min 30 (rest.length + 1) = 30 * (k + 1) := by omega
        have stop : 30 * k + (rest.length + 1) = 30 * (k + 1) + (rest.length - 29) := by omega
        rwa [next, stop]

theorem flatMap_placed (blocks : List (UInt8 × Bytes)) :
    (placed blocks).flatMap Prod.snd = blocks.flatMap Prod.snd := List.flatMap_map _ _ _

theorem exists_of_three_le {xs : Bytes} (room : 3 ≤ xs.length) : ∃ x y z rest, xs = x :: y :: z :: rest := by
  match xs, room with
  | x :: y :: z :: rest, _ => exact ⟨x, y, z, rest, rfl⟩

/-- The bytes that wait in the buffer, those of the colors and what the buffer holds behind. -/
theorem writeColors_eq (colors : List RGBColor) {index : UInt8} {k : Nat} {pending back : Bytes}
    (place : index.toNat = pending.length) (whole : 3 ∣ pending.length) (short : pending.length < 30)
    (total : pending.length + back.length = 30) :
    writeColors colors index (UInt8.ofNat (30 * k)) (pending ++ back) =
      some (stripBlocks k (pending ++ rgbStream colors)) := by
  induction colors generalizing index k pending back with
  | nil =>
      rw [writeColors, place, List.take_left, rgbStream_nil, List.append_nil]
      cases pending with
      | nil =>
          rw [if_neg (by rw [UInt8.lt_iff_toNat_lt, place]; exact Nat.lt_irrefl 0), stripBlocks]
      | cons byte rest =>
          rw [if_pos (by rw [UInt8.lt_iff_toNat_lt, place]; exact Nat.succ_pos _),
            stripBlocks_of_ne_nil (List.cons_ne_nil _ _), List.take_of_length_le (by omega),
            List.drop_eq_nil_of_le (by omega), stripBlocks]
  | cons color rest ih =>
      obtain ⟨n, groups⟩ := whole
      obtain ⟨x, y, z, back, rfl⟩ := exists_of_three_le (by omega : 3 ≤ back.length)
      rw [List.length_cons, List.length_cons, List.length_cons] at total
      have grown : (pending ++ rgbBytes color).length = pending.length + 3 := List.length_append
      have next : (index + 3).toNat = (pending ++ rgbBytes color).length := by
        rw [UInt8.toNat_add, place, grown]
        exact Nat.mod_eq_of_lt (by show pending.length + 3 < 256; omega)
      have stream : pending ++ rgbStream (color :: rest) = pending ++ rgbBytes color ++ rgbStream rest := by
        rw [rgbStream_cons, List.append_assoc]
      have stored : writeColors (color :: rest) index (UInt8.ofNat (30 * k)) (pending ++ x :: y :: z :: back) =
          if 30 ≤ index + 3 then
            (writeColors rest 0 (UInt8.ofNat (30 * k) + 30) (pending ++ rgbBytes color ++ back)).bind fun blocks =>
              some ((UInt8.ofNat (30 * k), (pending ++ rgbBytes color ++ back).take 30) :: blocks)
          else writeColors rest (index + 3) (UInt8.ofNat (30 * k)) (pending ++ rgbBytes color ++ back) :=
        storeAt_three place (by rw [place]) (by rw [place]) _ _ _ x y z back _
      have full_iff : 30 ≤ index + 3 ↔ 30 ≤ pending.length + 3 := by
        rw [UInt8.le_iff_toNat_le, next, grown]
        rfl
      rw [stored, stream]
      by_cases full : 30 ≤ pending.length + 3
      · have thirty : (pending ++ rgbBytes color).length = 30 := by omega
        have onward : UInt8.ofNat (30 * k) + 30 = UInt8.ofNat (30 * (k + 1)) := (UInt8.ofNat_add (30 * k) 30).symm
        have empty : pending ++ rgbBytes color ++ rgbStream rest ≠ [] := by
          rw [← List.length_pos_iff, List.length_append, thirty]
          omega
        have behind : writeColors rest 0 (UInt8.ofNat (30 * (k + 1))) ([] ++ (pending ++ rgbBytes color ++ back)) =
            some (stripBlocks (k + 1) ([] ++ rgbStream rest)) :=
          ih rfl (dvd_zero 3) (by decide) (by rw [List.length_append, thirty, List.length_nil]; omega)
        rw [List.nil_append, List.nil_append] at behind
        rw [if_pos (full_iff.mpr full), onward, behind, Option.bind_some, stripBlocks_of_ne_nil empty,
          List.take_left' thirty, List.take_left' thirty, List.drop_left' thirty]
      · rw [if_neg (mt full_iff.mp full)]
        exact ih next (by rw [grown]; omega) (by rw [grown]; exact Nat.not_le.mp full) (by rw [grown]; omega)

/-- The colors that have a block with a start index of its own. -/
theorem reproduces_stripBlocks_iff (colors : List RGBColor) :
    Reproduces colors (stripBlocks 0 (rgbStream colors)) ↔ colors.length ≤ 90 := by
  have bytes := rgbStream_length colors
  constructor
  · intro right
    by_contra more
    -- Behind the ninth block there is a byte that no block reaches.
    obtain ⟨slot, inside, away⟩ : ∃ slot < 3 * colors.length, ∀ j, 30 * j < 3 * colors.length →
        slot < 30 * j % 256 ∨ 30 * j % 256 + 30 ≤ slot := by
      by_cases few : colors.length ≤ 95
      · refine ⟨270, by omega, fun j before => ?_⟩
        rcases Nat.lt_or_ge j 9 with front | last
        · rw [Nat.mod_eq_of_lt (by omega : 30 * j < 256)]
          omega
        · obtain rfl : j = 9 := by omega
          exact .inr (by decide)
      · exact ⟨285, by omega, fun j before => by omega⟩
    have kept (x : UInt8) : (rgbStream colors)[slot]? = some x := by
      have memory := List.length_replicate (n := 3 * colors.length) (a := x)
      rw [getElem?_writeBlocks_of_away (right.written _ memory) ?_, List.getElem?_replicate, if_pos inside]
      intro _ there
      obtain ⟨block, mem, rfl⟩ := List.mem_map.mp there
      obtain ⟨j, start, before, short⟩ := mem_stripBlocks mem
      have apart := away j (by omega)
      rw [start, UInt8.toNat_ofNat']
      rcases apart with below | above
      · exact .inl below
      · exact .inr (Nat.le_trans (Nat.add_le_add_left short _) above)
    exact absurd ((kept 0).symm.trans (kept 1)) (by decide)
  · intro few
    refine ⟨fun block mem => ?_, fun memory length => ?_⟩
    · obtain ⟨j, -, -, short⟩ := mem_stripBlocks mem
      exact short
    · have tiles : Tiles (30 * 0) (placed (stripBlocks 0 (rgbStream colors))) (30 * 0 + (rgbStream colors).length) :=
        tiles_stripBlocks (by omega)
      rw [tiles.writeBlocks_whole (by omega), flatMap_placed, flatMap_stripBlocks]

theorem setLEDsBasicI2C_eq (fresh : Nat → UInt8) (colors : List RGBColor) :
    setLEDsBasicI2C fresh colors = some (stripBlocks 0 (rgbStream colors), 0xFF) := by
  have blocks : writeColors colors 0 (UInt8.ofNat (30 * 0)) ([] ++ newBuffer fresh 30) =
      some (stripBlocks 0 ([] ++ rgbStream colors)) :=
    writeColors_eq colors rfl (dvd_zero 3) (by decide) (by rw [newBuffer_length]; rfl)
  exact congrArg (Option.bind · _) blocks

/-! ### All of them -/

theorem framed_iff (protocol : LedProtocol) (numLeds : Int32) {colors : List RGBColor}
    (payload : 3 * colors.length ≤ 65535) : Framed protocol numLeds colors ↔ Suits protocol numLeds colors := by
  cases protocol with
  | keyboardVisualizer =>
      exact ⟨numLeds_of_reads payload, fun same fresh => setLEDsKeyboardVisualizer_reads payload fresh same⟩
  | adalight => exact iff_of_true (setLEDsAdalight_reads payload) trivial
  | tpm2 => exact iff_of_true (setLEDsTPM2_reads payload) trivial
  | basicI2C =>
      rw [show Suits .basicI2C numLeds colors ↔ colors.length ≤ 90 from Iff.rfl, ← reproduces_stripBlocks_iff]
      constructor
      · intro framed
        obtain ⟨blocks, sent, right⟩ := framed fun _ => 0
        rw [setLEDsBasicI2C_eq] at sent
        obtain ⟨rfl, -⟩ := Prod.mk.inj (Option.some.inj sent)
        exact right
      · exact fun right fresh => ⟨_, setLEDsBasicI2C_eq fresh colors, right⟩

theorem framed_ninety_leds : Framed .basicI2C 90 (List.replicate 90 0) :=
  (framed_iff .basicI2C 90 (by decide)).mpr (Nat.le_refl 90)

/-- Three LEDs are configured, and two colors are left after a resize. -/
theorem checksum_outside : ¬∀ protocol numLeds (colors : List RGBColor), 3 * colors.length ≤ 65535 →
    Framed protocol numLeds colors := by
  intro all
  have outside : setLEDsKeyboardVisualizer (fun _ => 0) 3 [0x0000FF, 0x00FF00] = none := by decide
  have framed : Reads readKeyboardVisualizer [0x0000FF, 0x00FF00]
      (setLEDsKeyboardVisualizer (fun _ => 0) 3 [0x0000FF, 0x00FF00]) :=
    all .keyboardVisualizer 3 [0x0000FF, 0x00FF00] (by decide) fun _ => 0
  rw [Reads, outside] at framed
  cases framed

end LEDStripController
end SyncRGB
