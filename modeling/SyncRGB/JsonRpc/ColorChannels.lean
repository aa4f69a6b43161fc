import SyncRGB.JsonRpc.ColorMethods
import SyncRGB.JsonRpc.Numbers
import SyncRGB.JsonRpc.Reports

/-! The channels that a JSON value asks for, and those of the color that is made of it. -/
namespace SyncRGB
open ByteCodec

/-- `RGBGetRValue`, `RGBGetGValue` and `RGBGetBValue`. -/
def channels (color : RGBColor) : Nat × Nat × Nat :=
  ((color &&& 0xFF).toNat, (color >>> 8 &&& 0xFF).toNat, (color >>> 16 &&& 0xFF).toNat)

/-- The channels of a number that packs them, red lowest. -/
def unpacked (n : Nat) : Nat × Nat × Nat := (n % 256, n / 256 % 256, n / 65536 % 256)

/-- A packed color has 32 bits. -/
def packedChannels (number : Option Int) : Option (Nat × Nat × Nat) :=
  number.bind fun i => if 0 ≤ i ∧ i < 2 ^ 32 then some (unpacked i.toNat) else none

def Json.channel (j : Json) : Option Nat :=
  j.exactInt.bind fun i => if 0 ≤ i ∧ i ≤ 255 then some i.toNat else none

namespace JsonRpc

def hexPair (high low : UInt8) : Option Nat :=
  return 16 * (← hexDigit high).toNat + (← hexDigit low).toNat

/-- Two hexadecimal digits for each channel, red first. -/
def hexChannels : Bytes → Option (Nat × Nat × Nat)
  | [a, b, c, d, e, f] => return (← hexPair a b, ← hexPair c d, ← hexPair e f)
  | _ => none

/-- A channel of an object; the handler takes a missing one for zero. -/
def channelOf (key : String) (j : Json) : Option Nat :=
  match j.find key with
  | some value => value.channel
  | none => some 0

/-- The channels that a value asks for, if it has one of the forms for a color. -/
def requestedChannels (j : Json) : Option (Nat × Nat × Nat) :=
  if j.contains "red" then
    return (← channelOf "red" j, ← channelOf "green" j, ← channelOf "blue" j)
  else match j with
    | .string (35 :: digits) => hexChannels digits
    | .array [red, green, blue] => return (← red.channel, ← green.channel, ← blue.channel)
    | .unsigned _ | .integer _ | .float _ => packedChannels j.exactInt
    | _ => none

end JsonRpc

/-! ### Arithmetic of the channels -/

theorem toNat_ofNat_byte {n : Nat} (small : n ≤ 255) : (UInt32.ofNat n).toNat = n :=
  UInt32.toNat_ofNat_of_lt' (by simp only [UInt32.size]; omega)

theorem channels_eq (color : RGBColor) : channels color = unpacked color.toNat := by
  have byte (n : Nat) : n &&& 255 = n % 256 := Nat.and_two_pow_sub_one_eq_mod n 8
  simp only [channels, unpacked, UInt32.toNat_and, UInt32.toNat_shiftRight, UInt32.toNat_ofNat, Nat.reduceMod,
    Nat.shiftRight_eq_div_pow, Nat.reducePow, byte]

theorem toNat_toRGBColor {r g b : UInt32} (rSmall : r.toNat ≤ 255) (gSmall : g.toNat ≤ 255)
    (bSmall : b.toNat ≤ 255) :
    (toRGBColor r g b).toNat = 65536 * b.toNat + 256 * g.toNat + r.toNat := by
  have high : b.toNat <<< 16 % 2 ^ 32 = 2 ^ 16 * b.toNat := by
    rw [Nat.shiftLeft_eq, Nat.mul_comm]
    omega
  have middle_ : g.toNat <<< 8 % 2 ^ 32 = 2 ^ 8 * g.toNat := by
    rw [Nat.shiftLeft_eq, Nat.mul_comm]
    omega
  have low : 2 ^ 8 * g.toNat ||| r.toNat = 2 ^ 8 * g.toNat + r.toNat :=
    (Nat.two_pow_add_eq_or_of_lt (by omega) _).symm
  have all : 2 ^ 16 * b.toNat ||| (2 ^ 8 * g.toNat + r.toNat) = 2 ^ 16 * b.toNat + (2 ^ 8 * g.toNat + r.toNat) :=
    (Nat.two_pow_add_eq_or_of_lt (by omega) _).symm
  simp only [toRGBColor, UInt32.toNat_or, UInt32.toNat_shiftLeft, UInt32.toNat_ofNat, high, middle_]
  rw [Nat.or_assoc, low, all]
  omega

theorem channels_toRGBColor {r g b : UInt32} (rSmall : r.toNat ≤ 255) (gSmall : g.toNat ≤ 255)
    (bSmall : b.toNat ≤ 255) : channels (toRGBColor r g b) = (r.toNat, g.toNat, b.toNat) := by
  rw [channels_eq, toNat_toRGBColor rSmall gSmall bSmall]
  refine Prod.ext ?_ (Prod.ext ?_ ?_)
  · simp only [unpacked]
    omega
  · simp only [unpacked]
    omega
  · simp only [unpacked]
    omega

/-! ### Objects -/

namespace Json

theorem channel_eq_some {j : Json} {n : Nat} (channel : j.channel = some n) :
    n ≤ 255 ∧ ∃ w, j.toWord = .ok w ∧ w.toNat = n := by
  obtain ⟨i, exact_, small⟩ := Option.bind_eq_some_iff.mp channel
  split at small
  · rename_i bounds
    cases small
    exact ⟨by omega, _, toWord_of_exactInt exact_, ofInt_toNat bounds.1 (by omega)⟩
  · cases small

end Json

namespace JsonRpc

/-- The conversion of a channel. -/
def channelWord (key : String) (j : Json) : Handled UInt32 :=
  match j.find key with
  | some value => value.toWord
  | none => .ok 0

/-- A channel that is asked for in range is met by the conversion. -/
def Meets (run : Handled UInt32) (asked : Option Nat) : Prop :=
  ∀ n, asked = some n → n ≤ 255 ∧ ∃ w, run = .ok w ∧ w.toNat = n

theorem channelWord_meets (key : String) (j : Json) : Meets (channelWord key j) (channelOf key j) := by
  intro n channel
  rw [channelOf] at channel
  rw [channelWord]
  split at channel
  · exact Json.channel_eq_some channel
  · cases channel
    exact ⟨Nat.zero_le _, 0, rfl, rfl⟩

/-- A channel that the conversion refuses. -/
def Refused (key : String) (j : Json) : Prop := ∃ value, j.find key = some value ∧ value.isArithmetic = false

theorem channelWord_cases (key : String) (j : Json) :
    (¬ Refused key j ∧ ∃ w, channelWord key j = .ok w) ∨ (Refused key j ∧ ∃ e, channelWord key j = .error e) := by
  rw [channelWord, Refused]
  cases found : j.find key with
  | none =>
      refine .inl ⟨?_, 0, rfl⟩
      rintro ⟨value, none_, -⟩
      cases none_
  | some value =>
      rcases value.toWord_cases with ⟨arithmetic, run⟩ | ⟨other, run⟩
      · refine .inl ⟨?_, run⟩
        rintro ⟨value', same, other⟩
        cases same
        rw [arithmetic] at other
        cases other
      · exact .inr ⟨⟨value, rfl, other⟩, run⟩

theorem contains_eq_true_iff {key : String} {j : Json} : j.contains key = true ↔ ∃ value, j.find key = some value :=
  Option.isSome_iff_exists

theorem parseColor_object (uninitialized : UInt32) {j : Json} (red : j.contains "red" = true) :
    parseColor uninitialized j = (do
      let red ← channelWord "red" j
      let green ← channelWord "green" j
      let blue ← channelWord "blue" j
      return toRGBColor red green blue) := by
  obtain ⟨value, found⟩ := contains_eq_true_iff.mp red
  unfold parseColor
  cases j with
  | object fields =>
      rw [if_pos red, Json.get_of_find found, channelWord, found]
      rfl
  | _ => cases found

/-- A color has the three channels that were asked for exactly if a channel is refused or all are in range. -/
theorem threeChannels_iff {red green blue : Handled UInt32} {r g b : Option Nat} (meetsR : Meets red r)
    (meetsG : Meets green g) (meetsB : Meets blue b) :
    (∀ color,
        (do
          let red ← red
          let green ← green
          let blue ← blue
          return toRGBColor red green blue) = Except.ok color →
        (do return (← r, ← g, ← b)) = some (channels color)) ↔
      ((∃ e, red = .error e) ∨ (∃ e, green = .error e) ∨ ∃ e, blue = .error e) ∨
        (r.isSome ∧ g.isSome ∧ b.isSome) := by
  cases red with
  | error e => exact iff_of_true (by rintro color ⟨⟩) (.inl (.inl ⟨e, rfl⟩))
  | ok wr =>
  cases green with
  | error e => exact iff_of_true (by rintro color ⟨⟩) (.inl (.inr (.inl ⟨e, rfl⟩)))
  | ok wg =>
  cases blue with
  | error e => exact iff_of_true (by rintro color ⟨⟩) (.inl (.inr (.inr ⟨e, rfl⟩)))
  | ok wb =>
  constructor
  · intro all
    obtain ⟨nr, some_r, rest⟩ := Option.bind_eq_some_iff.mp (all _ rfl)
    obtain ⟨ng, some_g, rest⟩ := Option.bind_eq_some_iff.mp rest
    obtain ⟨nb, some_b, -⟩ := Option.bind_eq_some_iff.mp rest
    exact .inr ⟨some_r ▸ rfl, some_g ▸ rfl, some_b ▸ rfl⟩
  · rintro (throws | ⟨inR, inG, inB⟩) color done
    · rcases throws with ⟨e, throws⟩ | ⟨e, throws⟩ | ⟨e, throws⟩ <;> cases throws
    · obtain ⟨nr, rfl⟩ := Option.isSome_iff_exists.mp inR
      obtain ⟨ng, rfl⟩ := Option.isSome_iff_exists.mp inG
      obtain ⟨nb, rfl⟩ := Option.isSome_iff_exists.mp inB
      obtain ⟨smallR, w, ⟨⟩, rfl⟩ := meetsR nr rfl
      obtain ⟨smallG, w, ⟨⟩, rfl⟩ := meetsG ng rfl
      obtain ⟨smallB, w, ⟨⟩, rfl⟩ := meetsB nb rfl
      cases done
      rw [channels_toRGBColor smallR smallG smallB]
      rfl

theorem parseColor_object_iff (uninitialized : UInt32) {j : Json} (red : j.contains "red" = true) :
    (∀ color, parseColor uninitialized j = .ok color → requestedChannels j = some (channels color)) ↔
      (∃ key ∈ ["red", "green", "blue"], Refused key j) ∨
        ∀ key ∈ ["red", "green", "blue"], (channelOf key j).isSome := by
  have refused (key : String) : (∃ e, channelWord key j = .error e) ↔ Refused key j := by
    rcases channelWord_cases key j with ⟨taken, w, run⟩ | both
    · refine iff_of_false ?_ taken
      rintro ⟨e, throws⟩
      rw [run] at throws
      cases throws
    · exact iff_of_true both.2 both.1
  have three := threeChannels_iff (channelWord_meets "red" j) (channelWord_meets "green" j)
    (channelWord_meets "blue" j)
  rw [refused, refused, refused] at three
  unfold requestedChannels
  rw [parseColor_object uninitialized red, if_pos red]
  apply three.trans
  simp

/-! ### Texts -/

theorem hexDigit_value {b : UInt8} {v : UInt32} (digit : hexDigit b = some v) :
    v.toNat < 16 ∧ (48 ≤ b.toNat ∧ b.toNat ≤ 57 ∨ 65 ≤ b.toNat ∧ b.toNat ≤ 70 ∨ 97 ≤ b.toNat ∧ b.toNat ≤ 102) := by
  have within (low high base : UInt8) (inside : (decide (low ≤ b) && decide (b ≤ high)) = true) (below : base ≤ low) :
      low.toNat ≤ b.toNat ∧ b.toNat ≤ high.toNat ∧ (b - base).toUInt32.toNat = b.toNat - base.toNat := by
    rw [Bool.and_eq_true, decide_eq_true_eq, decide_eq_true_eq] at inside
    refine ⟨UInt8.le_iff_toNat_le.mp inside.1, UInt8.le_iff_toNat_le.mp inside.2, ?_⟩
    rw [UInt8.toNat_toUInt32, UInt8.toNat_sub_of_le _ _ (UInt8.le_trans below inside.1)]
  rw [hexDigit] at digit
  split at digit
  · rename_i decimal
    have range := within 48 57 48 decimal (by decide)
    simp only [UInt8.reduceToNat] at range
    cases digit
    omega
  · split at digit
    · rename_i upper
      have range := within 65 70 55 upper (by decide)
      simp only [UInt8.reduceToNat] at range
      cases digit
      omega
    · split at digit
      · rename_i lower
        have range := within 97 102 87 lower (by decide)
        simp only [UInt8.reduceToNat] at range
        cases digit
        omega
      · cases digit

/-- A digit is no white space, sign or mark of a base. -/
theorem hexDigit_other {b : UInt8} {v : UInt32} (digit : hexDigit b = some v) {c : UInt8}
    (other : c.toNat < 48 ∨ 102 < c.toNat ∨ c = 88) : b ≠ c := by
  rintro rfl
  obtain ⟨-, range⟩ := hexDigit_value digit
  rcases other with low | high | rfl
  · omega
  · omega
  · revert range
    decide

theorem hexDigit_not_space {b : UInt8} {v : UInt32} (digit : hexDigit b = some v) : isSpace b = false := by
  obtain ⟨-, range⟩ := hexDigit_value digit
  have high : ¬ b ≤ 13 := by
    simp only [UInt8.le_iff_toNat_le, UInt8.reduceToNat]
    omega
  rw [isSpace, decide_eq_false (hexDigit_other digit (by decide)), decide_eq_false high, Bool.and_false,
    Bool.or_false]

/-- Digits have no mark of a base in front. -/
theorem dropHexPrefix_digits {a b : UInt8} {v : UInt32} (second : hexDigit b = some v) (rest : Bytes) :
    dropHexPrefix (a :: b :: rest) = a :: b :: rest := by
  unfold dropHexPrefix
  split
  · rename_i same
    cases same
    rw [if_neg]
    simp [hexDigit_other second (c := 120) (by decide), hexDigit_other second (c := 88) (by decide)]
  · rfl

/-- A text of digits is read as a number from its first digit on. -/
theorem readHex_digits (uninitialized : UInt32) {a b : UInt8} {va vb : UInt32} (first : hexDigit a = some va)
    (second : hexDigit b = some vb) (rest : Bytes) :
    readHex uninitialized (a :: b :: rest) = hexDigits 0 (a :: b :: rest) := by
  unfold readHex
  rw [List.dropWhile_cons_of_neg (by rw [hexDigit_not_space first]; exact Bool.false_ne_true)]
  split
  · rename_i none_
    cases none_
  · rename_i minus
    cases minus
    exact absurd rfl (hexDigit_other first (by decide))
  · rename_i plus
    cases plus
    exact absurd rfl (hexDigit_other first (by decide))
  · rw [dropHexPrefix_digits second]

theorem hexDigits_cons {v d : UInt32} {b : UInt8} (digit : hexDigit b = some d) (rest : Bytes) :
    hexDigits v (b :: rest) = hexDigits (16 * v + d) rest := by
  rw [hexDigits, digit]

theorem hexPair_eq_some {high low : UInt8} {n : Nat} (pair : hexPair high low = some n) :
    ∃ vh vl, hexDigit high = some vh ∧ hexDigit low = some vl ∧ vh.toNat < 16 ∧ vl.toNat < 16 ∧
      n = 16 * vh.toNat + vl.toNat := by
  obtain ⟨vh, atHigh, rest⟩ := Option.bind_eq_some_iff.mp pair
  obtain ⟨vl, atLow, value⟩ := Option.bind_eq_some_iff.mp rest
  exact ⟨vh, vl, atHigh, atLow, (hexDigit_value atHigh).1, (hexDigit_value atLow).1, (Option.some.inj value).symm⟩

/-- The bytes of the number are the channels from the last one on. -/
theorem readHex_channels (uninitialized : UInt32) {digits : Bytes} {r g b : Nat}
    (asked : hexChannels digits = some (r, g, b)) :
    r ≤ 255 ∧ g ≤ 255 ∧ b ≤ 255 ∧ digits.length = 6 ∧
      readHex uninitialized digits = toRGBColor (UInt32.ofNat b) (UInt32.ofNat g) (UInt32.ofNat r) := by
  unfold hexChannels at asked
  split at asked
  · obtain ⟨nr, pairR, asked⟩ := Option.bind_eq_some_iff.mp asked
    obtain ⟨ng, pairG, asked⟩ := Option.bind_eq_some_iff.mp asked
    obtain ⟨nb, pairB, asked⟩ := Option.bind_eq_some_iff.mp asked
    cases asked
    obtain ⟨v1, v2, at1, at2, small1, small2, rfl⟩ := hexPair_eq_some pairR
    obtain ⟨v3, v4, at3, at4, small3, small4, rfl⟩ := hexPair_eq_some pairG
    obtain ⟨v5, v6, at5, at6, small5, small6, rfl⟩ := hexPair_eq_some pairB
    refine ⟨by omega, by omega, by omega, rfl, ?_⟩
    rw [readHex_digits uninitialized at1 at2, hexDigits_cons at1, hexDigits_cons at2, hexDigits_cons at3,
      hexDigits_cons at4, hexDigits_cons at5, hexDigits_cons at6, hexDigits]
    apply UInt32.toNat_inj.mp
    have red := toNat_ofNat_byte (by omega : 16 * v1.toNat + v2.toNat ≤ 255)
    have green := toNat_ofNat_byte (by omega : 16 * v3.toNat + v4.toNat ≤ 255)
    have blue := toNat_ofNat_byte (by omega : 16 * v5.toNat + v6.toNat ≤ 255)
    rw [toNat_toRGBColor (by omega) (by omega) (by omega), red, green, blue]
    simp only [UInt32.toNat_add, UInt32.toNat_mul, UInt32.reduceToNat]
    omega
  · cases asked

/-! ### Every value -/

/-- The values for which the handler makes the color that they ask for, or throws: objects with a channel that the
conversion refuses or with all of them in range; texts with the same red and blue; black arrays; and numbers that are
integers of 32 bits. -/
def ColorFits (j : Json) : Prop :=
  if j.contains "red" then
    (∃ key ∈ ["red", "green", "blue"], Refused key j) ∨
      ∀ key ∈ ["red", "green", "blue"], (channelOf key j).isSome
  else match j with
    | .string (35 :: digits) => ∃ r g, hexChannels digits = some (r, g, r)
    | .array [red, green, blue] => red.channel = some 0 ∧ green.channel = some 0 ∧ blue.channel = some 0
    | .unsigned _ | .integer _ | .float _ => ∃ i, j.exactInt = some i ∧ 0 ≤ i ∧ i < 2 ^ 32
    | _ => False

theorem accepted_iff {uninitialized : UInt32} {j : Json} {c : RGBColor} (done : parseColor uninitialized j = .ok c) :
    (∀ color, parseColor uninitialized j = .ok color → requestedChannels j = some (channels color)) ↔
      requestedChannels j = some (channels c) := by
  constructor
  · exact fun all => all c done
  · intro asked color same
    rw [done] at same
    cases same
    exact asked

theorem packedChannels_iff {j : Json} {w : UInt32} (cut : j.toWord = .ok w) :
    packedChannels j.exactInt = some (channels w) ↔ ∃ i, j.exactInt = some i ∧ 0 ≤ i ∧ i < 2 ^ 32 := by
  constructor
  · intro asked
    obtain ⟨i, is_i, rest⟩ := Option.bind_eq_some_iff.mp asked
    split at rest
    · exact ⟨i, is_i, ‹_›⟩
    · cases rest
  · rintro ⟨i, is_i, range⟩
    rw [Json.toWord_of_exactInt is_i] at cut
    cases cut
    rw [packedChannels, is_i, Option.bind_some, if_pos range, channels_eq, ofInt_toNat range.1 range.2]

theorem requested_text_iff (uninitialized : UInt32) (digits : Bytes) :
    hexChannels digits = some (channels (if digits.length = 6 then readHex uninitialized digits else 0)) ↔
      ∃ r g, hexChannels digits = some (r, g, r) := by
  have reads {r g b : Nat} (asked : hexChannels digits = some (r, g, b)) :
      channels (if digits.length = 6 then readHex uninitialized digits else 0) = (b, g, r) := by
    obtain ⟨smallR, smallG, smallB, six, run⟩ := readHex_channels uninitialized asked
    rw [if_pos six, run, channels_toRGBColor, toNat_ofNat_byte smallR, toNat_ofNat_byte smallG,
      toNat_ofNat_byte smallB]
    · rwa [toNat_ofNat_byte smallB]
    · rwa [toNat_ofNat_byte smallG]
    · rwa [toNat_ofNat_byte smallR]
  constructor
  · intro asked
    rcases read : channels (if digits.length = 6 then readHex uninitialized digits else 0) with ⟨r, g, b⟩
    rw [read] at asked
    have swapped := reads asked
    rw [read] at swapped
    cases swapped
    exact ⟨r, g, asked⟩
  · rintro ⟨r, g, asked⟩
    rw [reads asked, asked]

theorem fits_number_iff {uninitialized : UInt32} {j : Json} {w : UInt32} (cut : j.toWord = .ok w)
    (run : parseColor uninitialized j = j.toWord) (asked : requestedChannels j = packedChannels j.exactInt) :
    (∀ color, parseColor uninitialized j = .ok color → requestedChannels j = some (channels color)) ↔
      ∃ i, j.exactInt = some i ∧ 0 ≤ i ∧ i < 2 ^ 32 := by
  rw [accepted_iff (run.trans cut), asked, packedChannels_iff cut]

theorem unfit_iff {uninitialized : UInt32} {j : Json} {c : RGBColor} (done : parseColor uninitialized j = .ok c)
    (none_ : requestedChannels j = none) :
    (∀ color, parseColor uninitialized j = .ok color → requestedChannels j = some (channels color)) ↔ False := by
  rw [accepted_iff done, none_]
  exact iff_of_false (by rintro ⟨⟩) not_false

theorem threeChannels_zero_iff {r g b : Option Nat} :
    (do return (← r, ← g, ← b)) = some (channels 0) ↔ r = some 0 ∧ g = some 0 ∧ b = some 0 := by
  have black : channels 0 = (0, 0, 0) := rfl
  rw [black]
  constructor
  · intro asked
    obtain ⟨nr, atR, asked⟩ := Option.bind_eq_some_iff.mp asked
    obtain ⟨ng, atG, asked⟩ := Option.bind_eq_some_iff.mp asked
    obtain ⟨nb, atB, asked⟩ := Option.bind_eq_some_iff.mp asked
    cases asked
    exact ⟨atR, atG, atB⟩
  · rintro ⟨rfl, rfl, rfl⟩
    rfl

theorem parseColor_fits_iff (uninitialized : UInt32) (j : Json) :
    (∀ color, parseColor uninitialized j = .ok color → requestedChannels j = some (channels color)) ↔ ColorFits j := by
  unfold ColorFits
  by_cases red : j.contains "red" = true
  · rw [parseColor_object_iff uninitialized red, if_pos red]
  · rw [if_neg red]
    cases j with
    | null => exact unfit_iff rfl rfl
    | boolean _ => exact unfit_iff rfl rfl
    | unsigned n => exact fits_number_iff rfl rfl rfl
    | integer n => exact fits_number_iff rfl rfl rfl
    | float q => exact fits_number_iff rfl rfl rfl
    | string s =>
        cases s with
        | nil => exact unfit_iff rfl rfl
        | cons b digits =>
            by_cases mark : b = 35
            · subst mark
              exact (accepted_iff rfl).trans (requested_text_iff uninitialized digits)
            · have run : parseColor uninitialized (.string (b :: digits)) = .ok 0 := by
                simp [parseColor, Json.contains, Json.find, mark, pure, Except.pure]
              have asked : requestedChannels (.string (b :: digits)) = none := by
                simp [requestedChannels, Json.contains, Json.find, mark]
              simpa [mark] using unfit_iff run asked
    | array xs =>
        rcases xs with _ | ⟨r, _ | ⟨g, _ | ⟨b, _ | ⟨more, rest⟩⟩⟩⟩
        · exact unfit_iff rfl rfl
        · exact unfit_iff rfl rfl
        · exact unfit_iff rfl rfl
        · exact (accepted_iff rfl).trans threeChannels_zero_iff
        · exact unfit_iff rfl rfl
    | object fields =>
        have run : parseColor uninitialized (.object fields) = .ok 0 := by
          unfold parseColor
          rw [if_neg red]
          rfl
        have asked : requestedChannels (.object fields) = none := by
          unfold requestedChannels
          rw [if_neg red]
        exact unfit_iff run asked

/-- The arrays that the zone methods take by their low 32 bits are in range as they are. -/
def RgbArrayFits (j : Json) : Prop :=
  ∀ red green blue : UInt64, j = .array [.unsigned red, .unsigned green, .unsigned blue] →
    red.toUInt32 ≤ 255 ∧ green.toUInt32 ≤ 255 ∧ blue.toUInt32 ≤ 255 → red ≤ 255 ∧ green ≤ 255 ∧ blue ≤ 255

theorem rgbChannel_eq_some {j : Json} {w : UInt32} (taken : rgbChannel j = some w) :
    ∃ n : UInt64, j = .unsigned n ∧ n.toUInt32 ≤ 255 ∧ w = n.toUInt32 := by
  unfold rgbChannel at taken
  split at taken
  · rename_i n
    split at taken
    · cases taken
      exact ⟨n, rfl, ‹_›, rfl⟩
    · cases taken
  · cases taken

theorem channel_unsigned (n : UInt64) : (Json.unsigned n).channel = if n ≤ 255 then some n.toNat else none := by
  have exact_ : (Json.unsigned n).exactInt = some (n.toNat : Int) := Json.exactInt_eq_some_iff.mpr rfl
  rw [Json.channel, exact_, Option.bind_some]
  by_cases small : n ≤ 255
  · have bound : n.toNat ≤ 255 := UInt64.le_iff_toNat_le.mp small
    rw [if_pos small, if_pos (by omega), Int.toNat_natCast]
  · rw [if_neg small, if_neg]
    rintro ⟨-, bound⟩
    exact small (UInt64.le_iff_toNat_le.mpr (by simp only [UInt64.reduceToNat]; omega))

theorem rgbArray_unsigned {red green blue : UInt64}
    (small : red.toUInt32 ≤ 255 ∧ green.toUInt32 ≤ 255 ∧ blue.toUInt32 ≤ 255) :
    rgbArray (.array [.unsigned red, .unsigned green, .unsigned blue]) =
      some (toRGBColor red.toUInt32 green.toUInt32 blue.toUInt32) := by
  simp only [rgbArray, rgbChannel, if_pos small.1, if_pos small.2.1, if_pos small.2.2]
  rfl

theorem rgbArray_fits_iff (j : Json) :
    (∀ color, rgbArray j = some color → requestedChannels j = some (channels color)) ↔ RgbArrayFits j := by
  constructor
  · rintro all red green blue rfl small
    obtain ⟨r, atR, asked⟩ := Option.bind_eq_some_iff.mp (all _ (rgbArray_unsigned small))
    obtain ⟨g, atG, asked⟩ := Option.bind_eq_some_iff.mp asked
    obtain ⟨b, atB, -⟩ := Option.bind_eq_some_iff.mp asked
    have within {n : UInt64} {k : Nat} (some_ : (Json.unsigned n).channel = some k) : n ≤ 255 := by
      rw [channel_unsigned] at some_
      split at some_
      · assumption
      · cases some_
    exact ⟨within atR, within atG, within atB⟩
  · intro fits color taken
    unfold rgbArray at taken
    split at taken
    · obtain ⟨wr, atR, taken⟩ := Option.bind_eq_some_iff.mp taken
      obtain ⟨wg, atG, taken⟩ := Option.bind_eq_some_iff.mp taken
      obtain ⟨wb, atB, taken⟩ := Option.bind_eq_some_iff.mp taken
      cases taken
      obtain ⟨red, rfl, lowR, rfl⟩ := rgbChannel_eq_some atR
      obtain ⟨green, rfl, lowG, rfl⟩ := rgbChannel_eq_some atG
      obtain ⟨blue, rfl, lowB, rfl⟩ := rgbChannel_eq_some atB
      obtain ⟨smallR, smallG, smallB⟩ := fits red green blue rfl ⟨lowR, lowG, lowB⟩
      have kept {n : UInt64} (small : n ≤ 255) : n.toUInt32.toNat = n.toNat := by
        have bound : n.toNat ≤ 255 := UInt64.le_iff_toNat_le.mp small
        rw [UInt64.toNat_toUInt32, Nat.mod_eq_of_lt (by omega)]
      have low {w : UInt32} (small : w ≤ 255) : w.toNat ≤ 255 := UInt32.le_iff_toNat_le.mp small
      rw [channels_toRGBColor (low lowR) (low lowG) (low lowB), kept smallR, kept smallG, kept smallB]
      change (do return (← (Json.unsigned red).channel, ← (Json.unsigned green).channel,
        ← (Json.unsigned blue).channel)) = _
      rw [channel_unsigned, channel_unsigned, channel_unsigned, if_pos smallR, if_pos smallG, if_pos smallB]
      rfl
    · cases taken

/-! ### One color in all its forms -/

/-- The array of the channels of a color. -/
def rgbArrayOf (color : RGBColor) : Json :=
  .array [.ofUInt32 (color &&& 0xFF), .ofUInt32 (color >>> 8 &&& 0xFF), .ofUInt32 (color >>> 16 &&& 0xFF)]

theorem toRGBColor_channels (color : RGBColor) :
    toRGBColor (color &&& 0xFF) (color >>> 8 &&& 0xFF) (color >>> 16 &&& 0xFF) = color &&& 0xFFFFFF := by
  have parts : channels color = unpacked color.toNat := channels_eq color
  simp only [channels, unpacked, Prod.mk.injEq] at parts
  obtain ⟨red, green, blue⟩ := parts
  have masked (n : Nat) : n &&& 16777215 = n % 16777216 := Nat.and_two_pow_sub_one_eq_mod n 24
  apply UInt32.toNat_inj.mp
  rw [toNat_toRGBColor (by omega) (by omega) (by omega), red, green, blue, UInt32.toNat_and]
  simp only [UInt32.reduceToNat, masked]
  omega

theorem parseColor_colorToJSON (uninitialized : UInt32) (color : RGBColor) :
    parseColor uninitialized (colorToJSON color) = .ok (color &&& 0xFFFFFF) := by
  have back (w : UInt32) : (Json.ofUInt32 w).toWord = .ok w := congrArg Except.ok (UInt32.toUInt32_toUInt64 w)
  have red : channelWord "red" (colorToJSON color) = .ok (color &&& 0xFF) := back _
  have green : channelWord "green" (colorToJSON color) = .ok (color >>> 8 &&& 0xFF) := back _
  have blue : channelWord "blue" (colorToJSON color) = .ok (color >>> 16 &&& 0xFF) := back _
  rw [parseColor_object uninitialized rfl, red, green, blue, ← toRGBColor_channels]
  rfl

theorem rgbArray_rgbArrayOf (color : RGBColor) : rgbArray (rgbArrayOf color) = some (color &&& 0xFFFFFF) := by
  have byte (w : UInt32) : (w &&& 0xFF).toUInt64.toUInt32 ≤ 255 := by
    rw [UInt32.toUInt32_toUInt64, UInt32.le_iff_toNat_le, UInt32.toNat_and]
    exact Nat.and_le_right
  have taken := rgbArray_unsigned ⟨byte color, byte (color >>> 8), byte (color >>> 16)⟩
  rw [UInt32.toUInt32_toUInt64, UInt32.toUInt32_toUInt64, UInt32.toUInt32_toUInt64, toRGBColor_channels] at taken
  exact taken

/-- `ParseColor` and the arrays of the zone methods: exactly for which values the color has the channels asked for
or the request is refused; that the object emitted for a color and the array of its channels decode to it; and that a
text decodes with red and blue exchanged. -/
theorem colors_decoded_iff (uninitialized : UInt32) (j : Json) :
    ((∀ color, parseColor uninitialized j = .ok color → requestedChannels j = some (channels color)) ↔
      ColorFits j) ∧
    ((∀ color, rgbArray j = some color → requestedChannels j = some (channels color)) ↔ RgbArrayFits j) ∧
    (∀ color, parseColor uninitialized (colorToJSON color) = .ok (color &&& 0xFFFFFF) ∧
      rgbArray (rgbArrayOf color) = some (color &&& 0xFFFFFF)) ∧
    ∀ digits r g b, hexChannels digits = some (r, g, b) →
      parseColor uninitialized (.string (35 :: digits)) =
        .ok (toRGBColor (UInt32.ofNat b) (UInt32.ofNat g) (UInt32.ofNat r)) := by
  refine ⟨parseColor_fits_iff uninitialized j, rgbArray_fits_iff j, ?_, ?_⟩
  · intro color
    exact ⟨parseColor_colorToJSON uninitialized color, rgbArray_rgbArrayOf color⟩
  · intro digits r g b asked
    obtain ⟨-, -, -, six, run⟩ := readHex_channels uninitialized asked
    rw [← run]
    exact congrArg Except.ok (if_pos six)

/-- A text with its red and blue exchanged, a green of 256 in the blue, and an element of 2^32 for zero. -/
theorem colors_misread :
    (∃ color, parseColor 0 (.string (ascii "#FF0000")) = .ok color ∧
      requestedChannels (.string (ascii "#FF0000")) = some (255, 0, 0) ∧ channels color = (0, 0, 255)) ∧
    (∃ color, parseColor 0 (.object [(ascii "red", .unsigned 0), (ascii "green", .unsigned 256)]) = .ok color ∧
      requestedChannels (.object [(ascii "red", .unsigned 0), (ascii "green", .unsigned 256)]) = none ∧
      channels color = (0, 0, 1)) ∧
    ∃ color, rgbArray (.array [.unsigned 4294967296, .unsigned 0, .unsigned 0]) = some color ∧
      requestedChannels (.array [.unsigned 4294967296, .unsigned 0, .unsigned 0]) = none ∧
      channels color = (0, 0, 0) :=
  ⟨⟨_, rfl, by decide, by decide⟩, ⟨_, rfl, by decide, by decide⟩, ⟨_, rfl, by decide, by decide⟩⟩

end JsonRpc
end SyncRGB
