import Mathlib.Data.Nat.Digits.Defs
import Mathlib.Data.List.TakeWhile

/-! Fixed-width little-endian fields and NUL-terminated strings as byte lists. -/
namespace ByteCodec

abbrev Bytes := List UInt8

instance : LawfulBEq Bytes := inferInstance

/-- The `k` low bytes of `n`, least significant first. -/
def le : Nat → Nat → Bytes
  | 0, _ => []
  | k+1, n => UInt8.ofNat n :: le k (n / 256)

def leValue (bs : Bytes) : Nat := Nat.ofDigits 256 (bs.map UInt8.toNat)

@[simp] theorem le_length (k n : Nat) : (le k n).length = k := by
  induction k generalizing n with
  | zero => rfl
  | succ k ih => simp only [le, List.length_cons, ih]

theorem leValue_cons (b : UInt8) (bs : Bytes) : leValue (b :: bs) = b.toNat + 256 * leValue bs := by
  simp only [leValue, List.map_cons, Nat.ofDigits_cons]

theorem leValue_le (k n : Nat) : leValue (le k n) = n % 256 ^ k := by
  induction k generalizing n with
  | zero => simp [le, leValue, Nat.mod_one]
  | succ k ih =>
      rw [le, leValue_cons, ih, Nat.pow_succ', Nat.mod_mul, UInt8.toNat_ofNat']

theorem leValue_lt (bs : Bytes) : leValue bs < 256 ^ bs.length := by
  induction bs with
  | nil => simp [leValue]
  | cons b bs ih =>
      have hb : b.toNat < 256 := b.toNat_lt
      rw [leValue_cons, List.length_cons, Nat.pow_succ]
      omega

def u32 (x : UInt32) : Bytes := le 4 x.toNat
def i32 (x : Int32) : Bytes := u32 x.toUInt32

@[simp] theorem u32_length (x : UInt32) : (u32 x).length = 4 := le_length 4 _
@[simp] theorem i32_length (x : Int32) : (i32 x).length = 4 := le_length 4 _

def u32Value (bs : Bytes) : UInt32 := UInt32.ofNat (leValue bs)
def i32Value (bs : Bytes) : Int32 := (u32Value bs).toInt32

@[simp] theorem u32Value_u32 (x : UInt32) : u32Value (u32 x) = x := by
  have hx : x.toNat % 256 ^ 4 = x.toNat := Nat.mod_eq_of_lt x.toNat_lt
  rw [u32Value, u32, leValue_le, hx, UInt32.ofNat_toNat]

@[simp] theorem i32Value_i32 (x : Int32) : i32Value (i32 x) = x := by
  rw [i32Value, i32, u32Value_u32]
  rfl

/-- The text a C string function sees: everything before the first NUL. -/
def cstr (s : Bytes) : Bytes := s.takeWhile (· != 0)

def strlen (s : Bytes) : Nat := (cstr s).length

theorem cstr_no_nul (s : Bytes) : (0 : UInt8) ∉ cstr s := by
  intro h
  have := List.mem_takeWhile_imp h
  simp at this

theorem cstr_of_no_nul {s : Bytes} (h : (0 : UInt8) ∉ s) : cstr s = s := by
  rw [cstr, List.takeWhile_eq_self_iff]
  intro b hb
  simp only [bne_iff_ne, ne_eq]
  rintro rfl
  exact h hb

/-- A terminated string is read back up to its terminator, whatever follows. -/
theorem cstr_terminated (s rest : Bytes) : cstr (cstr s ++ 0 :: rest) = cstr s := by
  have hall : ∀ b ∈ cstr s, (b != 0) = true := by
    intro b hb
    simp only [bne_iff_ne, ne_eq]
    rintro rfl
    exact cstr_no_nul s hb
  show (cstr s ++ 0 :: rest).takeWhile (· != 0) = cstr s
  rw [List.takeWhile_append_of_pos hall]
  simp

end ByteCodec
