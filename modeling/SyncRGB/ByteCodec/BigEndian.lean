import SyncRGB.ByteCodec.Bytes

/-! Fixed-width fields with the most significant byte first. -/
namespace ByteCodec

/-- The `k` low bytes of `n`, most significant first. -/
def be (k n : Nat) : Bytes := (le k n).reverse

def beValue (bs : Bytes) : Nat := leValue bs.reverse

@[simp] theorem be_length (k n : Nat) : (be k n).length = k := by rw [be, List.length_reverse, le_length]

theorem beValue_be (k n : Nat) : beValue (be k n) = n % 256 ^ k := by
  rw [beValue, be, List.reverse_reverse, leValue_le]

/-- `htonl` and `htons`, as the bytes that they leave in memory. -/
def htonl (x : UInt32) : Bytes := be 4 x.toNat
def htons (x : UInt16) : Bytes := be 2 x.toNat

@[simp] theorem beValue_htonl (x : UInt32) : beValue (htonl x) = x.toNat := by
  rw [htonl, beValue_be]
  exact Nat.mod_eq_of_lt x.toNat_lt

@[simp] theorem beValue_htons (x : UInt16) : beValue (htons x) = x.toNat := by
  rw [htons, beValue_be]
  exact Nat.mod_eq_of_lt x.toNat_lt

/-- A value in two bytes, one shifted out of it and one masked. -/
theorem two_bytes_eq {n : Nat} {msb lsb : UInt8} (shifted : msb.toNat = (n >>> 8) % 256)
    (masked : lsb.toNat = (n &&& 255) % 256) : [msb, lsb] = be 2 n := by
  have high : msb = UInt8.ofNat (n / 256) := by
    apply UInt8.toNat_inj.mp
    rw [shifted, UInt8.toNat_ofNat', Nat.shiftRight_eq_div_pow]
  have low : lsb = UInt8.ofNat n := by
    apply UInt8.toNat_inj.mp
    rw [masked, UInt8.toNat_ofNat', Nat.and_two_pow_sub_one_eq_mod n 8, Nat.mod_mod]
  rw [high, low]
  rfl

theorem bytes_eq_be (x : UInt32) : [(x >>> 8).toUInt8, (x &&& 0xFF).toUInt8] = be 2 x.toNat :=
  two_bytes_eq (by rw [UInt32.toNat_toUInt8, UInt32.toNat_shiftRight]; rfl)
    (by rw [UInt32.toNat_toUInt8, UInt32.toNat_and]; rfl)

theorem bytes_eq_htons (x : UInt16) : [(x >>> 8).toUInt8, (x &&& 0xFF).toUInt8] = htons x :=
  two_bytes_eq (by rw [UInt16.toNat_toUInt8, UInt16.toNat_shiftRight]; rfl)
    (by rw [UInt16.toNat_toUInt8, UInt16.toNat_and]; rfl)

end ByteCodec
