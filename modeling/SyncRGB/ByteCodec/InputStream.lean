import SyncRGB.ByteCodec.Bytes

/-! A file read through a buffered binary stream: a position and two error bits. -/
namespace ByteCodec

/-- `std::ifstream`. A file that cannot be opened leaves the stream failed and empty. -/
structure InputStream where
  bytes : Bytes
  pos : Nat
  eof : Bool
  fail : Bool
  deriving DecidableEq, Repr

namespace InputStream

def ofFile : Option Bytes → InputStream
  | some bytes => ⟨bytes, 0, false, false⟩
  | none => ⟨[], 0, false, true⟩

def good (s : InputStream) : Bool := !s.eof && !s.fail

/-- Up to `n` bytes; a shorter rest sets both bits, and a stream that is not good yields nothing. -/
def read (n : Nat) (s : InputStream) : Bytes × InputStream :=
  if s.good then
    let got := (s.bytes.drop s.pos).take n
    (got, { s with pos := s.pos + got.length, eof := got.length < n, fail := got.length < n })
  else ([], { s with fail := true })

def seekg (p : Nat) (s : InputStream) : InputStream :=
  if s.fail then { s with eof := false } else { s with eof := false, pos := p }

def peekEof (s : InputStream) : Bool × InputStream :=
  if s.good then
    if s.bytes.length ≤ s.pos then (true, { s with eof := true }) else (false, s)
  else (true, { s with fail := true })

/-- A stream without error bits at a position. -/
def placed (bytes : Bytes) (p : Nat) : InputStream := ⟨bytes, p, false, false⟩

theorem ofFile_some (bytes : Bytes) : ofFile (some bytes) = placed bytes 0 := rfl

theorem read_placed_of_le {bytes : Bytes} {p n : Nat} (room : p + n ≤ bytes.length) :
    ((placed bytes p).read n).2 = placed bytes (p + n) := by
  have whole : ((bytes.drop p).take n).length = n := by
    rw [List.length_take, List.length_drop]
    omega
  simp [read, good, placed, whole, -List.length_take]

theorem read_placed_of_lt {bytes : Bytes} {p n : Nat} (short : bytes.length < p + n)
    (inside : p ≤ bytes.length) : ((placed bytes p).read n).2.fail = true := by
  have less : ((bytes.drop p).take n).length < n := by
    rw [List.length_take, List.length_drop]
    omega
  exact decide_eq_true less

theorem seekg_placed (bytes : Bytes) (p q : Nat) : (placed bytes p).seekg q = placed bytes q := rfl

theorem peekEof_placed (bytes : Bytes) (p : Nat) :
    (placed bytes p).peekEof = if bytes.length ≤ p then (true, ⟨bytes, p, true, false⟩)
      else (false, placed bytes p) := rfl

theorem read_of_fail {s : InputStream} (failed : s.fail = true) (n : Nat) :
    (s.read n).1 = [] ∧ (s.read n).2.fail = true := by
  have bad : s.good = false := by simp [good, failed]
  simp [read, bad]

theorem seekg_of_fail {s : InputStream} (failed : s.fail = true) (p : Nat) :
    (s.seekg p).fail = true := by
  rw [seekg, if_pos failed]
  exact failed

theorem peekEof_of_fail {s : InputStream} (failed : s.fail = true) : s.peekEof.1 = true := by
  have bad : s.good = false := by simp [good, failed]
  simp [peekEof, bad]

end InputStream
end ByteCodec
