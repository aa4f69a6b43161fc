import Mathlib.Data.List.Basic
import SyncRGB.ByteCodec.Bytes

/-! Texts in UTF-8, as a table-driven automaton accepts them. -/
namespace ByteCodec

/-- The class of each byte, then for each state and class the next state: 0 accepts, 1 rejects. -/
def utf8d : List Nat :=
  List.replicate 128 0 ++ (List.replicate 16 1 ++ List.replicate 16 9 ++ List.replicate 32 7 ++ [8, 8] ++
    List.replicate 30 2 ++ [0xA] ++ List.replicate 12 3 ++ [4, 3, 3] ++ [0xB, 6, 6, 6, 5] ++
    List.replicate 11 8 ++
    [0, 1, 2, 3, 5, 8, 7, 1, 1, 1, 4, 6, 1, 1, 1, 1] ++
    [1, 1, 1, 1, 1, 1, 1, 1, 1, 1, 1, 1, 1, 1, 1, 1] ++ [1, 0, 1, 1, 1, 1, 1, 0, 1, 0, 1, 1, 1, 1, 1, 1] ++
    [1, 2, 1, 1, 1, 1, 1, 2, 1, 2, 1, 1, 1, 1, 1, 1] ++ [1, 1, 1, 1, 1, 1, 1, 2, 1, 1, 1, 1, 1, 1, 1, 1] ++
    [1, 2, 1, 1, 1, 1, 1, 1, 1, 2, 1, 1, 1, 1, 1, 1] ++ [1, 1, 1, 1, 1, 1, 1, 3, 1, 3, 1, 1, 1, 1, 1, 1] ++
    [1, 3, 1, 1, 1, 1, 1, 3, 1, 3, 1, 1, 1, 1, 1, 1] ++ [1, 3, 1, 1, 1, 1, 1, 1, 1, 1, 1, 1, 1, 1, 1, 1])

/-- The state after one more byte. -/
def decodeUtf8 (state : Nat) (byte : UInt8) : Nat := utf8d.getD (256 + state * 16 + utf8d.getD byte.toNat 0) 1

/-- No byte is rejected, and the text ends with a whole character. -/
def acceptsFrom : Nat → Bytes → Bool
  | state, [] => state = 0
  | state, byte :: rest =>
      let state := decodeUtf8 state byte
      state ≠ 1 && acceptsFrom state rest

def isUtf8 (s : Bytes) : Bool := acceptsFrom 0 s

theorem acceptsFrom_append {state : Nat} {a : Bytes} (accepted : acceptsFrom state a = true) (b : Bytes) :
    acceptsFrom state (a ++ b) = acceptsFrom 0 b := by
  induction a generalizing state with
  | nil =>
      have start : state = 0 := of_decide_eq_true accepted
      rw [List.nil_append, start]
  | cons byte a ih =>
      rw [acceptsFrom, Bool.and_eq_true] at accepted
      rw [List.cons_append, acceptsFrom, accepted.1, Bool.true_and, ih accepted.2]

/-- Behind a text in UTF-8, it is the rest that counts. -/
theorem isUtf8_append {a : Bytes} (accepted : isUtf8 a = true) (b : Bytes) :
    isUtf8 (a ++ b) = isUtf8 b := acceptsFrom_append accepted b

theorem decodeUtf8_ascii {byte : UInt8} (plain : byte < 128) : decodeUtf8 0 byte = 0 := by
  have small : byte.toNat < 128 := UInt8.lt_iff_toNat_lt.mp plain
  have class_ : utf8d.getD byte.toNat 0 = 0 := by
    rw [List.getD_eq_getElem?_getD, utf8d, List.getElem?_append_left (by simpa using small),
      List.getElem?_replicate_of_lt small]
    rfl
  rw [decodeUtf8, class_]
  rfl

theorem isUtf8_of_ascii {s : Bytes} (plain : s.all (· < 128) = true) : isUtf8 s = true := by
  rw [isUtf8]
  induction s with
  | nil => rfl
  | cons byte s ih =>
      rw [List.all_cons, Bool.and_eq_true] at plain
      rw [acceptsFrom, decodeUtf8_ascii (of_decide_eq_true plain.1)]
      exact ih plain.2

example : isUtf8 [0x66, 0xC3, 0xBC, 0x72] = true := by decide

example : isUtf8 [0x66, 0xFC, 0x72] = false := by decide

end ByteCodec
