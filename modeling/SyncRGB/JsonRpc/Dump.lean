import SyncRGB.ByteCodec.Utf8
import SyncRGB.JsonRpc.Handler

/-! Which values the JSON library writes out: `dump` throws at a text that is not UTF-8. -/
namespace SyncRGB
open ByteCodec

/-- A literal in ASCII. -/
theorem isUtf8_ofList {chars : List Char} (plain : (chars.all fun ch => ch.toNat < 128) = true) :
    isUtf8 (ascii (String.ofList chars)) = true := by
  apply isUtf8_of_ascii
  rw [ascii, String.toList_ofList, List.all_map, List.all_eq_true]
  intro ch mem
  have small : ch.toNat < 128 := of_decide_eq_true (List.all_eq_true.mp plain ch mem)
  apply decide_eq_true
  have byte : ch.toNat < UInt8.size := Nat.lt_trans small (by decide)
  rwa [UInt8.lt_iff_toNat_lt, UInt8.toNat_ofNat_of_lt' byte]

theorem ascii_append (s t : String) : ascii (s ++ t) = ascii s ++ ascii t := by
  rw [ascii, String.toList_append, List.map_append]
  rfl

namespace Json

mutual

/-- `dump` returns. -/
def dumps : Json → Bool
  | string s => isUtf8 s
  | array xs => dumpsAll xs
  | object fields => dumpsFields fields
  | null | boolean _ | unsigned _ | integer _ | float _ => true

def dumpsAll : List Json → Bool
  | [] => true
  | j :: rest => j.dumps && dumpsAll rest

def dumpsFields : List (Bytes × Json) → Bool
  | [] => true
  | (key, j) :: rest => isUtf8 key && j.dumps && dumpsFields rest

end

theorem dumpsAll_iff {xs : List Json} : dumpsAll xs = true ↔ ∀ j ∈ xs, j.dumps = true := by
  induction xs with
  | nil => simp [dumpsAll]
  | cons j rest ih => rw [dumpsAll, Bool.and_eq_true, ih, List.forall_mem_cons]

theorem dumpsFields_iff {fields : List (Bytes × Json)} :
    dumpsFields fields = true ↔ ∀ field ∈ fields, isUtf8 field.1 = true ∧ field.2.dumps = true := by
  induction fields with
  | nil => simp [dumpsFields]
  | cons field rest ih =>
      rw [dumpsFields, Bool.and_eq_true, Bool.and_eq_true, ih, List.forall_mem_cons]

theorem dumps_object {fields : List (Bytes × Json)} : (object fields).dumps = true ↔
    ∀ field ∈ fields, isUtf8 field.1 = true ∧ field.2.dumps = true := by
  rw [dumps, dumpsFields_iff]

theorem dumps_array (xs : List Json) : (array xs).dumps = xs.all dumps := by
  rw [Bool.eq_iff_iff, dumps, dumpsAll_iff, List.all_eq_true]

/-- With keys in ASCII, it is the values that count. -/
theorem dumps_object_of_ascii {fields : List (Bytes × Json)}
    (keys : (fields.all fun field => field.1.all (· < 128)) = true) :
    (object fields).dumps = fields.all fun field => field.2.dumps := by
  rw [Bool.eq_iff_iff, dumps_object, List.all_eq_true]
  constructor
  · intro all field mem
    exact (all field mem).2
  · intro values field mem
    exact ⟨isUtf8_of_ascii (List.all_eq_true.mp keys field mem), values field mem⟩

@[simp] theorem dumps_null : null.dumps = true := rfl
@[simp] theorem dumps_boolean (b : Bool) : (boolean b).dumps = true := rfl
@[simp] theorem dumps_ofInt32 (i : Int32) : (ofInt32 i).dumps = true := rfl
@[simp] theorem dumps_integer (i : Int64) : (integer i).dumps = true := rfl
@[simp] theorem dumps_unsigned (n : UInt64) : (unsigned n).dumps = true := rfl
@[simp] theorem dumps_string (s : Bytes) : (string s).dumps = isUtf8 s := rfl

end Json

namespace JsonRpc

/-- An error with its message in UTF-8. -/
theorem dumps_createError (code : Int) (message : Bytes) :
    (createError code message).dumps = isUtf8 message := by
  have inner : (Json.object [(ascii "code", .integer (.ofInt code)), (ascii "message", .string message)]).dumps =
      isUtf8 message := by
    rw [Json.dumps_object_of_ascii rfl]
    simp
  rw [createError, Json.dumps_object_of_ascii rfl]
  simpa using inner

end JsonRpc
end SyncRGB
