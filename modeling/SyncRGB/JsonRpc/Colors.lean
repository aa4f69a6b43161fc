import SyncRGB.Controller.Types
import SyncRGB.JsonRpc.Json

/-! Colors in JSON, as the handler decodes them. -/
namespace SyncRGB
open ByteCodec

/-- `ToRGBColor`. -/
def toRGBColor (r g b : UInt32) : RGBColor := b <<< 16 ||| g <<< 8 ||| r

/-- White space of the classic locale. -/
def isSpace (b : UInt8) : Bool := b = 32 || 9 ≤ b && b ≤ 13

def hexDigit (b : UInt8) : Option UInt32 :=
  if 48 ≤ b && b ≤ 57 then some (b - 48).toUInt32
  else if 65 ≤ b && b ≤ 70 then some (b - 55).toUInt32
  else if 97 ≤ b && b ≤ 102 then some (b - 87).toUInt32
  else none

def hexDigits (v : UInt32) : Bytes → UInt32
  | [] => v
  | b :: rest =>
      match hexDigit b with
      | some digit => hexDigits (16 * v + digit) rest
      | none => v

/-- `"0x"` or `"0X"` in front of the digits. -/
def dropHexPrefix : Bytes → Bytes
  | 48 :: x :: rest => if x = 120 || x = 88 then rest else 48 :: x :: rest
  | s => s

/-- `>>` of a stream with `std::hex` set into an `unsigned int`, for texts too short to overflow. No digits
give 0; nothing but white space leaves the variable as it was. -/
def readHex (uninitialized : UInt32) (s : Bytes) : UInt32 :=
  match s.dropWhile isSpace with
  | [] => uninitialized
  | 45 :: rest => - hexDigits 0 (dropHexPrefix rest)
  | 43 :: rest => hexDigits 0 (dropHexPrefix rest)
  | text => hexDigits 0 (dropHexPrefix text)

namespace JsonRpc

/-- `JSONRPCHandler::ParseColor`. Texts of another form and values of another type are black. -/
def parseColor (uninitialized : UInt32) (color : Json) : Handled RGBColor :=
  if color.contains "red" then do
    let red ← (← color.get "red").toWord
    let green ← color.valueOf "green" Json.toWord 0
    let blue ← color.valueOf "blue" Json.toWord 0
    return toRGBColor red green blue
  else match color with
    | .string (35 :: digits) => return if digits.length = 6 then readHex uninitialized digits else 0
    | .unsigned _ | .integer _ | .float _ => color.toWord
    | _ => return 0

example : parseColor 0 (.string (ascii "#102030")) = .ok 0x102030 := by decide

end JsonRpc
end SyncRGB
