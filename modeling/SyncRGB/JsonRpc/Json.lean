import Mathlib.Data.Rat.Defs
import SyncRGB.ByteCodec.Bytes

/-! JSON values, the typed accesses of the JSON library with the exceptions they throw, and the errors
of a JSON-RPC method. -/
namespace SyncRGB
open ByteCodec

def ascii (s : String) : Bytes := s.toList.map fun ch => UInt8.ofNat ch.toNat

/-- `nlohmann::json`. The parser keeps non-negative, negative and fractional numbers apart; a finite
double is a rational. -/
inductive Json where
  | null
  | boolean (b : Bool)
  | unsigned (n : UInt64)
  | integer (i : Int64)
  | float (q : Rat)
  | string (s : Bytes)
  | array (xs : List Json)
  | object (fields : List (Bytes × Json))

/-- How a method fails: `CreateError` with its code and message, or a `json::type_error` with its id,
which the dispatcher turns into an internal error. -/
inductive Failure where
  | error (code : Int) (message : Bytes)
  | typeError (id : Nat)
  deriving DecidableEq, Repr

abbrev Handled := Except Failure

theorem Handled.bind_eq_ok {α β : Type} {m : Handled α} {f : α → Handled β} {b : β} :
    (m >>= f) = .ok b ↔ ∃ a, m = .ok a ∧ f a = .ok b := by
  cases m with
  | error e => exact iff_of_false (fun h => by cases h) fun ⟨a, h, _⟩ => by cases h
  | ok a => exact ⟨fun h => ⟨a, rfl, h⟩, fun ⟨_, same, h⟩ => by cases same; exact h⟩

namespace Json

def find (key : String) : Json → Option Json
  | object fields => (fields.find? fun field => field.1 = ascii key).map Prod.snd
  | _ => none

def contains (key : String) (j : Json) : Bool := (j.find key).isSome

/-- `operator[]` of a constant value; the handlers only ask for keys they have found. -/
def get (key : String) : Json → Handled Json
  | object fields => return ((object fields).find key).getD null
  | _ => throw (.typeError 305)

theorem get_of_find {key : String} {j value : Json} (found : j.find key = some value) :
    j.get key = .ok value := by
  cases j with
  | object fields => rw [get, found]; rfl
  | _ => cases found

def toBytes : Json → Handled Bytes
  | string s => .ok s
  | _ => throw (.typeError 302)

def toBool : Json → Handled Bool
  | boolean b => .ok b
  | _ => throw (.typeError 302)

/-- The number that a conversion to `unsigned int` cuts to 32 bits. -/
def toWord : Json → Handled UInt32
  | unsigned n => .ok n.toUInt32
  | integer i => .ok (UInt32.ofInt i.toInt)
  | float q => .ok (UInt32.ofInt (q.num.tdiv q.den))
  | boolean b => .ok (if b then 1 else 0)
  | _ => throw (.typeError 302)

/-- `value(key, default)` on an object. -/
def valueOf {α : Type} (key : String) (convert : Json → Handled α) (default : α) :
    Json → Handled α
  | object fields =>
      match (object fields).find key with
      | some j => convert j
      | none => .ok default
  | _ => throw (.typeError 306)

/-- The keys a method cannot do without. -/
def require (keys : List String) (message : String) (j : Json) : Handled Unit :=
  if keys.all j.contains then return () else throw (.error (-32602) (ascii message))

end Json

namespace JsonRpc

def errDeviceIndexOutOfRange : Int := -32001
def errModeIndexOutOfRange : Int := -32004
def errProfileNotFound : Int := -32005

end JsonRpc
end SyncRGB
