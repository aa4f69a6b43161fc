import SyncRGB.JsonRpc.ResponseLaw

/-! What a JSON value says as a number, next to what its conversion to 32 bits makes of it. -/
namespace SyncRGB
namespace Json

/-- The integer that a number is. -/
def exactInt (j : Json) : Option Int := j.number.bind fun q => if q.den = 1 then some q.num else none

/-- The values that the conversion takes: numbers, and booleans too. -/
def isArithmetic : Json → Bool
  | unsigned _ | integer _ | float _ | boolean _ => true
  | _ => false

theorem exactInt_eq_some_iff {j : Json} {i : Int} : j.exactInt = some i ↔ j.number = some (i : Rat) := by
  rw [exactInt, Option.bind_eq_some_iff]
  constructor
  · rintro ⟨q, number, whole⟩
    split at whole
    · rename_i one
      cases whole
      rw [number, Rat.coe_int_num_of_den_eq_one one]
    · cases whole
  · intro number
    exact ⟨i, number, if_pos (Rat.den_intCast i)⟩

theorem toWord_of_exactInt {j : Json} {i : Int} (exact_ : j.exactInt = some i) : j.toWord = .ok (UInt32.ofInt i) :=
  JsonRpc.toWord_of_number (exactInt_eq_some_iff.mp exact_)

/-- The conversion throws for the other values. -/
theorem toWord_cases (j : Json) :
    (j.isArithmetic = true ∧ ∃ w, j.toWord = .ok w) ∨ (j.isArithmetic = false ∧ ∃ e, j.toWord = .error e) := by
  cases j with
  | unsigned n => exact .inl ⟨rfl, _, rfl⟩
  | integer i => exact .inl ⟨rfl, _, rfl⟩
  | float q => exact .inl ⟨rfl, _, rfl⟩
  | boolean b => exact .inl ⟨rfl, _, rfl⟩
  | _ => exact .inr ⟨rfl, _, rfl⟩

end Json

theorem ofInt_toNat {i : Int} (low : 0 ≤ i) (high : i < 2 ^ 32) : (UInt32.ofInt i).toNat = i.toNat := by
  simp only [UInt32.ofInt, UInt32.toNat_ofNat']
  omega

end SyncRGB
