import Mathlib.Data.List.Basic

/-! Stores into a buffer that fail where they lie outside of it. -/
namespace VectorEdit
variable {α : Type}

def storeAt (i : Nat) (x : α) (xs : List α) : Option (List α) := if i < xs.length then some (xs.set i x) else none

section
variable {i j k : Nat} {front : List α}

theorem storeAt_append (at_ : i = front.length) (x old : α) (back : List α) :
    storeAt i x (front ++ old :: back) = some (front ++ x :: back) := by
  have inside : i < (front ++ old :: back).length := by
    rw [at_, List.length_append, List.length_cons]
    omega
  rw [storeAt, if_pos inside, at_, List.set_append_right _ _ (Nat.le_refl _), Nat.sub_self]
  rfl

/-- Three stores in a row. -/
theorem storeAt_three (first : i = front.length) (second : j = front.length + 1) (third : k = front.length + 2)
    (a b c x y z : α) (back : List α) {β : Type} (rest : List α → Option β) :
    (do
        let xs ← storeAt i a (front ++ x :: y :: z :: back)
        let xs ← storeAt j b xs
        let xs ← storeAt k c xs
        rest xs) = rest (front ++ [a, b, c] ++ back) := by
  have one : j = (front ++ [a]).length := by rw [List.length_append, List.length_singleton, second]
  have two : k = (front ++ [a] ++ [b]).length := by
    rw [List.length_append, List.length_append, List.length_singleton, List.length_singleton, third]
  rw [storeAt_append first, Option.bind_eq_bind, Option.bind_some, List.append_cons, storeAt_append one,
    Option.bind_some, List.append_cons, storeAt_append two, Option.bind_some]
  congr 1
  simp only [List.append_assoc, List.cons_append, List.nil_append]

theorem storeAt_eq_some_iff {x : α} {xs ys : List α} : storeAt i x xs = some ys ↔ i < xs.length ∧ ys = xs.set i x := by
  unfold storeAt
  split
  · rename_i inside
    exact ⟨fun same => ⟨inside, (Option.some.inj same).symm⟩, fun both => congrArg some both.2.symm⟩
  · rename_i outside
    exact iff_of_false nofun fun both => outside both.1

end
end VectorEdit
