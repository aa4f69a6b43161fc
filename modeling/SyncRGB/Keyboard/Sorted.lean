import SyncRGB.Keyboard.Keymap

/-! Keymaps in the order of their positions. -/
namespace SyncRGB
open VectorEdit

namespace KeyboardLed

theorem toNat_succ {n : UInt8} (room : n < 255) : (n + 1).toNat = n.toNat + 1 := by
  have small : n.toNat < 255 := UInt8.lt_iff_toNat_lt.mp room
  rw [UInt8.toNat_add, UInt8.toNat_one, Nat.mod_eq_of_lt (by omega)]

theorem position_lt_iff {a b : KeyboardLed} :
    a.position < b.position ↔ a.row < b.row ∨ a.row = b.row ∧ a.col < b.col := by
  rw [position, position, Prod.Lex.toLex_lt_toLex, UInt8.lt_iff_toNat_lt, UInt8.lt_iff_toNat_lt, UInt8.toNat_inj]

theorem position_le_iff {a b : KeyboardLed} :
    a.position ≤ b.position ↔ a.row < b.row ∨ a.row = b.row ∧ a.col ≤ b.col := by
  rw [position, position, Prod.Lex.toLex_le_toLex, UInt8.lt_iff_toNat_lt, UInt8.le_iff_toNat_le, UInt8.toNat_inj]

theorem position_eq_iff {a b : KeyboardLed} : a.position = b.position ↔ a.row = b.row ∧ a.col = b.col := by
  rw [position, position, toLex_inj, Prod.mk.injEq, UInt8.toNat_inj, UInt8.toNat_inj]

end KeyboardLed

namespace Keymap

/-- Strictly, by row and then by column. -/
def Sorted (keymap : Keymap) : Prop := keymap.Pairwise fun a b => a.position < b.position

instance (keymap : Keymap) : Decidable keymap.Sorted :=
  inferInstanceAs (Decidable (keymap.Pairwise fun a b => a.position < b.position))

section
variable {front middle back : Keymap} {p : Nat ×ₗ Nat} (after : ∀ a ∈ front, a.position < p)
  (at_ : ∀ key ∈ middle, key.position = p) (before : ∀ b ∈ back, p < b.position)
include after at_ before

/-- The keys that are not at a position. -/
theorem filter_away : (front ++ (middle ++ back)).filter (fun key => key.position ≠ p) = front ++ back := by
  rw [List.filter_append, List.filter_append,
    List.filter_eq_self.mpr fun a member => decide_eq_true (after a member).ne,
    List.filter_eq_nil_iff.mpr fun key member => by simp [at_ key member],
    List.filter_eq_self.mpr fun b member => decide_eq_true (before b member).ne', List.nil_append]

/-- The keys that are at a position. -/
theorem filter_here : (front ++ (middle ++ back)).filter (fun key => key.position = p) = middle := by
  rw [List.filter_append, List.filter_append,
    List.filter_eq_nil_iff.mpr fun a member => by simp [(after a member).ne],
    List.filter_eq_self.mpr fun key member => decide_eq_true (at_ key member),
    List.filter_eq_nil_iff.mpr fun b member => by simp [(before b member).ne'], List.nil_append, List.append_nil]

end

namespace Sorted
variable {keymap front back : Keymap} {key : KeyboardLed}

theorem between (sorted : Sorted (front ++ back)) (after : ∀ a ∈ front, a.position < key.position)
    (before : ∀ b ∈ back, key.position < b.position) : Sorted (front ++ key :: back) := by
  obtain ⟨inFront, inBack, across⟩ := List.pairwise_append.mp sorted
  refine List.pairwise_append.mpr ⟨inFront, List.pairwise_cons.mpr ⟨before, inBack⟩, ?_⟩
  intro a member b behind
  rcases List.mem_cons.mp behind with rfl | behind
  · exact after a member
  · exact across a member b behind

theorem around (sorted : Sorted (front ++ key :: back)) :
    (∀ a ∈ front, a.position < key.position) ∧ ∀ b ∈ back, key.position < b.position := by
  obtain ⟨-, inBack, across⟩ := List.pairwise_append.mp sorted
  exact ⟨fun a member => across a member key List.mem_cons_self, (List.pairwise_cons.mp inBack).1⟩

/-- The keys in front of a position, and those that are not. -/
theorem split (sorted : Sorted keymap) (p : Nat ×ₗ Nat) :
    (∀ a ∈ keymap, a.position < p) ∨
      ∃ front key back, keymap = front ++ key :: back ∧ (∀ a ∈ front, a.position < p) ∧
        p ≤ key.position ∧ ∀ b ∈ back, p < b.position := by
  rcases passed_or_stopped (fun key => p ≤ key.position) keymap with passed | ⟨front, key, back, rfl, passed, stops⟩
  · exact .inl fun a member => not_le.mp (of_decide_eq_false (passed a member))
  · refine .inr ⟨front, key, back, rfl, ?_, of_decide_eq_true stops, ?_⟩
    · exact fun a member => not_le.mp (of_decide_eq_false (passed a member))
    · exact fun b member => (of_decide_eq_true stops).trans_lt (sorted.around.2 b member)

end Sorted
end Keymap
end SyncRGB
