import Mathlib.Data.List.Infix

/-! Searches for a text in another one, by position. `none` stands for `npos`. -/
namespace VectorEdit
variable {α : Type} [DecidableEq α]

/-- `s.find(t)`. -/
def find (t s : List α) : Option Nat := (List.range (s.length + 1)).find? fun i => t <+: s.drop i

/-- `s.rfind(t)`. -/
def rfind (t s : List α) : Option Nat := (List.range (s.length + 1)).reverse.find? fun i => t <+: s.drop i

theorem find_eq_zero_iff {t s : List α} : find t s = some 0 ↔ t <+: s := by
  rw [find, List.range_succ_eq_map, List.find?_cons]
  by_cases starts : t <+: s.drop 0
  · rw [decide_eq_true starts]
    exact iff_of_true rfl starts
  · rw [decide_eq_false starts]
    refine iff_of_false ?_ starts
    intro found
    obtain ⟨i, -, zero⟩ := List.mem_map.mp (List.mem_of_find?_eq_some found)
    exact Nat.succ_ne_zero i zero

theorem find_isSome_iff {t s : List α} : (find t s).isSome ↔ t <:+: s := by
  rw [find, List.find?_isSome, List.infix_iff_prefix_suffix]
  constructor
  · rintro ⟨i, -, starts⟩
    exact ⟨s.drop i, of_decide_eq_true starts, List.drop_suffix i s⟩
  · rintro ⟨rest, starts, suffix⟩
    refine ⟨s.length - rest.length, List.mem_range.mpr (by omega), decide_eq_true ?_⟩
    rwa [← List.suffix_iff_eq_drop.mp suffix]

/-- The last place is looked for first. -/
theorem rfind_cons (t : List α) (x : α) (s : List α) :
    rfind t (x :: s) = ((rfind t s).map fun i => i + 1).or (if t <+: x :: s then some 0 else none) := by
  rw [rfind, rfind, List.length_cons, List.range_succ_eq_map, List.reverse_cons, ← List.map_reverse,
    List.find?_append, List.find?_map]
  congr 1
  rw [List.find?_singleton, List.drop_zero]
  by_cases starts : t <+: x :: s
  · rw [if_pos starts, if_pos (decide_eq_true starts)]
  · rw [if_neg starts, if_neg (by rwa [decide_eq_true_eq])]

end VectorEdit
