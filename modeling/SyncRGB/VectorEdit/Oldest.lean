import Mathlib.Data.Finset.Max
import Mathlib.Data.List.Sort

/-! The first elements of a finite set in an order, and how many of the set come after them. -/
namespace VectorEdit

variable {α : Type} [LinearOrder α]

/-- The elements after one. -/
def later (s : Finset α) (a : α) : Finset α := s.filter (a < ·)

/-- The elements before one. -/
def earlier (s : Finset α) (a : α) : Finset α := s.filter (· < a)

theorem mem_later {s : Finset α} {a b : α} : b ∈ later s a ↔ b ∈ s ∧ a < b := Finset.mem_filter

theorem later_subset {s t : Finset α} (sub : s ⊆ t) (a : α) : later s a ⊆ later t a :=
  Finset.filter_subset_filter _ sub

variable [DecidableEq α]

/-- A part of a set that comes before all the rest of it. -/
structure Oldest (files oldest : Finset α) : Prop where
  sub : oldest ⊆ files
  before : ∀ a ∈ oldest, ∀ b ∈ files, b ∉ oldest → a < b

namespace Oldest

variable {files oldest : Finset α}

theorem rest_subset (old : Oldest files oldest) {a : α} (member : a ∈ oldest) : files \ oldest ⊆ later files a := by
  intro b rest
  obtain ⟨inside, outside⟩ := Finset.mem_sdiff.mp rest
  exact mem_later.mpr ⟨inside, old.before a member b inside outside⟩

/-- After the last of the part there is exactly the rest. -/
theorem later_max (old : Oldest files oldest) (nonempty : oldest.Nonempty) :
    later files (oldest.max' nonempty) = files \ oldest := by
  ext b
  rw [mem_later, Finset.mem_sdiff]
  constructor
  · rintro ⟨inside, after⟩
    exact ⟨inside, fun member => (oldest.le_max' b member).not_gt after⟩
  · rintro ⟨inside, outside⟩
    exact ⟨inside, old.before _ (oldest.max'_mem nonempty) b inside outside⟩

/-- All of the part comes before an element if so many do. -/
theorem before_iff (old : Oldest files oldest) (today : α) :
    (∀ a ∈ oldest, a < today) ↔ oldest.card ≤ (earlier files today).card := by
  constructor
  · intro all
    refine Finset.card_le_card fun a member => ?_
    exact Finset.mem_filter.mpr ⟨old.sub member, all a member⟩
  · intro many a member
    by_contra late
    have inside : earlier files today ⊆ oldest.erase a := by
      intro b early
      obtain ⟨file, early⟩ := Finset.mem_filter.mp early
      have less : b < a := early.trans_le (not_lt.mp late)
      refine Finset.mem_erase.mpr ⟨less.ne, ?_⟩
      by_contra outside
      exact (old.before a member b file outside).not_gt less
    have fewer := Finset.card_le_card inside
    rw [Finset.card_erase_of_mem member] at fewer
    have one := Finset.card_pos.mpr ⟨a, member⟩
    omega

/-- Each of the part has many elements after it, one that is added counted, if the rest are so many or the one that is
added makes them so. -/
theorem overtaken_iff (old : Oldest files oldest) (today : α) (m : ℕ) :
    (∀ a ∈ oldest, m ≤ (later (insert today files) a).card) ↔
      oldest = ∅ ∨ m ≤ (files \ oldest).card ∨
        m ≤ (files \ oldest).card + 1 ∧ today ∉ files ∧ oldest.card ≤ (earlier files today).card := by
  constructor
  · intro overtaken
    obtain rfl | nonempty := oldest.eq_empty_or_nonempty
    · exact .inl rfl
    right
    have last := overtaken _ (oldest.max'_mem nonempty)
    by_cases present : today ∈ files
    · rw [Finset.insert_eq_of_mem present, old.later_max nonempty] at last
      exact .inl last
    · by_cases after : oldest.max' nonempty < today
      · right
        rw [later, Finset.filter_insert, if_pos after] at last
        have bound := last.trans (Finset.card_insert_le _ _)
        rw [← later, old.later_max nonempty] at bound
        refine ⟨bound, present, (old.before_iff today).mp fun a member => ?_⟩
        exact (oldest.le_max' a member).trans_lt after
      · rw [later, Finset.filter_insert, if_neg after, ← later, old.later_max nonempty] at last
        exact .inl last
  · rintro (rfl | many | ⟨many, absent, early⟩) a member
    · exact absurd member (Finset.notMem_empty a)
    · refine many.trans (Finset.card_le_card ?_)
      exact (old.rest_subset member).trans (later_subset (Finset.subset_insert _ _) a)
    · have outside : today ∉ files \ oldest := fun rest => absent (Finset.mem_sdiff.mp rest).1
      rw [← Finset.card_insert_of_notMem outside] at many
      refine many.trans (Finset.card_le_card (Finset.insert_subset ?_ ?_))
      · exact mem_later.mpr ⟨Finset.mem_insert_self _ _, (old.before_iff today).mpr early a member⟩
      · exact (old.rest_subset member).trans (later_subset (Finset.subset_insert _ _) a)

/-- The first elements of a sorted list. -/
theorem of_take (paths : List α) (k : ℕ) :
    Oldest paths.toFinset ((paths.insertionSort (· ≤ ·)).take k).toFinset := by
  have perm := List.perm_insertionSort (· ≤ ·) paths
  refine ⟨?_, ?_⟩
  · intro a member
    rw [List.mem_toFinset] at member ⊢
    exact perm.mem_iff.mp (List.mem_of_mem_take member)
  · intro a member b file outside
    rw [List.mem_toFinset] at member file outside
    have sorted := List.pairwise_insertionSort (· ≤ ·) paths
    have rest : b ∈ (paths.insertionSort (· ≤ ·)).drop k := by
      have all := perm.mem_iff.mpr file
      rw [← List.take_append_drop k (paths.insertionSort (· ≤ ·)), List.mem_append] at all
      exact all.resolve_left outside
    rw [← List.take_append_drop k (paths.insertionSort (· ≤ ·)), List.pairwise_append] at sorted
    refine lt_of_le_of_ne (sorted.2.2 a member b rest) ?_
    rintro rfl
    exact outside member

end Oldest
end VectorEdit
