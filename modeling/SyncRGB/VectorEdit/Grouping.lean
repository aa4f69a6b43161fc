import Mathlib.Order.Lattice.Nat
import Mathlib.Logic.Relation
import Mathlib.Data.List.Basic

/-! Elements put one by one into the first group with a related element, or into a group of their own. The groups are
those of the elements from which the relation leads down to the same earliest element. -/
namespace VectorEdit
open Relation
variable {α β : Type}

def place (rel : α → α → Bool) (x : α) : List (List α) → List (List α)
  | [] => [[x]]
  | g :: gs => if g.any (rel x) then (g ++ [x]) :: gs else g :: place rel x gs

def groups (rel : α → α → Bool) (xs : List α) : List (List α) := xs.foldl (fun gs x => place rel x gs) []

variable {rel : α → α → Bool}

theorem groups_concat (xs : List α) (x : α) : groups rel (xs ++ [x]) = place rel x (groups rel xs) := by
  rw [groups, List.foldl_append]
  rfl

/-- What a new element does to the groups. -/
theorem place_cases (rel : α → α → Bool) (x : α) (gs : List (List α)) :
    ((∀ g ∈ gs, g.any (rel x) = false) ∧ place rel x gs = gs ++ [[x]]) ∨
    ∃ front g back, gs = front ++ g :: back ∧ (∀ f ∈ front, f.any (rel x) = false) ∧ g.any (rel x) = true ∧
      place rel x gs = front ++ (g ++ [x]) :: back := by
  induction gs with
  | nil => exact .inl ⟨fun g mem => absurd mem List.not_mem_nil, rfl⟩
  | cons g gs ih =>
      rw [place]
      cases related : g.any (rel x) with
      | true => exact .inr ⟨[], g, gs, rfl, fun f mem => absurd mem List.not_mem_nil, related, rfl⟩
      | false =>
          rw [if_neg Bool.false_ne_true]
          rcases ih with ⟨none_, placed⟩ | ⟨front, g', back, rfl, none_, here, placed⟩
          · exact .inl ⟨List.forall_mem_cons.mpr ⟨related, none_⟩, by rw [placed]; rfl⟩
          · exact .inr ⟨g :: front, g', back, rfl, List.forall_mem_cons.mpr ⟨related, none_⟩, here, by rw [placed]; rfl⟩

theorem flatten_place (x : α) (gs : List (List α)) : (place rel x gs).flatten.Perm (x :: gs.flatten) := by
  rcases place_cases rel x gs with ⟨-, placed⟩ | ⟨front, g, back, rfl, -, -, placed⟩
  · rw [placed, List.flatten_append, List.flatten_singleton]
    exact List.perm_append_singleton x _
  · rw [placed, List.flatten_append, List.flatten_append, List.flatten_cons, List.flatten_cons, List.append_assoc g,
      List.singleton_append, ← List.append_assoc, ← List.append_assoc]
    exact List.perm_middle

theorem place_map (f : β → α) (y : β) (gs : List (List β)) :
    place rel (f y) (gs.map (List.map f)) = (place (fun a b => rel (f a) (f b)) y gs).map (List.map f) := by
  induction gs with
  | nil => rfl
  | cons g gs ih =>
      have related : (g.map f).any (rel (f y)) = g.any fun b => rel (f y) (f b) := List.any_map
      rw [List.map_cons, place, place, related, ih]
      split
      · rw [List.map_cons, List.map_append]
        rfl
      · rfl

/-- The groups of images are the images of the groups. -/
theorem groups_map (f : β → α) (ys : List β) :
    groups rel (ys.map f) = (groups (fun a b => rel (f a) (f b)) ys).map (List.map f) := by
  induction ys using List.reverseRecOn with
  | nil => rfl
  | append_singleton ys y ih => rw [List.map_append, List.map_singleton, groups_concat, groups_concat, ih, place_map]

/-! ### Numbers in order -/

section
variable (r : Nat → Nat → Bool)

/-- A chain of related elements leads down from one to the other. -/
def Leads : Nat → Nat → Prop := ReflTransGen fun i j => j < i ∧ r i j = true

/-- The least element to which a chain leads. -/
noncomputable def earliest (i : Nat) : Nat := sInf {f | Leads r i f}

variable {r} {i j n : Nat}

theorem leads_earliest (i : Nat) : Leads r i (earliest r i) := Nat.sInf_mem (s := {f | Leads r i f}) ⟨i, .refl⟩

theorem earliest_le {f : Nat} (leads : Leads r i f) : earliest r i ≤ f := Nat.sInf_le leads

theorem earliest_le_self (i : Nat) : earliest r i ≤ i := earliest_le .refl

theorem earliest_le_of_related (before : j < i) (related : r i j = true) : earliest r i ≤ earliest r j :=
  earliest_le (.head ⟨before, related⟩ (leads_earliest j))

/-- An element leads to itself only, or to what one of those before it leads to. -/
theorem earliest_cases (i : Nat) :
    (earliest r i = i ∧ ∀ j < i, r i j = false) ∨ ∃ j < i, r i j = true ∧ earliest r i = earliest r j := by
  rcases ReflTransGen.cases_head (leads_earliest (r := r) i) with same | ⟨j, ⟨before, related⟩, leads⟩
  · refine .inl ⟨same.symm, ?_⟩
    intro j before
    by_contra related
    have lower := earliest_le_of_related before (Bool.eq_true_of_not_eq_false related)
    have below := earliest_le_self (r := r) j
    omega
  · exact .inr ⟨j, before, related, (earliest_le_of_related before related).antisymm (earliest_le leads)⟩

/-- The groups of the numbers below a bound: each has one earliest element, and that of a later group is greater. -/
structure Grouped (r : Nat → Nat → Bool) (n : Nat) (gs : List (List Nat)) : Prop where
  members : gs.flatten.Perm (List.range n)
  same : ∀ g ∈ gs, ∀ i ∈ g, ∀ j ∈ g, earliest r i = earliest r j
  order : gs.Pairwise fun g h => ∀ i ∈ g, ∀ j ∈ h, earliest r i < earliest r j

namespace Grouped
variable {gs front back : List (List Nat)} {g : List Nat}

theorem mem_iff (grouped : Grouped r n gs) : i ∈ gs.flatten ↔ i < n := by
  rw [grouped.members.mem_iff, List.mem_range]

theorem lt (grouped : Grouped r n gs) (mem : g ∈ gs) (inside : i ∈ g) : i < n :=
  grouped.mem_iff.mp (List.mem_flatten.mpr ⟨g, mem, inside⟩)

/-- A number that is related to none before it is its own earliest one. -/
theorem earliest_alone (grouped : Grouped r n gs) (none_ : ∀ g ∈ gs, g.any (r n) = false) : earliest r n = n := by
  rcases earliest_cases (r := r) n with ⟨own, -⟩ | ⟨j, before, related, -⟩
  · exact own
  · obtain ⟨g, mem, inside⟩ := List.mem_flatten.mp (grouped.mem_iff.mpr before)
    exact absurd related (List.any_eq_false.mp (none_ g mem) j inside)

/-- A number has the same earliest one as the first group with a related number. -/
theorem earliest_joined (grouped : Grouped r n (front ++ g :: back)) (none_ : ∀ f ∈ front, f.any (r n) = false)
    (some_ : g.any (r n) = true) (inside : i ∈ g) : earliest r n = earliest r i := by
  have mem : g ∈ front ++ g :: back := List.mem_append_right front List.mem_cons_self
  obtain ⟨j, here, related⟩ := List.any_eq_true.mp some_
  have before := grouped.lt mem here
  have lower := earliest_le_of_related before related
  rcases earliest_cases (r := r) n with ⟨-, alone⟩ | ⟨k, earlier, linked, same⟩
  · rw [alone j before] at related
    cases related
  · obtain ⟨h, member, there⟩ := List.mem_flatten.mp (grouped.mem_iff.mpr earlier)
    rw [grouped.same g mem i inside j here, same]
    rcases List.mem_append.mp member with first | member
    · exact absurd linked (List.any_eq_false.mp (none_ h first) k there)
    · rcases List.mem_cons.mp member with rfl | later
      · exact grouped.same h mem k there j here
      · have behind := (List.pairwise_cons.mp (List.pairwise_append.mp grouped.order).2.1).1 h later j here k there
        omega

/-- One number more. -/
theorem place (grouped : Grouped r n gs) : Grouped r (n + 1) (place r n gs) := by
  have members : (VectorEdit.place r n gs).flatten.Perm (List.range (n + 1)) := by
    rw [List.range_succ]
    exact (flatten_place n gs).trans ((grouped.members.cons n).trans (List.perm_append_singleton n _).symm)
  rcases place_cases r n gs with ⟨none_, placed⟩ | ⟨front, g, back, rfl, none_, some_, placed⟩
  · have alone := grouped.earliest_alone none_
    refine ⟨members, ?_, ?_⟩
    · rw [placed]
      intro g mem i first j second
      rcases List.mem_append.mp mem with old | new
      · exact grouped.same g old i first j second
      · rw [List.mem_singleton.mp new, List.mem_singleton] at first second
        rw [first, second]
    · rw [placed]
      refine List.pairwise_append.mpr ⟨grouped.order, List.pairwise_singleton _ _, ?_⟩
      intro g mem h new i first j second
      rw [List.mem_singleton.mp new, List.mem_singleton] at second
      rw [second, alone]
      exact (earliest_le_self i).trans_lt (grouped.lt mem first)
  · have joined {i : Nat} (inside : i ∈ g) : earliest r n = earliest r i :=
      grouped.earliest_joined none_ some_ inside
    have mem : g ∈ front ++ g :: back := List.mem_append_right front List.mem_cons_self
    obtain ⟨k, here, -⟩ := List.any_eq_true.mp some_
    have all {i : Nat} (inside : i ∈ g ++ [n]) : earliest r i = earliest r k := by
      rcases List.mem_append.mp inside with old | new
      · exact grouped.same g mem i old k here
      · rw [List.mem_singleton.mp new, joined here]
    obtain ⟨ordered, rest, across⟩ := List.pairwise_append.mp grouped.order
    obtain ⟨behind, last⟩ := List.pairwise_cons.mp rest
    refine ⟨members, ?_, ?_⟩
    · rw [placed]
      intro h member i first j second
      rcases List.mem_append.mp member with before | member
      · exact grouped.same h (List.mem_append_left _ before) i first j second
      · rcases List.mem_cons.mp member with rfl | after
        · rw [all first, all second]
        · exact grouped.same h (List.mem_append_right _ (List.mem_cons_of_mem g after)) i first j second
    · rw [placed]
      refine List.pairwise_append.mpr ⟨ordered, List.pairwise_cons.mpr ⟨?_, last⟩, ?_⟩
      · intro h after i first j second
        rw [all first]
        exact behind h after k here j second
      · intro f before h member i first j second
        rcases List.mem_cons.mp member with rfl | after
        · rw [all second]
          exact across f before g List.mem_cons_self i first k here
        · exact across f before h (List.mem_cons_of_mem g after) i first j second

/-- Groups with the same earliest number are the same. -/
theorem position {h : List Nat} {k l : Nat} (grouped : Grouped r n gs) (atK : gs[k]? = some g)
    (atL : gs[l]? = some h) (first : i ∈ g) (second : j ∈ h) (equal : earliest r i = earliest r j) : k = l := by
  have order := List.pairwise_iff_getElem.mp grouped.order
  obtain ⟨insideK, isK⟩ := List.getElem?_eq_some_iff.mp atK
  obtain ⟨insideL, isL⟩ := List.getElem?_eq_some_iff.mp atL
  subst isK isL
  rcases Nat.lt_trichotomy k l with less | same | greater
  · exact absurd equal (order k l insideK insideL less i first j second).ne
  · exact same
  · exact absurd equal (order l k insideL insideK greater j second i first).ne'

theorem exists_group (grouped : Grouped r n gs) (below : i < n) :
    ∃ (k : Nat) (g : List Nat), gs[k]? = some g ∧ i ∈ g := by
  obtain ⟨g, mem, here⟩ := List.mem_flatten.mp (grouped.mem_iff.mpr below)
  obtain ⟨k, atK⟩ := List.mem_iff_getElem?.mp mem
  exact ⟨k, g, atK, here⟩

/-- Two numbers are in one group exactly if they have the same earliest one. -/
theorem together_iff (grouped : Grouped r n gs) (first : i < n) (second : j < n) :
    (∃ g ∈ gs, i ∈ g ∧ j ∈ g) ↔ earliest r i = earliest r j := by
  constructor
  · rintro ⟨g, mem, here, there⟩
    exact grouped.same g mem i here j there
  · intro equal
    obtain ⟨k, g, atK, here⟩ := grouped.exists_group first
    obtain ⟨l, h, atL, there⟩ := grouped.exists_group second
    have same := grouped.position atK atL here there equal
    rw [same, atL] at atK
    cases atK
    exact ⟨g, List.mem_of_getElem? atL, here, there⟩

end Grouped

theorem grouped_range (n : Nat) : Grouped r n (groups r (List.range n)) := by
  induction n with
  | zero => exact ⟨.refl _, fun g mem => absurd mem List.not_mem_nil, .nil⟩
  | succ n ih =>
      rw [List.range_succ, groups_concat]
      exact ih.place

end
end VectorEdit
