import SyncRGB.Keyboard.Sorted

/-! `SwapKey` on a sorted keymap. A key that is new to the keymap is put one place too early, or not at all behind
the last key; an empty keymap takes a key without a name. -/
namespace SyncRGB
open VectorEdit

namespace Keymap

/-- What belongs at the position of the key after the swap. -/
def swapEntry (swpKey : KeyboardLed) (keymap : Keymap) : Keymap :=
  if swpKey.name = [] then []
  else match keymap.find? fun key => key.position = swpKey.position with
    | some key => [{ key with name := swpKey.name, value := swpKey.value }]
    | none => [swpKey]

structure Swapped (swpKey : KeyboardLed) (keymap t : Keymap) : Prop where
  sorted : t.Sorted
  others : t.filter (fun key => key.position ≠ swpKey.position) =
    keymap.filter fun key => key.position ≠ swpKey.position
  here : t.filter (fun key => key.position = swpKey.position) = swapEntry swpKey keymap

/-- The position is taken or in front of all keys; without a name, the keymap has a key. -/
def SwapFits (swpKey : KeyboardLed) (keymap : Keymap) : Prop :=
  if swpKey.name = [] then keymap ≠ []
  else (∃ key ∈ keymap, key.position = swpKey.position) ∨ ∀ key ∈ keymap, swpKey.position < key.position

variable {swpKey key : KeyboardLed} {keymap front back : Keymap}

theorem swapStops_iff (swpKey key : KeyboardLed) :
    swpKey.swapStops key = true ↔ swpKey.position ≤ key.position := by
  rw [le_iff_eq_or_lt, KeyboardLed.position_eq_iff, KeyboardLed.position_lt_iff, @eq_comm _ swpKey.row key.row]
  simp [KeyboardLed.swapStops, @eq_comm _ swpKey.row key.row]

theorem swapStops_eq_false (before : key.position < swpKey.position) : swpKey.swapStops key = false := by
  rw [← Bool.not_eq_true, swapStops_iff, not_le]
  exact before

theorem swapKey_nil : swapKey swpKey [] = some [swpKey] := rfl

/-- The search went past the last key. -/
theorem swapKey_passed (some_ : keymap ≠ []) (passed : ∀ key ∈ keymap, key.position < swpKey.position) :
    swapKey swpKey keymap = some keymap := by
  have run : scan swpKey.swapStops keymap = some keymap.length :=
    scan_passed fun key member => swapStops_eq_false (passed key member)
  rw [swapKey, if_neg (List.length_pos_iff.mpr some_).ne', run, Option.bind_eq_bind, Option.bind_some,
    if_neg (lt_irrefl _)]
  rfl

/-- The search stopped at a key. -/
theorem swapKey_stopped (after : ∀ a ∈ front, a.position < swpKey.position)
    (stops : swpKey.position ≤ key.position) (back : Keymap) :
    swapKey swpKey (front ++ key :: back) =
      if swpKey.position = key.position then
        if swpKey.name = [] then some (front ++ back)
        else some (front ++ { key with name := swpKey.name, value := swpKey.value } :: back)
      else if swpKey.name = [] then some (front ++ key :: back)
      else insertAt (front ++ key :: back) (front.length - 1) swpKey := by
  have inside : front.length < (front ++ key :: back).length := by simp
  have run : scan swpKey.swapStops (front ++ key :: back) = some front.length :=
    scan_stopped (fun a member => swapStops_eq_false (after a member)) ((swapStops_iff _ _).mpr stops) back
  rw [swapKey, if_neg (Nat.ne_of_gt (Nat.zero_lt_of_lt inside)), run, Option.bind_eq_bind, Option.bind_some,
    if_pos inside, getElem?_length_append, Option.bind_eq_bind, Option.bind_some, eraseAt_length,
    set_length_append]
  simp only [KeyboardLed.position_eq_iff]
  cases front with
  | nil => rfl
  | cons a front => rfl

/-! ### The result -/

theorem swapEntry_free (free : ∀ key ∈ keymap, key.position ≠ swpKey.position) :
    swapEntry swpKey keymap = if swpKey.name = [] then [] else [swpKey] := by
  have none_ : keymap.find? (fun key => key.position = swpKey.position) = none := by
    rw [List.find?_eq_none]
    intro key member
    simp [free key member]
  rw [swapEntry, none_]

theorem swapEntry_taken (after : ∀ a ∈ front, a.position < swpKey.position)
    (taken : key.position = swpKey.position) (back : Keymap) :
    swapEntry swpKey (front ++ key :: back) =
      if swpKey.name = [] then [] else [{ key with name := swpKey.name, value := swpKey.value }] := by
  have none_ : front.find? (fun key => key.position = swpKey.position) = none := by
    rw [List.find?_eq_none]
    intro a member
    simp [(after a member).ne]
  rw [swapEntry, List.find?_append, none_, Option.none_or, List.find?_cons_of_pos (by simp [taken])]

/-- A keymap without a key at the position is right as it is when there is no name. -/
theorem swapped_self (sorted : keymap.Sorted) (free : ∀ key ∈ keymap, key.position ≠ swpKey.position)
    (unnamed : swpKey.name = []) : Swapped swpKey keymap keymap where
  sorted := sorted
  others := rfl
  here := by
    rw [swapEntry_free free, if_pos unnamed, List.filter_eq_nil_iff]
    intro key member
    simp [free key member]

/-- The keys around the position, and the right entry at it. -/
theorem swapped_around {middle entry : Keymap} (sorted : Sorted (front ++ (middle ++ back)))
    (after : ∀ a ∈ front, a.position < swpKey.position) (at_ : ∀ key ∈ middle, key.position = swpKey.position)
    (before : ∀ b ∈ back, swpKey.position < b.position)
    (right : swapEntry swpKey (front ++ (middle ++ back)) = entry)
    (one : entry.length ≤ 1) (there : ∀ key ∈ entry, key.position = swpKey.position) :
    Swapped swpKey (front ++ (middle ++ back)) (front ++ (entry ++ back)) where
  sorted := by
    have outer : Sorted (front ++ back) :=
      List.Pairwise.sublist ((List.Sublist.refl front).append (List.sublist_append_right middle back)) sorted
    match entry, one with
    | [], _ => simpa using outer
    | [key], _ =>
        have at_key := there key List.mem_cons_self
        apply outer.between
        · rwa [at_key]
        · rwa [at_key]
  others := (filter_away after there before).trans (filter_away after at_ before).symm
  here := (filter_here after there before).trans right.symm

/-- The swap succeeds and is right. -/
def Swaps (swpKey : KeyboardLed) (keymap : Keymap) : Prop :=
  ∃ t, swapKey swpKey keymap = some t ∧ Swapped swpKey keymap t

theorem swaps_nil_iff : Swaps swpKey [] ↔ swpKey.name ≠ [] := by
  have entry : swapEntry swpKey [] = if swpKey.name = [] then [] else [swpKey] :=
    swapEntry_free fun key none_ => absurd none_ List.not_mem_nil
  constructor
  · rintro ⟨t, run, swapped⟩ unnamed
    cases run
    have here := swapped.here
    rw [entry, if_pos unnamed] at here
    simp at here
  · intro named
    rw [if_neg named] at entry
    exact ⟨[swpKey], swapKey_nil, List.pairwise_singleton _ _, by simp, by simp [entry]⟩

/-- Behind the last key nothing is put. -/
theorem swaps_passed_iff (sorted : keymap.Sorted) (some_ : keymap ≠ [])
    (passed : ∀ key ∈ keymap, key.position < swpKey.position) : Swaps swpKey keymap ↔ swpKey.name = [] := by
  have free (key : KeyboardLed) (member : key ∈ keymap) : key.position ≠ swpKey.position :=
    (passed key member).ne
  constructor
  · rintro ⟨t, run, swapped⟩
    rw [swapKey_passed some_ passed] at run
    cases run
    have here := swapped.here
    rw [List.filter_eq_nil_iff.mpr fun key member => by simp [free key member], swapEntry_free free] at here
    by_contra named
    rw [if_neg named] at here
    cases here
  · intro unnamed
    exact ⟨keymap, swapKey_passed some_ passed, swapped_self sorted free unnamed⟩

theorem swaps_taken (sorted : Sorted (front ++ key :: back))
    (after : ∀ a ∈ front, a.position < swpKey.position) (taken : key.position = swpKey.position) :
    Swaps swpKey (front ++ key :: back) := by
  have before : ∀ b ∈ back, swpKey.position < b.position := taken ▸ sorted.around.2
  have at_ : ∀ other ∈ [key], other.position = swpKey.position := List.forall_mem_singleton.mpr taken
  have right := swapEntry_taken after taken back
  have run := swapKey_stopped after taken.ge back
  rw [if_pos taken.symm] at run
  by_cases unnamed : swpKey.name = []
  · rw [if_pos unnamed] at run right
    exact ⟨_, run, swapped_around sorted after at_ before right (Nat.zero_le _) (List.forall_mem_nil _)⟩
  · rw [if_neg unnamed] at run right
    exact ⟨_, run, swapped_around sorted after at_ before right (Nat.le_refl _)
      (List.forall_mem_singleton.mpr taken)⟩

/-- Where the position is free the key goes one place too far to the front. -/
theorem swaps_free_iff (sorted : Sorted (front ++ key :: back))
    (after : ∀ a ∈ front, a.position < swpKey.position) (free : swpKey.position < key.position) :
    Swaps swpKey (front ++ key :: back) ↔ swpKey.name = [] ∨ front = [] := by
  have before : ∀ b ∈ key :: back, swpKey.position < b.position :=
    List.forall_mem_cons.mpr ⟨free, fun b member => free.trans (sorted.around.2 b member)⟩
  have nobody : ∀ other ∈ front ++ key :: back, other.position ≠ swpKey.position := by
    intro other member
    rcases List.mem_append.mp member with member | member
    · exact (after other member).ne
    · exact (before other member).ne'
  have run := swapKey_stopped after free.le back
  rw [if_neg free.ne] at run
  by_cases unnamed : swpKey.name = []
  · rw [if_pos unnamed] at run
    exact iff_of_true ⟨_, run, swapped_self sorted nobody unnamed⟩ (.inl unnamed)
  · rw [if_neg unnamed] at run
    rw [or_iff_right unnamed]
    constructor
    · rintro ⟨t, done, swapped⟩
      rw [run] at done
      rcases List.eq_nil_or_concat' front with none_ | ⟨init, last, rfl⟩
      · exact none_
      · rw [List.length_append, List.length_singleton, Nat.add_sub_cancel, List.append_assoc,
          insertAt_length] at done
        cases done
        have early := swapped.sorted.around.2 last (by simp)
        exact absurd (after last (by simp)) early.not_gt
    · rintro rfl
      have right := swapEntry_free nobody
      rw [if_neg unnamed] at right
      have at_ : ∀ other ∈ ([] : Keymap), other.position = swpKey.position := List.forall_mem_nil _
      exact ⟨_, run, swapped_around sorted after at_ before right (Nat.le_refl _)
        (List.forall_mem_singleton.mpr rfl)⟩

/-- On a sorted keymap the swap is right exactly where the position is taken or in front of all keys, or where
there is nothing to put into a keymap that has keys. -/
theorem swapKey_swaps_iff {keymap : Keymap} (sorted : keymap.Sorted) (swpKey : KeyboardLed) :
    (∃ t, swapKey swpKey keymap = some t ∧ Swapped swpKey keymap t) ↔ SwapFits swpKey keymap := by
  rw [SwapFits]
  rcases sorted.split swpKey.position with passed | ⟨front, key, back, rfl, after, stops, before⟩
  · by_cases none_ : keymap = []
    · subst none_
      apply swaps_nil_iff.trans
      split <;> simp_all
    · apply (swaps_passed_iff sorted none_ passed).trans
      split
      · exact iff_of_true ‹_› none_
      · refine iff_of_false ‹_› ?_
        obtain ⟨first, member⟩ := List.exists_mem_of_ne_nil keymap none_
        rintro (⟨key, member, taken⟩ | before)
        · exact (passed key member).ne taken
        · exact (passed first member).not_gt (before first member)
  · rcases stops.eq_or_lt with taken | free
    · apply iff_of_true (swaps_taken sorted after taken.symm)
      split
      · simp
      · exact .inl ⟨key, by simp, taken.symm⟩
    · apply (swaps_free_iff sorted after free).trans
      split
      · exact iff_of_true (.inl ‹_›) (by simp)
      · rw [or_iff_right ‹_›]
        constructor
        · rintro rfl
          exact .inr (List.forall_mem_cons.mpr ⟨free, before⟩)
        · rintro (⟨other, member, taken⟩ | first)
          · rcases List.mem_append.mp member with member | member
            · exact absurd taken (after other member).ne
            · rcases List.mem_cons.mp member with rfl | member
              · exact absurd taken free.ne'
              · exact absurd taken (before other member).ne'
          · rw [List.eq_nil_iff_forall_not_mem]
            intro a member
            exact (after a member).not_gt (first a (List.mem_append_left _ member))

/-- Keys `A` and `C` with a free column between them. -/
def apart : Keymap := [⟨0, 0, 0, 0, [65], [], .swapOnly⟩, ⟨0, 0, 2, 0, [67], [], .swapOnly⟩]

/-- `C` gives way to `D`, and nothing is swapped out of the free column. -/
theorem swapKey_swaps_apart :
    (∃ t, swapKey ⟨0, 0, 2, 7, [68], [], .swapOnly⟩ apart = some t ∧
      Swapped ⟨0, 0, 2, 7, [68], [], .swapOnly⟩ apart t) ∧
    ∃ t, swapKey ⟨0, 0, 1, 0, [], [], .swapOnly⟩ apart = some t ∧
      Swapped ⟨0, 0, 1, 0, [], [], .swapOnly⟩ apart t := by
  have sorted : apart.Sorted := by decide
  constructor
  · exact (swapKey_swaps_iff sorted _).mpr (.inl ⟨⟨0, 0, 2, 0, [67], [], .swapOnly⟩, by decide, by decide⟩)
  · exact (swapKey_swaps_iff sorted _).mpr (List.cons_ne_nil _ _)

/-- `B` between `A` and `C` goes in front of `A`, and behind `C` it does not get in. -/
theorem swapKey_disorders :
    apart.Sorted ∧
    (∃ t, swapKey ⟨0, 0, 1, 0, [66], [], .swapOnly⟩ apart = some t ∧ ¬ t.Sorted) ∧
    swapKey ⟨0, 0, 3, 0, [66], [], .swapOnly⟩ apart = some apart := by
  refine ⟨by decide, ⟨_, rfl, ?_⟩, by decide⟩
  decide

end Keymap
end SyncRGB
