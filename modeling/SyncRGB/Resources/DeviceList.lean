import SyncRGB.VectorEdit.Positions

/-! `ResourceManager::UpdateDeviceList`: the master list is rebuilt in place from the hardware list,
and the changes are collected for the WebSocket clients. -/
namespace SyncRGB
open VectorEdit
variable {Ptr : Type} [DecidableEq Ptr]

/-- The changes that one rebuild reports: `deviceConnected` for each new controller at its index, then
`deviceDisconnected` for each index to be erased. -/
structure Deltas (Ptr : Type) where
  added : List (Nat × Ptr)
  removed : List Nat
deriving DecidableEq, Repr

namespace UpdateDeviceList

/-- The turn of the hardware controller at index `i`: it is in place, moved there, or inserted and
reported. -/
def place (list : List Ptr) (i : Nat) (x : Ptr) : Option (List Ptr × List (Nat × Ptr)) :=
  if list[i]? = some x then some (list, [])
  else
    match list.findIdx? (· = x) with
    | some j => ((eraseAt list j).bind fun rest => insertAt rest i x).map fun moved => (moved, [])
    | none => (insertAt list i x).map fun inserted => (inserted, [(i, x)])

/-- The first loop, from hardware index `i` on. -/
def placeAll : List Ptr → Nat → List Ptr → Option (List Ptr × List (Nat × Ptr))
  | [], _, list => some (list, [])
  | x :: hw, i, list => do
      let (placed, new) ← place list i x
      let (all, later) ← placeAll hw (i + 1) placed
      return (all, new ++ later)

/-- The controllers that are not in the hardware list, with their indices. -/
def stale (hw list : List Ptr) : List (Ptr × Nat) := list.zipIdx.filter fun e => e.1 ∉ hw

/-- The third loop: each stale controller is looked up again and erased. -/
def eraseStale (stale : List Ptr) (list : List Ptr) : List Ptr := stale.foldl List.erase list

end UpdateDeviceList

open UpdateDeviceList

/-- `ResourceManager::UpdateDeviceList` on the hardware list and the master list; `none` when an
insert or erase position is outside of the master list. -/
def updateDeviceList (hw list : List Ptr) : Option (List Ptr × Deltas Ptr) := do
  let (placed, added) ← placeAll hw 0 list
  let gone := stale hw placed
  return (eraseStale (gone.map Prod.fst) placed, ⟨added, gone.map Prod.snd⟩)

namespace UpdateDeviceList

theorem findIdx?_of_not_mem {list : List Ptr} {x : Ptr} (absent : x ∉ list) :
    list.findIdx? (· = x) = none := by
  rw [List.findIdx?_eq_none_iff]
  intro y member
  exact decide_eq_false fun same => absent (same ▸ member)

theorem place_eq (front rest : List Ptr) {x : Ptr} (new : x ∉ front) :
    place (front ++ rest) front.length x =
      some (front ++ x :: rest.erase x, if x ∈ rest then [] else [(front.length, x)]) := by
  have first : (front ++ rest)[front.length]? = rest.head? := by
    rw [List.getElem?_append_right (Nat.le_refl _), Nat.sub_self, List.head?_eq_getElem?]
  unfold place
  rw [first]
  split
  case isTrue here =>
    obtain ⟨more, rfl⟩ := List.head?_eq_some_iff.mp here
    simp
  case isFalse elsewhere =>
    rw [List.findIdx?_append, findIdx?_of_not_mem new, Option.none_or]
    by_cases listed : x ∈ rest
    · obtain ⟨before, after, notBefore, rfl, erased⟩ := List.exists_erase_eq listed
      have found : (before ++ x :: after).findIdx? (· = x) = some before.length := by
        simp [List.findIdx?_append, findIdx?_of_not_mem notBefore, List.findIdx?_cons]
      have position : before.length + front.length = (front ++ before).length := by
        rw [List.length_append, Nat.add_comm]
      simp only [found, Option.map_some, position, ← List.append_assoc, eraseAt_length,
        Option.bind_some]
      rw [List.append_assoc, insertAt_length, erased, if_pos listed]
      rfl
    · simp only [findIdx?_of_not_mem listed, Option.map_none, insertAt_length, Option.map_some, if_neg listed,
        List.erase_of_not_mem listed]

/-- The whole first loop: hardware controllers that are not listed yet are reported. -/
theorem placeAll_eq (hw front rest : List Ptr) (distinct : (front ++ hw).Nodup) :
    placeAll hw front.length (front ++ rest) =
      some (front ++ hw ++ rest.diff hw,
        ((hw.zipIdx front.length).filter fun e => e.1 ∉ rest).map Prod.swap) := by
  induction hw generalizing front rest with
  | nil => simp [placeAll]
  | cons x hw ih =>
      have new : x ∉ front := by
        intro member
        exact (List.nodup_append.mp distinct).2.2 x member x List.mem_cons_self rfl
      have shape : front ++ x :: hw = (front ++ [x]) ++ hw := by simp
      have later := ih (front ++ [x]) (rest.erase x) (by rw [← shape]; exact distinct)
      have behind : ∀ y ∈ hw, y ≠ x := by
        have distinct := (List.nodup_append.mp distinct).2.1
        rintro y member rfl
        exact (List.nodup_cons.mp distinct).1 member
      have same : (hw.zipIdx (front.length + 1)).filter (fun e => e.1 ∉ rest.erase x) =
          (hw.zipIdx (front.length + 1)).filter fun e => e.1 ∉ rest := by
        apply List.filter_congr
        rintro ⟨y, i⟩ member
        have listed := List.mem_erase_of_ne (l := rest) (behind y (List.fst_mem_of_mem_zipIdx member))
        simp only [listed]
      rw [List.append_assoc, List.length_append, List.length_singleton] at later
      simp only [placeAll, place_eq front rest new, Option.bind_eq_bind, Option.bind_some,
        List.singleton_append] at later ⊢
      rw [later]
      simp only [Option.bind_some, Option.pure_def, Option.some.injEq, Prod.mk.injEq, same,
        List.zipIdx_cons, List.filter_cons, List.diff_cons]
      refine ⟨by simp, ?_⟩
      by_cases listed : x ∈ rest <;> simp [listed]

theorem stale_append (hw rest : List Ptr) (apart : ∀ x ∈ rest, x ∉ hw) :
    stale hw (hw ++ rest) = rest.zipIdx hw.length := by
  have kept : hw.zipIdx.filter (fun e => e.1 ∉ hw) = [] := by
    rw [List.filter_eq_nil_iff]
    rintro ⟨x, i⟩ member
    simpa using List.fst_mem_of_mem_zipIdx member
  have gone : (rest.zipIdx hw.length).filter (fun e => e.1 ∉ hw) = rest.zipIdx hw.length := by
    rw [List.filter_eq_self]
    rintro ⟨x, i⟩ member
    simpa using apart x (List.fst_mem_of_mem_zipIdx member)
  rw [stale, List.zipIdx_append, List.filter_append, kept, Nat.zero_add, gone, List.nil_append]

theorem eraseStale_append (front rest : List Ptr) (apart : ∀ x ∈ rest, x ∉ front) :
    eraseStale rest (front ++ rest) = front := by
  induction rest with
  | nil => simp [eraseStale]
  | cons x rest ih =>
      have first : (front ++ x :: rest).erase x = front ++ rest := by
        rw [List.erase_append_right _ (apart x List.mem_cons_self), List.erase_cons_head]
      have later := ih fun y member => apart y (List.mem_cons_of_mem _ member)
      rw [eraseStale, List.foldl_cons, first]
      exact later

/-- What a rebuild reports when the lists are free of duplicates: the controllers not listed before,
and every position behind the hardware list. -/
def deltas (hw list : List Ptr) : Deltas Ptr where
  added := (hw.zipIdx.filter fun e => e.1 ∉ list).map Prod.swap
  removed := List.range' hw.length (list.diff hw).length

/-- Only the hardware controllers are left, in their order. -/
theorem updateDeviceList_eq {hw list : List Ptr} (distinct : hw.Nodup) (unique : list.Nodup) :
    updateDeviceList hw list = some (hw, deltas hw list) := by
  have apart : ∀ x ∈ list.diff hw, x ∉ hw := by
    intro x member
    exact (unique.mem_sdiff_iff.mp member).2
  have placed := placeAll_eq hw [] list (by simpa using distinct)
  simp only [List.nil_append, List.length_nil] at placed
  rw [updateDeviceList, placed]
  simp only [Option.bind_eq_bind, Option.bind_some, Option.pure_def, stale_append hw _ apart,
    List.zipIdx_map_fst, List.zipIdx_map_snd, eraseStale_append hw _ apart, deltas]

end UpdateDeviceList

/-- After a rebuild the hardware controllers come first, in their order, no controller is listed twice,
and no position on the way was outside of the list. -/
theorem updateDeviceList_hardware {hw list : List Ptr} (distinct : hw.Nodup) (unique : list.Nodup) :
    ∃ after deltas, updateDeviceList hw list = some (after, deltas) ∧ after.take hw.length = hw ∧
      after.Nodup :=
  ⟨hw, _, updateDeviceList_eq distinct unique, List.take_length, distinct⟩

/-- Two hardware controllers swap places, and a third one is new. -/
theorem updateDeviceList_swapped :
    ∃ after deltas, updateDeviceList [1, 2, 3] [5, 2, 1] = some (after, deltas) ∧
      after.take 3 = [1, 2, 3] ∧ after.Nodup :=
  updateDeviceList_hardware (by decide) (by decide)

end SyncRGB
