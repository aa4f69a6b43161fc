import SyncRGB.Keyboard.IndexSafety
import SyncRGB.Keyboard.Sorted

/-! The edits that shift keys, on a sorted keymap in which no shift leaves the range of a row or a column. -/
namespace SyncRGB
open VectorEdit

namespace KeyboardLed

/-- What `RemoveKey` does to the keys that stay. -/
def shiftLeft (rmvKey key : KeyboardLed) : KeyboardLed :=
  if key.row = rmvKey.row ∧ rmvKey.col < key.col then { key with col := key.col - 1 } else key

/-- What `InsertRow` does to every key. -/
def shiftDown (insRow : UInt8) (key : KeyboardLed) : KeyboardLed :=
  if insRow ≤ key.row then { key with row := key.row + 1 } else key

/-- What `RemoveRow` does to the keys that stay. -/
def shiftUp (rmvRow : UInt8) (key : KeyboardLed) : KeyboardLed :=
  if rmvRow < key.row then { key with row := key.row - 1 } else key

variable {insKey rmvKey a b : KeyboardLed}

@[simp] theorem shiftRight_row (insKey a : KeyboardLed) : (insKey.shiftRight a).row = a.row := by
  rw [shiftRight]
  split <;> rfl

/-- A key in front of the inserted one stays. -/
theorem shiftRight_before (before : a.position < insKey.position) : insKey.shiftRight a = a := by
  apply if_neg
  rintro ⟨row, col⟩
  exact before.not_ge (position_le_iff.mpr (.inr ⟨row.symm, col⟩))

theorem shiftLeft_before (before : a.position ≤ rmvKey.position) : rmvKey.shiftLeft a = a := by
  apply if_neg
  rintro ⟨row, col⟩
  exact before.not_gt (position_lt_iff.mpr (.inr ⟨row.symm, col⟩))

/-- Shifts keep the order. -/
theorem shiftRight_lt (room : ∀ key ∈ [a, b], key.row = insKey.row → insKey.col ≤ key.col → key.col < 255)
    (before : a.position < b.position) : (insKey.shiftRight a).position < (insKey.shiftRight b).position := by
  have roomA := room a (by simp)
  have roomB := room b (by simp)
  rw [position_lt_iff] at before ⊢
  rw [shiftRight_row, shiftRight_row]
  rcases before with row | ⟨row, col⟩
  · exact .inl row
  · refine .inr ⟨row, ?_⟩
    rw [UInt8.lt_iff_toNat_lt] at col ⊢
    rw [shiftRight, shiftRight]
    split
    · rename_i inA
      have inB : b.row = insKey.row ∧ insKey.col ≤ b.col :=
        ⟨row.symm.trans inA.1, UInt8.le_iff_toNat_le.mpr ((UInt8.le_iff_toNat_le.mp inA.2).trans col.le)⟩
      rw [if_pos inB, toNat_succ (roomA inA.1 inA.2), toNat_succ (roomB inB.1 inB.2)]
      omega
    · split
      · rename_i inB
        rw [toNat_succ (roomB inB.1 inB.2)]
        omega
      · exact col

/-- The inserted key comes before the keys that have made way. -/
theorem lt_shiftRight (room : a.row = insKey.row → insKey.col ≤ a.col → a.col < 255)
    (after : insKey.position ≤ a.position) : insKey.position < (insKey.shiftRight a).position := by
  rw [position_lt_iff, shiftRight_row]
  rcases position_le_iff.mp after with row | ⟨row, col⟩
  · exact .inl row
  · refine .inr ⟨row, ?_⟩
    rw [shiftRight, if_pos ⟨row.symm, col⟩, UInt8.lt_iff_toNat_lt, toNat_succ (room row.symm col)]
    have := UInt8.le_iff_toNat_le.mp col
    omega

/-- Removing the inserted key moves the others back. -/
theorem shiftLeft_shiftRight (room : a.row = insKey.row → insKey.col ≤ a.col → a.col < 255)
    (after : insKey.position ≤ a.position) : insKey.shiftLeft (insKey.shiftRight a) = a := by
  have behind := lt_shiftRight room after
  rw [shiftLeft]
  by_cases inRow : a.row = insKey.row ∧ insKey.col ≤ a.col
  · rw [if_pos]
    · rw [shiftRight, if_pos inRow]
      simp
    · rw [shiftRight_row]
      refine ⟨inRow.1, ?_⟩
      rcases position_lt_iff.mp behind with row | ⟨-, col⟩
      · rw [shiftRight_row, inRow.1] at row
        exact absurd row (UInt8.lt_irrefl _)
      · exact col
  · rw [shiftRight, if_neg inRow, if_neg]
    rintro ⟨row, col⟩
    exact inRow ⟨row, UInt8.le_of_lt col⟩

end KeyboardLed

namespace Keymap
open KeyboardLed
variable {insKey rmvKey key : KeyboardLed} {keymap front back : Keymap}

/-! ### InsertKey -/

theorem insertStops_iff (insKey key : KeyboardLed) :
    insKey.insertStops key = true ↔ insKey.position ≤ key.position := by
  rw [position_le_iff]
  simp [insertStops]

theorem insertStops_eq_false (before : key.position < insKey.position) : insKey.insertStops key = false := by
  rw [← Bool.not_eq_true, insertStops_iff, not_le]
  exact before

/-- The sweep ends behind the row, where nothing is left to shift. -/
theorem swept_shiftRight (sorted : keymap.Sorted) :
    swept insKey.shiftRight (fun key => insKey.row < key.row) keymap = keymap.map insKey.shiftRight := by
  apply swept_eq_map
  apply List.Pairwise.imp _ sorted
  intro a b before beyond
  have behind : insKey.row < a.row := by simpa using beyond
  apply if_neg
  rintro ⟨row, -⟩
  rcases position_lt_iff.mp before with later | ⟨same, -⟩
  · exact absurd (UInt8.lt_trans behind later) (row ▸ UInt8.lt_irrefl _)
  · exact absurd behind (same.trans row ▸ UInt8.lt_irrefl _)

theorem insertKey_passed (passed : ∀ key ∈ keymap, key.position < insKey.position) :
    insertKey insKey keymap = some (keymap ++ [insKey]) := by
  have run : scan insKey.insertStops keymap = some keymap.length :=
    scan_passed fun key member => insertStops_eq_false (passed key member)
  rw [insertKey, run, Option.bind_eq_bind, Option.bind_some, if_pos rfl]
  rfl

theorem insertKey_stopped (sorted : Sorted (front ++ key :: back)) (named : insKey.name ≠ [])
    (after : ∀ a ∈ front, a.position < insKey.position) (stops : insKey.position ≤ key.position) :
    insertKey insKey (front ++ key :: back) = some (front ++ insKey :: (key :: back).map insKey.shiftRight) := by
  have run : scan insKey.insertStops (front ++ key :: back) = some front.length :=
    scan_stopped (fun a member => insertStops_eq_false (after a member)) ((insertStops_iff _ _).mpr stops) back
  have inside : front.length ≠ (front ++ key :: back).length := by simp
  have later : Sorted (key :: back) := (List.pairwise_append.mp sorted).2.1
  have shifted := sweep_length insKey.shiftRight (fun key => insKey.row < key.row) (front ++ [insKey]) (key :: back)
  rw [swept_shiftRight later, List.length_append, List.length_singleton, List.append_assoc, List.append_assoc]
    at shifted
  rw [insertKey, run, Option.bind_eq_bind, Option.bind_some, if_neg inside, getElem?_length_append,
    Option.bind_eq_bind, Option.bind_some, if_neg named, insertAt_length]
  exact shifted

/-- The inserted key between the keys in front of it and those that have made way. -/
theorem insertKey_eq (sorted : keymap.Sorted) (named : insKey.name ≠ []) :
    ∃ front back, keymap = front ++ back ∧ (∀ a ∈ front, a.position < insKey.position) ∧
      (∀ b ∈ back, insKey.position ≤ b.position) ∧
      insertKey insKey keymap = some (front ++ insKey :: back.map insKey.shiftRight) := by
  rcases sorted.split insKey.position with passed | ⟨front, key, back, rfl, after, stops, before⟩
  · exact ⟨keymap, [], (List.append_nil _).symm, passed, List.forall_mem_nil _, insertKey_passed passed⟩
  · refine ⟨front, key :: back, rfl, after, ?_, insertKey_stopped sorted named after stops⟩
    exact List.forall_mem_cons.mpr ⟨stops, fun b member => (before b member).le⟩

/-! ### RemoveKey -/

theorem removeStops_iff (rmvKey key : KeyboardLed) :
    rmvKey.removeStops key = true ↔ rmvKey.row = key.row ∧ rmvKey.col ≤ key.col := by
  rw [UInt8.le_iff_lt_or_eq]
  simp only [removeStops, Bool.or_eq_true, Bool.and_eq_true, decide_eq_true_eq]
  tauto

/-- Keys that the search has passed neither go nor move. -/
theorem unmoved (passed : ∀ key ∈ keymap, rmvKey.removeStops key = false) :
    (keymap.filter fun key => key.position ≠ rmvKey.position) = keymap ∧
      keymap.map rmvKey.shiftLeft = keymap := by
  have past {key : KeyboardLed} (member : key ∈ keymap) : ¬ (rmvKey.row = key.row ∧ rmvKey.col ≤ key.col) := by
    rw [← removeStops_iff, passed key member]
    exact Bool.false_ne_true
  constructor
  · rw [List.filter_eq_self]
    intro key member
    rw [decide_eq_true_eq, ne_eq, position_eq_iff]
    rintro ⟨row, col⟩
    exact past member ⟨row.symm, UInt8.le_of_eq col.symm⟩
  · have same (key : KeyboardLed) (member : key ∈ keymap) : rmvKey.shiftLeft key = key := by
      apply if_neg
      rintro ⟨row, col⟩
      exact past member ⟨row.symm, UInt8.le_of_lt col⟩
    rw [List.map_congr_left same, List.map_id']

/-- The sweep of `RemoveKey` over keys to the right of the key, or in later rows. -/
theorem swept_shiftLeft (sorted : keymap.Sorted) (behind : ∀ key ∈ keymap, rmvKey.position < key.position) :
    swept (fun key => if rmvKey.row = key.row then { key with col := key.col - 1 } else key)
      (fun key => rmvKey.row ≠ key.row) keymap = keymap.map rmvKey.shiftLeft := by
  have later {a : KeyboardLed} (member : a ∈ keymap) (other : rmvKey.row ≠ a.row) : rmvKey.row < a.row := by
    rcases position_lt_iff.mp (behind a member) with row | ⟨row, -⟩
    · exact row
    · exact absurd row other
  have stays : keymap.Pairwise fun a b => rmvKey.row ≠ a.row → rmvKey.row ≠ b.row := by
    refine List.Pairwise.imp_of_mem ?_ sorted
    intro a b memberA _ before other same
    rcases position_lt_iff.mp before with row | ⟨row, -⟩
    · exact absurd (UInt8.lt_trans (later memberA other) row) (same ▸ UInt8.lt_irrefl _)
    · exact other (same.trans row.symm)
  rw [swept_eq_map]
  · apply List.map_congr_left
    intro key member
    rw [shiftLeft]
    by_cases row : rmvKey.row = key.row
    · have right : rmvKey.col < key.col := by
        rcases position_lt_iff.mp (behind key member) with other | ⟨-, col⟩
        · exact absurd other (row ▸ UInt8.lt_irrefl _)
        · exact col
      rw [if_pos row, if_pos ⟨row.symm, right⟩]
    · rw [if_neg row, if_neg fun inRow => row inRow.1.symm]
  · apply stays.imp
    intro a b keeps stopped
    apply if_neg
    apply keeps
    by_cases row : rmvKey.row = a.row
    · simp [row] at stopped
    · exact row

/-- The key goes, and the keys to the right of it move up. -/
theorem removeKey_eq (sorted : keymap.Sorted) (rmvKey : KeyboardLed) :
    removeKey rmvKey keymap =
      some ((keymap.filter fun key => key.position ≠ rmvKey.position).map rmvKey.shiftLeft) := by
  rcases passed_or_stopped rmvKey.removeStops keymap with passed | ⟨front, key, back, rfl, passed, stops⟩
  · obtain ⟨stay, still⟩ := unmoved passed
    rw [stay, still, removeKey, scan_passed passed, Option.bind_eq_bind, Option.bind_some, if_neg (lt_irrefl _)]
    rfl
  · obtain ⟨stay, still⟩ := unmoved passed
    have inside : front.length < (front ++ key :: back).length := by simp
    have later : Sorted (key :: back) := (List.pairwise_append.mp sorted).2.1
    have behind := (List.pairwise_cons.mp later).1
    obtain ⟨row, col⟩ := (removeStops_iff _ _).mp stops
    rw [removeKey, scan_stopped passed stops, Option.bind_eq_bind, Option.bind_some, if_pos inside,
      getElem?_length_append, Option.bind_eq_bind, Option.bind_some, eraseAt_length, List.filter_append, stay,
      List.map_append, still]
    by_cases same : rmvKey.col = key.col
    · have at_ : key.position = rmvKey.position := position_eq_iff.mpr ⟨row.symm, same.symm⟩
      have rest : (key :: back).filter (fun other => other.position ≠ rmvKey.position) = back := by
        rw [List.filter_cons_of_neg (by simp [at_]), List.filter_eq_self]
        intro b member
        exact decide_eq_true (at_ ▸ (behind b member).ne')
      rw [if_pos ⟨row, same⟩, rest]
      refine (sweep_length _ _ front back).trans ?_
      rw [swept_shiftLeft later.of_cons fun b member => at_ ▸ behind b member]
    · have before : rmvKey.position < key.position :=
        position_lt_iff.mpr (.inr ⟨row, UInt8.lt_of_le_of_ne col same⟩)
      have all : ∀ b ∈ key :: back, rmvKey.position < b.position :=
        List.forall_mem_cons.mpr ⟨before, fun b member => before.trans (behind b member)⟩
      have rest : (key :: back).filter (fun other => other.position ≠ rmvKey.position) = key :: back :=
        List.filter_eq_self.mpr fun b member => decide_eq_true (all b member).ne'
      rw [if_neg fun both => same both.2, rest]
      refine (sweep_length _ _ front (key :: back)).trans ?_
      rw [swept_shiftLeft later all]

/-- Removing what was inserted. -/
theorem removeKey_insertKey (sorted : keymap.Sorted) (named : insKey.name ≠ [])
    (room : ∀ key ∈ keymap, key.row = insKey.row → insKey.col ≤ key.col → key.col < 255) :
    ∃ t, insertKey insKey keymap = some t ∧ t.Sorted ∧ t.Perm (insKey :: keymap.map insKey.shiftRight) ∧
      removeKey insKey t = some keymap := by
  obtain ⟨front, back, rfl, after, before, run⟩ := insertKey_eq sorted named
  obtain ⟨inFront, inBack, across⟩ := List.pairwise_append.mp sorted
  have roomBack (b : KeyboardLed) (member : b ∈ back) := room b (List.mem_append_right _ member)
  have still : front.map insKey.shiftRight = front := by
    rw [List.map_congr_left fun a member => shiftRight_before (after a member), List.map_id']
  have behind : ∀ b ∈ back.map insKey.shiftRight, insKey.position < b.position :=
    List.forall_mem_map.mpr fun b member => lt_shiftRight (roomBack b member) (before b member)
  have sortedBack : Sorted (back.map insKey.shiftRight) := by
    refine List.pairwise_map.mpr (List.Pairwise.imp_of_mem ?_ inBack)
    intro a b memberA memberB
    apply shiftRight_lt
    simp only [List.forall_mem_cons]
    exact ⟨roomBack a memberA, roomBack b memberB, List.forall_mem_nil _⟩
  have sortedAll : Sorted (front ++ insKey :: back.map insKey.shiftRight) := by
    refine List.pairwise_append.mpr ⟨inFront, List.pairwise_cons.mpr ⟨behind, sortedBack⟩, ?_⟩
    intro a memberA b memberB
    rcases List.mem_cons.mp memberB with rfl | memberB
    · exact after a memberA
    · exact (after a memberA).trans (behind b memberB)
  refine ⟨_, run, sortedAll, ?_, ?_⟩
  · rw [List.map_append, still]
    exact List.perm_middle
  · have at_ : ∀ key ∈ [insKey], key.position = insKey.position := List.forall_mem_singleton.mpr rfl
    have away := filter_away after at_ behind
    have stays : front.map insKey.shiftLeft = front.map id :=
      List.map_congr_left fun a member => shiftLeft_before (after a member).le
    have back_ : back.map (insKey.shiftLeft ∘ insKey.shiftRight) = back.map id :=
      List.map_congr_left fun b member => shiftLeft_shiftRight (roomBack b member) (before b member)
    rw [List.singleton_append] at away
    rw [removeKey_eq sortedAll, away, List.map_append, List.map_map, stays, back_, List.map_id, List.map_id]

end Keymap

namespace KeyboardLayoutManager
open KeyboardLed Keymap
variable {s : KeyboardLayoutManager}

/-! ### Rows -/

theorem row_le_of_lt {a b : KeyboardLed} (before : a.position < b.position) : a.row ≤ b.row := by
  rcases position_lt_iff.mp before with row | ⟨row, -⟩
  · exact UInt8.le_of_lt row
  · exact UInt8.le_of_eq row

theorem insertRow_eq (sorted : s.keymap.Sorted) {insRow : UInt8} (inRange : insRow < s.rows)
    (later : ∃ key ∈ s.keymap, insRow ≤ key.row) :
    s.insertRow insRow = some (true, { s with keymap := s.keymap.map (shiftDown insRow) }) := by
  rcases passed_or_stopped (fun key => insRow ≤ key.row) s.keymap with passed | ⟨front, key, back, split, passed, stops⟩
  · obtain ⟨key, member, row⟩ := later
    exact absurd row (of_decide_eq_false (passed key member))
  · have run := scan_stopped passed stops back
    have here : insRow ≤ key.row := of_decide_eq_true stops
    rw [split] at sorted
    have down :
        (key :: back).map (fun key => { key with row := key.row + 1 }) = (key :: back).map (shiftDown insRow) := by
      apply List.map_congr_left
      refine List.forall_mem_cons.mpr ⟨(if_pos here).symm, fun b member => (if_pos ?_).symm⟩
      exact UInt8.le_trans here (row_le_of_lt (sorted.around.2 b member))
    have still : front.map (shiftDown insRow) = front.map id :=
      List.map_congr_left fun a member => if_neg (of_decide_eq_false (passed a member))
    have swept_ := sweep_length (fun key => { key with row := key.row + 1 }) (fun _ => false) front (key :: back)
    rw [swept_forever, down] at swept_
    rw [insertRow, if_neg (UInt8.not_le.mpr inRange), split, run, Option.bind_eq_bind, Option.bind_some,
      getElem?_length_append, Option.bind_eq_bind, Option.bind_some, if_pos here, swept_, List.map_append, still,
      List.map_id]
    rfl

/-- The row is removed as it should be only if another one follows: behind the last one the vector is read outside. -/
theorem removeRow_eq_iff (sorted : s.keymap.Sorted) {rmvRow : UInt8} (inRange : rmvRow < s.rows) :
    s.removeRow rmvRow =
        some { s with keymap := (s.keymap.filter fun key => key.row ≠ rmvRow).map (shiftUp rmvRow) } ↔
      ∃ key ∈ s.keymap, rmvRow < key.row := by
  constructor
  · intro run
    have inside : (s.removeRow rmvRow).isSome := run ▸ rfl
    exact ((removeRow_isSome_iff s rmvRow).mp inside).resolve_left (UInt8.not_le.mpr inRange)
  · rintro ⟨later, member, row⟩
    rcases passed_or_stopped (fun key => rmvRow < key.row) s.keymap with
      passed | ⟨front, key, back, split, passed, stops⟩
    · exact absurd row (of_decide_eq_false (passed later member))
    · have beyond : rmvRow < key.row := of_decide_eq_true stops
      have upTo (a : KeyboardLed) (member : a ∈ front) : a.row ≤ rmvRow :=
        UInt8.not_lt.mp (of_decide_eq_false (passed a member))
      rw [split] at sorted
      have behind : ∀ b ∈ key :: back, rmvRow < b.row :=
        List.forall_mem_cons.mpr
          ⟨beyond, fun b member => UInt8.lt_of_lt_of_le beyond (row_le_of_lt (sorted.around.2 b member))⟩
      have stay : (key :: back).filter (fun b => b.row ≠ rmvRow) = key :: back :=
        List.filter_eq_self.mpr fun b member => decide_eq_true fun same =>
          UInt8.lt_irrefl _ (same ▸ behind b member)
      have up : (key :: back).map (fun b => { b with row := b.row - 1 }) = (key :: back).map (shiftUp rmvRow) :=
        List.map_congr_left fun b member => (if_pos (behind b member)).symm
      have still : (front.filter fun a => a.row ≠ rmvRow).map (shiftUp rmvRow) =
          front.filter fun a => !decide (rmvRow = a.row) := by
        have fixed (a : KeyboardLed) (member : a ∈ front.filter fun a => a.row ≠ rmvRow) : shiftUp rmvRow a = a :=
          if_neg (UInt8.not_lt.mpr (upTo a (List.mem_of_mem_filter member)))
        rw [List.map_congr_left fixed, List.map_id']
        exact List.filter_congr fun a _ => by simp [eq_comm]
      rw [removeRow_later inRange split upTo beyond, split, List.filter_append, stay, List.map_append, still, up]

/-- The edits that shift keys, on a sorted keymap: `InsertKey`, and `RemoveKey` of the same key after it; `RemoveKey`;
`InsertRow`; and `RemoveRow`, which does its work except on the last row. -/
theorem shifts_iff (sorted : s.keymap.Sorted) :
    (∀ insKey : KeyboardLed, insKey.name ≠ [] →
      (∀ key ∈ s.keymap, key.row = insKey.row → insKey.col ≤ key.col → key.col < 255) →
      ∃ t, insertKey insKey s.keymap = some t ∧ t.Sorted ∧ t.Perm (insKey :: s.keymap.map insKey.shiftRight) ∧
        removeKey insKey t = some s.keymap) ∧
    (∀ rmvKey : KeyboardLed, removeKey rmvKey s.keymap =
      some ((s.keymap.filter fun key => key.position ≠ rmvKey.position).map rmvKey.shiftLeft)) ∧
    (∀ insRow < s.rows, (∃ key ∈ s.keymap, insRow ≤ key.row) →
      s.insertRow insRow = some (true, { s with keymap := s.keymap.map (shiftDown insRow) })) ∧
    ∀ rmvRow < s.rows, (∃ key ∈ s.keymap, rmvRow ≤ key.row) →
      (s.removeRow rmvRow =
          some { s with keymap := (s.keymap.filter fun key => key.row ≠ rmvRow).map (shiftUp rmvRow) } ↔
        ∃ key ∈ s.keymap, rmvRow < key.row) :=
  ⟨fun _ named room => removeKey_insertKey sorted named room, removeKey_eq sorted,
    fun _ inRange later => insertRow_eq sorted inRange later, fun _ inRange _ => removeRow_eq_iff sorted inRange⟩

/-- Two keys in a row, and the row in front of them. -/
theorem shifts_two_keys :
    ∃ t, insertKey ⟨0, 1, 1, 7, [67], [], .insertShiftRight⟩
        [⟨0, 1, 0, 5, [65], [], .swapOnly⟩, ⟨0, 1, 1, 6, [66], [], .swapOnly⟩] = some t ∧
      t.Sorted ∧
      removeKey ⟨0, 1, 1, 7, [67], [], .insertShiftRight⟩ t =
        some [⟨0, 1, 0, 5, [65], [], .swapOnly⟩, ⟨0, 1, 1, 6, [66], [], .swapOnly⟩] ∧
      removeRow 0 ⟨2, 2, [⟨0, 1, 0, 5, [65], [], .swapOnly⟩, ⟨0, 1, 1, 6, [66], [], .swapOnly⟩]⟩ =
        some ⟨2, 2, [⟨0, 0, 0, 5, [65], [], .swapOnly⟩, ⟨0, 0, 1, 6, [66], [], .swapOnly⟩]⟩ :=
  have sorted : Sorted [⟨0, 1, 0, 5, [65], [], .swapOnly⟩, ⟨0, 1, 1, 6, [66], [], .swapOnly⟩] := by decide
  have all := shifts_iff (s := ⟨2, 2, [⟨0, 1, 0, 5, [65], [], .swapOnly⟩, ⟨0, 1, 1, 6, [66], [], .swapOnly⟩]⟩) sorted
  have ⟨t, run, sorted, _, back⟩ := all.1 ⟨0, 1, 1, 7, [67], [], .insertShiftRight⟩ (by decide) (by decide)
  ⟨t, run, sorted, back, (all.2.2.2 0 (by decide) (by decide)).mpr (by decide)⟩

/-- A keyboard of one key is asked to remove its row. -/
theorem removeRow_of_last :
    ∃ s : KeyboardLayoutManager, s.keymap.Sorted ∧ s.updateDimensions = s ∧ 0 < s.rows ∧
      (∃ key ∈ s.keymap, 0 ≤ key.row) ∧ s.removeRow 0 = none :=
  ⟨⟨1, 1, [⟨0, 0, 0, 5, [65], [], .swapOnly⟩]⟩, by decide, rfl, by decide, by decide, rfl⟩

end KeyboardLayoutManager
end SyncRGB
