import SyncRGB.Keyboard.Layouts
import SyncRGB.Transition.Run

/-! Which edits stay inside the keymap, whatever its order. The row edits read the key behind their search without
a test, after a test against a number of rows that the edits before them may have made wrong. -/
namespace SyncRGB
open VectorEdit Transition

namespace Keymap
variable (keymap : Keymap)

theorem insertKey_isSome (insKey : KeyboardLed) : (insertKey insKey keymap).isSome := by
  rw [insertKey]
  rcases passed_or_stopped insKey.insertStops keymap with passed | ⟨front, key, back, rfl, passed, stops⟩
  · rw [scan_passed passed, Option.bind_eq_bind, Option.bind_some, if_pos rfl]
    rfl
  · have inside : front.length ≠ (front ++ key :: back).length := by simp
    rw [scan_stopped passed stops, Option.bind_eq_bind, Option.bind_some, if_neg inside, getElem?_length_append,
      Option.bind_eq_bind, Option.bind_some, insertAt_length]
    split
    · exact sweep_isSome _ _ (by simp)
    · exact sweep_isSome _ _ (by simp)

theorem swapKey_isSome (swpKey : KeyboardLed) : (swapKey swpKey keymap).isSome := by
  rw [swapKey]
  split
  · rfl
  · rcases passed_or_stopped swpKey.swapStops keymap with passed | ⟨front, key, back, rfl, passed, stops⟩
    · rw [scan_passed passed, Option.bind_eq_bind, Option.bind_some, if_neg (lt_irrefl _)]
      rfl
    · have inside : front.length < (front ++ key :: back).length := by simp
      rw [scan_stopped passed stops, Option.bind_eq_bind, Option.bind_some, if_pos inside, getElem?_length_append,
        Option.bind_eq_bind, Option.bind_some, eraseAt_length]
      have room : ∀ i ≤ front.length, (insertAt (front ++ key :: back) i swpKey).isSome := by
        intro i near
        rw [insertAt, if_pos (near.trans inside.le)]
        rfl
      split
      · split <;> rfl
      · split
        · rfl
        · split
          · exact room 0 (Nat.zero_le _)
          · exact room _ (Nat.sub_le _ _)

theorem removeKey_isSome (rmvKey : KeyboardLed) : (removeKey rmvKey keymap).isSome := by
  rw [removeKey]
  rcases passed_or_stopped rmvKey.removeStops keymap with passed | ⟨front, key, back, rfl, passed, stops⟩
  · rw [scan_passed passed, Option.bind_eq_bind, Option.bind_some, if_neg (lt_irrefl _)]
    rfl
  · have inside : front.length < (front ++ key :: back).length := by simp
    rw [scan_stopped passed stops, Option.bind_eq_bind, Option.bind_some, if_pos inside, getElem?_length_append,
      Option.bind_eq_bind, Option.bind_some, eraseAt_length]
    split
    · exact sweep_isSome _ _ (by simp)
    · exact sweep_isSome _ _ inside.le

theorem addAltName_isSome (altKey : KeyboardLed) : (addAltName altKey keymap).isSome := by
  rw [addAltName, scan_eq, Option.bind_eq_bind, Option.bind_some]
  split
  · rename_i inside
    rw [List.getElem?_eq_getElem inside]
    rfl
  · rfl

end Keymap

namespace KeyboardLayoutManager
variable {s t : KeyboardLayoutManager}

/-- A row edit in range finds a key in the row it searches for, or behind it. -/
def InsideKeymap (s : KeyboardLayoutManager) (changeKey : KeyboardLed) : Prop :=
  match changeKey.opcode with
  | .insertRow => s.rows ≤ changeKey.row ∨ ∃ key ∈ s.keymap, changeKey.row ≤ key.row
  | .removeRow => s.rows ≤ changeKey.row ∨ ∃ key ∈ s.keymap, changeKey.row < key.row
  | _ => True

theorem insertRow_isSome_iff (s : KeyboardLayoutManager) (insRow : UInt8) :
    (s.insertRow insRow).isSome ↔ s.rows ≤ insRow ∨ ∃ key ∈ s.keymap, insRow ≤ key.row := by
  rw [insertRow]
  by_cases outside : s.rows ≤ insRow
  · rw [if_pos outside]
    exact iff_of_true rfl (.inl outside)
  · rw [if_neg outside, or_iff_right outside]
    rcases passed_or_stopped (fun key => insRow ≤ key.row) s.keymap with
      passed | ⟨front, key, back, split, passed, stops⟩
    · rw [scan_passed passed, Option.bind_eq_bind, Option.bind_some, List.getElem?_eq_none (Nat.le_refl _)]
      refine iff_of_false Bool.false_ne_true ?_
      rintro ⟨key, member, row⟩
      exact of_decide_eq_false (passed key member) row
    · have here : insRow ≤ key.row := of_decide_eq_true stops
      rw [split, scan_stopped passed stops, Option.bind_eq_bind, Option.bind_some, getElem?_length_append,
        Option.bind_eq_bind, Option.bind_some, if_pos here, sweep_length]
      exact iff_of_true rfl ⟨key, by simp, here⟩

/-- The last row: nothing is left behind the keys that were removed. -/
theorem removeRow_last {rmvRow : UInt8} (inRange : rmvRow < s.rows) (last : ∀ key ∈ s.keymap, key.row ≤ rmvRow) :
    s.removeRow rmvRow = none := by
  have goes : ∀ key ∈ s.keymap, (fun key : KeyboardLed => decide (key.row ≤ rmvRow)) key = true :=
    fun key member => decide_eq_true (last key member)
  have run := eraseWhile_append (fun key : KeyboardLed => decide (rmvRow = key.row)) goes
    fun x rest none_ => absurd none_ (List.cons_ne_nil x rest).symm
  rw [List.append_nil, List.append_nil] at run
  rw [removeRow, if_neg (UInt8.not_le.mpr inRange), run, Option.bind_eq_bind, Option.bind_some]
  dsimp only
  rw [List.getElem?_eq_none (Nat.le_refl _)]
  rfl

/-- A row with keys behind it. -/
theorem removeRow_later {rmvRow : UInt8} (inRange : rmvRow < s.rows) {front back : Keymap} {key : KeyboardLed}
    (split : s.keymap = front ++ key :: back) (upTo : ∀ a ∈ front, a.row ≤ rmvRow) (beyond : rmvRow < key.row) :
    s.removeRow rmvRow = some { s with
      keymap := (front.filter fun a => !decide (rmvRow = a.row)) ++
        (key :: back).map fun b => { b with row := b.row - 1 } } := by
  have goes : ∀ a ∈ front, (fun key : KeyboardLed => decide (key.row ≤ rmvRow)) a = true :=
    fun a member => decide_eq_true (upTo a member)
  have stops : ∀ b rest, key :: back = b :: rest → (fun key : KeyboardLed => decide (key.row ≤ rmvRow)) b = false := by
    intro b rest same
    cases same
    exact decide_eq_false (UInt8.not_le.mpr beyond)
  have run := eraseWhile_append (fun key : KeyboardLed => decide (rmvRow = key.row)) goes stops
  rw [removeRow, if_neg (UInt8.not_le.mpr inRange), split, run, Option.bind_eq_bind, Option.bind_some]
  dsimp only
  rw [getElem?_length_append, Option.bind_eq_bind, Option.bind_some, if_pos beyond, sweep_length, swept_forever]
  rfl

theorem removeRow_isSome_iff (s : KeyboardLayoutManager) (rmvRow : UInt8) :
    (s.removeRow rmvRow).isSome ↔ s.rows ≤ rmvRow ∨ ∃ key ∈ s.keymap, rmvRow < key.row := by
  by_cases outside : s.rows ≤ rmvRow
  · rw [removeRow, if_pos outside]
    exact iff_of_true rfl (.inl outside)
  · have inRange := UInt8.not_le.mp outside
    rw [or_iff_right outside]
    rcases passed_or_stopped (fun key => rmvRow < key.row) s.keymap with
      passed | ⟨front, key, back, split, passed, stops⟩
    · have last (key : KeyboardLed) (member : key ∈ s.keymap) : key.row ≤ rmvRow :=
        UInt8.not_lt.mp (of_decide_eq_false (passed key member))
      rw [removeRow_last inRange last]
      refine iff_of_false Bool.false_ne_true ?_
      rintro ⟨key, member, row⟩
      exact UInt8.not_le.mpr row (last key member)
    · have beyond : rmvRow < key.row := of_decide_eq_true stops
      have upTo (a : KeyboardLed) (member : a ∈ front) : a.row ≤ rmvRow :=
        UInt8.not_lt.mp (of_decide_eq_false (passed a member))
      rw [removeRow_later inRange split upTo beyond]
      exact iff_of_true rfl ⟨key, by rw [split]; simp, beyond⟩

theorem onKeymap_isSome {change : Keymap → Option Keymap} (some_ : (change s.keymap).isSome) :
    (s.onKeymap change).isSome := by
  rwa [onKeymap, Option.isSome_map]

/-- An edit stays inside the keymap exactly if a row edit in range finds a key. -/
theorem edit_isSome_iff (s : KeyboardLayoutManager) (changeKey : KeyboardLed) :
    (s.edit changeKey).isSome ↔ s.InsideKeymap changeKey := by
  rw [edit, InsideKeymap]
  cases changeKey.opcode with
  | insertShiftRight => exact iff_of_true (onKeymap_isSome (Keymap.insertKey_isSome _ _)) trivial
  | swapOnly => exact iff_of_true (onKeymap_isSome (Keymap.swapKey_isSome _ _)) trivial
  | removeShiftLeft => exact iff_of_true (onKeymap_isSome (Keymap.removeKey_isSome _ _)) trivial
  | insShftAdjacent => exact iff_of_true rfl trivial
  | insertRow =>
      rw [← insertRow_isSome_iff]
      cases run : s.insertRow changeKey.row with
      | none => exact iff_of_false (by simp) (by simp)
      | some found =>
          obtain ⟨inserted, t⟩ := found
          refine iff_of_true ?_ rfl
          cases inserted with
          | true => exact onKeymap_isSome (Keymap.swapKey_isSome _ _)
          | false => rfl
  | removeRow => exact removeRow_isSome_iff s changeKey.row
  | addAltName => exact iff_of_true (onKeymap_isSome (Keymap.addAltName_isSome _ _)) trivial
  | missing code => exact iff_of_true rfl trivial

/-! ### Lists of edits -/

/-- Each edit of a list meets its condition when it is its turn. -/
def AllInside (changeKeys : List KeyboardLed) (s : KeyboardLayoutManager) : Prop :=
  EachTurn InsideKeymap edit changeKeys s

theorem opCodeSwitch_isSome_iff (changeKeys : List KeyboardLed) (s : KeyboardLayoutManager) :
    (s.opCodeSwitch changeKeys).isSome ↔ AllInside changeKeys s := by
  rw [AllInside, ← isSome_foldlM_iff edit_isSome_iff, opCodeSwitch]
  cases changeKeys.foldlM edit s <;> rfl

/-- Edits without row edits. -/
theorem allInside_of_keys {changeKeys : List KeyboardLed}
    (keys : ∀ changeKey ∈ changeKeys, changeKey.opcode ≠ .insertRow ∧ changeKey.opcode ≠ .removeRow)
    (s : KeyboardLayoutManager) : AllInside changeKeys s := by
  apply eachTurn_of_forall
  intro changeKey member s
  obtain ⟨noInsertion, noRemoval⟩ := keys changeKey member
  rw [InsideKeymap]
  cases code : changeKey.opcode with
  | insertRow => exact absurd code noInsertion
  | removeRow => exact absurd code noRemoval
  | _ => trivial

/-- Calls of `ChangeKeys`, one after another. -/
def changeAll (s : KeyboardLayoutManager) (calls : List (List KeyboardLed)) : Option KeyboardLayoutManager :=
  calls.foldlM (fun s changeKeys => s.opCodeSwitch changeKeys) s

/-- Each edit of each call meets its condition when it is its turn. -/
def AllCallsInside (calls : List (List KeyboardLed)) (s : KeyboardLayoutManager) : Prop :=
  EachTurn (fun s changeKeys => AllInside changeKeys s) (fun s changeKeys => s.opCodeSwitch changeKeys) calls s

theorem changeAll_isSome_iff (calls : List (List KeyboardLed)) (s : KeyboardLayoutManager) :
    (s.changeAll calls).isSome ↔ AllCallsInside calls s :=
  isSome_foldlM_iff (fun s changeKeys => opCodeSwitch_isSome_iff changeKeys s) calls s

/-! ### The constructor -/

theorem insertKeys_isSome (insKeys : List KeyboardLed) (s : KeyboardLayoutManager) :
    (s.insertKeys insKeys).isSome := by
  have inserted := isSome_foldlM (fun keymap insKey => Keymap.insertKey_isSome keymap insKey) insKeys s.keymap
  obtain ⟨keymap, run⟩ := Option.isSome_iff_exists.mp inserted
  rw [insertKeys, run]
  rfl

theorem swapKeys_isSome (swpKeys : List KeyboardLed) (s : KeyboardLayoutManager) : (s.swapKeys swpKeys).isSome := by
  have swapped := isSome_foldlM (fun keymap swpKey => Keymap.swapKey_isSome keymap swpKey) swpKeys s.keymap
  obtain ⟨keymap, run⟩ := Option.isSome_iff_exists.mp swapped
  rw [swapKeys, run]
  rfl

theorem insertZone_isSome (size bit : UInt32) (insKeys : List KeyboardLed) (s : KeyboardLayoutManager) :
    (s.insertZone size bit insKeys).isSome := by
  rw [insertZone]
  split
  · exact insertKeys_isSome insKeys s
  · rfl

/-- The regional layouts edit single keys only. -/
theorem editKeys_keys {layout : KeyboardLayout} {editKeys : List KeyboardLed}
    (edits : layout.editKeys = some editKeys) :
    ∀ changeKey ∈ editKeys, changeKey.opcode ≠ .insertRow ∧ changeKey.opcode ≠ .removeRow := by
  cases layout <;> cases edits <;> decide

theorem assemble_isSome (layout : KeyboardLayout) (size : UInt32) (values : LayoutValues) :
    (assemble layout size values).isSome := by
  obtain ⟨main, first⟩ := Option.isSome_iff_exists.mp (insertZone_isSome size keyboardZoneMainBit keyboardZoneMain new)
  obtain ⟨fnRow, second⟩ :=
    Option.isSome_iff_exists.mp (insertZone_isSome size keyboardZoneFnRowBit keyboardZoneFnRow main)
  obtain ⟨extras, third⟩ :=
    Option.isSome_iff_exists.mp (insertZone_isSome size keyboardZoneExtraBit keyboardZoneExtras fnRow)
  obtain ⟨numpad, fourth⟩ :=
    Option.isSome_iff_exists.mp (insertZone_isSome size keyboardZoneNumpadBit keyboardZoneNumpad extras)
  rw [assemble, first, Option.bind_eq_bind, Option.bind_some, second, Option.bind_some, third, Option.bind_some,
    fourth, Option.bind_some]
  have edited {editKeys : List KeyboardLed} (edits : layout.editKeys = some editKeys) (s : KeyboardLayoutManager) :
      ∃ t, s.opCodeSwitch editKeys = some t :=
    Option.isSome_iff_exists.mp
      ((opCodeSwitch_isSome_iff editKeys s).mpr (allInside_of_keys (editKeys_keys edits) s))
  cases values.regionalOverlay layout with
  | none =>
      cases edits : layout.editKeys with
      | none => rfl
      | some editKeys =>
          obtain ⟨s, run⟩ := edited edits { numpad with keymap := setValues values.defaultValues numpad.keymap }
          dsimp only
          rw [run]
          rfl
  | some swpKeys =>
      cases edits : layout.editKeys with
      | none => exact swapKeys_isSome swpKeys _
      | some editKeys =>
          obtain ⟨s, run⟩ := edited edits { numpad with keymap := setValues values.defaultValues numpad.keymap }
          dsimp only
          rw [run, Option.bind_some]
          exact swapKeys_isSome swpKeys s

theorem fixSize_isSome_iff (size : UInt32) (s : KeyboardLayoutManager) :
    (s.fixSize size).isSome ↔ (size = keyboardSizeSixty → s.rows = 0 ∨ ∃ key ∈ s.keymap, 0 < key.row) := by
  rw [fixSize]
  by_cases sixty : size = keyboardSizeSixty
  · rw [if_pos sixty, forall_prop_of_true sixty, ← UInt8.le_zero_iff, ← removeRow_isSome_iff]
    cases s.removeRow 0 with
    | none => rfl
    | some t => exact iff_of_true (onKeymap_isSome (Keymap.swapKey_isSome _ _)) rfl
  · rw [if_neg sixty]
    exact iff_of_true rfl fun same => absurd same sixty

theorem construct_isSome_iff {layout : KeyboardLayout} {size : UInt32} {values : LayoutValues}
    {s : KeyboardLayoutManager} (assembled : assemble layout size values = some s) :
    (construct layout size values).isSome ↔
      (size = keyboardSizeSixty → s.rows = 0 ∨ ∃ key ∈ s.keymap, 0 < key.row) := by
  rw [construct]
  by_cases empty : size = keyboardSizeEmpty
  · rw [if_pos empty]
    refine iff_of_true rfl ?_
    rintro rfl
    exact absurd empty (by decide)
  · rw [if_neg empty, assembled, ← fixSize_isSome_iff, Option.bind_eq_bind, Option.bind_some]
    cases s.fixSize size <;> rfl

/-- From any keymap and any numbers of rows and columns, calls of `ChangeKeys` stay inside the keymap exactly if
every row edit whose row is in range finds a key there or behind it when it is its turn, whatever the keymap and the
numbers are by then; the constructor does so exactly if what it assembles for a sixty percent keyboard has a key below
the function row. -/
theorem accesses_inside_iff (s : KeyboardLayoutManager) (calls : List (List KeyboardLed)) (layout : KeyboardLayout)
    (size : UInt32) (values : LayoutValues) :
    ((s.changeAll calls).isSome ↔ AllCallsInside calls s) ∧
    ∃ t, assemble layout size values = some t ∧
      ((construct layout size values).isSome ↔
        (size = keyboardSizeSixty → t.rows = 0 ∨ ∃ key ∈ t.keymap, 0 < key.row)) := by
  obtain ⟨t, assembled⟩ := Option.isSome_iff_exists.mp (assemble_isSome layout size values)
  exact ⟨changeAll_isSome_iff calls s, t, assembled, construct_isSome_iff assembled⟩

/-- On an empty keyboard one key is placed. Then its row, the last one, is removed; or it is taken away again and a
row inserted where the number of rows still tells of it. -/
theorem last_row_outside :
    ∃ s, construct .default keyboardSizeEmpty ⟨[], fun _ => none⟩ = some s ∧
      s.changeAll [[⟨0, 0, 0, 0, [65], [], .swapOnly⟩], [⟨0, 0, 0, 0, [], [], .removeRow⟩]] = none ∧
      s.changeAll [[⟨0, 0, 0, 0, [65], [], .swapOnly⟩],
        [⟨0, 0, 0, 0, [], [], .swapOnly⟩, ⟨0, 0, 0, 0, [66], [], .insertRow⟩]] = none :=
  ⟨_, rfl, rfl, rfl⟩

end KeyboardLayoutManager
end SyncRGB
