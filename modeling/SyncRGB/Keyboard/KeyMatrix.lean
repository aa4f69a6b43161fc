import Mathlib.Data.List.Perm.Subperm
import SyncRGB.Keyboard.Sorted
import SyncRGB.VectorEdit.RowMajor

/-! The matrix that `GetKeyMap` makes of a keymap, for a device's zone. -/
namespace SyncRGB
open ByteCodec VectorEdit

inductive KeyboardMapFillType where
  | count
  | index
  | value
  | missing (code : UInt32)

def keyEnUnused : Bytes := []

/-- The `-1` of a cell without a key. -/
def noKey : UInt32 := 0xFFFFFFFF

namespace KeyboardLed

def isAt (row col : Nat) (key : KeyboardLed) : Prop := key.row.toNat = row ∧ key.col.toNat = col

instance (row col : Nat) (key : KeyboardLed) : Decidable (key.isAt row col) :=
  inferInstanceAs (Decidable (_ ∧ _))

/-- What `GetKeyMap` stores for a key. -/
def mapStore (fillType : KeyboardMapFillType) (width : Nat) (key : KeyboardLed) (i : Nat) : Nat × UInt32 :=
  let offset := cell width key.row.toNat key.col.toNat
  match fillType with
  | .count => (offset, UInt32.ofNat i)
  | .value => (offset, key.value)
  | .index | .missing _ => (offset, UInt32.ofNat offset)

theorem mapStore_fst (fillType : KeyboardMapFillType) (width : Nat) (key : KeyboardLed) (i : Nat) :
    (key.mapStore fillType width i).1 = cell width key.row.toNat key.col.toNat := by
  cases fillType <;> rfl

theorem position_eq_of_isAt {row col : Nat} {a b : KeyboardLed} (here : a.isAt row col) (there : b.isAt row col) :
    a.position = b.position := by
  rw [position, position, here.1, here.2, there.1, there.2]

end KeyboardLed

namespace KeyboardLayoutManager

def mapHeight (height : UInt8) (s : KeyboardLayoutManager) : Nat := (max height s.rows).toNat
def mapWidth (width : UInt8) (s : KeyboardLayoutManager) : Nat := (max width s.cols).toNat

/-- The stores of `KeyboardLayoutManager::GetKeyMap`. -/
def keyMapStores (fillType : KeyboardMapFillType) (height width : UInt8) (s : KeyboardLayoutManager) :
    List (Nat × UInt32) :=
  fillAll (s.mapHeight height) (s.mapWidth width) noKey ++
    s.keymap.zipIdx.map fun e => e.1.mapStore fillType (s.mapWidth width) e.2

/-- `KeyboardLayoutManager::GetKeyMap`. -/
def getKeyMap (fillType : KeyboardMapFillType) (height width : UInt8) (s : KeyboardLayoutManager) :
    (Nat → UInt32) → Nat → UInt32 :=
  storeAll (s.keyMapStores fillType height width)

/-- `KeyboardLayoutManager::GetKeyNameAt`, with an index. -/
def getKeyNameAt (keyIdx : UInt32) (s : KeyboardLayoutManager) : Bytes :=
  match s.keymap[keyIdx.toNat]? with
  | some key => key.name
  | none => keyEnUnused

/-- `KeyboardLayoutManager::GetKeyNameAt`, with a row and a column. -/
def getKeyNameIn (row col : UInt32) (s : KeyboardLayoutManager) : Bytes :=
  match s.keymap.find? fun key => key.isAt row.toNat col.toNat with
  | some key => key.name
  | none => keyEnUnused

/-- The dimensions are larger than the position of every key. -/
def Covers (s : KeyboardLayoutManager) : Prop :=
  ∀ key ∈ s.keymap, key.row.toNat < s.rows.toNat ∧ key.col.toNat < s.cols.toNat

/-! ### Dimensions -/

section
variable (f : KeyboardLed → UInt8)

theorem le_foldl (keymap : Keymap) (m : UInt8) :
    m ≤ keymap.foldl (fun m key => if m < f key then f key else m) m ∧
      ∀ key ∈ keymap, f key ≤ keymap.foldl (fun m key => if m < f key then f key else m) m := by
  induction keymap generalizing m with
  | nil => exact ⟨UInt8.le_refl m, List.forall_mem_nil _⟩
  | cons key keymap ih =>
      obtain ⟨least, each⟩ := ih (if m < f key then f key else m)
      rw [List.foldl_cons, List.forall_mem_cons]
      by_cases larger : m < f key
      · rw [if_pos larger] at least each ⊢
        exact ⟨UInt8.le_trans (UInt8.le_of_lt larger) least, least, each⟩
      · rw [if_neg larger] at least each ⊢
        exact ⟨least, UInt8.le_trans (UInt8.not_lt.mp larger) least, each⟩

theorem foldl_lt {keymap : Keymap} {m bound : UInt8} (start : m < bound) (small : ∀ key ∈ keymap, f key < bound) :
    keymap.foldl (fun m key => if m < f key then f key else m) m < bound := by
  induction keymap generalizing m with
  | nil => exact start
  | cons key keymap ih =>
      obtain ⟨here, later⟩ := List.forall_mem_cons.mp small
      refine ih ?_ later
      dsimp only
      split
      · exact here
      · exact start

end

/-- The dimensions as the update leaves them. -/
theorem covers_updateDimensions {s : KeyboardLayoutManager} (small : ∀ key ∈ s.keymap, key.row < 255 ∧ key.col < 255) :
    s.updateDimensions.Covers := by
  have below (f : KeyboardLed → UInt8) (bounded : ∀ key ∈ s.keymap, f key < 255) (key : KeyboardLed)
      (member : key ∈ s.keymap) :
      (f key).toNat < (s.keymap.foldl (fun m key => if m < f key then f key else m) 0 + 1).toNat := by
    rw [KeyboardLed.toNat_succ (foldl_lt f (by decide) bounded)]
    exact Nat.lt_succ_of_le (UInt8.le_iff_toNat_le.mp ((le_foldl f s.keymap 0).2 key member))
  intro key member
  exact ⟨below KeyboardLed.row (fun key member => (small key member).1) key member,
    below KeyboardLed.col (fun key member => (small key member).2) key member⟩

theorem toNat_max (a b : UInt8) : (max a b).toNat = max a.toNat b.toNat := by
  change (if a ≤ b then b else a).toNat = _
  rw [Nat.max_def, apply_ite UInt8.toNat]
  rfl

theorem matrix_le (s : KeyboardLayoutManager) (height width : UInt8) :
    s.mapHeight height * s.mapWidth width ≤ 255 * 255 :=
  Nat.mul_le_mul (Nat.le_of_lt_succ (UInt8.toNat_lt _)) (Nat.le_of_lt_succ (UInt8.toNat_lt _))

variable {s : KeyboardLayoutManager} {fillType : KeyboardMapFillType} {height width : UInt8} {key : KeyboardLed}

theorem Covers.inside (covers : s.Covers) (height width : UInt8) (member : key ∈ s.keymap) :
    key.row.toNat < s.mapHeight height ∧ key.col.toNat < s.mapWidth width := by
  rw [mapHeight, mapWidth, toNat_max, toNat_max]
  obtain ⟨row, col⟩ := covers key member
  exact ⟨row.trans_le (Nat.le_max_right _ _), col.trans_le (Nat.le_max_right _ _)⟩

/-! ### Cells -/

theorem mem_keyMapStores {store : Nat × UInt32} :
    store ∈ s.keyMapStores fillType height width ↔
      (store.1 < s.mapHeight height * s.mapWidth width ∧ store.2 = noKey) ∨
        ∃ (key : KeyboardLed) (i : Nat), s.keymap[i]? = some key ∧
          key.mapStore fillType (s.mapWidth width) i = store := by
  rw [keyMapStores, List.mem_append, mem_fillAll, List.mem_map]
  simp only [Prod.exists, List.mem_zipIdx_iff_getElem?]

/-- Every store is made to a cell of the matrix. -/
theorem stores_inside (covers : s.Covers) : ∀ store ∈ s.keyMapStores fillType height width,
    store.1 < s.mapHeight height * s.mapWidth width := by
  intro store member
  rcases mem_keyMapStores.mp member with ⟨inside, -⟩ | ⟨key, i, found, rfl⟩
  · exact inside
  · obtain ⟨row, col⟩ := covers.inside height width (List.mem_of_getElem? found)
    rw [KeyboardLed.mapStore_fst]
    exact cell_lt row col

theorem getKeyMap_free (covers : s.Covers) {row col : Nat} (rowIn : row < s.mapHeight height)
    (colIn : col < s.mapWidth width) (free : ∀ key ∈ s.keymap, ¬ key.isAt row col) (memory : Nat → UInt32) :
    s.getKeyMap fillType height width memory (cell (s.mapWidth width) row col) = noKey := by
  rw [getKeyMap, keyMapStores, storeAll_append, storeAll_of_away, storeAll_fillAll noKey (cell_lt rowIn colIn)]
  intro store member same
  obtain ⟨⟨key, i⟩, stored, rfl⟩ := List.mem_map.mp member
  have inside := List.mem_of_getElem? (List.mem_zipIdx_iff_getElem?.mp stored)
  rw [KeyboardLed.mapStore_fst] at same
  exact free key inside ((cell_inj (covers.inside height width inside).2 colIn).mp same)

section
variable (covers : s.Covers) (distinct : (s.keymap.map KeyboardLed.position).Nodup)
include covers distinct

/-- One key only is kept in a cell. -/
theorem eq_of_cell {a b : KeyboardLed} {i j : Nat} (atI : s.keymap[i]? = some a) (atJ : s.keymap[j]? = some b)
    (same : cell (s.mapWidth width) a.row.toNat a.col.toNat = cell (s.mapWidth width) b.row.toNat b.col.toNat) :
    i = j ∧ a = b := by
  have inA := (covers.inside 0 width (List.mem_of_getElem? atI)).2
  have inB := (covers.inside 0 width (List.mem_of_getElem? atJ)).2
  obtain ⟨row, col⟩ := (cell_inj inA inB).mp same
  have position : a.position = b.position := KeyboardLed.position_eq_of_isAt ⟨rfl, rfl⟩ ⟨row.symm, col.symm⟩
  obtain ⟨inside, -⟩ := List.getElem?_eq_some_iff.mp atI
  have index : i = j := by
    apply (List.getElem?_inj (by rwa [List.length_map]) distinct).mp
    rw [List.getElem?_map, List.getElem?_map, atI, atJ, Option.map_some, Option.map_some, position]
  subst index
  exact ⟨rfl, Option.some.inj (atI.symm.trans atJ)⟩

theorem getKeyMap_occupied {i : Nat} (found : s.keymap[i]? = some key) (memory : Nat → UInt32) :
    s.getKeyMap fillType height width memory (cell (s.mapWidth width) key.row.toNat key.col.toNat) =
      (key.mapStore fillType (s.mapWidth width) i).2 := by
  rw [getKeyMap, keyMapStores, storeAll_append]
  apply storeAll_of_agree
  · rw [← KeyboardLed.mapStore_fst fillType (s.mapWidth width) key i]
    exact List.mem_map.mpr ⟨(key, i), List.mem_zipIdx_iff_getElem?.mpr found, rfl⟩
  · intro store member same
    obtain ⟨⟨other, j⟩, stored, rfl⟩ := List.mem_map.mp member
    rw [KeyboardLed.mapStore_fst] at same
    obtain ⟨rfl, rfl⟩ := eq_of_cell covers distinct found (List.mem_zipIdx_iff_getElem?.mp stored) same.symm
    rfl

/-- There are no more keys than cells, so that no index is taken for the mark of a cell without a key. -/
theorem keymap_length_lt : s.keymap.length < noKey.toNat := by
  have nodup : (s.keymap.map fun key => cell (s.mapWidth 0) key.row.toNat key.col.toNat).Nodup := by
    apply List.Nodup.map_on _ distinct.of_map
    intro a memberA b memberB same
    obtain ⟨i, atI⟩ := List.getElem?_of_mem memberA
    obtain ⟨j, atJ⟩ := List.getElem?_of_mem memberB
    exact (eq_of_cell covers distinct atI atJ same).2
  have cells : (s.keymap.map fun key => cell (s.mapWidth 0) key.row.toNat key.col.toNat) ⊆
      List.range (s.mapHeight 0 * s.mapWidth 0) := by
    intro offset member
    obtain ⟨key, inside, rfl⟩ := List.mem_map.mp member
    obtain ⟨row, col⟩ := covers.inside 0 0 inside
    exact List.mem_range.mpr (cell_lt row col)
  have room := (nodup.subperm cells).length_le
  rw [List.length_map, List.length_range] at room
  calc
    s.keymap.length ≤ s.mapHeight 0 * s.mapWidth 0 := room
    _ ≤ 255 * 255 := s.matrix_le 0 0
    _ < noKey.toNat := by decide

theorem toNat_index {i : Nat} (inside : i < s.keymap.length) : (UInt32.ofNat i).toNat = i := by
  have short := keymap_length_lt covers distinct
  have small : noKey.toNat < 2 ^ 32 := noKey.toNat_lt
  exact UInt32.toNat_ofNat_of_lt' (by simp only [UInt32.size]; omega)

/-! ### The fill types -/

/-- A cell of the count fill holds an index exactly if that key is there, and the mark if there is none. -/
theorem count_cell {row col : Nat} (rowIn : row < s.mapHeight height) (colIn : col < s.mapWidth width)
    (memory : Nat → UInt32) (v : UInt32) :
    s.getKeyMap .count height width memory (cell (s.mapWidth width) row col) = v ↔
      (∃ key, s.keymap[v.toNat]? = some key ∧ key.isAt row col) ∨
        (v = noKey ∧ ∀ key ∈ s.keymap, ¬ key.isAt row col) := by
  by_cases occupied : ∃ key ∈ s.keymap, key.isAt row col
  · obtain ⟨key, member, rfl, rfl⟩ := occupied
    obtain ⟨i, found⟩ := List.getElem?_of_mem member
    have index := toNat_index covers distinct (List.getElem?_eq_some_iff.mp found).1
    rw [getKeyMap_occupied covers distinct found]
    constructor
    · rintro rfl
      exact .inl ⟨key, index.symm ▸ found, rfl, rfl⟩
    · rintro (⟨other, there, row, col⟩ | ⟨-, free⟩)
      · have cells : cell (s.mapWidth width) key.row.toNat key.col.toNat =
            cell (s.mapWidth width) other.row.toNat other.col.toNat := by rw [row, col]
        obtain ⟨same, -⟩ := eq_of_cell covers distinct found there cells
        exact UInt32.toNat_inj.mp (index.trans same)
      · exact absurd ⟨rfl, rfl⟩ (free key member)
  · have free (key : KeyboardLed) (member : key ∈ s.keymap) : ¬ key.isAt row col :=
      fun here => occupied ⟨key, member, here⟩
    rw [getKeyMap_free covers rowIn colIn free]
    constructor
    · rintro rfl
      exact .inr ⟨rfl, free⟩
    · rintro (⟨key, there, here⟩ | ⟨same, -⟩)
      · exact absurd here (free key (List.mem_of_getElem? there))
      · exact same.symm

/-- Every index is held by one cell. -/
theorem count_once {i : Nat} (inside : i < s.keymap.length) (height width : UInt8) (memory : Nat → UInt32) :
    ∃! offset, offset < s.mapHeight height * s.mapWidth width ∧
      s.getKeyMap .count height width memory offset = UInt32.ofNat i := by
  have index := toNat_index covers distinct inside
  have found : s.keymap[i]? = some s.keymap[i] := List.getElem?_eq_getElem inside
  obtain ⟨row, col⟩ := covers.inside height width (List.getElem_mem inside)
  refine ⟨_, ⟨cell_lt row col, getKeyMap_occupied covers distinct found memory⟩, ?_⟩
  rintro offset ⟨inMatrix, held⟩
  obtain ⟨row, rowIn, col, colIn, rfl⟩ := exists_cell inMatrix
  rcases (count_cell covers distinct rowIn colIn memory _).mp held with ⟨key, there, rfl, rfl⟩ | ⟨mark, -⟩
  · rw [index, found] at there
    cases there
    rfl
  · have short := keymap_length_lt covers distinct
    rw [← mark, index] at short
    exact absurd inside short.not_gt

/-- Both look-ups of a name find the key of an occupied cell. -/
theorem names_agree (member : key ∈ s.keymap) (height width : UInt8) (memory : Nat → UInt32) :
    s.getKeyNameIn key.row.toUInt32 key.col.toUInt32 = key.name ∧
      s.getKeyNameAt (s.getKeyMap .count height width memory
        (cell (s.mapWidth width) key.row.toNat key.col.toNat)) = key.name := by
  obtain ⟨i, found⟩ := List.getElem?_of_mem member
  have index := toNat_index covers distinct (List.getElem?_eq_some_iff.mp found).1
  constructor
  · rw [getKeyNameIn, UInt8.toNat_toUInt32, UInt8.toNat_toUInt32]
    cases run : s.keymap.find? fun other => other.isAt key.row.toNat key.col.toNat with
    | none => exact absurd (decide_eq_true ⟨rfl, rfl⟩) (List.find?_eq_none.mp run key member)
    | some other =>
        have here := List.find?_some run
        rw [decide_eq_true_eq] at here
        obtain ⟨j, there⟩ := List.getElem?_of_mem (List.mem_of_find?_eq_some run)
        have cells : cell (s.mapWidth width) key.row.toNat key.col.toNat =
            cell (s.mapWidth width) other.row.toNat other.col.toNat := by rw [here.1, here.2]
        obtain ⟨-, rfl⟩ := eq_of_cell covers distinct found there cells
        rfl
  · rw [getKeyMap_occupied covers distinct found, getKeyNameAt, KeyboardLed.mapStore]
    dsimp only
    rw [index, found]

end

theorem index_cell (covers : s.Covers) (member : key ∈ s.keymap) (height width : UInt8) (i : Nat) :
    (key.mapStore .index (s.mapWidth width) i).2.toNat =
      cell (s.mapWidth width) key.row.toNat key.col.toNat := by
  obtain ⟨row, col⟩ := covers.inside height width member
  have small := (cell_lt row col).trans_le (s.matrix_le height width)
  exact UInt32.toNat_ofNat_of_lt' (by simp only [UInt32.size]; omega)

/-- The matrix of a keymap without two keys in one place, after its dimensions were updated: where it is stored, what
the cells hold with each fill type, and that both look-ups of a name agree. -/
theorem getKeyMap_matrix (s : KeyboardLayoutManager) (distinct : (s.keymap.map KeyboardLed.position).Nodup)
    (small : ∀ key ∈ s.keymap, key.row < 255 ∧ key.col < 255) (height width : UInt8) (memory : Nat → UInt32) :
    let t := s.updateDimensions
    let rows := (max height t.rows).toNat
    let cols := (max width t.cols).toNat
    let count := t.getKeyMap .count height width memory
    (∀ fillType, ∀ store ∈ t.keyMapStores fillType height width, store.1 < rows * cols) ∧
    (∀ row < rows, ∀ col < cols, ∀ v, count (cell cols row col) = v ↔
      (∃ key, s.keymap[v.toNat]? = some key ∧ key.isAt row col) ∨
        (v = noKey ∧ ∀ key ∈ s.keymap, ¬ key.isAt row col)) ∧
    (s.keymap.length < noKey.toNat ∧
      ∀ i < s.keymap.length, ∃! offset, offset < rows * cols ∧ count offset = UInt32.ofNat i) ∧
    (∀ key ∈ s.keymap,
      t.getKeyNameIn key.row.toUInt32 key.col.toUInt32 = key.name ∧
        t.getKeyNameAt (count (cell cols key.row.toNat key.col.toNat)) = key.name) ∧
    ∀ key ∈ s.keymap,
      t.getKeyMap .value height width memory (cell cols key.row.toNat key.col.toNat) = key.value ∧
        (t.getKeyMap .index height width memory (cell cols key.row.toNat key.col.toNat)).toNat =
          cell cols key.row.toNat key.col.toNat := by
  have covers := covers_updateDimensions small
  refine ⟨fun _ => stores_inside covers, ?_, ⟨keymap_length_lt (s := s.updateDimensions) covers distinct, ?_⟩, ?_, ?_⟩
  · exact fun row rowIn col colIn => count_cell covers distinct rowIn colIn memory
  · exact fun i inside => count_once covers distinct inside height width memory
  · exact fun key member => names_agree covers distinct member height width memory
  · intro key member
    obtain ⟨i, found⟩ := List.getElem?_of_mem member
    constructor
    · exact getKeyMap_occupied covers distinct found memory
    · exact (congrArg UInt32.toNat (getKeyMap_occupied covers distinct found memory)).trans
        (index_cell covers member height width i)

/-- Two keys on a diagonal, in a matrix of two rows and three columns. -/
theorem getKeyMap_diagonal :
    let s : KeyboardLayoutManager := ⟨0, 0, [⟨0, 0, 0, 5, [65], [], .swapOnly⟩, ⟨0, 1, 1, 6, [66], [], .swapOnly⟩]⟩
    s.updateDimensions.getKeyMap .count 0 3 (fun _ => 7) (cell 3 1 1) = 1 ∧
      s.updateDimensions.getKeyMap .count 0 3 (fun _ => 7) (cell 3 1 2) = noKey ∧
      s.updateDimensions.getKeyMap .value 0 3 (fun _ => 7) (cell 3 1 1) = 6 :=
  have all := getKeyMap_matrix
    ⟨0, 0, [⟨0, 0, 0, 5, [65], [], .swapOnly⟩, ⟨0, 1, 1, 6, [66], [], .swapOnly⟩]⟩ (by decide) (by decide) 0 3
    fun _ => 7
  ⟨(all.2.1 1 (by decide) 1 (by decide) 1).mpr (.inl ⟨_, rfl, by decide⟩),
    (all.2.1 1 (by decide) 2 (by decide) noKey).mpr (.inr ⟨rfl, by decide⟩),
    (all.2.2.2.2 _ (List.mem_of_getElem? (i := 1) rfl)).1⟩

end KeyboardLayoutManager
end SyncRGB
