import Mathlib.Data.List.Nodup
import SyncRGB.E131.MatrixMaps

/-! When the matrix maps are filled in the order of the scan. -/
namespace SyncRGB
open VectorEdit
namespace E131

variable {order : MatrixOrder}

/-! ### Scans -/

theorem mem_line {forward : Bool} {n i : Nat} : i ∈ line forward n ↔ i < n := by
  unfold line
  split
  · exact List.mem_range
  · rw [List.mem_reverse, List.mem_range]

theorem nodup_line (forward : Bool) (n : Nat) : (line forward n).Nodup := by
  unfold line
  split
  · exact List.nodup_range
  · exact List.nodup_reverse.mpr List.nodup_range

section
variable {width height : Nat}

theorem mem_scanCells (order : MatrixOrder) {place : Nat} :
    place ∈ scanCells order width height ↔ place < height * width := by
  have cells (row col : Nat) (rowIn : row ∈ line order.top height) (colIn : col ∈ line order.left width) :
      cell width row col < height * width := cell_lt (mem_line.mp rowIn) (mem_line.mp colIn)
  unfold scanCells
  split
  · simp only [List.mem_flatMap, List.mem_map]
    constructor
    · rintro ⟨row, rowIn, col, colIn, rfl⟩
      exact cells row col rowIn colIn
    · intro inside
      obtain ⟨row, rowIn, col, colIn, at_⟩ := exists_cell inside
      exact ⟨row, mem_line.mpr rowIn, col, mem_line.mpr colIn, at_⟩
  · simp only [List.mem_flatMap, List.mem_map]
    constructor
    · rintro ⟨col, colIn, row, rowIn, rfl⟩
      exact cells row col rowIn colIn
    · intro inside
      obtain ⟨row, rowIn, col, colIn, at_⟩ := exists_cell inside
      exact ⟨col, mem_line.mpr colIn, row, mem_line.mpr rowIn, at_⟩

/-- Two nested loops that meet every pair of numbers once. -/
theorem nodup_flatMap_line {forward forward' : Bool} {n m : Nat} {f : Nat → Nat → Nat}
    (inj : ∀ a b a' b', a < n → b < m → a' < n → b' < m → f a b = f a' b' → a = a' ∧ b = b') :
    ((line forward n).flatMap fun a => (line forward' m).map (f a)).Nodup := by
  rw [List.nodup_flatMap]
  constructor
  · intro a mem
    refine (nodup_line forward' m).map_on fun b inB b' inB' same => ?_
    exact (inj a b a b' (mem_line.mp mem) (mem_line.mp inB) (mem_line.mp mem) (mem_line.mp inB') same).2
  · refine (nodup_line forward n).imp_of_mem fun {a a'} mem mem' differ => ?_
    intro place here there
    obtain ⟨b, inB, rfl⟩ := List.mem_map.mp here
    obtain ⟨b', inB', same⟩ := List.mem_map.mp there
    exact differ (inj a b a' b' (mem_line.mp mem) (mem_line.mp inB) (mem_line.mp mem') (mem_line.mp inB') same.symm).1

theorem nodup_scanCells (order : MatrixOrder) (width height : Nat) : (scanCells order width height).Nodup := by
  unfold scanCells
  split
  · exact nodup_flatMap_line fun _ _ _ _ _ inB _ inB' same => (cell_inj inB inB').mp same
  · exact nodup_flatMap_line fun _ _ _ _ inA _ inA' _ same => ((cell_inj inA inA').mp same).symm

theorem length_scanCells (order : MatrixOrder) (width height : Nat) :
    (scanCells order width height).length = height * width := by
  have same : (scanCells order width height).Perm (List.range (height * width)) :=
    (List.perm_ext_iff_of_nodup (nodup_scanCells order width height) List.nodup_range).mpr fun place => by
      rw [mem_scanCells order, List.mem_range]
  rw [same.length_eq, List.length_range]

end

/-! ### Counters -/

theorem toInt_toInt32 (n : UInt32) :
    n.toInt32.toInt = if n.toNat < 2 ^ 31 then (n.toNat : Int) else n.toNat - 2 ^ 32 := by
  have cond := BitVec.toInt_eq_toNat_cond n.toBitVec
  show n.toBitVec.toInt = _
  rw [cond]
  show (if 2 * n.toNat < 2 ^ 32 then _ else _) = _
  split <;> split <;> first | rfl | omega

theorem map_toNat_ofNat {ns : List Nat} (small : ∀ n ∈ ns, n < 2 ^ 32) :
    (ns.map UInt32.ofNat).map UInt32.toNat = ns := by
  rw [List.map_map]
  exact (List.map_congr_left fun n mem => UInt32.toNat_ofNat_of_lt' (small n mem)).trans (List.map_id ns)

theorem map_toNat_countUp (n : UInt32) : (countUp n).map UInt32.toNat = line true n.toNat :=
  map_toNat_ofNat fun _ mem => Nat.lt_trans (List.mem_range.mp mem) n.toNat_lt

/-- A counter that starts at a number which is negative as an `int` does not run at all. -/
theorem map_toNat_countDown (n : UInt32) :
    (countDown n.toInt32).map UInt32.toNat = if n.toNat < 2 ^ 31 then line false (n.toNat + 1) else [] := by
  have below := n.toNat_lt
  have value := toInt_toInt32 n
  by_cases small : n.toNat < 2 ^ 31
  · rw [if_pos small] at value
    have start : ¬ n.toInt32 < 0 := by
      rw [Int32.lt_iff_toInt_lt, value]
      exact Int.not_lt.mpr (Int.natCast_nonneg _)
    rw [if_pos small, countDown, if_neg start, value, Int.toNat_natCast]
    refine map_toNat_ofNat fun i mem => ?_
    have inside := List.mem_range.mp (List.mem_reverse.mp mem)
    omega
  · rw [if_neg small] at value
    have start : n.toInt32 < 0 := by
      rw [Int32.lt_iff_toInt_lt, value]
      show (n.toNat : Int) - 2 ^ 32 < 0
      omega
    rw [if_neg small, countDown, if_pos start]
    rfl

theorem map_toNat_countDown_last (n : UInt32) :
    (countDown (n - 1).toInt32).map UInt32.toNat = if n.toNat ≤ 2 ^ 31 then line false n.toNat else [] := by
  have below := n.toNat_lt
  have last : (n - 1).toNat = if n.toNat = 0 then 2 ^ 32 - 1 else n.toNat - 1 := by
    rw [UInt32.toNat_sub]
    show (2 ^ 32 - 1 + n.toNat) % 2 ^ 32 = _
    split <;> omega
  rw [map_toNat_countDown, last]
  by_cases zero : n.toNat = 0
  · rw [zero, if_pos rfl, if_neg (by omega), if_pos (Nat.zero_le _)]
    rfl
  · rw [if_neg zero, Nat.sub_add_cancel (Nat.pos_of_ne_zero zero)]
    by_cases small : n.toNat ≤ 2 ^ 31
    · rw [if_pos small, if_pos (by omega)]
    · rw [if_neg small, if_neg (by omega)]

/-! ### Cells -/

section
variable {width height : UInt32} {rows cols : List UInt32}

theorem toNat_index {y x : UInt32} (row : y.toNat < height.toNat) (col : x.toNat < width.toNat)
    (small : width.toNat * height.toNat < 2 ^ 32) : (y * width + x).toNat = cell width.toNat y.toNat x.toNat := by
  have below := cell_lt row col
  rw [Nat.mul_comm] at small
  rw [UInt32.toNat_add, UInt32.toNat_mul, Nat.mod_add_mod]
  exact Nat.mod_eq_of_lt (Nat.lt_trans below small)

theorem map_toNat_byRows (small : width.toNat * height.toNat < 2 ^ 32) {down right : Bool}
    (rowsEq : rows.map UInt32.toNat = line down height.toNat)
    (colsEq : cols.map UInt32.toNat = line right width.toNat) :
    (byRows width rows cols).map UInt32.toNat =
      (line down height.toNat).flatMap fun row => (line right width.toNat).map fun col => cell width.toNat row col := by
  have rowIn (y : UInt32) (mem : y ∈ rows) : y.toNat < height.toNat :=
    mem_line.mp (rowsEq ▸ List.mem_map.mpr ⟨y, mem, rfl⟩)
  have colIn (x : UInt32) (mem : x ∈ cols) : x.toNat < width.toNat :=
    mem_line.mp (colsEq ▸ List.mem_map.mpr ⟨x, mem, rfl⟩)
  rw [byRows, List.map_flatMap, ← rowsEq, ← colsEq, List.flatMap_map]
  refine List.flatMap_congr fun y memY => ?_
  rw [List.map_map, List.map_map]
  exact List.map_congr_left fun x memX => toNat_index (rowIn y memY) (colIn x memX) small

theorem map_toNat_byColumns (small : width.toNat * height.toNat < 2 ^ 32) {down right : Bool}
    (rowsEq : rows.map UInt32.toNat = line down height.toNat)
    (colsEq : cols.map UInt32.toNat = line right width.toNat) :
    (byColumns width rows cols).map UInt32.toNat =
      (line right width.toNat).flatMap fun col => (line down height.toNat).map fun row => cell width.toNat row col := by
  have rowIn (y : UInt32) (mem : y ∈ rows) : y.toNat < height.toNat :=
    mem_line.mp (rowsEq ▸ List.mem_map.mpr ⟨y, mem, rfl⟩)
  have colIn (x : UInt32) (mem : x ∈ cols) : x.toNat < width.toNat :=
    mem_line.mp (colsEq ▸ List.mem_map.mpr ⟨x, mem, rfl⟩)
  rw [byColumns, List.map_flatMap, ← rowsEq, ← colsEq, List.flatMap_map]
  refine List.flatMap_congr fun x memX => ?_
  rw [List.map_map, List.map_map]
  exact List.map_congr_left fun y memY => toNat_index (rowIn y memY) (colIn x memX) small

end

/-! ### Stores -/

section
variable {width height : UInt32}

theorem mem_mapStores {store : Nat × UInt32} :
    store ∈ mapStores width height order ↔
      ∃ k place, ((mapCells width height order).map UInt32.toNat)[k]? = some place ∧
        (place, UInt32.ofNat k) = store := by
  unfold mapStores
  constructor
  · intro mem
    obtain ⟨indexed, inside, rfl⟩ := List.mem_map.mp mem
    have found := List.mem_zipIdx_iff_getElem?.mp inside
    exact ⟨indexed.2, indexed.1.toNat, by rw [List.getElem?_map, found]; rfl, rfl⟩
  · rintro ⟨k, place, found, rfl⟩
    rw [List.getElem?_map] at found
    obtain ⟨index, at_, rfl⟩ := Option.map_eq_some_iff.mp found
    exact List.mem_map.mpr ⟨(index, k), List.mem_zipIdx_iff_getElem?.mpr at_, rfl⟩

theorem bijOn_of_scanned {width height : Nat} {m : Nat → Nat}
    (scanned : ∀ k place, (scanCells order width height)[k]? = some place → m place = k) :
    Set.BijOn m (Set.Iio (width * height)) (Set.Iio (width * height)) := by
  have length := length_scanCells order width height
  have numbered (place : Nat) (inside : place < width * height) :
      (scanCells order width height)[m place]? = some place := by
    rw [Nat.mul_comm] at inside
    obtain ⟨k, found⟩ := List.getElem?_of_mem ((mem_scanCells order).mpr inside)
    rwa [scanned k place found]
  refine ⟨fun place inside => ?_, fun place inside place' inside' same => ?_, fun k inside => ?_⟩
  · have below := (List.getElem?_eq_some_iff.mp (numbered place inside)).1
    rw [length, Nat.mul_comm] at below
    exact below
  · have here := numbered place inside
    rw [same, numbered place' inside'] at here
    exact (Option.some.inj here).symm
  · have below : k < (scanCells order width height).length := by rw [length, Nat.mul_comm]; exact inside
    refine ⟨(scanCells order width height)[k], ?_, scanned k _ (List.getElem?_eq_getElem below)⟩
    have mem := (mem_scanCells order).mp (List.getElem_mem below)
    rw [Nat.mul_comm] at mem
    exact mem

/-- The loops meet the cells in the order of the scan. -/
theorem scansMatrix_of_cells (small : width.toNat * height.toNat < 2 ^ 32)
    (cells : (mapCells width height order).map UInt32.toNat = scanCells order width.toNat height.toNat) :
    ScansMatrix order width height := by
  have scanned (fresh : Nat → UInt32) (k place : Nat)
      (found : (scanCells order width.toNat height.toNat)[k]? = some place) :
      (matrixMap width height order fresh place).toNat = k := by
    have below := (List.getElem?_eq_some_iff.mp found).1
    rw [length_scanCells, Nat.mul_comm] at below
    have stored : (place, UInt32.ofNat k) ∈ mapStores width height order :=
      mem_mapStores.mpr ⟨k, place, cells ▸ found, rfl⟩
    have agree : ∀ store ∈ mapStores width height order, store.1 = place → store.2 = UInt32.ofNat k := by
      intro store mem same
      obtain ⟨j, other, there, rfl⟩ := mem_mapStores.mp mem
      obtain rfl : other = place := same
      rw [cells] at there
      have inside := (List.getElem?_eq_some_iff.mp found).1
      rw [(List.getElem?_inj inside (nodup_scanCells _ _ _)).mp (found.trans there.symm)]
    rw [matrixMap, storeAll_of_agree stored agree]
    exact UInt32.toNat_ofNat_of_lt' (Nat.lt_trans below small)
  refine ⟨?_, scanned, fun fresh => bijOn_of_scanned (scanned fresh)⟩
  intro store mem
  obtain ⟨k, place, found, rfl⟩ := mem_mapStores.mp mem
  have inside := (mem_scanCells order).mp (List.mem_of_getElem? (cells ▸ found))
  rw [UInt32.toNat_mul, Nat.mod_eq_of_lt small, Nat.mul_comm]
  exact inside

namespace ScansMatrix
variable (scans : ScansMatrix order width height)
include scans

/-- Every cell is stored into, for it would keep what it holds otherwise. -/
theorem exists_store {place : Nat} (inside : place < width.toNat * height.toNat) :
    ∃ store ∈ mapStores width height order, store.1 = place := by
  by_contra none_
  have away (store : Nat × UInt32) (mem : store ∈ mapStores width height order) : store.1 ≠ place :=
    fun same => none_ ⟨store, mem, same⟩
  rw [Nat.mul_comm] at inside
  obtain ⟨k, found⟩ := List.getElem?_of_mem ((mem_scanCells order).mpr inside)
  have kept (x : UInt32) : x.toNat = k := by
    have number := scans.scanned (fun _ => x) k place found
    rwa [matrixMap, storeAll_of_away away] at number
  have zero : (0 : UInt32).toNat = (1 : UInt32).toNat := (kept 0).trans (kept 1).symm
  exact absurd zero (by decide)

theorem small : width.toNat * height.toNat < 2 ^ 32 := by
  by_contra large
  have some_ : width.toNat * height.toNat - 1 < width.toNat * height.toNat := by omega
  obtain ⟨store, mem, last⟩ := scans.exists_store some_
  have inside := scans.inside store mem
  rw [last, UInt32.toNat_mul] at inside
  omega

theorem mapCells_ne_nil (some_ : 0 < width.toNat * height.toNat) : mapCells width height order ≠ [] := by
  intro none_
  obtain ⟨store, mem, -⟩ := scans.exists_store some_
  rw [mapStores, none_] at mem
  exact absurd mem List.not_mem_nil

theorem index_lt {rows cols : List UInt32} (cells : mapCells width height order = byRows width rows cols)
    {y x : UInt32} (row : y ∈ rows) (col : x ∈ cols) : (y * width + x).toNat < (width * height).toNat := by
  have mem : y * width + x ∈ mapCells width height order := by
    rw [cells]
    exact List.mem_flatMap.mpr ⟨y, row, List.mem_map.mpr ⟨x, col, rfl⟩⟩
  obtain ⟨k, found⟩ := List.getElem?_of_mem mem
  refine scans.inside _ (mem_mapStores.mpr ⟨k, (y * width + x).toNat, ?_, rfl⟩)
  rw [List.getElem?_map, found]
  rfl

/-- Rows that are counted down from the height start outside. -/
theorem not_from_height {cols : List UInt32} (wide : 0 < width.toNat)
    (cells : mapCells width height order = byRows width (countDown height.toInt32) cols) (first : 0 ∈ cols) :
    False := by
  have low : height.toNat < 2 ^ 31 := by
    by_contra high
    have rows := map_toNat_countDown height
    rw [if_neg high, List.map_eq_nil_iff] at rows
    refine scans.mapCells_ne_nil (Nat.mul_pos wide (by omega)) ?_
    rw [cells, rows]
    rfl
  have row : height ∈ countDown height.toInt32 := by
    have rows := map_toNat_countDown height
    rw [if_pos low] at rows
    have last : height.toNat ∈ line false (height.toNat + 1) := mem_line.mpr (Nat.lt_succ_self _)
    obtain ⟨y, mem, same⟩ := List.mem_map.mp (rows ▸ last)
    have found : y = height := UInt32.toNat_inj.mp same
    exact found ▸ mem
  have inside := scans.index_lt cells row first
  rw [UInt32.add_zero, UInt32.mul_comm] at inside
  exact Nat.lt_irrefl _ inside

end ScansMatrix

theorem zero_mem_countUp {n : UInt32} (some_ : 0 < n.toNat) : 0 ∈ countUp n :=
  List.mem_map.mpr ⟨0, List.mem_range.mpr some_, rfl⟩

theorem zero_mem_countDown_last {n : UInt32} (some_ : 0 < n.toNat) (small : n.toNat ≤ 2 ^ 31) :
    0 ∈ countDown (n - 1).toInt32 := by
  have counted := map_toNat_countDown_last n
  rw [if_pos small] at counted
  have mem : 0 ∈ line false n.toNat := mem_line.mpr some_
  obtain ⟨x, inside, zero⟩ := List.mem_map.mp (counted ▸ mem)
  have same : x = 0 := UInt32.toNat_inj.mp zero
  exact same ▸ inside

theorem map_toNat_countDown_of_le {n : UInt32} (small : n.toNat ≤ 2 ^ 31) :
    (countDown (n - 1).toInt32).map UInt32.toNat = line false n.toNat := by
  rw [map_toNat_countDown_last, if_pos small]

theorem countDown_last_nil {n : UInt32} (outside : n.toNat = 0 ∨ 2 ^ 31 < n.toNat) :
    countDown (n - 1).toInt32 = [] := by
  have none_ : (countDown (n - 1).toInt32).map UInt32.toNat = [] := by
    rcases outside with zero | large
    · rw [map_toNat_countDown_of_le (by omega), zero]
      rfl
    · rw [map_toNat_countDown_last, if_neg (by omega)]
  exact List.map_eq_nil_iff.mp none_

@[simp] theorem byRows_nil (rows : List UInt32) : byRows width rows [] = [] :=
  List.flatMap_eq_nil_iff.mpr fun _ _ => rfl

@[simp] theorem byColumns_nil (cols : List UInt32) : byColumns width [] cols = [] :=
  List.flatMap_eq_nil_iff.mpr fun _ _ => rfl

/-- Nothing is stored into a matrix without cells. -/
theorem scansMatrix_empty (none_ : width.toNat * height.toNat = 0) (cells : mapCells width height order = []) :
    ScansMatrix order width height := by
  have scan : scanCells order width.toNat height.toNat = [] :=
    List.length_eq_zero_iff.mp (by rw [length_scanCells, Nat.mul_comm, none_])
  exact scansMatrix_of_cells (by omega) (by rw [cells, scan]; rfl)

end

theorem ScansMatrix.scannable {width height : UInt32} (scans : ScansMatrix order width height) :
    Scannable width.toNat height.toNat order := by
  have small := scans.small
  have filled := scans.mapCells_ne_nil
  cases order with
  | horizontalTopLeft => exact small
  | horizontalTopRight =>
      refine ⟨small, ?_⟩
      by_contra large
      have cols : countDown (width - 1).toInt32 = [] := countDown_last_nil (by omega)
      exact filled (Nat.mul_pos (by omega) (by omega)) (by rw [mapCells, cols, byRows_nil])
  | horizontalBottomLeft =>
      by_contra wide
      exact scans.not_from_height (Nat.pos_of_ne_zero wide) rfl (zero_mem_countUp (Nat.pos_of_ne_zero wide))
  | horizontalBottomRight =>
      by_contra bad
      unfold Scannable at bad
      by_cases low : width.toNat ≤ 2 ^ 31
      · exact scans.not_from_height (by omega) rfl (zero_mem_countDown_last (by omega) low)
      · have cols : countDown (width - 1).toInt32 = [] := countDown_last_nil (by omega)
        exact filled (Nat.mul_pos (by omega) (by omega)) (by rw [mapCells, cols, byRows_nil])
  | verticalTopLeft => exact small
  | verticalTopRight =>
      refine ⟨small, ?_⟩
      by_contra large
      have cols : countDown (width - 1).toInt32 = [] := countDown_last_nil (by omega)
      exact filled (Nat.mul_pos (by omega) (by omega)) (by rw [mapCells, cols]; rfl)
  | verticalBottomLeft =>
      refine ⟨small, ?_⟩
      by_contra large
      have rows : countDown (height - 1).toInt32 = [] := countDown_last_nil (by omega)
      exact filled (Nat.mul_pos (by omega) (by omega)) (by rw [mapCells, rows, byColumns_nil])
  | verticalBottomRight =>
      refine ⟨small, ?_⟩
      by_contra large
      by_cases low : width.toNat ≤ 2 ^ 31
      · have rows : countDown (height - 1).toInt32 = [] := countDown_last_nil (by omega)
        exact filled (Nat.mul_pos (by omega) (by omega)) (by rw [mapCells, rows, byColumns_nil])
      · have cols : countDown (width - 1).toInt32 = [] := countDown_last_nil (by omega)
        exact filled (Nat.mul_pos (by omega) (by omega)) (by rw [mapCells, cols]; rfl)

theorem Scannable.scans {width height : UInt32} (scannable : Scannable width.toNat height.toNat order) :
    ScansMatrix order width height := by
  have up := map_toNat_countUp
  cases order with
  | horizontalTopLeft => exact scansMatrix_of_cells scannable (map_toNat_byRows scannable (up _) (up _))
  | horizontalTopRight =>
      obtain ⟨small, counters⟩ := scannable
      by_cases low : width.toNat ≤ 2 ^ 31
      · exact scansMatrix_of_cells small (map_toNat_byRows small (up _) (map_toNat_countDown_of_le low))
      · have none_ : height.toNat = 0 := counters.resolve_right low
        refine scansMatrix_empty (by rw [none_, Nat.mul_zero]) ?_
        rw [mapCells, countDown_last_nil (by omega), byRows_nil]
  | horizontalBottomLeft =>
      have none_ : width.toNat = 0 := scannable
      refine scansMatrix_empty (by rw [none_, Nat.zero_mul]) ?_
      rw [mapCells, countUp, none_, List.range_zero, List.map_nil, byRows_nil]
  | horizontalBottomRight =>
      have either : width.toNat = 0 ∨ 2 ^ 31 < width.toNat ∧ height.toNat = 0 := scannable
      refine scansMatrix_empty (Nat.mul_eq_zero.mpr (by omega)) ?_
      rw [mapCells, countDown_last_nil (by omega), byRows_nil]
  | verticalTopLeft => exact scansMatrix_of_cells scannable (map_toNat_byColumns scannable (up _) (up _))
  | verticalTopRight =>
      obtain ⟨small, counters⟩ := scannable
      by_cases low : width.toNat ≤ 2 ^ 31
      · exact scansMatrix_of_cells small (map_toNat_byColumns small (up _) (map_toNat_countDown_of_le low))
      · have none_ : height.toNat = 0 := counters.resolve_right low
        refine scansMatrix_empty (by rw [none_, Nat.mul_zero]) ?_
        rw [mapCells, countDown_last_nil (by omega)]
        rfl
  | verticalBottomLeft =>
      obtain ⟨small, counters⟩ := scannable
      by_cases low : height.toNat ≤ 2 ^ 31
      · exact scansMatrix_of_cells small (map_toNat_byColumns small (map_toNat_countDown_of_le low) (up _))
      · have none_ : width.toNat = 0 := counters.resolve_right low
        refine scansMatrix_empty (by rw [none_, Nat.zero_mul]) ?_
        rw [mapCells, countDown_last_nil (by omega), byColumns_nil]
  | verticalBottomRight =>
      obtain ⟨small, counters⟩ := scannable
      rcases counters with noCols | noRows | both
      · refine scansMatrix_empty (by rw [noCols, Nat.zero_mul]) ?_
        rw [mapCells, countDown_last_nil (.inl noCols)]
        rfl
      · refine scansMatrix_empty (by rw [noRows, Nat.mul_zero]) ?_
        rw [mapCells, countDown_last_nil (.inl noRows), byColumns_nil]
      · exact scansMatrix_of_cells small
          (map_toNat_byColumns small (map_toNat_countDown_of_le both.2) (map_toNat_countDown_of_le both.1))

/-- The maps are right exactly for those sizes. -/
theorem scansMatrix_iff (order : MatrixOrder) (width height : UInt32) :
    ScansMatrix order width height ↔ Scannable width.toNat height.toNat order :=
  ⟨ScansMatrix.scannable, Scannable.scans⟩

/-- A single LED that is scanned from the bottom. -/
theorem bottom_row_outside : ¬ ScansMatrix .horizontalBottomLeft 1 1 := by
  intro scans
  have outside : (1, 0) ∈ mapStores 1 1 .horizontalBottomLeft := by decide
  exact absurd (scans.inside _ outside) (by decide)

end E131
end SyncRGB
