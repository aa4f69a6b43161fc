import Mathlib.Data.Set.Function
import SyncRGB.VectorEdit.RowMajor

/-! The maps of matrix devices, which the constructor fills in one of eight orders. -/
namespace SyncRGB
open VectorEdit
namespace E131

/-- `e131_matrix_order`. -/
inductive MatrixOrder where
  | horizontalTopLeft
  | horizontalTopRight
  | horizontalBottomLeft
  | horizontalBottomRight
  | verticalTopLeft
  | verticalTopRight
  | verticalBottomLeft
  | verticalBottomRight
  deriving DecidableEq

/-! ### The loops -/

/-- `for(unsigned int i = 0; i < n; i++)`. -/
def countUp (n : UInt32) : List UInt32 := (List.range n.toNat).map .ofNat

/-- `for(int i = first; i >= 0; i--)`, as the unsigned values that the index is computed from. -/
def countDown (first : Int32) : List UInt32 :=
  if first < 0 then [] else (List.range (first.toInt.toNat + 1)).reverse.map .ofNat

section
variable (width height : UInt32)

def byRows (rows cols : List UInt32) : List UInt32 := rows.flatMap fun y => cols.map fun x => y * width + x

def byColumns (rows cols : List UInt32) : List UInt32 := cols.flatMap fun x => rows.map fun y => y * width + x

/-- The cells in the order of their stores. -/
def mapCells : MatrixOrder → List UInt32
  | .horizontalTopLeft => byRows width (countUp height) (countUp width)
  | .horizontalTopRight => byRows width (countUp height) (countDown (width - 1).toInt32)
  | .horizontalBottomLeft => byRows width (countDown height.toInt32) (countUp width)
  | .horizontalBottomRight => byRows width (countDown height.toInt32) (countDown (width - 1).toInt32)
  | .verticalTopLeft => byColumns width (countUp height) (countUp width)
  | .verticalTopRight => byColumns width (countUp height) (countDown (width - 1).toInt32)
  | .verticalBottomLeft => byColumns width (countDown (height - 1).toInt32) (countUp width)
  | .verticalBottomRight => byColumns width (countDown (height - 1).toInt32) (countDown (width - 1).toInt32)

/-- Each store with its `led_idx`. -/
def mapStores (order : MatrixOrder) : List (Nat × UInt32) :=
  (mapCells width height order).zipIdx.map fun cell => (cell.1.toNat, .ofNat cell.2)

/-- The new map, whose cells hold anything at first. -/
def matrixMap (order : MatrixOrder) (fresh : Nat → UInt32) : Nat → UInt32 :=
  storeAll (mapStores width height order) fresh

end

/-! ### What the maps are for -/

namespace MatrixOrder

def horizontal : MatrixOrder → Bool
  | .horizontalTopLeft | .horizontalTopRight | .horizontalBottomLeft | .horizontalBottomRight => true
  | .verticalTopLeft | .verticalTopRight | .verticalBottomLeft | .verticalBottomRight => false

def top : MatrixOrder → Bool
  | .horizontalTopLeft | .horizontalTopRight | .verticalTopLeft | .verticalTopRight => true
  | .horizontalBottomLeft | .horizontalBottomRight | .verticalBottomLeft | .verticalBottomRight => false

def left : MatrixOrder → Bool
  | .horizontalTopLeft | .horizontalBottomLeft | .verticalTopLeft | .verticalBottomLeft => true
  | .horizontalTopRight | .horizontalBottomRight | .verticalTopRight | .verticalBottomRight => false

end MatrixOrder

/-- The numbers below `n`, from the first or from the last on. -/
def line (forward : Bool) (n : Nat) : List Nat := if forward then List.range n else (List.range n).reverse

/-- The cells of a matrix, scanned from the named corner in the named direction. -/
def scanCells (order : MatrixOrder) (width height : Nat) : List Nat :=
  if order.horizontal then
    (line order.top height).flatMap fun row => (line order.left width).map fun col => cell width row col
  else (line order.left width).flatMap fun col => (line order.top height).map fun row => cell width row col

/-- The stores stay in the block of `width * height` cells, the product taken in 32 bits; and whatever the cells held
before, they hold the numbers of the LEDs afterwards, each in the cell that is scanned as the one with that number. -/
structure ScansMatrix (order : MatrixOrder) (width height : UInt32) : Prop where
  inside : ∀ store ∈ mapStores width height order, store.1 < (width * height).toNat
  scanned (fresh : Nat → UInt32) (k place : Nat) :
    (scanCells order width.toNat height.toNat)[k]? = some place →
    (matrixMap width height order fresh place).toNat = k
  bijection (fresh : Nat → UInt32) :
    Set.BijOn (fun place => (matrixMap width height order fresh place).toNat)
      (Set.Iio (width.toNat * height.toNat)) (Set.Iio (width.toNat * height.toNat))

/-- The cells can be counted in 32 bits, and the `int` counters start inside of the matrix; those that start at the
height do not, so that the loops around them have to be empty. -/
def Scannable (width height : Nat) : MatrixOrder → Prop
  | .horizontalTopLeft | .verticalTopLeft => width * height < 2 ^ 32
  | .horizontalTopRight | .verticalTopRight => width * height < 2 ^ 32 ∧ (height = 0 ∨ width ≤ 2 ^ 31)
  | .horizontalBottomLeft => width = 0
  | .horizontalBottomRight => width = 0 ∨ 2 ^ 31 < width ∧ height = 0
  | .verticalBottomLeft => width * height < 2 ^ 32 ∧ (width = 0 ∨ height ≤ 2 ^ 31)
  | .verticalBottomRight =>
      width * height < 2 ^ 32 ∧ (width = 0 ∨ height = 0 ∨ width ≤ 2 ^ 31 ∧ height ≤ 2 ^ 31)

end E131
end SyncRGB
