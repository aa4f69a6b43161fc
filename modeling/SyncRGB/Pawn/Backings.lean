import SyncRGB.Pawn.Machine
import SyncRGB.VectorEdit.CheckedStore

/-! The memory backings: pages of the address space that are mapped to buffers of the host, and one buffer from
address zero on. -/
namespace SyncRGB.Amx
open HostMemory VectorEdit

structure Mapping where
  buf : Option Pointer
  size : Nat
deriving DecidableEq, Repr

def Mapping.none_ : Mapping := ⟨none, 0⟩

section
variable (w indexBits : Nat)

def pageBits : Nat := w - indexBits

/-- In bytes. -/
def pageSize : Nat := 2 ^ pageBits w indexBits

variable {w}

def pageIndex (va : Cell w) : Nat := (va >>> pageBits w indexBits).toNat

def pageOffset (va : Cell w) : Cell w := va &&& ((BitVec.allOnes w <<< indexBits) >>> indexBits)

def makeVa (index : Nat) : Cell w := BitVec.ofNat w index <<< pageBits w indexBits

/-- What cells take in bytes, in a `size_t`. -/
def sizeBytes (w size : Nat) : Nat := size * (w / 8) % 2 ^ 64

/-- `page_index((cell)(size + page_size - 1))`. -/
def pagesFor (w indexBits bytes : Nat) : Nat :=
  pageIndex indexBits (BitVec.ofNat w (bytes + pageSize w indexBits - 1))

end

/-- `memory_backing_paged_buffers`: one mapping a page. -/
structure PagedBuffers (w indexBits : Nat) where
  mappings : List Mapping
  full : mappings.length = 2 ^ indexBits

namespace PagedBuffers
variable {w indexBits : Nat}

def empty : PagedBuffers w indexBits := ⟨List.replicate (2 ^ indexBits) .none_, List.length_replicate⟩

def translate (pages : PagedBuffers w indexBits) (va : Cell w) : Option Pointer :=
  if va % cellBytes w ≠ 0 then none
  else
    match pages.mappings[pageIndex indexBits va]? with
    | none => none
    | some m =>
        match m.buf with
        | none => none
        | some buf =>
            let off := (pageOffset indexBits va).toNat
            if m.size ≤ off then none else some (buf.advance (off / (w / 8)))

/-- Where the loop stops: at the page that makes it `count` free ones in a row. -/
def findRun (count : Nat) : List Mapping → Nat → Nat → Option Nat
  | [], _, _ => none
  | m :: ms, index, inARow =>
      let inARow := if m.buf.isSome then 0 else inARow + 1
      if inARow = count then some index else findRun count ms (index + 1) inARow

/-- The loop over the pages from `index` on; `none` where it writes outside of the array. -/
def fill (page : Nat → Mapping) : (index i count : Nat) → List Mapping → Option (List Mapping)
  | _, _, 0, ms => some ms
  | index, i, count + 1, ms => do
      let ms ← storeAt (index + i) (page i) ms
      fill page index (i + 1) count ms

theorem fill_length {page : Nat → Mapping} {index i count : Nat} {ms ms' : List Mapping}
    (filled : fill page index i count ms = some ms') : ms'.length = ms.length := by
  induction count generalizing i ms with
  | zero =>
      cases filled
      rfl
  | succ count ih =>
      obtain ⟨next, stored, rest⟩ := Option.bind_eq_some_iff.mp filled
      obtain ⟨_, rfl⟩ := storeAt_eq_some_iff.mp stored
      exact (ih rest).trans List.length_set

def withMappings (pages : PagedBuffers w indexBits) (ms : List Mapping) (same : ms.length = pages.mappings.length) :
    PagedBuffers w indexBits := ⟨ms, same.trans pages.full⟩

def filled (pages : PagedBuffers w indexBits) (page : Nat → Mapping) (index count : Nat) :
    Option (PagedBuffers w indexBits) :=
  match written : fill page index 0 count pages.mappings with
  | none => none
  | some ms => some (pages.withMappings ms (fill_length written))

/-- The part of a buffer that a page shows. -/
def pageOf (w indexBits : Nat) (buf : Pointer) (bytes i : Nat) : Mapping where
  buf := some (buf.advance (pageSize w indexBits / (w / 8) * i))
  size := bytes - pageSize w indexBits * i

/-- `none` where it writes outside of the array, and no address where it returns false. -/
def map (pages : PagedBuffers w indexBits) (buf : Pointer) (size : Nat) :
    Option (Option (PagedBuffers w indexBits × Cell w)) :=
  if size = 0 then some (some (pages, ~~~misalignMask w))
  else if 2 ^ w - 1 < size then some none
  else
    let bytes := sizeBytes w size
    match findRun (pagesFor w indexBits bytes) pages.mappings 0 0 with
    | none => some none
    | some index => do
        let pages ← pages.filled (pageOf w indexBits buf bytes) index (pagesFor w indexBits bytes)
        return some (pages, makeVa indexBits index)

def unmap (pages : PagedBuffers w indexBits) (va : Cell w) (size : Nat) : Option (PagedBuffers w indexBits) :=
  pages.filled (fun _ => .none_) (pageIndex indexBits va) (pagesFor w indexBits (sizeBytes w size))

end PagedBuffers

/-- `memory_backing_contignous_buffer`. -/
structure ContiguousBuffer where
  buf : Option Pointer
  size : Nat

namespace ContiguousBuffer
variable {w : Nat}

def empty : ContiguousBuffer := ⟨none, 0⟩

/-- Addresses inside a cell lead to the cell. -/
def translate (backing : ContiguousBuffer) (va : Cell w) : Option Pointer :=
  if backing.size ≤ va.toNat then none else backing.buf.map (·.advance (va.toNat / (w / 8)))

def map (w : Nat) (backing : ContiguousBuffer) (buf : Pointer) (size : Nat) : Option (ContiguousBuffer × Cell w) :=
  if backing.buf.isSome then none else some (⟨some buf, sizeBytes w size⟩, 0)

end ContiguousBuffer
end SyncRGB.Amx
