import Mathlib.Tactic.Ring
import SyncRGB.Pawn.Backings

/-! Pages and offsets of addresses as quotients and remainders, and what `map` and `unmap` make of buffers. -/
namespace SyncRGB.Amx
open HostMemory VectorEdit

/-- What the assertions about the sizes of cells and indices come to. -/
structure PageLayout (w indexBits : Nat) : Prop where
  inside : indexBits < w
  width : w ≤ 64
  cell : 0 < w / 8
  divides : w / 8 ∣ pageSize w indexBits

theorem cellBytes_toNat (w : Nat) : (cellBytes w).toNat = w / 8 := by
  rw [cellBytes, BitVec.toNat_ofNat]
  exact Nat.mod_eq_of_lt (Nat.lt_of_le_of_lt (Nat.div_le_self _ _) Nat.lt_two_pow_self)

theorem pageSize_pos (w indexBits : Nat) : 0 < pageSize w indexBits := Nat.two_pow_pos _

theorem pageSize_le (w indexBits : Nat) : pageSize w indexBits ≤ 2 ^ w :=
  Nat.pow_le_pow_right (by decide) (Nat.sub_le _ _)

section
variable {w indexBits : Nat}

theorem PageLayout.pow_eq (layout : PageLayout w indexBits) : 2 ^ w = 2 ^ indexBits * pageSize w indexBits := by
  rw [pageSize, pageBits, ← Nat.pow_add, Nat.add_sub_of_le (Nat.le_of_lt layout.inside)]

theorem pageIndex_eq (va : Cell w) : pageIndex indexBits va = va.toNat / pageSize w indexBits := by
  rw [pageIndex, BitVec.toNat_ushiftRight, Nat.shiftRight_eq_div_pow]
  rfl

theorem pageMask_toNat (inside : indexBits ≤ w) :
    ((BitVec.allOnes w <<< indexBits) >>> indexBits).toNat = pageSize w indexBits - 1 := by
  have whole : 2 ^ w = pageSize w indexBits * 2 ^ indexBits := by
    rw [pageSize, pageBits, ← Nat.pow_add, Nat.sub_add_cancel inside]
  have some_ : 0 < pageSize w indexBits := Nat.two_pow_pos _
  have low : 0 < 2 ^ indexBits := Nat.two_pow_pos _
  have shifted : (2 ^ w - 1) * 2 ^ indexBits % 2 ^ w = (pageSize w indexBits - 1) * 2 ^ indexBits := by
    have split : (2 ^ w - 1) * 2 ^ indexBits =
        (pageSize w indexBits - 1) * 2 ^ indexBits + 2 ^ w * (2 ^ indexBits - 1) := by
      obtain ⟨a, ha⟩ := Nat.exists_eq_add_of_lt some_
      obtain ⟨b, hb⟩ := Nat.exists_eq_add_of_lt low
      rw [whole, ha, hb]
      simp only [Nat.zero_add, Nat.add_sub_cancel]
      have expand : (a + 1) * (b + 1) - 1 = a * (b + 1) + b := by
        rw [Nat.add_mul, Nat.one_mul]
        omega
      rw [expand]
      ring
    rw [split, Nat.add_mul_mod_self_left, whole]
    apply Nat.mod_eq_of_lt
    exact Nat.mul_lt_mul_of_pos_right (Nat.sub_lt some_ Nat.one_pos) low
  rw [BitVec.toNat_ushiftRight, BitVec.toNat_shiftLeft, BitVec.toNat_allOnes, Nat.shiftLeft_eq, shifted,
    Nat.shiftRight_eq_div_pow, Nat.mul_div_cancel _ low]

theorem pageOffset_toNat (inside : indexBits ≤ w) (va : Cell w) :
    (pageOffset indexBits va).toNat = va.toNat % pageSize w indexBits := by
  rw [pageOffset, BitVec.toNat_and, pageMask_toNat inside]
  exact Nat.and_two_pow_sub_one_eq_mod _ _

variable (layout : PageLayout w indexBits)
include layout

theorem pageIndex_lt (va : Cell w) : pageIndex indexBits va < 2 ^ indexBits := by
  rw [pageIndex_eq, Nat.div_lt_iff_lt_mul (pageSize_pos w indexBits), ← layout.pow_eq]
  exact va.isLt

theorem makeVa_toNat {i : Nat} (small : i < 2 ^ indexBits) :
    (makeVa indexBits i : Cell w).toNat = i * pageSize w indexBits := by
  have fits : i * pageSize w indexBits < 2 ^ w := by
    rw [layout.pow_eq]
    exact Nat.mul_lt_mul_of_pos_right small (pageSize_pos w indexBits)
  have narrow : i < 2 ^ w := Nat.lt_of_le_of_lt (Nat.le_mul_of_pos_right _ (pageSize_pos w indexBits)) fits
  rw [makeVa, BitVec.toNat_shiftLeft, BitVec.toNat_ofNat, Nat.mod_eq_of_lt narrow, Nat.shiftLeft_eq]
  exact Nat.mod_eq_of_lt fits

theorem pageIndex_makeVa {i : Nat} (small : i < 2 ^ indexBits) : pageIndex indexBits (makeVa indexBits i : Cell w) = i := by
  rw [pageIndex_eq, makeVa_toNat layout small, Nat.mul_div_cancel _ (pageSize_pos w indexBits)]

/-- One page for up to a page of bytes, and none for none. -/
theorem pagesFor_one {bytes : Nat} (some_ : 0 < bytes) (page : bytes ≤ pageSize w indexBits) (pos : 0 < indexBits) :
    pagesFor w indexBits bytes = 1 := by
  have two : 2 * pageSize w indexBits ≤ 2 ^ w := by
    rw [layout.pow_eq]
    exact Nat.mul_le_mul_right _ (Nat.succ_le_of_lt (Nat.one_lt_two_pow (Nat.ne_of_gt pos)))
  have full := pageSize_pos w indexBits
  have fits : bytes + pageSize w indexBits - 1 < 2 ^ w := by omega
  rw [pagesFor, pageIndex_eq, BitVec.toNat_ofNat, Nat.mod_eq_of_lt fits, Nat.div_eq_iff full]
  omega

omit layout in
theorem pagesFor_zero : pagesFor w indexBits 0 = 0 := by
  have small : pageSize w indexBits - 1 < pageSize w indexBits := Nat.sub_lt (pageSize_pos w indexBits) Nat.one_pos
  have fits : pageSize w indexBits - 1 < 2 ^ w := Nat.lt_of_lt_of_le small (pageSize_le w indexBits)
  rw [pagesFor, pageIndex_eq, BitVec.toNat_ofNat, Nat.zero_add, Nat.mod_eq_of_lt fits]
  exact Nat.div_eq_of_lt small

end

namespace PagedBuffers
variable {w indexBits : Nat}

theorem filled_eq_some_iff {pages pages' : PagedBuffers w indexBits} {page : Nat → Mapping} {index count : Nat} :
    pages.filled page index count = some pages' ↔ fill page index 0 count pages.mappings = some pages'.mappings := by
  unfold filled
  split
  · rename_i none_
    rw [none_]
    exact iff_of_false nofun nofun
  · rename_i ms written
    constructor
    · intro same
      cases same
      exact written
    · intro same
      rw [written] at same
      cases pages'
      cases same
      rfl

/-- One page. -/
theorem fill_one (page : Nat → Mapping) {index : Nat} {ms : List Mapping} (here : index < ms.length) :
    fill page index 0 1 ms = some (ms.set index (page 0)) := by
  simp only [fill, storeAt, Nat.add_zero, if_pos here, Option.bind_eq_bind, Option.bind_some]

/-- With one page to map, the first free one is taken. -/
theorem findRun_one (ms : List Mapping) (index : Nat) :
    findRun 1 ms index 0 = (ms.findIdx? (·.buf.isNone)).map (· + index) := by
  induction ms generalizing index with
  | nil => rfl
  | cons m ms ih =>
      rw [findRun, List.findIdx?_cons]
      cases free : m.buf with
      | none => simp
      | some buf =>
          simp only [Option.isSome_some, if_true, Option.isNone_some, Bool.false_eq_true, if_false]
          rw [if_neg (by decide), ih, Option.map_map]
          cases ms.findIdx? (·.buf.isNone) with
          | none => rfl
          | some i => exact congrArg some (by simp only [Function.comp_apply]; omega)

section
variable (inside : indexBits ≤ w) {pages : PagedBuffers w indexBits} {va : Cell w} {p : Pointer}
include inside

theorem translate_eq_some_iff :
    pages.translate va = some p ↔ va % cellBytes w = 0 ∧ ∃ m buf, pages.mappings[pageIndex indexBits va]? = some m ∧
      m.buf = some buf ∧ va.toNat % pageSize w indexBits < m.size ∧
        p = buf.advance (va.toNat % pageSize w indexBits / (w / 8)) := by
  unfold translate
  rw [← pageOffset_toNat inside va]
  split_ifs with aligned
  · exact iff_of_false nofun fun both => aligned both.1
  · rw [and_iff_right (not_not.mp aligned)]
    cases pages.mappings[pageIndex indexBits va]? with
    | none => exact iff_of_false nofun fun ⟨m, _, found, _⟩ => nomatch found
    | some m =>
        cases mapped : m.buf with
        | none =>
            refine iff_of_false (by simp [mapped]) ?_
            rintro ⟨_, _, ⟨rfl⟩, found, _⟩
            exact absurd (mapped.symm.trans found) nofun
        | some buf =>
            simp only [mapped]
            split_ifs with beyond
            · refine iff_of_false nofun ?_
              rintro ⟨_, _, ⟨rfl⟩, _, within, _⟩
              exact absurd within (Nat.not_lt.mpr beyond)
            · constructor
              · rintro ⟨rfl⟩
                exact ⟨m, buf, rfl, mapped, Nat.not_le.mp beyond, rfl⟩
              · rintro ⟨_, _, ⟨rfl⟩, found, _, rfl⟩
                rw [mapped] at found
                cases found
                rfl

end

end PagedBuffers
theorem ContiguousBuffer.translate_eq_some_iff {w : Nat} {backing : ContiguousBuffer} {va : Cell w} {p : Pointer} :
    backing.translate va = some p ↔ va.toNat < backing.size ∧ ∃ buf, backing.buf = some buf ∧
      p = buf.advance (va.toNat / (w / 8)) := by
  unfold translate
  split_ifs with beyond
  · exact iff_of_false nofun fun both => absurd both.1 (Nat.not_lt.mpr beyond)
  · rw [Option.map_eq_some_iff, and_iff_right (Nat.not_le.mp beyond)]
    exact exists_congr fun buf => and_congr_right fun _ => eq_comm

end SyncRGB.Amx
