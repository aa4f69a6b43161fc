import SyncRGB.Pawn.PageArithmetic
import SyncRGB.Transition.Run
import Mathlib.Data.List.Perm.Basic

/-! The pages as windows on the buffers that are mapped at the time: which cell an address leads to over any
sequence of `map` and `unmap`, as long as every buffer fits a page. -/
namespace SyncRGB.Amx
open HostMemory VectorEdit Transition
variable {w indexBits : Nat}

/-- A buffer with the address it is mapped at and its size in cells. -/
structure Window (w : Nat) where
  base : Cell w
  buf : Pointer
  size : Nat
deriving DecidableEq, Repr

/-- The cells of the buffer in order, from the address on. -/
def Window.Shows (x : Window w) (va : Cell w) (p : Pointer) : Prop :=
  ∃ k, k < x.size ∧ va.toNat = x.base.toNat + k * (w / 8) ∧ p = x.buf.advance k

structure AddressSpace (w indexBits : Nat) where
  pages : PagedBuffers w indexBits
  live : List (Window w)

inductive Request (w : Nat)
  | map (buf : Pointer) (size : Nat)
  | unmap (x : Window w)

/-- A buffer fits a page. The run of pages for a larger one would begin at the last of the free ones. -/
def FitsPage (w indexBits size : Nat) : Prop := size * (w / 8) ≤ pageSize w indexBits

def Request.Fits (indexBits : Nat) : Request w → Prop
  | .map _ size => FitsPage w indexBits size
  | .unmap _ => True

inductive AddressSpace.Step : AddressSpace w indexBits → Request w → AddressSpace w indexBits → Prop
  | mapped {s : AddressSpace w indexBits} {buf : Pointer} {size : Nat} {pages : PagedBuffers w indexBits}
      {va : Cell w} : s.pages.map buf size = some (some (pages, va)) →
      Step s (.map buf size) ⟨pages, ⟨va, buf, size⟩ :: s.live⟩
  | refused {s : AddressSpace w indexBits} {buf : Pointer} {size : Nat} : s.pages.map buf size = some none →
      Step s (.map buf size) s
  | unmapped {s : AddressSpace w indexBits} {x : Window w} {pages : PagedBuffers w indexBits} : x ∈ s.live →
      s.pages.unmap x.base x.size = some pages → Step s (.unmap x) ⟨pages, s.live.erase x⟩

instance (size : Nat) : Decidable (FitsPage w indexBits size) := inferInstanceAs (Decidable (_ ≤ _))

/-- The windows that begin at a page; those without cells do not. -/
def windowsAt (indexBits i : Nat) (live : List (Window w)) : List (Window w) :=
  live.filter fun x => x.size ≠ 0 ∧ x.base = makeVa indexBits i

/-- Each page shows its own window or none. -/
structure Represents (pages : PagedBuffers w indexBits) (live : List (Window w)) : Prop where
  page : ∀ i, i < 2 ^ indexBits → ∃ m, pages.mappings[i]? = some m ∧
    ((m = .none_ ∧ windowsAt indexBits i live = []) ∨
      ∃ x, windowsAt indexBits i live = [x] ∧ m = ⟨some x.buf, x.size * (w / 8)⟩)
  based : ∀ x ∈ live, x.size ≠ 0 → ∃ i, i < 2 ^ indexBits ∧ x.base = makeVa indexBits i
  fits : ∀ x ∈ live, FitsPage w indexBits x.size

theorem mem_windowsAt {i : Nat} {live : List (Window w)} {x : Window w} :
    x ∈ windowsAt indexBits i live ↔ x ∈ live ∧ x.size ≠ 0 ∧ x.base = makeVa indexBits i := by
  simp only [windowsAt, List.mem_filter, decide_eq_true_eq]

theorem represents_empty : Represents (PagedBuffers.empty : PagedBuffers w indexBits) [] where
  page _ small := ⟨.none_, List.getElem?_replicate_of_lt small, .inl ⟨rfl, rfl⟩⟩
  based _ none_ := nomatch none_
  fits _ none_ := nomatch none_

section
variable (layout : PageLayout w indexBits) {pages : PagedBuffers w indexBits} {live : List (Window w)}
include layout

theorem makeVa_inj {i j : Nat} (first : i < 2 ^ indexBits) (second : j < 2 ^ indexBits)
    (same : (makeVa indexBits i : Cell w) = makeVa indexBits j) : i = j := by
  rw [← pageIndex_makeVa layout first, same, pageIndex_makeVa layout second]

/-- A window shows an address of its own page, as far into it as the cell is into the buffer. -/
theorem Window.Shows.parts {x : Window w} {va : Cell w} {p : Pointer} {i : Nat} (shows_ : x.Shows va p)
    (small : i < 2 ^ indexBits) (base : x.base = makeVa indexBits i) (fits : FitsPage w indexBits x.size) :
    pageIndex indexBits va = i ∧ va.toNat % (w / 8) = 0 ∧ va.toNat % pageSize w indexBits < x.size * (w / 8) ∧
      p = x.buf.advance (va.toNat % pageSize w indexBits / (w / 8)) := by
  obtain ⟨k, within, at_, rfl⟩ := shows_
  rw [base, makeVa_toNat layout small] at at_
  have below : k * (w / 8) < x.size * (w / 8) := Nat.mul_lt_mul_of_pos_right within layout.cell
  have inPage : k * (w / 8) < pageSize w indexBits := Nat.lt_of_lt_of_le below fits
  have off : va.toNat % pageSize w indexBits = k * (w / 8) := by
    rw [at_, Nat.mul_comm i, Nat.mul_add_mod, Nat.mod_eq_of_lt inPage]
  refine ⟨?_, ?_, off ▸ below, ?_⟩
  · rw [pageIndex_eq, at_, Nat.mul_comm i, Nat.mul_add_div (pageSize_pos w indexBits), Nat.div_eq_of_lt inPage,
      Nat.add_zero]
  · obtain ⟨c, whole⟩ := layout.divides
    rw [at_, whole, ← Nat.mul_assoc, Nat.mul_comm i, Nat.mul_assoc, Nat.mul_add_mod, Nat.mul_mod_left]
  · rw [off, Nat.mul_div_cancel _ layout.cell]

omit layout in
theorem aligned_iff (va : Cell w) : va % cellBytes w = 0 ↔ va.toNat % (w / 8) = 0 := by
  rw [← BitVec.toNat_inj, BitVec.toNat_umod, cellBytes_toNat]
  rfl

/-- An address leads to the cell that a window shows there, and to none where no window does. -/
theorem Represents.translate_iff (represents : Represents pages live) (va : Cell w) (p : Pointer) :
    pages.translate va = some p ↔ ∃ x ∈ live, x.Shows va p := by
  have small := pageIndex_lt layout va
  rw [PagedBuffers.translate_eq_some_iff (Nat.le_of_lt layout.inside), aligned_iff]
  obtain ⟨m, found, page⟩ := represents.page _ small
  constructor
  · rintro ⟨aligned, m', buf, found', mapped, within, rfl⟩
    rw [found] at found'
    cases found'
    rcases page with ⟨rfl, _⟩ | ⟨x, here, rfl⟩
    · cases mapped
    · cases mapped
      have member : x ∈ windowsAt indexBits (pageIndex indexBits va) live := here ▸ List.mem_singleton_self x
      obtain ⟨in_, _, base⟩ := mem_windowsAt.mp member
      refine ⟨x, in_, va.toNat % pageSize w indexBits / (w / 8), ?_, ?_, rfl⟩
      · exact (Nat.div_lt_iff_lt_mul layout.cell).mpr within
      · have whole : w / 8 ∣ va.toNat % pageSize w indexBits :=
          (Nat.dvd_mod_iff layout.divides).mpr (Nat.dvd_of_mod_eq_zero aligned)
        rw [base, makeVa_toNat layout small, Nat.div_mul_cancel whole, pageIndex_eq, Nat.div_add_mod']
  · rintro ⟨x, in_, shows_⟩
    have some_ : x.size ≠ 0 := by
      obtain ⟨k, within, _⟩ := shows_
      exact Nat.ne_of_gt (Nat.lt_of_le_of_lt (Nat.zero_le _) within)
    obtain ⟨i, here, base⟩ := represents.based x in_ some_
    obtain ⟨index, aligned, within, rfl⟩ := shows_.parts layout here base (represents.fits x in_)
    have member : x ∈ windowsAt indexBits (pageIndex indexBits va) live := mem_windowsAt.mpr ⟨in_, some_, index ▸ base⟩
    rcases page with ⟨_, none_⟩ | ⟨y, only, rfl⟩
    · exact absurd (none_ ▸ member) List.not_mem_nil
    · rw [only, List.mem_singleton] at member
      subst member
      exact ⟨aligned, _, _, found, rfl, within, rfl⟩

/-- No address belongs to two windows. -/
theorem Represents.disjoint (represents : Represents pages live) {x y : Window w} (first : x ∈ live)
    (second : y ∈ live) {va : Cell w} {p q : Pointer} (shows_ : x.Shows va p) (again : y.Shows va q) : x = y := by
  have here (z : Window w) (r : Pointer) (in_ : z ∈ live) (shown : z.Shows va r) :
      z ∈ windowsAt indexBits (pageIndex indexBits va) live := by
    have some_ : z.size ≠ 0 := by
      obtain ⟨k, within, _⟩ := shown
      exact Nat.ne_of_gt (Nat.lt_of_le_of_lt (Nat.zero_le _) within)
    obtain ⟨i, small, base⟩ := represents.based z in_ some_
    exact mem_windowsAt.mpr ⟨in_, some_, (shown.parts layout small base (represents.fits z in_)).1 ▸ base⟩
  obtain ⟨m, _, page⟩ := represents.page _ (pageIndex_lt layout va)
  rcases page with ⟨_, none_⟩ | ⟨z, only, _⟩
  · exact absurd (none_ ▸ here x p first shows_) List.not_mem_nil
  · have one := here x p first shows_
    have two := here y q second again
    rw [only, List.mem_singleton] at one two
    rw [one, two]

variable (several : 0 < indexBits)
include several

/-- What fits a page is counted without overflow. -/
theorem FitsPage.small {size : Nat} (fits : FitsPage w indexBits size) :
    ¬ 2 ^ w - 1 < size ∧ sizeBytes w size = size * (w / 8) := by
  have two : 2 * pageSize w indexBits ≤ 2 ^ w := by
    rw [layout.pow_eq]
    exact Nat.mul_le_mul_right _ (Nat.succ_le_of_lt (Nat.one_lt_two_pow (Nat.ne_of_gt several)))
  have wide : 2 ^ w ≤ 2 ^ 64 := Nat.pow_le_pow_right (by decide) layout.width
  have cells : size ≤ size * (w / 8) := Nat.le_mul_of_pos_right _ layout.cell
  have bytes : size * (w / 8) ≤ pageSize w indexBits := fits
  have some_ := pageSize_pos w indexBits
  refine ⟨by omega, Nat.mod_eq_of_lt ?_⟩
  omega

omit layout several in
theorem filled_one (pages : PagedBuffers w indexBits) (page : Nat → Mapping) {i : Nat} (small : i < 2 ^ indexBits) :
    ∃ pages', pages.filled page i 1 = some pages' ∧ pages'.mappings = pages.mappings.set i (page 0) := by
  have here : i < pages.mappings.length := pages.full ▸ small
  refine ⟨pages.withMappings _ List.length_set, ?_, rfl⟩
  exact PagedBuffers.filled_eq_some_iff.mpr (PagedBuffers.fill_one page here)

/-- The first free page is taken, and none is refused that is free. -/
theorem map_cases {buf : Pointer} {size : Nat} (fits : FitsPage w indexBits size) (some_ : size ≠ 0) :
    ((∀ m ∈ pages.mappings, m.buf.isSome) ∧ pages.map buf size = some none) ∨
      ∃ i pages', i < 2 ^ indexBits ∧ (∀ m, pages.mappings[i]? = some m → m.buf = none) ∧
        pages'.mappings = pages.mappings.set i ⟨some buf, size * (w / 8)⟩ ∧
          pages.map buf size = some (some (pages', makeVa indexBits i)) := by
  obtain ⟨narrow, bytes⟩ := fits.small layout several
  have one := pagesFor_one layout (Nat.mul_pos (Nat.pos_of_ne_zero some_) layout.cell) fits several
  rw [PagedBuffers.map, if_neg some_, if_neg narrow]
  simp only [bytes, one, PagedBuffers.findRun_one, Nat.add_zero, Option.map_id_fun', id]
  cases found : pages.mappings.findIdx? (·.buf.isNone) with
  | none =>
      refine .inl ⟨fun m in_ => ?_, rfl⟩
      have taken := List.findIdx?_eq_none_iff.mp found m in_
      rwa [Option.isNone_eq_false_iff] at taken
  | some i =>
      obtain ⟨here, free, _⟩ := List.findIdx?_eq_some_iff_getElem.mp found
      have small : i < 2 ^ indexBits := pages.full ▸ here
      obtain ⟨pages', written, is_⟩ := filled_one pages (PagedBuffers.pageOf w indexBits buf (size * (w / 8))) small
      refine .inr ⟨i, pages', small, fun m at_ => ?_, ?_, ?_⟩
      · rw [List.getElem?_eq_getElem here] at at_
        cases at_
        exact Option.isNone_iff_eq_none.mp free
      · rw [is_]
        rfl
      · simp only [written]
        rfl

theorem unmap_cases {x : Window w} (fits : FitsPage w indexBits x.size) :
    (x.size = 0 ∧ pages.unmap x.base x.size = some pages) ∨
      (x.size ≠ 0 ∧ ∃ pages', pages'.mappings = pages.mappings.set (pageIndex indexBits x.base) .none_ ∧
        pages.unmap x.base x.size = some pages') := by
  rw [PagedBuffers.unmap, (fits.small layout several).2]
  rcases Nat.eq_zero_or_pos x.size with zero | some_
  · rw [zero, Nat.zero_mul, pagesFor_zero]
    exact .inl ⟨rfl, PagedBuffers.filled_eq_some_iff.mpr rfl⟩
  · rw [pagesFor_one layout (Nat.mul_pos some_ layout.cell) fits several]
    obtain ⟨pages', written, is_⟩ := filled_one pages (fun _ => .none_) (pageIndex_lt layout x.base)
    exact .inr ⟨Nat.ne_of_gt some_, pages', is_, written⟩

omit several in
/-- A window that a free page gets is the only one there. -/
theorem Represents.mapped (represents : Represents pages live) {pages' : PagedBuffers w indexBits} {buf : Pointer}
    {size i : Nat} (fits : FitsPage w indexBits size) (some_ : size ≠ 0) (small : i < 2 ^ indexBits)
    (free : ∀ m, pages.mappings[i]? = some m → m.buf = none)
    (now : pages'.mappings = pages.mappings.set i ⟨some buf, size * (w / 8)⟩) :
    Represents pages' (⟨makeVa indexBits i, buf, size⟩ :: live) where
  page j other := by
    obtain ⟨m, found, page⟩ := represents.page j other
    rw [now]
    by_cases same : i = j
    · subst same
      have none_ := free m found
      have alone : windowsAt indexBits i live = [] := by
        rcases page with ⟨_, alone⟩ | ⟨x, _, rfl⟩
        · exact alone
        · cases none_
      refine ⟨_, List.getElem?_set_self (pages.full ▸ small), .inr ⟨⟨makeVa indexBits i, buf, size⟩, ?_, rfl⟩⟩
      unfold windowsAt at alone ⊢
      rw [List.filter_cons_of_pos (by simp [some_]), alone]
    · refine ⟨m, (List.getElem?_set_ne same).trans found, ?_⟩
      have elsewhere : windowsAt indexBits j (⟨makeVa indexBits i, buf, size⟩ :: live) = windowsAt indexBits j live := by
        apply List.filter_cons_of_neg
        simp only [decide_eq_true_eq, not_and]
        exact fun _ base => same (makeVa_inj layout small other base)
      rwa [elsewhere]
  based x in_ cells := by
    rcases List.mem_cons.mp in_ with rfl | before
    · exact ⟨i, small, rfl⟩
    · exact represents.based x before cells
  fits x in_ := by
    rcases List.mem_cons.mp in_ with rfl | before
    · exact fits
    · exact represents.fits x before

omit layout several in
theorem windowsAt_erase (i : Nat) (live : List (Window w)) (x : Window w) :
    windowsAt indexBits i (live.erase x) = (windowsAt indexBits i live).erase x := List.erase_filter.symm

omit several in
theorem Represents.unmapped (represents : Represents pages live) {pages' : PagedBuffers w indexBits} {x : Window w}
    (in_ : x ∈ live) (some_ : x.size ≠ 0)
    (now : pages'.mappings = pages.mappings.set (pageIndex indexBits x.base) .none_) :
    Represents pages' (live.erase x) where
  page j small := by
    obtain ⟨m, found, page⟩ := represents.page j small
    obtain ⟨i, here, base⟩ := represents.based x in_ some_
    rw [now, base, pageIndex_makeVa layout here, windowsAt_erase]
    by_cases same : i = j
    · subst same
      have member : x ∈ windowsAt indexBits i live := mem_windowsAt.mpr ⟨in_, some_, base⟩
      refine ⟨.none_, List.getElem?_set_self (pages.full ▸ small), .inl ⟨rfl, ?_⟩⟩
      rcases page with ⟨_, none_⟩ | ⟨y, only, _⟩
      · exact absurd (none_ ▸ member) List.not_mem_nil
      · rw [only, List.mem_singleton] at member
        rw [only, member, List.erase_cons_head]
    · refine ⟨m, (List.getElem?_set_ne same).trans found, ?_⟩
      rw [List.erase_of_not_mem]
      · exact page
      · intro member
        exact same (makeVa_inj layout here small (base ▸ (mem_windowsAt.mp member).2.2))
  based y at_ := represents.based y (List.mem_of_mem_erase at_)
  fits y at_ := represents.fits y (List.mem_of_mem_erase at_)

omit layout several in
/-- Windows without cells take no page. -/
theorem Represents.without {pages : PagedBuffers w indexBits} {live live' : List (Window w)}
    (represents : Represents pages live)
    (same : ∀ i, windowsAt indexBits i live' = windowsAt indexBits i live) (fits : ∀ x ∈ live', FitsPage w indexBits x.size)
    (based : ∀ x ∈ live', x.size ≠ 0 → x ∈ live) : Represents pages live' where
  page i small := by
    rw [same]
    exact represents.page i small
  based x in_ cells := represents.based x (based x in_ cells) cells
  fits := fits

theorem AddressSpace.Step.represents {s t : AddressSpace w indexBits} {r : Request w} (step : Step s r t)
    (requested : r.Fits indexBits) (represents : Represents s.pages s.live) : Represents t.pages t.live := by
  cases step with
  | @mapped buf size pages va served =>
      have fits : FitsPage w indexBits size := requested
      by_cases some_ : size = 0
      · subst some_
        cases served
        apply represents.without
        · exact fun i => List.filter_cons_of_neg (by simp)
        · intro x in_
          rcases List.mem_cons.mp in_ with rfl | before
          · exact fits
          · exact represents.fits x before
        · intro x in_ cells
          rcases List.mem_cons.mp in_ with rfl | before
          · exact absurd rfl cells
          · exact before
      · rcases map_cases layout several fits some_ with ⟨_, refused⟩ | ⟨i, pages', small, free, now, mapped⟩
        · rw [refused] at served
          cases served
        · rw [mapped] at served
          cases served
          exact represents.mapped layout fits some_ small free now
  | refused => exact represents
  | @unmapped x pages in_ done =>
      rcases unmap_cases layout several (represents.fits x in_) with ⟨zero, same⟩ | ⟨some_, pages', now, mapped⟩
      · rw [same] at done
        cases done
        apply represents.without
        · intro i
          rw [windowsAt_erase]
          apply List.erase_of_not_mem
          exact fun member => (mem_windowsAt.mp member).2.1 zero
        · exact fun y at_ => represents.fits y (List.mem_of_mem_erase at_)
        · exact fun y at_ _ => List.mem_of_mem_erase at_
      · rw [mapped] at done
        cases done
        exact represents.unmapped layout in_ some_ now

/-- A buffer is refused only where a window begins at each of the pages. -/
theorem Represents.refused (represents : Represents pages live) {buf : Pointer} {size : Nat}
    (fits : FitsPage w indexBits size) (refused : pages.map buf size = some none) :
    ∀ i, i < 2 ^ indexBits → ∃ x ∈ live, x.size ≠ 0 ∧ x.base = makeVa indexBits i := by
  have some_ : size ≠ 0 := by
    rintro rfl
    cases refused
  intro i small
  obtain ⟨m, found, page⟩ := represents.page i small
  rcases map_cases layout several fits some_ with ⟨taken, _⟩ | ⟨_, _, _, _, _, mapped⟩
  · rcases page with ⟨rfl, _⟩ | ⟨x, here, _⟩
    · cases taken _ (List.mem_of_getElem? found)
    · obtain ⟨in_, cells, base⟩ := mem_windowsAt.mp (here ▸ List.mem_singleton_self x : x ∈ windowsAt indexBits i live)
      exact ⟨x, in_, cells, base⟩
  · rw [mapped] at refused
    cases refused

/-- `map` and `unmap` write inside of the array. -/
theorem map_defined (pages : PagedBuffers w indexBits) (buf : Pointer) {size : Nat} (fits : FitsPage w indexBits size) :
    ∃ result, pages.map buf size = some result := by
  by_cases some_ : size = 0
  · subst some_
    exact ⟨_, rfl⟩
  · rcases map_cases layout several fits some_ with ⟨_, refused⟩ | ⟨_, _, _, _, _, mapped⟩
    · exact ⟨_, refused⟩
    · exact ⟨_, mapped⟩

theorem unmap_defined (pages : PagedBuffers w indexBits) {x : Window w} (fits : FitsPage w indexBits x.size) :
    ∃ pages', pages.unmap x.base x.size = some pages' := by
  rcases unmap_cases layout several fits with ⟨_, same⟩ | ⟨_, pages', _, unmapped⟩
  · exact ⟨pages, same⟩
  · exact ⟨pages', unmapped⟩

/-- The requests whose buffers fit a page. -/
def AddressSpace.Paged : AddressSpace w indexBits → Request w → AddressSpace w indexBits → Prop :=
  Guarded (fun _ r => r.Fits indexBits) Step

theorem reached_represents {s : AddressSpace w indexBits} {rs : List (Request w)}
    (run : Run AddressSpace.Paged ⟨.empty, []⟩ rs s) : Represents s.pages s.live :=
  run.invariant (fun _ _ _ before step => step.2.represents layout several step.1 before) represents_empty

/-- In every run of requests for buffers that fit a page, an address leads to the window that shows it, no two windows
show one address, a buffer is refused only when a window begins at each page, and each window can be unmapped. -/
theorem addresses_lead_to_live_windows {s : AddressSpace w indexBits} {rs : List (Request w)}
    (run : Run AddressSpace.Paged ⟨.empty, []⟩ rs s) :
    (∀ va p, s.pages.translate va = some p ↔ ∃ x ∈ s.live, x.Shows va p) ∧
      (∀ x ∈ s.live, ∀ y ∈ s.live, ∀ va p q, x.Shows va p → y.Shows va q → x = y) ∧
      (∀ buf size, FitsPage w indexBits size → ∃ result, s.pages.map buf size = some result ∧
        (result = none → ∀ i, i < 2 ^ indexBits → ∃ x ∈ s.live, x.size ≠ 0 ∧ x.base = makeVa indexBits i)) ∧
      ∀ x ∈ s.live, ∃ pages, s.pages.unmap x.base x.size = some pages := by
  have represents := reached_represents layout several run
  refine ⟨represents.translate_iff layout, ?_, ?_, ?_⟩
  · exact fun x first y second va p q shows_ again => represents.disjoint layout first second shows_ again
  · intro buf size fits
    obtain ⟨result, served⟩ := map_defined layout several s.pages buf fits
    refine ⟨result, served, ?_⟩
    rintro rfl
    exact represents.refused layout several fits served
  · exact fun x in_ => unmap_defined layout several s.pages (represents.fits x in_)

end

theorem driver_pages : PageLayout 64 5 := ⟨by decide, by decide, by decide, ⟨2 ^ 56, by decide⟩⟩

/-- Two buffers in the driver's address space, the first of which is unmapped again. -/
theorem addresses_lead_to_live_windows_of_driver :
    ∃ s : AddressSpace 64 5, s.live = [⟨makeVa 5 1, ⟨1, 0⟩, 4⟩] ∧
      ∀ va p, s.pages.translate va = some p ↔ ∃ x ∈ s.live, x.Shows va p := by
  obtain ⟨one, two, three, first, second, last⟩ : ∃ one two three : PagedBuffers 64 5,
      PagedBuffers.empty.map ⟨0, 0⟩ 2 = some (some (one, 0)) ∧
        one.map ⟨1, 0⟩ 4 = some (some (two, makeVa 5 1)) ∧ two.unmap 0 2 = some three :=
    ⟨_, _, _, rfl, rfl, rfl⟩
  have fits (buf : Pointer) {size : Nat} (small : FitsPage 64 5 size) :
      (Request.map buf size : Request 64).Fits 5 := small
  have run : Run AddressSpace.Paged ⟨.empty, []⟩ [.map ⟨0, 0⟩ 2, .map ⟨1, 0⟩ 4, .unmap ⟨0, ⟨0, 0⟩, 2⟩]
      ⟨three, [⟨makeVa 5 1, ⟨1, 0⟩, 4⟩]⟩ := by
    refine .cons ⟨fits _ (by decide), .mapped first⟩ (.cons ⟨fits _ (by decide), .mapped second⟩
      (.cons ⟨trivial, ?_⟩ (.nil _)))
    exact .unmapped (List.mem_cons_of_mem _ (List.mem_singleton_self _)) last
  exact ⟨_, rfl, (addresses_lead_to_live_windows driver_pages (by decide) run).1⟩

end SyncRGB.Amx
