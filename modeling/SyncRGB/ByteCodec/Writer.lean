import Mathlib.Algebra.BigOperators.Group.List.Basic
import Mathlib.Algebra.Order.BigOperators.Group.List
import SyncRGB.ByteCodec.Bytes

/-! Encoders that fill an allocated buffer. A field is one `Put`: the bytes that
are stored at the cursor and the step by which the cursor then advances. The two
differ when a length is kept in fewer bits than the text it measures. -/
namespace ByteCodec

structure Put where
  bytes : Bytes
  step : Nat
  deriving DecidableEq, Repr

namespace Put

/-- `memcpy` of a field, then an advance by its size. -/
def copy (bs : Bytes) : Put := ⟨bs, bs.length⟩

def u16 (n : Nat) : Put := copy (le 2 n)
def u32 (x : UInt32) : Put := copy (ByteCodec.u32 x)
def i32 (x : Int32) : Put := copy (ByteCodec.i32 x)

/-- `strcpy` stores the text and its terminator; the caller chooses the advance. -/
def strcpy (s : Bytes) (step : Nat) : Put := ⟨cstr s ++ [0], step⟩

/-- The cursor moves past exactly what was stored. -/
def Exact (q : Put) : Prop := q.step = q.bytes.length

theorem copy_exact (bs : Bytes) : (copy bs).Exact := rfl

@[simp] theorem copy_length (bs : Bytes) : (copy bs).bytes.length = bs.length := rfl
@[simp] theorem u16_length (n : Nat) : (u16 n).bytes.length = 2 := le_length 2 n
@[simp] theorem u32_length (x : UInt32) : (u32 x).bytes.length = 4 := ByteCodec.u32_length x
@[simp] theorem i32_length (x : Int32) : (i32 x).bytes.length = 4 := ByteCodec.i32_length x

@[simp] theorem strcpy_length (s : Bytes) (step : Nat) :
    (strcpy s step).bytes.length = strlen s + 1 := by
  simp only [strcpy, List.length_append, List.length_singleton, strlen]

end Put

/-- All stored bytes in order, as they stand when no field overruns its step. -/
def contents (qs : List Put) : Bytes := qs.flatMap Put.bytes

/-- How many bytes the stores copy. -/
def stored (qs : List Put) : Nat := (qs.map fun q => q.bytes.length).sum

/-- How far the cursor moves before any wrap. -/
def advance (qs : List Put) : Nat := (qs.map Put.step).sum

def sincePuts (k v : Nat) (qs : List Put) : List Put := if k ≤ v then qs else []

/-- Replace the bytes from offset `p` on. -/
def overwrite (buf : Bytes) (p : Nat) (bs : Bytes) : Bytes :=
  buf.take p ++ bs ++ buf.drop (p + bs.length)

/-- Perform the stores; `none` as soon as one of them leaves the buffer. -/
def fill : List Put → Bytes → Nat → Option (Bytes × Nat)
  | [], buf, p => some (buf, p)
  | q :: qs, buf, p =>
      if p + q.bytes.length ≤ buf.length then
        fill qs (overwrite buf p q.bytes) ((p + q.step) % 2 ^ 32)
      else none

section Sizes

@[simp] theorem contents_nil : contents [] = [] := rfl
@[simp] theorem contents_cons (q : Put) (qs : List Put) :
    contents (q :: qs) = q.bytes ++ contents qs := rfl
@[simp] theorem contents_append (qs rs : List Put) :
    contents (qs ++ rs) = contents qs ++ contents rs := List.flatMap_append

@[simp] theorem stored_nil : stored [] = 0 := rfl
@[simp] theorem stored_cons (q : Put) (qs : List Put) :
    stored (q :: qs) = q.bytes.length + stored qs := by simp [stored]
@[simp] theorem stored_append (qs rs : List Put) : stored (qs ++ rs) = stored qs + stored rs := by
  simp [stored]

theorem contents_length (qs : List Put) : (contents qs).length = stored qs := List.length_flatMap

@[simp] theorem advance_nil : advance [] = 0 := rfl
@[simp] theorem advance_cons (q : Put) (qs : List Put) :
    advance (q :: qs) = q.step + advance qs := by simp [advance]
@[simp] theorem advance_append (qs rs : List Put) :
    advance (qs ++ rs) = advance qs + advance rs := by simp [advance]

theorem stored_sincePuts (k v : Nat) (qs : List Put) :
    stored (sincePuts k v qs) = if k ≤ v then stored qs else 0 := by
  unfold sincePuts; split <;> rfl

theorem contents_sincePuts (k v : Nat) (qs : List Put) :
    contents (sincePuts k v qs) = if k ≤ v then contents qs else [] := by
  unfold sincePuts; split <;> rfl

theorem stored_flatMap {α : Type} (xs : List α) (f : α → List Put) :
    stored (xs.flatMap f) = (xs.map fun x => stored (f x)).sum := by
  induction xs with
  | nil => rfl
  | cons x xs ih => simp only [List.flatMap_cons, stored_append, ih, List.map_cons, List.sum_cons]

theorem contents_flatMap {α : Type} (xs : List α) (f : α → List Put) :
    contents (xs.flatMap f) = xs.flatMap fun x => contents (f x) := by
  simp only [contents, List.flatMap_assoc]

end Sizes

theorem overwrite_length {buf : Bytes} {p : Nat} {bs : Bytes} (h : p + bs.length ≤ buf.length) :
    (overwrite buf p bs).length = buf.length := by
  simp only [overwrite, List.length_append, List.length_take, List.length_drop]
  omega

theorem overwrite_take {buf : Bytes} {p : Nat} {bs : Bytes} (h : p + bs.length ≤ buf.length) :
    (overwrite buf p bs).take (p + bs.length) = buf.take p ++ bs := by
  have hp : (buf.take p ++ bs).length = p + bs.length := by
    simp only [List.length_append, List.length_take]; omega
  rw [overwrite, ← hp, List.take_left]

theorem overwrite_drop {buf : Bytes} {p : Nat} {bs : Bytes} (h : p + bs.length ≤ buf.length)
    (k : Nat) : (overwrite buf p bs).drop (p + bs.length + k) = buf.drop (p + bs.length + k) := by
  have hp : (buf.take p ++ bs).length = p + bs.length := by
    simp only [List.length_append, List.length_take]; omega
  rw [overwrite, ← List.drop_drop, ← hp, List.drop_left, List.drop_drop, hp]

/-- Exact stores that fit tile the buffer in order. -/
theorem fill_exact {qs : List Put} (exact : ∀ q ∈ qs, q.Exact) {buf : Bytes} {p : Nat}
    (small : buf.length < 2 ^ 32) (fits : p + stored qs ≤ buf.length) :
    fill qs buf p = some (buf.take p ++ contents qs ++ buf.drop (p + stored qs), p + stored qs) := by
  induction qs generalizing buf p with
  | nil => simp [fill]
  | cons q qs ih =>
      have head : q.step = q.bytes.length := exact q List.mem_cons_self
      rw [stored_cons] at fits
      have room : p + q.bytes.length ≤ buf.length := by omega
      have len := overwrite_length room
      have tail := @ih (fun r hr => exact r (List.mem_cons_of_mem q hr))
        (overwrite buf p q.bytes) (p + q.bytes.length) (by rw [len]; exact small)
        (by rw [len]; omega)
      rw [fill, if_pos room, head, Nat.mod_eq_of_lt (by omega), tail, overwrite_take room,
        overwrite_drop room]
      simp only [contents_cons, stored_cons, List.append_assoc, Nat.add_assoc]

/-- A run inside the buffer never wraps the cursor when no step exceeds its store. -/
theorem fill_cursor {qs : List Put} (short : ∀ q ∈ qs, q.step ≤ q.bytes.length) {buf out : Bytes}
    {p p' : Nat} (small : buf.length < 2 ^ 32) (h : fill qs buf p = some (out, p')) :
    p' = p + advance qs ∧ out.length = buf.length := by
  induction qs generalizing buf p with
  | nil =>
      obtain ⟨rfl, rfl⟩ : buf = out ∧ p = p' := by simpa [fill] using h
      exact ⟨rfl, rfl⟩
  | cons q qs ih =>
      rw [fill] at h
      split at h
      · rename_i room
        have step := short q List.mem_cons_self
        have len := overwrite_length room
        have rest := ih (fun r hr => short r (List.mem_cons_of_mem q hr)) (by rw [len]; exact small) h
        rw [Nat.mod_eq_of_lt (by omega), len] at rest
        exact ⟨by rw [rest.1, advance_cons, Nat.add_assoc], rest.2⟩
      · cases h

/-- Exact stores stay inside just when together they fit behind the cursor. -/
theorem fill_isSome_iff {qs : List Put} (exact : ∀ q ∈ qs, q.Exact) {buf : Bytes} {p : Nat}
    (small : buf.length < 2 ^ 32) (inside : p ≤ buf.length) :
    (fill qs buf p).isSome ↔ p + stored qs ≤ buf.length := by
  induction qs generalizing buf p with
  | nil => simpa [fill] using inside
  | cons q qs ih =>
      have head : q.step = q.bytes.length := exact q List.mem_cons_self
      rw [fill, stored_cons]
      split_ifs with room
      · have len := overwrite_length room
        rw [head, Nat.mod_eq_of_lt (by omega),
          ih (fun r hr => exact r (List.mem_cons_of_mem q hr)) (by rw [len]; exact small)
            (by rw [len]; exact room), len, Nat.add_assoc]
      · simp only [Option.isSome_none, Bool.false_eq_true, false_iff]
        omega

/-- When the steps add up to the stored bytes, every single step is exact. -/
theorem exact_of_advance_eq_stored {qs : List Put} (short : ∀ q ∈ qs, q.step ≤ q.bytes.length)
    (h : advance qs = stored qs) : ∀ q ∈ qs, q.Exact := by
  induction qs with
  | nil => exact fun q hq => absurd hq List.not_mem_nil
  | cons q qs ih =>
      have head := short q List.mem_cons_self
      have tail : ∀ r ∈ qs, r.step ≤ r.bytes.length := fun r hr => short r (List.mem_cons_of_mem q hr)
      have total : advance qs ≤ stored qs := List.sum_le_sum tail
      rw [advance_cons, stored_cons] at h
      intro r hr
      rcases List.mem_cons.mp hr with rfl | later
      · show r.step = r.bytes.length
        omega
      · exact ih tail (by omega) r later

/-- The stores copy exactly as many bytes as the buffer has, end at its end and stay inside,
just when each is exact and together they fill the buffer. -/
theorem fills_iff {qs : List Put} (short : ∀ q ∈ qs, q.step ≤ q.bytes.length) {buf : Bytes}
    (small : buf.length < 2 ^ 32) :
    (∃ out, fill qs buf 0 = some (out, buf.length) ∧ stored qs = buf.length) ↔
      (∀ q ∈ qs, q.Exact) ∧ stored qs = buf.length := by
  constructor
  · rintro ⟨out, run, total⟩
    have moved := (fill_cursor short small run).1
    refine ⟨exact_of_advance_eq_stored short ?_, total⟩
    omega
  · rintro ⟨exact, total⟩
    have run := fill_exact exact small (show 0 + stored qs ≤ buf.length by omega)
    rw [Nat.zero_add, total] at run
    exact ⟨_, run, total⟩

end ByteCodec
