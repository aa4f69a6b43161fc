import Mathlib.Data.Vector.Basic
import SyncRGB.ByteCodec.Bytes

/-! Decoders over a received buffer. A decoder sees the whole buffer and a
32-bit cursor; it answers `none` exactly when it would read outside the buffer. -/
namespace ByteCodec

abbrev Reader := ReaderT Bytes (StateT Nat Option)

namespace Reader
variable {α β : Type}

def exec (m : Reader α) (buf : Bytes) (p : Nat) : Option (α × Nat) := m buf p

/-- Copy `n` bytes out and advance; the cursor wraps at 32 bits. -/
def take (n : Nat) : Reader Bytes := fun buf p =>
  if p + n ≤ buf.length then some ((buf.drop p).take n, (p + n) % 2 ^ 32) else none

def skip (n : Nat) : Reader Unit := fun _ p => some ((), (p + n) % 2 ^ 32)

/-- The C string at the cursor, which is not moved. -/
def cstrAt : Reader Bytes := fun buf p =>
  if 0 ∈ buf.drop p then some (cstr (buf.drop p), p) else none

def peek (m : Reader α) : Reader α := fun buf p => (m buf p).map fun r => (r.1, p)

def fail : Reader α := fun _ _ => none

def u16 : Reader Nat := do return leValue (← take 2)
def u32 : Reader UInt32 := do return u32Value (← take 4)
def i32 : Reader Int32 := do return i32Value (← take 4)

/-- A 16-bit length, then a C string; the cursor advances by the length, not by the text. -/
def string : Reader Bytes := do
  let len ← u16
  let s ← cstrAt
  skip len
  return s

/-- A counted loop that appends one decoded item per turn. -/
def vector (m : Reader α) : (n : Nat) → Reader (List.Vector α n)
  | 0 => return List.Vector.nil
  | n+1 => do
      let x ← m
      let xs ← vector m n
      return List.Vector.cons x xs

def many (n : Nat) (m : Reader α) : Reader (List α) := do return (← vector m n).toList

def since (k v : Nat) (m : Reader α) (default : α) : Reader α :=
  if k ≤ v then m else return default

/-! ### Execution -/

@[simp] theorem exec_pure (a : α) (buf : Bytes) (p : Nat) :
    (pure a : Reader α).exec buf p = some (a, p) := rfl

@[simp] theorem exec_bind (m : Reader α) (f : α → Reader β) (buf : Bytes) (p : Nat) :
    (m >>= f).exec buf p = (m.exec buf p).bind fun r => (f r.1).exec buf r.2 := rfl

@[simp] theorem exec_fail (buf : Bytes) (p : Nat) : (fail : Reader α).exec buf p = none := rfl

@[simp] theorem exec_skip (n : Nat) (buf : Bytes) (p : Nat) :
    (skip n).exec buf p = some ((), (p + n) % 2 ^ 32) := rfl

theorem exec_take (n : Nat) (buf : Bytes) (p : Nat) :
    (take n).exec buf p =
      if p + n ≤ buf.length then some ((buf.drop p).take n, (p + n) % 2 ^ 32) else none := rfl

theorem exec_cstrAt (buf : Bytes) (p : Nat) :
    cstrAt.exec buf p = if 0 ∈ buf.drop p then some (cstr (buf.drop p), p) else none := rfl

/-! ### Reading back what was written -/

/-- Wherever `bs` stands in a buffer below 2^32 bytes, the decoder yields `a` and stops behind it. -/
def Reads (m : Reader α) (bs : Bytes) (a : α) : Prop :=
  ∀ pre post : Bytes, (pre ++ bs ++ post).length < 2 ^ 32 →
    m.exec (pre ++ bs ++ post) pre.length = some (a, pre.length + bs.length)

theorem Reads.pure (a : α) : Reads (Pure.pure a) [] a := by
  intro pre post _
  simp

theorem Reads.bind {m : Reader α} {f : α → Reader β} {bs cs : Bytes} {a : α} {b : β}
    (hm : Reads m bs a) (hf : Reads (f a) cs b) : Reads (m >>= f) (bs ++ cs) b := by
  intro pre post hlen
  have shape : pre ++ (bs ++ cs) ++ post = pre ++ bs ++ (cs ++ post) := by
    simp only [List.append_assoc]
  have first := hm pre (cs ++ post) (by rw [← shape]; exact hlen)
  have second := hf (pre ++ bs) post (by simpa only [List.append_assoc] using hlen)
  rw [exec_bind, shape, first]
  simp only [Option.bind_some]
  rw [List.length_append] at second
  rw [← List.append_assoc, second, List.length_append, Nat.add_assoc]

/-- Data that is nothing but `bs` is read to its end. -/
theorem Reads.whole {m : Reader α} {bs : Bytes} {a : α} (hm : Reads m bs a)
    (small : bs.length < 2 ^ 32) : m.exec bs 0 = some (a, bs.length) := by
  have run := hm [] [] (by simpa only [List.nil_append, List.append_nil] using small)
  simpa only [List.nil_append, List.append_nil, List.length_nil, Nat.zero_add] using run

theorem Reads.map {m : Reader α} {bs : Bytes} {a : α} (f : α → β) (hm : Reads m bs a) :
    Reads (do return f (← m)) bs (f a) := by
  have whole : Reads (m >>= fun x => Pure.pure (f x)) (bs ++ []) (f a) :=
    hm.bind (f := fun x => Pure.pure (f x)) (Reads.pure (f a))
  simpa only [List.append_nil] using whole

theorem Reads.take (bs : Bytes) : Reads (take bs.length) bs bs := by
  intro pre post hlen
  have inside : pre.length + bs.length ≤ (pre ++ bs ++ post).length := by
    simp only [List.length_append]; omega
  rw [exec_take, if_pos inside, List.append_assoc, List.drop_left, List.take_left]
  rw [List.append_assoc] at inside hlen
  rw [Nat.mod_eq_of_lt (by omega)]

theorem Reads.skip (bs : Bytes) : Reads (skip bs.length) bs () := by
  intro pre post hlen
  simp only [List.length_append] at hlen
  rw [exec_skip, Nat.mod_eq_of_lt (by omega)]

theorem Reads.u16 {n : Nat} (h : n < 2 ^ 16) : Reads u16 (le 2 n) n := by
  have back : leValue (le 2 n) = n := by
    rw [leValue_le]
    exact Nat.mod_eq_of_lt h
  have := (Reads.take (le 2 n)).map leValue
  rwa [back, le_length] at this

theorem Reads.u32 (x : UInt32) : Reads u32 (ByteCodec.u32 x) x := by
  have := (Reads.take (ByteCodec.u32 x)).map u32Value
  rwa [u32Value_u32, u32_length] at this

theorem Reads.i32 (x : Int32) : Reads i32 (ByteCodec.i32 x) x := by
  have := (Reads.take (ByteCodec.i32 x)).map i32Value
  rwa [i32Value_i32, i32_length] at this

/-- The text is found by its terminator and skipped by its announced length. -/
theorem Reads.string (s : Bytes) (h : strlen s < 2 ^ 16 - 1) :
    Reads string (le 2 (strlen s + 1) ++ (cstr s ++ [0])) (cstr s) := by
  refine (Reads.u16 (by omega)).bind ?_
  intro pre post hlen
  have text : (pre ++ (cstr s ++ [0]) ++ post).drop pre.length = cstr s ++ 0 :: post := by
    simp only [List.append_assoc, List.drop_left, List.singleton_append]
  have found : (0 : UInt8) ∈ (pre ++ (cstr s ++ [0]) ++ post).drop pre.length := by
    rw [text]; simp
  have width : (cstr s ++ [0]).length = strlen s + 1 := by
    simp only [List.length_append, List.length_singleton, strlen]
  have wrap : pre.length + (strlen s + 1) < 2 ^ 32 := by
    simp only [List.length_append] at hlen width ⊢; omega
  rw [exec_bind, exec_cstrAt, if_pos found, text, cstr_terminated]
  simp only [Option.bind_some, exec_bind, exec_skip, exec_pure, width, Nat.mod_eq_of_lt wrap]

theorem Reads.vector {m : Reader β} {enc : α → Bytes} {dec : α → β} {n : Nat}
    (xs : List.Vector α n) (h : ∀ x ∈ xs.toList, Reads m (enc x) (dec x)) :
    Reads (vector m n) (xs.toList.flatMap enc) (xs.map dec) := by
  induction n with
  | zero =>
      rw [List.Vector.eq_nil xs]
      exact Reads.pure _
  | succ n ih =>
      obtain ⟨x, ys, rfl⟩ := xs.exists_eq_cons
      simp only [List.Vector.toList_cons, List.mem_cons, forall_eq_or_imp] at h
      simp only [List.Vector.toList_cons, List.flatMap_cons, List.Vector.map_cons]
      exact h.1.bind ((ih ys h.2).map (List.Vector.cons (dec x)))

theorem Reads.many {m : Reader β} {enc : α → Bytes} {dec : α → β} {n : Nat} (xs : List α)
    (len : n = xs.length) (h : ∀ x ∈ xs, Reads m (enc x) (dec x)) :
    Reads (many n m) (xs.flatMap enc) (xs.map dec) := by
  subst len
  exact (Reads.vector (⟨xs, rfl⟩ : List.Vector α xs.length) h).map List.Vector.toList

theorem Reads.since {m : Reader α} {bs : Bytes} {a default : α} (k v : Nat)
    (h : k ≤ v → Reads m bs a) :
    Reads (since k v m default) (if k ≤ v then bs else []) (if k ≤ v then a else default) := by
  unfold Reader.since
  split
  · exact h ‹_›
  · exact Reads.pure _

/-- The decoder reads a front part of `bs` and leaves the rest. -/
def ReadsFront (m : Reader α) (bs : Bytes) (a : α) : Prop :=
  ∃ used rest, bs = used ++ rest ∧ Reads m used a

theorem Reads.front {m : Reader α} {bs : Bytes} {a : α} (h : Reads m bs a) : ReadsFront m bs a :=
  ⟨bs, [], (List.append_nil bs).symm, h⟩

theorem ReadsFront.bind {m : Reader α} {f : α → Reader β} {bs cs : Bytes} {a : α} {b : β}
    (hm : Reads m bs a) (hf : ReadsFront (f a) cs b) : ReadsFront (m >>= f) (bs ++ cs) b := by
  obtain ⟨used, rest, rfl, hf⟩ := hf
  exact ⟨bs ++ used, rest, (List.append_assoc bs used rest).symm, hm.bind hf⟩

end Reader
end ByteCodec
