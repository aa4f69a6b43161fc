import SyncRGB.ByteCodec.Reader

/-! Which bytes a decoder touches. A decoder succeeds just when the buffer holds
the bytes its fields need, and those needs are stated by offsets. -/
namespace ByteCodec

def field16 (buf : Bytes) (p : Nat) : Nat := leValue ((buf.drop p).take 2)

def field32 (buf : Bytes) (p : Nat) : UInt32 := u32Value ((buf.drop p).take 4)

theorem field16_lt (buf : Bytes) (p : Nat) : field16 buf p < 2 ^ 16 := by
  have bound := leValue_lt ((buf.drop p).take 2)
  have short : ((buf.drop p).take 2).length ≤ 2 := List.length_take_le 2 _
  have grow : 256 ^ ((buf.drop p).take 2).length ≤ 256 ^ 2 := Nat.pow_le_pow_right (by decide) short
  exact bound.trans_le grow

namespace Reader
variable {α β : Type} {buf : Bytes} {p n : Nat}

theorem exec_bind_eq_some {m : Reader α} {f : α → Reader β} {b : β} {r : Nat} :
    (m >>= f).exec buf p = some (b, r) ↔
      ∃ a q, m.exec buf p = some (a, q) ∧ (f a).exec buf q = some (b, r) := by
  rw [exec_bind, Option.bind_eq_some_iff]
  constructor
  · rintro ⟨⟨a, q⟩, first, second⟩
    exact ⟨a, q, first, second⟩
  · rintro ⟨a, q, first, second⟩
    exact ⟨(a, q), first, second⟩

/-- Descriptions start with their own size, which decoders pass over. -/
theorem exec_skip_size (f : Unit → Reader β) : (skip 4 >>= f).exec buf 0 = (f ()).exec buf 4 := rfl

section Small
variable (small : buf.length < 2 ^ 32)
include small

theorem exec_take_small (n : Nat) : (take n).exec buf p =
    if p + n ≤ buf.length then some ((buf.drop p).take n, p + n) else none := by
  rw [exec_take]
  split_ifs with room
  · rw [Nat.mod_eq_of_lt (by omega)]
  · rfl

theorem exec_u16 : u16.exec buf p =
    if p + 2 ≤ buf.length then some (field16 buf p, p + 2) else none := by
  show ((take 2).exec buf p).bind _ = _
  rw [exec_take_small small]
  split_ifs <;> rfl

theorem exec_u32 : u32.exec buf p =
    if p + 4 ≤ buf.length then some (field32 buf p, p + 4) else none := by
  show ((take 4).exec buf p).bind _ = _
  rw [exec_take_small small]
  split_ifs <;> rfl

theorem exec_i32 : i32.exec buf p =
    if p + 4 ≤ buf.length then some ((field32 buf p).toInt32, p + 4) else none := by
  show ((take 4).exec buf p).bind _ = _
  rw [exec_take_small small]
  split_ifs <;> rfl

end Small

/-- The text has to end inside the buffer; the cursor moves by the announced length. -/
theorem exec_string (small : buf.length < 2 ^ 32) (low : p + 2 + 2 ^ 16 ≤ 2 ^ 32) :
    string.exec buf p =
      if p + 2 ≤ buf.length ∧ 0 ∈ buf.drop (p + 2) then
        some (cstr (buf.drop (p + 2)), p + 2 + field16 buf p)
      else none := by
  have len := field16_lt buf p
  have wrap : (p + 2 + field16 buf p) % 2 ^ 32 = p + 2 + field16 buf p :=
    Nat.mod_eq_of_lt (by omega)
  rw [string, exec_bind, exec_u16 small]
  by_cases room : p + 2 ≤ buf.length
  · rw [if_pos room, Option.bind_some, exec_bind, exec_cstrAt]
    by_cases ends : 0 ∈ buf.drop (p + 2)
    · rw [if_pos ends, if_pos ⟨room, ends⟩, Option.bind_some, exec_bind, exec_skip, wrap]
      rfl
    · rw [if_neg ends, if_neg fun h => ends h.2]
      rfl
  · rw [if_neg room, if_neg fun h => room h.1]
    rfl

theorem isSome_bind_of {m : Reader α} {f : α → Reader β} {a : α} {q : Nat} {need : Prop}
    [Decidable need] (h : m.exec buf p = if need then some (a, q) else none) :
    ((m >>= f).exec buf p).isSome ↔ need ∧ ((f a).exec buf q).isSome := by
  rw [exec_bind, h]
  split_ifs with met
  · simp only [Option.bind_some, met, true_and]
  · simp only [Option.bind_none, Option.isSome_none, Bool.false_eq_true, met, false_and]

/-- The result of a bind is that of the rest, run on the field that was read. -/
theorem exec_rest {m : Reader α} {f : α → Reader β} {a : α} {b : β} {q r : Nat} {need : Prop}
    [Decidable need] (h : m.exec buf p = if need then some (a, q) else none)
    (run : (m >>= f).exec buf p = some (b, r)) : (f a).exec buf q = some (b, r) := by
  rw [exec_bind, h] at run
  split_ifs at run with met
  · exact run
  · cases run

theorem length_of_many {m : Reader α} {xs : List α} {r : Nat}
    (run : (many n m).exec buf p = some (xs, r)) : xs.length = n := by
  obtain ⟨v, q, -, last⟩ := exec_bind_eq_some.mp run
  obtain ⟨rfl, -⟩ := Prod.mk.inj (Option.some.inj last)
  exact v.toList_length

theorem isSome_map {m : Reader α} (f : α → β) :
    ((do return f (← m) : Reader β).exec buf p).isSome ↔ (m.exec buf p).isSome := by
  show ((m.exec buf p).bind _).isSome ↔ _
  cases m.exec buf p <;> rfl

theorem exec_peek_bind (m : Reader α) (k : Reader β) :
    (peek m >>= fun _ => k).exec buf p = if (m.exec buf p).isSome then k.exec buf p else none := by
  show ((m.exec buf p).map fun r => (r.1, p)).bind (fun r => k.exec buf r.2) = _
  cases m.exec buf p <;> rfl

theorem exec_peeked {m : Reader α} {k : Reader β} {b : β} {r : Nat}
    (run : (peek m >>= fun _ => k).exec buf p = some (b, r)) : k.exec buf p = some (b, r) := by
  rw [exec_peek_bind] at run
  split_ifs at run with read
  exact run

/-- The decoder needs exactly the next `n` bytes, whatever they are. -/
def Fixed (m : Reader α) (n : Nat) : Prop :=
  ∀ buf p, buf.length < 2 ^ 32 → p ≤ buf.length →
    (p + n ≤ buf.length → ∃ a, m.exec buf p = some (a, p + n)) ∧
      (¬ p + n ≤ buf.length → m.exec buf p = none)

theorem Fixed.u32 : Fixed u32 4 := by
  intro buf p small _
  rw [exec_u32 small]
  exact ⟨fun room => ⟨_, if_pos room⟩, fun room => if_neg room⟩

theorem Fixed.i32 : Fixed i32 4 := by
  intro buf p small _
  rw [exec_i32 small]
  exact ⟨fun room => ⟨_, if_pos room⟩, fun room => if_neg room⟩

theorem Fixed.since {m : Reader α} (k v : Nat) (default : α) (h : Fixed m n) :
    Fixed (since k v m default) (if k ≤ v then n else 0) := by
  intro buf p small inside
  unfold Reader.since
  split_ifs
  · exact h buf p small inside
  · exact ⟨fun _ => ⟨default, rfl⟩, fun room => absurd inside room⟩

theorem Fixed.isSome_bind {m : Reader α} {f : α → Reader β} {need : Prop} (h : Fixed m n)
    (small : buf.length < 2 ^ 32) (inside : p ≤ buf.length) (covers : need → p + n ≤ buf.length)
    (rest : p + n ≤ buf.length → ∀ a, ((f a).exec buf (p + n)).isSome ↔ need) :
    ((m >>= f).exec buf p).isSome ↔ need := by
  obtain ⟨fits, short⟩ := h buf p small inside
  rw [exec_bind]
  by_cases room : p + n ≤ buf.length
  · obtain ⟨a, run⟩ := fits room
    rw [run]
    exact rest room a
  · rw [short room]
    simpa using mt covers room

theorem isSome_many_u32 (small : buf.length < 2 ^ 32) (inside : p ≤ buf.length) (n : Nat) :
    ((many n u32).exec buf p).isSome ↔ p + 4 * n ≤ buf.length := by
  rw [many, isSome_map]
  induction n generalizing p with
  | zero => simpa [vector] using inside
  | succ n ih =>
      refine Fixed.isSome_bind Fixed.u32 small inside (by omega) fun room x => ?_
      rw [isSome_map, ih room]
      omega

end Reader
end ByteCodec
