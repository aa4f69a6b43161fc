import SyncRGB.ByteCodec.Bounds

/-! Where the blocks of a description lie. A layout tells from the lengths and counts in a buffer
whether a block that starts at an offset lies inside, and where the next one starts; a decoder follows
it when it succeeds just then and stops just there. -/
namespace ByteCodec

structure Layout where
  fits : Bytes → Nat → Bool
  stop : Bytes → Nat → Nat

namespace Layout

def empty : Layout where
  fits _ _ := true
  stop _ p := p

/-- The next `n` bytes, whatever they are. Offsets have 32 bits. -/
def fixed (n : Nat) : Layout where
  fits buf p := p + n ≤ buf.length
  stop _ p := (p + n) % 2 ^ 32

/-- `n` bytes that are passed over without being looked at. -/
def skipped (n : Nat) : Layout where
  fits _ _ := true
  stop _ p := (p + n) % 2 ^ 32

/-- A text that ends somewhere inside the buffer; what follows stands `n` bytes on. -/
def terminated (n : Nat) : Layout where
  fits buf p := (buf.drop p).contains 0
  stop _ p := (p + n) % 2 ^ 32

def andThen (a b : Layout) : Layout where
  fits buf p := a.fits buf p && b.fits buf (a.stop buf p)
  stop buf p := b.stop buf (a.stop buf p)

def seq (ls : List Layout) : Layout := ls.foldr andThen empty

def times (l : Layout) (n : Nat) : Layout := seq (List.replicate n l)

/-- A field of `n` bytes whose value decides about what follows. -/
def field {β : Type} (n : Nat) (value : Bytes → β) (l : β → Layout) : Layout where
  fits buf p :=
    p + n ≤ buf.length && (l (value ((buf.drop p).take n))).fits buf ((p + n) % 2 ^ 32)
  stop buf p := (l (value ((buf.drop p).take n))).stop buf ((p + n) % 2 ^ 32)

/-- A text behind the 16-bit length that it announces. -/
def text : Layout := field 2 leValue terminated

/-- A 16-bit count and as many blocks. -/
def counted (l : Layout) : Layout := field 2 leValue l.times

def since (k v : Nat) (l : Layout) : Layout := if k ≤ v then l else empty

theorem field_andThen {β : Type} (n : Nat) (value : Bytes → β) (l : β → Layout) (b : Layout) :
    (field n value l).andThen b = field n value fun x => (l x).andThen b := by
  simp only [field, andThen, Bool.and_assoc]

@[simp] theorem seq_singleton (l : Layout) : seq [l] = l := by
  show l.andThen empty = l
  simp only [andThen, empty, Bool.and_true]

end Layout

namespace Reader
variable {α β γ : Type} {m : Reader α} {f : α → Reader β} {a b : Layout}

/-- The decoder needs the bytes of the layout and moves to its end. -/
def Follows (m : Reader α) (l : Layout) : Prop :=
  ∀ buf p, (l.fits buf p = true → ∃ x, m.exec buf p = some (x, l.stop buf p)) ∧
    (l.fits buf p = false → m.exec buf p = none)

theorem Follows.isSome_iff {l : Layout} (h : Follows m l) (buf : Bytes) (p : Nat) :
    (m.exec buf p).isSome ↔ l.fits buf p = true := by
  obtain ⟨inside, outside⟩ := h buf p
  cases fits : l.fits buf p with
  | true =>
      obtain ⟨x, run⟩ := inside fits
      simp only [run, Option.isSome_some]
  | false => simp only [outside fits, Option.isSome_none, Bool.false_eq_true]

theorem Follows.pure (x : α) : Follows (Pure.pure x) (.seq []) := by
  intro buf p
  exact ⟨fun _ => ⟨x, rfl⟩, fun outside => by cases outside⟩

/-- A decoder whose rest does not depend on the value as far as its bytes go. -/
theorem Follows.andThen (first : Follows m a) (rest : ∀ x, Follows (f x) b) :
    Follows (m >>= f) (a.andThen b) := by
  intro buf p
  obtain ⟨inside, outside⟩ := first buf p
  rw [exec_bind]
  cases fits : a.fits buf p with
  | true =>
      obtain ⟨x, run⟩ := inside fits
      simp only [run, Option.bind_some, Layout.andThen, fits, Bool.true_and]
      exact rest x buf (a.stop buf p)
  | false =>
      simp only [outside fits, Option.bind_none, Layout.andThen, fits, Bool.false_and]
      exact ⟨fun h => (Bool.noConfusion h), fun _ => trivial⟩

theorem Follows.bind {ls : List Layout} (first : Follows m a)
    (rest : ∀ x, Follows (f x) (.seq ls)) : Follows (m >>= f) (.seq (a :: ls)) :=
  first.andThen rest

theorem Follows.map {l : Layout} (h : Follows m l) (g : α → β) :
    Follows (do return g (← m)) l := by
  intro buf p
  obtain ⟨inside, outside⟩ := h buf p
  refine ⟨fun fits => ?_, fun fits => ?_⟩
  · obtain ⟨x, run⟩ := inside fits
    exact ⟨g x, by rw [exec_bind, run]; rfl⟩
  · rw [exec_bind, outside fits]
    rfl

theorem Follows.take (n : Nat) : Follows (take n) (.fixed n) := by
  intro buf p
  rw [exec_take]
  refine ⟨fun fits => ⟨_, if_pos (of_decide_eq_true fits)⟩, fun fits => ?_⟩
  exact if_neg (of_decide_eq_false fits)

theorem Follows.u32 : Follows u32 (.fixed 4) := (Follows.take 4).map u32Value
theorem Follows.i32 : Follows i32 (.fixed 4) := (Follows.take 4).map i32Value

theorem Follows.skip (n : Nat) : Follows (skip n) (.skipped n) := by
  intro buf p
  exact ⟨fun _ => ⟨(), rfl⟩, fun outside => by cases outside⟩

/-- A decoder that goes on by the value of a field. -/
theorem Follows.field {n : Nat} {value : Bytes → α} {l : α → Layout}
    (rest : ∀ x, Follows (f x) (l x)) :
    Follows ((do return value (← Reader.take n)) >>= f) (.field n value l) := by
  intro buf p
  simp only [exec_bind, exec_take, Layout.field]
  by_cases room : p + n ≤ buf.length
  · simp only [room, if_true, Option.bind_some, exec_pure, decide_true, Bool.true_and]
    exact rest _ buf _
  · simp only [room, if_false, Option.bind_none, decide_false, Bool.false_and]
    exact ⟨fun h => (Bool.noConfusion h), fun _ => trivial⟩

theorem Follows.string : Follows string .text := by
  apply Follows.field
  intro len buf p
  rw [exec_bind, exec_cstrAt]
  refine ⟨fun ends => ?_, fun open_ => ?_⟩
  · rw [if_pos (List.contains_iff_mem.mp ends)]
    exact ⟨_, rfl⟩
  · rw [if_neg fun ends => absurd (List.contains_iff_mem.mpr ends) (Bool.eq_false_iff.mp open_)]
    rfl

theorem Follows.vector {l : Layout} (h : Follows m l) (n : Nat) :
    Follows (vector m n) (l.times n) := by
  induction n with
  | zero => exact Follows.pure _
  | succ n ih => exact h.andThen fun x => ih.map (List.Vector.cons x)

theorem Follows.many {l : Layout} (h : Follows m l) (n : Nat) : Follows (many n m) (l.times n) :=
  (h.vector n).map List.Vector.toList

theorem Follows.since {l : Layout} (k v : Nat) (default : α) (h : Follows m l) :
    Follows (since k v m default) (.since k v l) := by
  unfold Reader.since Layout.since
  split_ifs
  · exact h
  · exact Follows.pure default

/-- A block that a 16-bit field decides about, with more behind it. -/
theorem Follows.sized {g : Nat → Reader α} {h : Nat → α → Reader β} {l : Nat → Layout}
    {ls : List Layout} (block : ∀ n, Follows (g n) (l n)) (rest : ∀ n x, Follows (h n x) (.seq ls)) :
    Follows (do let n ← u16; let x ← g n; h n x) (.seq (.field 2 leValue l :: ls)) := by
  show Follows _ ((Layout.field 2 leValue l).andThen (.seq ls))
  rw [Layout.field_andThen]
  exact Follows.field fun n => (block n).andThen (rest n)

theorem Follows.counted {h : Nat → List α → Reader β} {l : Layout} {ls : List Layout}
    (item : Follows m l) (rest : ∀ n xs, Follows (h n xs) (.seq ls)) :
    Follows (do let n ← u16; let xs ← Reader.many n m; h n xs) (.seq (.counted l :: ls)) :=
  Follows.sized item.many rest

end Reader
end ByteCodec
