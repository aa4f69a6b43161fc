import Mathlib.Data.List.Basic

/-! Words in a text, with blanks between them. A quote hides the blanks up to the next one; backslashes in front of a
quote stand for half as many, and an odd one for the quote itself. -/
namespace ByteCodec
variable {α : Type} [DecidableEq α]

structure Marks (α : Type) where
  isBlank : α → Bool
  quote : α
  backslash : α
  quote_ne : quote ≠ backslash
  quote_not_blank : isBlank quote = false

/-- The words that are read, the one that is being read with the backslashes at its end, and whether that is inside of
quotes. -/
structure WordState (α : Type) where
  words : List (List α)
  word : Option (List α × Nat)
  quoted : Bool

namespace Marks
variable (marks : Marks α)

def backslashes (n : Nat) : List α := List.replicate n marks.backslash

/-- The words of a text that ends here. -/
def spelled (s : WordState α) : List (List α) :=
  s.words ++ (s.word.map fun w => w.1 ++ marks.backslashes w.2).toList

def step (s : WordState α) (c : α) : WordState α :=
  let begun := s.word.getD ([], 0)
  if c = marks.backslash then { s with word := some (begun.1, begun.2 + 1) }
  else if c = marks.quote then
    let text := begun.1 ++ marks.backslashes (begun.2 / 2)
    if begun.2 % 2 = 0 then { s with word := some (text, 0), quoted := !s.quoted }
    else { s with word := some (text ++ [c], 0) }
  else if marks.isBlank c && !s.quoted then
    { s with words := marks.spelled s, word := none }
  else { s with word := some (begun.1 ++ marks.backslashes begun.2 ++ [c], 0) }

def read (s : WordState α) (text : List α) : WordState α := text.foldl marks.step s

def split (text : List α) : List (List α) := marks.spelled (marks.read ⟨[], none, false⟩ text)

/-- No mark that the words are split by. -/
def Plain (text : List α) : Prop := ∀ c ∈ text, c ≠ marks.quote ∧ marks.isBlank c = false

section
variable {marks} {words : List (List α)} {quoted : Bool}

theorem read_cons (s : WordState α) (c : α) (text : List α) :
    marks.read s (c :: text) = marks.read (marks.step s c) text := rfl

theorem read_append (s : WordState α) (front back : List α) :
    marks.read s (front ++ back) = marks.read (marks.read s front) back := List.foldl_append

omit [DecidableEq α] in
@[simp]
theorem backslashes_zero : marks.backslashes 0 = [] := rfl

omit [DecidableEq α] in
theorem backslashes_succ (n : Nat) : marks.backslashes (n + 1) = marks.backslashes n ++ [marks.backslash] :=
  List.replicate_succ'

theorem read_backslashes (text : List α) (n k : Nat) :
    marks.read ⟨words, some (text, n), quoted⟩ (marks.backslashes k) = ⟨words, some (text, n + k), quoted⟩ := by
  induction k generalizing n with
  | zero => rfl
  | succ k ih =>
      rw [backslashes, List.replicate_succ, read_cons]
      have counted : marks.step ⟨words, some (text, n), quoted⟩ marks.backslash =
          ⟨words, some (text, n + 1), quoted⟩ := if_pos rfl
      rw [counted]
      exact (ih (n + 1)).trans (by rw [Nat.add_right_comm, Nat.add_assoc])

theorem step_quote (text : List α) {n : Nat} (even : n % 2 = 0) :
    marks.step ⟨words, some (text, n), quoted⟩ marks.quote =
      ⟨words, some (text ++ marks.backslashes (n / 2), 0), !quoted⟩ := by
  rw [step, if_neg marks.quote_ne, if_pos rfl]
  exact if_pos even

theorem step_opening_quote :
    marks.step ⟨words, none, quoted⟩ marks.quote = ⟨words, some ([], 0), !quoted⟩ := by
  simp [step, marks.quote_ne, backslashes]

theorem step_literal_quote (text : List α) {n : Nat} (odd : n % 2 = 1) :
    marks.step ⟨words, some (text, n), quoted⟩ marks.quote =
      ⟨words, some (text ++ marks.backslashes (n / 2) ++ [marks.quote], 0), quoted⟩ := by
  rw [step, if_neg marks.quote_ne, if_pos rfl]
  exact if_neg (show ¬ n % 2 = 0 by omega)

theorem step_other (word : Option (List α × Nat)) {c : α} (other : c ≠ marks.backslash ∧ c ≠ marks.quote)
    (inside : marks.isBlank c = false ∨ quoted = true) :
    marks.step ⟨words, word, quoted⟩ c =
      ⟨words, some ((word.getD ([], 0)).1 ++ marks.backslashes (word.getD ([], 0)).2 ++ [c], 0), quoted⟩ := by
  rw [step, if_neg other.1, if_neg other.2, if_neg]
  rcases inside with full | within
  · simp [full]
  · simp [within]

theorem step_blank (word : Option (List α × Nat)) {c : α} (other : c ≠ marks.backslash ∧ c ≠ marks.quote)
    (blank : marks.isBlank c = true) :
    marks.step ⟨words, word, false⟩ c =
      ⟨marks.spelled ⟨words, word, false⟩, none, false⟩ := by
  rw [step, if_neg other.1, if_neg other.2, if_pos (by simp [blank])]

/-- Doubled backslashes in front of a quote that closes or opens. -/
theorem read_even (text rest : List α) (k : Nat) :
    marks.read ⟨words, some (text, 0), quoted⟩ (marks.backslashes (k * 2) ++ marks.quote :: rest) =
      marks.read ⟨words, some (text ++ marks.backslashes k, 0), !quoted⟩ rest := by
  have even : k * 2 % 2 = 0 := Nat.mul_mod_left k 2
  have half : k * 2 / 2 = k := Nat.mul_div_left k (by decide)
  rw [read_append, read_backslashes, Nat.zero_add, read_cons, step_quote text even, half]

/-- Doubled backslashes and one more, in front of a quote that stands for itself. -/
theorem read_odd (text rest : List α) (k : Nat) :
    marks.read ⟨words, some (text, 0), quoted⟩ (marks.backslashes (k * 2 + 1) ++ marks.quote :: rest) =
      marks.read ⟨words, some (text ++ marks.backslashes k ++ [marks.quote], 0), quoted⟩ rest := by
  have odd : (k * 2 + 1) % 2 = 1 := by omega
  have half : (k * 2 + 1) / 2 = k := by omega
  rw [read_append, read_backslashes, Nat.zero_add, read_cons, step_literal_quote text odd, half]

/-- Backslashes in front of something else. -/
theorem read_quoted_other (text rest : List α) (k : Nat) {c : α} (other : c ≠ marks.backslash ∧ c ≠ marks.quote) :
    marks.read ⟨words, some (text, 0), true⟩ (marks.backslashes k ++ c :: rest) =
      marks.read ⟨words, some (text ++ marks.backslashes k ++ [c], 0), true⟩ rest := by
  rw [read_append, read_backslashes, Nat.zero_add, read_cons, step_other _ other (.inr rfl)]
  rfl

/-- A plain text is read into the word as it is. -/
theorem spelled_read_plain {text : List α} (plain : marks.Plain text) (front : List α) (n : Nat) :
    marks.spelled (marks.read ⟨words, some (front, n), quoted⟩ text) =
        words ++ [front ++ marks.backslashes n ++ text] ∧
      (marks.read ⟨words, some (front, n), quoted⟩ text).quoted = quoted := by
  induction text generalizing front n with
  | nil => exact ⟨by simp [read, spelled], rfl⟩
  | cons c text ih =>
      obtain ⟨here, later⟩ := List.forall_mem_cons.mp plain
      rw [read_cons]
      by_cases slash : c = marks.backslash
      · have counted : marks.step ⟨words, some (front, n), quoted⟩ c = ⟨words, some (front, n + 1), quoted⟩ :=
          if_pos slash
        rw [counted]
        refine ⟨?_, (ih later front (n + 1)).2⟩
        rw [(ih later front (n + 1)).1, backslashes_succ, slash]
        simp
      · rw [step_other _ ⟨slash, here.1⟩ (.inl here.2)]
        refine ⟨?_, (ih later _ 0).2⟩
        rw [(ih later _ 0).1]
        simp [backslashes]

/-- A plain text begins a word. -/
theorem read_begin {text : List α} (plain : marks.Plain text) (some_ : text ≠ []) :
    marks.read ⟨words, none, quoted⟩ text = marks.read ⟨words, some ([], 0), quoted⟩ text := by
  cases text with
  | nil => exact absurd rfl some_
  | cons c text =>
      have here := plain c List.mem_cons_self
      rw [read_cons, read_cons]
      by_cases slash : c = marks.backslash
      · rw [step, step, if_pos slash, if_pos slash]
        rfl
      · rw [step_other _ ⟨slash, here.1⟩ (.inl here.2), step_other _ ⟨slash, here.1⟩ (.inl here.2)]
        rfl

/-- Text with neither quotes nor backslashes is read as it is inside of quotes. -/
theorem read_quoted_text {text rest : List α} (bare : ∀ c ∈ text, c ≠ marks.backslash ∧ c ≠ marks.quote)
    (front : List α) :
    marks.read ⟨words, some (front, 0), true⟩ (text ++ rest) =
      marks.read ⟨words, some (front ++ text, 0), true⟩ rest := by
  induction text generalizing front with
  | nil => rw [List.nil_append, List.append_nil]
  | cons c text ih =>
      obtain ⟨here, later⟩ := List.forall_mem_cons.mp bare
      have next : marks.read ⟨words, some (front, 0), true⟩ (marks.backslashes 0 ++ c :: (text ++ rest)) =
          marks.read ⟨words, some (front ++ marks.backslashes 0 ++ [c], 0), true⟩ (text ++ rest) :=
        read_quoted_other front (text ++ rest) 0 here
      rw [backslashes_zero, List.nil_append, List.append_nil] at next
      rw [List.cons_append, next, ih later, List.append_assoc]
      rfl

/-- Backslashes and then such text. -/
theorem read_quoted_run {text rest : List α} (bare : ∀ c ∈ text, c ≠ marks.backslash ∧ c ≠ marks.quote)
    (some_ : text ≠ []) (front : List α) (k : Nat) :
    marks.read ⟨words, some (front, 0), true⟩ (marks.backslashes k ++ (text ++ rest)) =
      marks.read ⟨words, some (front ++ marks.backslashes k ++ text, 0), true⟩ rest := by
  cases text with
  | nil => exact absurd rfl some_
  | cons c text =>
      obtain ⟨here, later⟩ := List.forall_mem_cons.mp bare
      rw [List.cons_append, read_quoted_other front (text ++ rest) k here, read_quoted_text later, List.append_assoc]
      rfl

/-! ### What has been read stays -/

omit [DecidableEq α] in
/-- The word of that number begins so. -/
def Begins (s : WordState α) (k : Nat) (front : List α) : Prop :=
  (∃ w, s.words[k]? = some w ∧ front <+: w) ∨
    (s.words.length = k ∧ ∃ w n, s.word = some (w, n) ∧ front <+: w)

theorem begins_step {s : WordState α} {k : Nat} {front : List α} (begins : Begins s k front) (c : α) :
    Begins (marks.step s c) k front := by
  rcases begins with ⟨w, at_, before⟩ | ⟨length, w, n, word, before⟩
  · have inside := (List.getElem?_eq_some_iff.mp at_).1
    refine .inl ⟨w, ?_, before⟩
    rw [step]
    split_ifs
    · exact at_
    · exact at_
    · exact at_
    · rw [spelled, List.getElem?_append_left inside]
      exact at_
    · exact at_
  · rw [step, word]
    dsimp only [Option.getD_some]
    split_ifs
    · exact .inr ⟨length, _, _, rfl, before⟩
    · exact .inr ⟨length, _, _, rfl, before.trans (List.prefix_append _ _)⟩
    · exact .inr ⟨length, _, _, rfl, (before.trans (List.prefix_append _ _)).trans (List.prefix_append _ _)⟩
    · refine .inl ⟨w ++ marks.backslashes n, ?_, before.trans (List.prefix_append _ _)⟩
      rw [spelled, word, ← length, List.getElem?_append_right (Nat.le_refl _), Nat.sub_self]
      rfl
    · exact .inr ⟨length, _, _, rfl, (before.trans (List.prefix_append _ _)).trans (List.prefix_append _ _)⟩

variable (marks) in
theorem begins_read {s : WordState α} {k : Nat} {front : List α} (begins : Begins s k front) (text : List α) :
    Begins (marks.read s text) k front := by
  induction text generalizing s with
  | nil => exact begins
  | cons c text ih => exact ih (begins_step begins c)

theorem words_prefix_step (s : WordState α) (c : α) : s.words <+: (marks.step s c).words := by
  rw [step]
  split_ifs
  · exact List.prefix_rfl
  · exact List.prefix_rfl
  · exact List.prefix_rfl
  · exact List.prefix_append _ _
  · exact List.prefix_rfl

/-- The words before the one that is being read stay. -/
theorem words_prefix_spelled (s : WordState α) (text : List α) : s.words <+: marks.spelled (marks.read s text) := by
  induction text generalizing s with
  | nil => exact List.prefix_append _ _
  | cons c text ih => exact (words_prefix_step s c).trans (ih _)

omit [DecidableEq α] in
theorem begins_spelled {s : WordState α} {k : Nat} {front : List α} (begins : Begins s k front) :
    ∃ w, (marks.spelled s)[k]? = some w ∧ front <+: w := by
  rcases begins with ⟨w, at_, before⟩ | ⟨length, w, n, word, before⟩
  · refine ⟨w, ?_, before⟩
    rw [spelled, List.getElem?_append_left (List.getElem?_eq_some_iff.mp at_).1]
    exact at_
  · refine ⟨w ++ marks.backslashes n, ?_, before.trans (List.prefix_append _ _)⟩
    rw [spelled, word, ← length, List.getElem?_append_right (Nat.le_refl _), Nat.sub_self]
    rfl

end

end Marks
end ByteCodec
