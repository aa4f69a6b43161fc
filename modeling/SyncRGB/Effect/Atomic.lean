import SyncRGB.Effect.Keeps

/-! Failures that leave the state as it was, and how they compose: exactly what is in front of a step that
may fail has to be undone or without effect. -/
namespace Effect
variable {ε σ α β : Type}

theorem run_cases (m : Changing ε σ α) (s : σ) :
    (∃ a t, m s = (.ok a, t)) ∨ ∃ e t, m s = (.error e, t) := by
  rcases run : m s with ⟨_ | _, t⟩
  · exact .inr ⟨_, _, rfl⟩
  · exact .inl ⟨_, _, rfl⟩

/-- A computation that does not write. -/
def ReadsOnly (m : Changing ε σ α) : Prop := ∀ s, (m s).2 = s

namespace ReadsOnly

theorem pure (a : α) : ReadsOnly (Pure.pure a : Changing ε σ α) := fun _ => rfl

theorem get : ReadsOnly (MonadState.get : Changing ε σ σ) := fun _ => rfl

theorem throw (e : ε) : ReadsOnly (MonadExcept.throw e : Changing ε σ α) := fun _ => rfl

theorem lift (x : Except ε α) : ReadsOnly (liftM x : Changing ε σ α) := by
  intro s
  cases x <;> rfl

theorem bind {m : Changing ε σ β} {f : β → Changing ε σ α} (first : ReadsOnly m)
    (rest : ∀ b, ReadsOnly (f b)) : ReadsOnly (m >>= f) := by
  intro s
  have same := first s
  rcases run_cases m s with ⟨b, t, run⟩ | ⟨e, t, run⟩
  · rw [run] at same
    rw [bind_ok run, ← same]
    exact rest b t
  · rw [run] at same
    rw [bind_error run]
    exact same

theorem run {m : Changing ε σ α} (reads : ReadsOnly m) {s : σ} {a : α} (ok : (m s).1 = .ok a) :
    m s = (.ok a, s) := Prod.ext ok (reads s)

end ReadsOnly

variable (counts : ε → Prop)

/-- A failure that counts leaves the state as it was. -/
def FailsClean (m : Changing ε σ α) (s : σ) : Prop := ∀ e t, m s = (.error e, t) → counts e → t = s

/-- No failure counts. -/
def Succeeds (m : Changing ε σ α) : Prop := ∀ s e t, m s = (.error e, t) → ¬ counts e

variable {counts}

theorem Succeeds.pure (a : α) : Succeeds counts (Pure.pure a : Changing ε σ α) := by
  intro s e t run
  cases run

theorem Succeeds.modify (f : σ → σ) : Succeeds counts (modify f : Changing ε σ PUnit) := by
  intro s e t run
  cases run

theorem Succeeds.bind {m : Changing ε σ β} {f : β → Changing ε σ α} (first : Succeeds counts m)
    (rest : ∀ b, Succeeds counts (f b)) : Succeeds counts (m >>= f) := by
  intro s e t run
  rcases run_cases m s with ⟨b, u, once⟩ | ⟨e', u, once⟩
  · rw [bind_ok once] at run
    exact rest b u e t run
  · rw [bind_error once] at run
    cases run
    exact first s e t once

namespace FailsClean
variable {m : Changing ε σ β} {f : β → Changing ε σ α} {s : σ}

theorem of_succeeds (succeeds : Succeeds counts m) : FailsClean counts m s :=
  fun e t run counted => absurd counted (succeeds s e t run)

theorem of_reads (reads : ReadsOnly m) : FailsClean counts m s := by
  intro e t run _
  rw [← reads s, run]

/-- Behind a step that only reads, it is the rest that has to fail cleanly. -/
theorem bind_of_reads (reads : ReadsOnly m) :
    FailsClean counts (m >>= f) s ↔ ∀ b, (m s).1 = .ok b → FailsClean counts (f b) s := by
  constructor
  · intro clean b ok e t run counted
    exact clean e t ((bind_ok (reads.run ok)).trans run) counted
  · intro rest e t run counted
    rcases run_cases m s with ⟨b, u, once⟩ | ⟨e', u, once⟩
    · have ok : (m s).1 = .ok b := congrArg Prod.fst once
      rw [bind_ok (reads.run ok)] at run
      exact rest b ok e t run counted
    · rw [bind_error once] at run
      cases run
      exact of_reads reads e t once counted

theorem bind_lift {x : Except ε β} :
    FailsClean counts ((liftM x : Changing ε σ β) >>= f) s ↔
      ∀ b, x = .ok b → FailsClean counts (f b) s := by
  rw [bind_of_reads (ReadsOnly.lift x)]
  cases x with
  | error e =>
      constructor
      · intro _ b ok
        cases ok
      · intro _ b ok
        cases ok
  | ok a =>
      constructor
      · intro rest b ok
        cases ok
        exact rest a rfl
      · intro rest b ok
        cases ok
        exact rest a rfl

/-- In front of what cannot fail, it is the first step that has to fail cleanly. -/
theorem bind_of_succeeds (succeeds : ∀ b, Succeeds counts (f b)) :
    FailsClean counts (m >>= f) s ↔ FailsClean counts m s := by
  constructor
  · intro clean e t once counted
    exact clean e t (bind_error once) counted
  · intro clean e t run counted
    rcases run_cases m s with ⟨b, u, once⟩ | ⟨e', u, once⟩
    · rw [bind_ok once] at run
      exact absurd counted (succeeds b u e t run)
    · rw [bind_error once] at run
      cases run
      exact clean e t once counted

end FailsClean

/-! ### Values decoded and written one by one -/

section
variable (decode : Nat → β → Except ε α) (write : α → σ → σ)

/-- The values in front of the first one that cannot be decoded, and the failure there. -/
def decodeUpTo : Nat → List β → List α × Option ε
  | _, [] => ([], none)
  | n, x :: rest =>
      match decode n x with
      | .ok a => (a :: (decodeUpTo (n + 1) rest).1, (decodeUpTo (n + 1) rest).2)
      | .error e => ([], some e)

/-- Each value is written before the next one is decoded. -/
def writeEach : Nat → List β → Changing ε σ Unit
  | _, [] => return ()
  | n, x :: rest => do
      let a ← (liftM (decode n x) : Changing ε σ α)
      modify (write a)
      writeEach (n + 1) rest

theorem writeEach_eq (n : Nat) (xs : List β) (s : σ) :
    writeEach decode write n xs s =
      (match (decodeUpTo decode n xs).2 with
        | some e => .error e
        | none => .ok (), (decodeUpTo decode n xs).1.foldl (fun s a => write a s) s) := by
  induction xs generalizing n s with
  | nil => rfl
  | cons x rest ih =>
      cases decoded : decode n x with
      | ok a =>
          have here : (liftM (decode n x) : Changing ε σ α) s = (.ok a, s) := by rw [decoded]; rfl
          have written : (modify (write a) : Changing ε σ PUnit) s = (.ok ⟨⟩, write a s) := rfl
          rw [writeEach, bind_ok here, bind_ok written, ih]
          simp only [decodeUpTo, decoded, List.foldl_cons]
      | error e =>
          have here : (liftM (decode n x) : Changing ε σ α) s = (.error e, s) := by rw [decoded]; rfl
          rw [writeEach, bind_error here]
          simp only [decodeUpTo, decoded, List.foldl_nil]

/-- What is written in front of a value that cannot be decoded has to change nothing. -/
theorem FailsClean.writeEach_iff (n : Nat) (xs : List β) (s : σ) :
    FailsClean (fun _ => True) (writeEach decode write n xs) s ↔
      ((decodeUpTo decode n xs).2 ≠ none →
        (decodeUpTo decode n xs).1.foldl (fun s a => write a s) s = s) := by
  rw [FailsClean, writeEach_eq]
  cases (decodeUpTo decode n xs).2 with
  | none =>
      constructor
      · intro _ none
        exact absurd rfl none
      · intro _ e t run _
        cases run
  | some e =>
      constructor
      · intro clean _
        exact clean e _ rfl trivial
      · intro unchanged e' t run _
        cases run
        exact unchanged (Option.some_ne_none e)

end
end Effect
