import Mathlib.Init

/-! Computations that change a state and may fail, where a failure leaves the changes made so far, and the
rules for what they keep. -/
namespace Effect
variable {ε σ α β : Type}

/-- A computation with its failure and the state it leaves in either case. -/
abbrev Changing (ε σ α : Type) := ExceptT ε (StateM σ) α

/-- From a state with `pre`, a result comes with `post` and a failure with `fail`. -/
def Keeps (pre : σ → Prop) (m : Changing ε σ α) (post : α → σ → Prop) (fail : σ → Prop) : Prop :=
  ∀ s, pre s → match m s with
    | (.ok a, t) => post a t
    | (.error _, t) => fail t

theorem bind_ok {m : Changing ε σ β} {f : β → Changing ε σ α} {s t : σ} {b : β}
    (run : m s = (.ok b, t)) : (m >>= f) s = f b t := by
  simp only [bind, ExceptT.bind, ExceptT.mk, StateT.bind, run]
  rfl

theorem bind_error {m : Changing ε σ β} {f : β → Changing ε σ α} {s t : σ} {e : ε}
    (run : m s = (.error e, t)) : (m >>= f) s = (.error e, t) := by
  simp only [bind, ExceptT.bind, ExceptT.mk, StateT.bind, run]
  rfl

/-- It is the outcome of the first step that counts. -/
theorem bind_of_same {m m' : Changing ε σ β} {f : β → Changing ε σ α} {s : σ} (same : m s = m' s) :
    (m >>= f) s = (m' >>= f) s := by
  simp only [bind, ExceptT.bind, ExceptT.mk, StateT.bind, same]

namespace Keeps
variable {pre fail : σ → Prop} {post : α → σ → Prop}

theorem pure {a : α} (holds : ∀ s, pre s → post a s) :
    Keeps pre (Pure.pure a : Changing ε σ α) post fail := holds

theorem throw {e : ε} (holds : ∀ s, pre s → fail s) :
    Keeps pre (MonadExcept.throw e : Changing ε σ α) post fail := holds

theorem lift {x : Except ε α} (error : ∀ s, pre s → fail s) :
    Keeps pre (liftM x : Changing ε σ α) (fun a s => x = .ok a ∧ pre s) fail := by
  intro s holds
  cases x with
  | ok a => exact ⟨rfl, holds⟩
  | error e => exact error s holds

theorem assuming {m : Changing ε σ α} {fact : Prop} (keeps : fact → Keeps pre m post fail) :
    Keeps (fun s => fact ∧ pre s) m post fail := fun s holds => keeps holds.1 s holds.2

theorem modify {f : σ → σ} {post : PUnit → σ → Prop} (holds : ∀ s, pre s → post ⟨⟩ (f s)) :
    Keeps pre (modify f : Changing ε σ PUnit) post fail := holds

theorem get : Keeps pre (MonadState.get : Changing ε σ σ) (fun s t => s = t ∧ pre t) fail :=
  fun _ holds => ⟨rfl, holds⟩

theorem bind {m : Changing ε σ β} {f : β → Changing ε σ α} {mid : β → σ → Prop}
    (first : Keeps pre m mid fail) (rest : ∀ b, Keeps (mid b) (f b) post fail) :
    Keeps pre (m >>= f) post fail := by
  intro s holds
  have once := first s holds
  cases run : m s with
  | mk result t =>
      rw [run] at once
      cases result with
      | ok b =>
          rw [bind_ok run]
          exact rest b t once
      | error e =>
          rw [bind_error run]
          exact once

theorem mono {m : Changing ε σ α} {post' : α → σ → Prop} {fail' : σ → Prop}
    (keeps : Keeps pre m post fail) (ok : ∀ a s, post a s → post' a s) (error : ∀ s, fail s → fail' s) :
    Keeps pre m post' fail' := by
  intro s holds
  have once := keeps s holds
  cases run : m s with
  | mk result t =>
      rw [run] at once
      cases result with
      | ok a => exact ok a t once
      | error e => exact error t once

/-- A step without access to the state in front of the rest. -/
theorem bind_lift {x : Except ε β} {f : β → Changing ε σ α} (error : ∀ s, pre s → fail s)
    (rest : ∀ b, x = .ok b → Keeps pre (f b) post fail) :
    Keeps pre ((liftM x : Changing ε σ β) >>= f) post fail := by
  apply bind (lift error)
  intro b
  apply assuming
  exact rest b

/-- What holds in either case holds of the state that is left. -/
theorem left {m : Changing ε σ α} (keeps : Keeps pre m (fun _ => fail) fail) {s : σ} (holds : pre s) :
    fail (m s).2 := by
  have once := keeps s holds
  cases run : m s with
  | mk result t =>
      rw [run] at once
      cases result with
      | ok a => exact once
      | error e => exact once

end Keeps

/-- What holds before holds after, whether the computation fails or not. -/
def Preserves (inv : σ → Prop) (m : Changing ε σ α) : Prop := Keeps inv m (fun _ => inv) inv

namespace Preserves
variable {inv : σ → Prop}

theorem pure (a : α) : Preserves inv (Pure.pure a : Changing ε σ α) := fun _ holds => holds

theorem lift (x : Except ε α) : Preserves inv (liftM x : Changing ε σ α) := by
  intro s holds
  cases x with
  | ok a => exact holds
  | error e => exact holds

theorem modify {f : σ → σ} (keeps : ∀ s, inv s → inv (f s)) :
    Preserves inv (modify f : Changing ε σ PUnit) := keeps

theorem get : Preserves inv (MonadState.get : Changing ε σ σ) := fun _ holds => holds

theorem bind {m : Changing ε σ β} {f : β → Changing ε σ α} (first : Preserves inv m)
    (rest : ∀ b, Preserves inv (f b)) : Preserves inv (m >>= f) := Keeps.bind first rest

theorem ite {c : Prop} [Decidable c] {m n : Changing ε σ α} (yes : Preserves inv m)
    (no : Preserves inv n) : Preserves inv (if c then m else n) := by
  split
  · exact yes
  · exact no

theorem forM {xs : List β} {f : β → Changing ε σ PUnit} (each : ∀ x, Preserves inv (f x)) :
    Preserves inv (xs.forM f) := by
  induction xs with
  | nil => exact pure _
  | cons x xs ih => exact bind (each x) fun _ => ih

/-- What holds in either case holds of the state that is left. -/
theorem left {m : Changing ε σ α} (keeps : Preserves inv m) {s : σ} (holds : inv s) : inv (m s).2 :=
  Keeps.left keeps holds

end Preserves
end Effect
