import SyncRGB.Effect.Keeps

/-! Work on a part of the state, and what results and failures have in common, whatever the state. -/
namespace Effect
variable {ε σ τ α β : Type}

/-- Work on the part of the state that `view` shows. -/
def within (view : σ → τ) (put : τ → σ → σ) (m : Changing ε τ α) : Changing ε σ α := fun s =>
  let (result, t) := m (view s)
  (result, put t s)

/-- What putting a part back keeps. -/
theorem Preserves.within {inv : σ → Prop} {view : σ → τ} {put : τ → σ → σ}
    (keeps : ∀ t s, inv s → inv (put t s)) (m : Changing ε τ α) : Preserves inv (within view put m) := by
  intro s holds
  rcases run : m (view s) with ⟨e | a, t⟩
  · simp only [Effect.within, run]
    exact keeps t s holds
  · simp only [Effect.within, run]
    exact keeps t s holds

/-- Every result is `good`, and every failure `fails`. -/
def Yields (good : α → Prop) (fails : ε → Prop) (m : Changing ε σ α) : Prop :=
  ∀ s, match (m s).1 with
    | .ok a => good a
    | .error e => fails e

namespace Yields
variable {good : α → Prop} {fails : ε → Prop}

theorem pure {a : α} (holds : good a) : Yields good fails (Pure.pure a : Changing ε σ α) := fun _ => holds

theorem throw {e : ε} (holds : fails e) : Yields good fails (MonadExcept.throw e : Changing ε σ α) :=
  fun _ => holds

theorem get : Yields (fun _ => True) fails (MonadState.get : Changing ε σ σ) := fun _ => trivial

theorem modify (f : σ → σ) : Yields (fun _ => True) fails (modify f : Changing ε σ PUnit) := fun _ => trivial

theorem lift {x : Except ε α} (ok : ∀ a, x = .ok a → good a) (error : ∀ e, x = .error e → fails e) :
    Yields good fails (liftM x : Changing ε σ α) := by
  intro s
  cases x with
  | ok a => exact ok a rfl
  | error e => exact error e rfl

theorem bind {mid : β → Prop} {m : Changing ε σ β} {f : β → Changing ε σ α} (first : Yields mid fails m)
    (rest : ∀ b, mid b → Yields good fails (f b)) : Yields good fails (m >>= f) := by
  intro s
  have once := first s
  cases run : m s with
  | mk result t =>
      rw [run] at once
      cases result with
      | ok b =>
          rw [bind_ok run]
          exact rest b once t
      | error e =>
          rw [bind_error run]
          exact once

theorem within {view : σ → τ} {put : τ → σ → σ} {m : Changing ε τ α} (yields : Yields good fails m) :
    Yields good fails (within view put m) := fun s => yields (view s)

end Yields
end Effect
