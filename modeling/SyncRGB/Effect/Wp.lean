import SyncRGB.Effect.Keeps

/-! What has to hold before a computation, for a condition on its result or its failure to hold after it:
rules for reading states, updating them, failing and going on. -/
namespace Effect
variable {ε σ α β : Type}

/-- A result comes with `post` and a failure with `fail`. -/
def Wp (m : Changing ε σ α) (post : α → σ → Prop) (fail : ε → σ → Prop) (s : σ) : Prop :=
  match m s with
  | (.ok a, t) => post a t
  | (.error e, t) => fail e t

/-- What a state has to show. -/
def reading (f : σ → α) : Changing ε σ α := fun s => (.ok (f s), s)

def updating (f : σ → σ) : Changing ε σ Unit := fun s => (.ok (), f s)

def failing (e : ε) : Changing ε σ α := fun s => (.error e, s)

section
variable {post : α → σ → Prop} {fail : ε → σ → Prop} {s : σ}

@[simp] theorem wp_pure (a : α) : Wp (pure a : Changing ε σ α) post fail s ↔ post a s := Iff.rfl

@[simp] theorem wp_reading (f : σ → α) : Wp (reading f : Changing ε σ α) post fail s ↔ post (f s) s := Iff.rfl

@[simp] theorem wp_updating (f : σ → σ) (post : Unit → σ → Prop) :
    Wp (updating f : Changing ε σ Unit) post fail s ↔ post () (f s) := Iff.rfl

@[simp] theorem wp_failing (e : ε) : Wp (failing e : Changing ε σ α) post fail s ↔ fail e s := Iff.rfl

@[simp] theorem wp_bind (m : Changing ε σ β) (f : β → Changing ε σ α) :
    Wp (m >>= f) post fail s ↔ Wp m (fun b t => Wp (f b) post fail t) fail s := by
  unfold Wp
  rcases run : m s with ⟨e | b, t⟩
  · rw [bind_error run]
  · rw [bind_ok run]

theorem Wp.mono {m : Changing ε σ α} {post' : α → σ → Prop} {fail' : ε → σ → Prop} (holds : Wp m post fail s)
    (ok : ∀ a t, post a t → post' a t) (error : ∀ e t, fail e t → fail' e t) : Wp m post' fail' s := by
  unfold Wp at holds ⊢
  rcases run : m s with ⟨e | a, t⟩
  · rw [run] at holds
    exact error e t holds
  · rw [run] at holds
    exact ok a t holds

theorem Wp.and {m : Changing ε σ α} {post' : α → σ → Prop} {fail' : ε → σ → Prop} (first : Wp m post fail s)
    (second : Wp m post' fail' s) : Wp m (fun a t => post a t ∧ post' a t) (fun e t => fail e t ∧ fail' e t) s := by
  unfold Wp at first second ⊢
  rcases run : m s with ⟨e | a, t⟩
  · rw [run] at first second
    exact ⟨first, second⟩
  · rw [run] at first second
    exact ⟨first, second⟩

end

/-! ### Relations between the states before and after -/

/-- From a state with `pre`, the state after, with a result or a failure, is related to the one before, and only
some failures occur. -/
def Relates (pre : σ → Prop) (related : σ → σ → Prop) (fails : ε → Prop) (m : Changing ε σ α) : Prop :=
  ∀ s, pre s → Wp m (fun _ t => related s t) (fun e t => fails e ∧ related s t) s

/-- What a relation needs for computations that are related one by one to be related as a whole. -/
structure Chains (pre : σ → Prop) (related : σ → σ → Prop) : Prop where
  refl : ∀ s, related s s
  trans : ∀ s t u, related s t → related t u → related s u
  keeps : ∀ s t, pre s → related s t → pre t

namespace Relates
variable {pre : σ → Prop} {related : σ → σ → Prop} {fails : ε → Prop}

theorem pure (chains : Chains pre related) (a : α) : Relates pre related fails (Pure.pure a : Changing ε σ α) :=
  fun s _ => chains.refl s

theorem reading (chains : Chains pre related) (f : σ → α) :
    Relates pre related fails (reading f : Changing ε σ α) := fun s _ => chains.refl s

theorem updating {f : σ → σ} (step : ∀ s, related s (f s)) :
    Relates pre related fails (updating f : Changing ε σ Unit) := fun s _ => step s

theorem failing (chains : Chains pre related) {e : ε} (allowed : fails e) :
    Relates pre related fails (failing e : Changing ε σ α) := fun s _ => ⟨allowed, chains.refl s⟩

theorem bind (chains : Chains pre related) {m : Changing ε σ β} {f : β → Changing ε σ α}
    (first : Relates pre related fails m) (rest : ∀ b, Relates pre related fails (f b)) :
    Relates pre related fails (m >>= f) := by
  intro s holds
  rw [wp_bind]
  refine (first s holds).mono (fun b t here => ?_) fun e t here => here
  refine (rest b t (chains.keeps s t holds here)).mono (fun a u next => ?_) fun e u next => ?_
  · exact chains.trans s t u here next
  · exact ⟨next.1, chains.trans s t u here next.2⟩

end Relates
end Effect
