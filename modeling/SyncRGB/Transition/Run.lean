import Mathlib.Init

/-! Runs of a labelled transition system and what every run preserves. -/
namespace Transition
variable {σ α : Type}

/-- One step for each label. -/
inductive Run (step : σ → α → σ → Prop) : σ → List α → σ → Prop
  | nil (s : σ) : Run step s [] s
  | cons {s t u : σ} {a : α} {as : List α} :
      step s a t → Run step t as u → Run step s (a :: as) u

def Guarded (guard : σ → α → Prop) (step : σ → α → σ → Prop) (s : σ) (a : α) (t : σ) : Prop :=
  guard s a ∧ step s a t

def Kept (inv : σ → Prop) (step : σ → α → σ → Prop) (s : σ) (a : α) (t : σ) : Prop :=
  step s a t ∧ inv t

variable {step : σ → α → σ → Prop}

theorem Run.invariant {inv : σ → Prop} (keeps : ∀ s a t, inv s → step s a t → inv t) {s t : σ}
    {as : List α} (run : Run step s as t) (start : inv s) : inv t := by
  induction run with
  | nil s => exact start
  | cons first _ ih => exact ih (keeps _ _ _ start first)

theorem Run.mono {step' : σ → α → σ → Prop} (weaker : ∀ s a t, step s a t → step' s a t) {s t : σ}
    {as : List α} (run : Run step s as t) : Run step' s as t := by
  induction run with
  | nil s => exact .nil s
  | cons first _ ih => exact .cons (weaker _ _ _ first) ih

/-- What the steps with some labels preserve. -/
theorem Run.invariant_of_labels {inv : σ → Prop} {allowed : α → Prop}
    (keeps : ∀ s a t, inv s → allowed a → step s a t → inv t) {s t : σ} {as : List α} (run : Run step s as t)
    (all : ∀ a ∈ as, allowed a) (start : inv s) : inv t := by
  induction run with
  | nil s => exact start
  | cons first _ ih =>
      obtain ⟨here, later⟩ := List.forall_mem_cons.mp all
      exact ih later (keeps _ _ _ start here first)

theorem Run.append_iff {s u : σ} {as bs : List α} :
    Run step s (as ++ bs) u ↔ ∃ t, Run step s as t ∧ Run step t bs u := by
  constructor
  · intro run
    induction as generalizing s with
    | nil => exact ⟨s, .nil s, run⟩
    | cons a as ih =>
        cases run with
        | cons first rest =>
            obtain ⟨t, front, back⟩ := ih rest
            exact ⟨t, .cons first front, back⟩
  · rintro ⟨t, front, back⟩
    induction front with
    | nil s => exact back
    | cons first _ ih => exact .cons first (ih back)

theorem Run.cons_iff {s u : σ} {a : α} {as : List α} : Run step s (a :: as) u ↔ ∃ t, step s a t ∧ Run step t as u := by
  constructor
  · intro run
    cases run with
    | cons first rest => exact ⟨_, first, rest⟩
  · rintro ⟨t, first, rest⟩
    exact .cons first rest

/-- Where a condition tells exactly which steps keep a property, as long as an invariant holds, the runs
on which the property holds throughout are those whose steps all meet the condition. -/
theorem Run.kept_iff_of_invariant {good inv : σ → Prop} {guard : σ → α → Prop}
    (keeps : ∀ s a t, good s → step s a t → good t)
    (exact_ : ∀ s a t, good s → inv s → step s a t → (inv t ↔ guard s a)) {s t : σ} {as : List α}
    (base : good s) (start : inv s) : Run (Kept inv step) s as t ↔ Run (Guarded guard step) s as t := by
  constructor
  · intro run
    induction run with
    | nil s => exact .nil s
    | cons first _ ih =>
        have met := (exact_ _ _ _ base start first.1).1 first.2
        exact .cons ⟨met, first.1⟩ (ih (keeps _ _ _ base first.1) first.2)
  · intro run
    induction run with
    | nil s => exact .nil s
    | cons first _ ih =>
        have kept := (exact_ _ _ _ base start first.2).2 first.1
        exact .cons ⟨first.2, kept⟩ (ih (keeps _ _ _ base first.2) kept)

theorem Run.kept_iff {inv : σ → Prop} {guard : σ → α → Prop}
    (exact_ : ∀ s a t, inv s → step s a t → (inv t ↔ guard s a)) {s t : σ} {as : List α}
    (start : inv s) : Run (Kept inv step) s as t ↔ Run (Guarded guard step) s as t := by
  have keeps (s : σ) (a : α) (t : σ) (_ : True) (_ : step s a t) : True := trivial
  exact kept_iff_of_invariant keeps (fun s a t _ => exact_ s a t) trivial start

/-- A run of a function. -/
theorem Run.of_foldlM {f : σ → α → Option σ} {s t : σ} {as : List α} (run : as.foldlM f s = some t) :
    Run (fun s a t => f s a = some t) s as t := by
  induction as generalizing s with
  | nil =>
      cases run
      exact .nil _
  | cons a as ih =>
      rw [List.foldlM_cons] at run
      obtain ⟨next, first, rest⟩ := Option.bind_eq_some_iff.mp run
      exact .cons first (ih rest)

/-! ### Functions that may fail -/

section
variable {f : σ → α → Option σ} {guard : σ → α → Prop}

/-- Each step meets its condition when it is its turn. -/
def EachTurn (guard : σ → α → Prop) (f : σ → α → Option σ) : List α → σ → Prop
  | [], _ => True
  | a :: as, s => guard s a ∧ ∀ t, f s a = some t → EachTurn guard f as t

/-- Where a condition tells exactly which steps succeed, the runs that succeed are those whose steps meet it. -/
theorem isSome_foldlM_iff (exact_ : ∀ s a, (f s a).isSome ↔ guard s a) (as : List α) (s : σ) :
    (as.foldlM f s).isSome ↔ EachTurn guard f as s := by
  induction as generalizing s with
  | nil => exact iff_of_true rfl trivial
  | cons a as ih =>
      rw [EachTurn, ← exact_, List.foldlM_cons]
      cases first : f s a with
      | none => exact iff_of_false Bool.false_ne_true fun both => Bool.false_ne_true both.1
      | some t =>
          apply (ih t).trans
          constructor
          · intro rest
            refine ⟨rfl, ?_⟩
            rintro _ ⟨⟩
            exact rest
          · exact fun both => both.2 t rfl

theorem eachTurn_of_forall {as : List α} (met : ∀ a ∈ as, ∀ s, guard s a) (s : σ) : EachTurn guard f as s := by
  induction as generalizing s with
  | nil => trivial
  | cons a as ih =>
      obtain ⟨here, later⟩ := List.forall_mem_cons.mp met
      exact ⟨here s, fun t _ => ih later t⟩

theorem isSome_foldlM (total : ∀ s a, (f s a).isSome) (as : List α) (s : σ) : (as.foldlM f s).isSome :=
  (isSome_foldlM_iff (fun s a => (iff_true_right trivial).mpr (total s a)) as s).mpr
    (eachTurn_of_forall (fun _ _ _ => trivial) s)

end

end Transition
