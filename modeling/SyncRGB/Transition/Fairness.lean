import Mathlib.Data.Nat.Init
import Mathlib.Tactic.ByContra
import SyncRGB.Transition.Run

/-! Infinite executions that are fair to every process, and a rule for what they must reach. -/
namespace Transition
variable {σ α ι : Type}

/-- The states one after the other with what happens in between, if anything. -/
structure Execution (step : σ → α → σ → Prop) where
  state : Nat → σ
  label : Nat → Option α
  moves : ∀ n, match label n with
    | some a => step (state n) a (state (n + 1))
    | none => state (n + 1) = state n

def Enabled (step : σ → α → σ → Prop) (owner : α → Option ι) (p : ι) (s : σ) : Prop :=
  ∃ a t, owner a = some p ∧ step s a t

/-- A process that can take a step from some point on takes one. -/
def WeaklyFair (step : σ → α → σ → Prop) (owner : α → Option ι) {taken : σ → α → σ → Prop}
    (e : Execution taken) : Prop :=
  ∀ p n, (∀ m, n ≤ m → Enabled step owner p (e.state m)) →
    ∃ m a, n ≤ m ∧ e.label m = some a ∧ owner a = some p

theorem Execution.invariant {step : σ → α → σ → Prop} {inv : σ → Prop}
    (keeps : ∀ s a t, inv s → step s a t → inv t) (e : Execution step) (start : inv (e.state 0)) :
    ∀ n, inv (e.state n) := by
  intro n
  induction n with
  | zero => exact start
  | succ n ih =>
      have move := e.moves n
      cases happened : e.label n with
      | none =>
          rw [happened] at move
          exact move ▸ ih
      | some a =>
          rw [happened] at move
          exact keeps _ _ _ ih move

/-- As long as the goal is open, some process can step and only comes nearer to it by its own step; the
others do not lead away. The steps that are taken may be fewer than the ones a process is owed. -/
structure Progress (owed taken : σ → α → σ → Prop) (owner : α → Option ι) (open_ goal : σ → Prop) where
  rank : σ → Nat
  helpful : σ → ι
  enabled : ∀ s, open_ s → Enabled owed owner (helpful s) s
  moves : ∀ s a t, open_ s → taken s a t → goal t ∨ open_ t ∧
    (rank t < rank s ∨ rank t = rank s ∧ helpful t = helpful s ∧ owner a ≠ some (helpful s))

variable {owed taken : σ → α → σ → Prop} {owner : α → Option ι} {open_ goal : σ → Prop}

/-- Until the goal or a smaller rank is reached nothing changes, and the helpful process never steps. -/
theorem Progress.stays (p : Progress owed taken owner open_ goal) (e : Execution taken) {n : Nat}
    (waiting : open_ (e.state n)) (never : ∀ m, n ≤ m → ¬ goal (e.state m))
    (nearest : ∀ m, n ≤ m → open_ (e.state m) → p.rank (e.state n) ≤ p.rank (e.state m)) {m : Nat}
    (later : n ≤ m) :
    open_ (e.state m) ∧ p.rank (e.state m) = p.rank (e.state n) ∧
      p.helpful (e.state m) = p.helpful (e.state n) := by
  induction m, later using Nat.le_induction with
  | base => exact ⟨waiting, rfl, rfl⟩
  | succ m later ih =>
      obtain ⟨still, rank, helpful⟩ := ih
      have move := e.moves m
      cases happened : e.label m with
      | none =>
          rw [happened] at move
          rw [move]
          exact ⟨still, rank, helpful⟩
      | some a =>
          rw [happened] at move
          rcases p.moves _ _ _ still move with reached | ⟨next, less | ⟨same, process, -⟩⟩
          · exact absurd reached (never _ (Nat.le_succ_of_le later))
          · have least := nearest (m + 1) (Nat.le_succ_of_le later) next
            omega
          · exact ⟨next, same.trans rank, process.trans helpful⟩

/-- A fair execution reaches the goal. -/
theorem Progress.reaches (p : Progress owed taken owner open_ goal) (e : Execution taken)
    (fair : WeaklyFair owed owner e) {n : Nat} (waiting : open_ (e.state n)) :
    ∃ m, n ≤ m ∧ goal (e.state m) := by
  induction bound : p.rank (e.state n) using Nat.strong_induction_on generalizing n with
  | _ r ih =>
      by_contra missed
      have never (m : Nat) (later : n ≤ m) : ¬ goal (e.state m) := fun reached =>
        missed ⟨m, later, reached⟩
      have nearest (m : Nat) (later : n ≤ m) (still : open_ (e.state m)) :
          p.rank (e.state n) ≤ p.rank (e.state m) := by
        by_contra less
        obtain ⟨k, after, reached⟩ := ih _ (by omega) still rfl
        exact never k (Nat.le_trans later after) reached
      have stays (m : Nat) (later : n ≤ m) := p.stays e waiting never nearest later
      obtain ⟨m, a, later, happened, owned⟩ := fair (p.helpful (e.state n)) n fun m later => by
        have still := stays m later
        rw [← still.2.2]
        exact p.enabled _ still.1
      have move := e.moves m
      rw [happened] at move
      have still := stays m later
      rcases p.moves _ _ _ still.1 move with reached | ⟨next, less | ⟨-, -, other⟩⟩
      · exact never _ (Nat.le_succ_of_le later) reached
      · have least := nearest (m + 1) (Nat.le_succ_of_le later) next
        have rank := still.2.1
        omega
      · rw [still.2.2] at other
        exact other owned

end Transition
