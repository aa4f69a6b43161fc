import Mathlib.Init

/-! Results and failures of computations that go on with one another. -/
namespace Effect
variable {ε α β : Type} {x : Except ε α} {f : α → Except ε β}

theorem ok_bind (a : α) (f : α → Except ε β) : (Except.ok a >>= f) = f a := rfl

theorem error_bind (e : ε) (f : α → Except ε β) : ((Except.error e : Except ε α) >>= f) = .error e := rfl

theorem except_bind_ok {b : β} : (x >>= f) = .ok b ↔ ∃ a, x = .ok a ∧ f a = .ok b := by
  cases x with
  | error e => exact iff_of_false nofun fun ⟨_, ok, _⟩ => nomatch ok
  | ok a =>
      constructor
      · exact fun run => ⟨a, rfl, run⟩
      · rintro ⟨_, ⟨rfl⟩, run⟩
        exact run

theorem except_bind_error {e : ε} : (x >>= f) = .error e ↔ x = .error e ∨ ∃ a, x = .ok a ∧ f a = .error e := by
  cases x with
  | error d =>
      constructor
      · intro same
        cases same
        exact .inl rfl
      · rintro (same | ⟨_, ok, _⟩)
        · cases same
          rfl
        · cases ok
  | ok a =>
      constructor
      · exact fun run => .inr ⟨a, rfl, run⟩
      · rintro (same | ⟨_, ⟨rfl⟩, run⟩)
        · cases same
        · exact run

end Effect
