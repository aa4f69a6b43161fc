import Mathlib.Logic.Function.Basic

/-! Processes that take turns with a lock, wherever they are in their programs. -/
namespace Transition
variable {ι π : Type} {holds : π → Bool} {pc : ι → π} {owner : Option ι} {p q : ι} {next : π}

/-- The owner of the lock, and no one else, is where it is held. -/
def Exclusive (holds : π → Bool) (pc : ι → π) (owner : Option ι) : Prop := ∀ p, holds (pc p) = true ↔ owner = some p

namespace Exclusive

theorem eq (locked : Exclusive holds pc owner) (first : holds (pc p) = true) (second : holds (pc q) = true) :
    p = q := by
  have owned := (locked p).mp first
  rw [(locked q).mp second] at owned
  exact (Option.some.inj owned).symm

variable [DecidableEq ι]

/-- A step that neither takes the lock nor gives it back. -/
theorem stay (locked : Exclusive holds pc owner) (same : holds next = holds (pc p)) :
    Exclusive holds (Function.update pc p next) owner := by
  intro q
  by_cases own : q = p
  · rw [own, Function.update_self, same]
    exact locked p
  · rw [Function.update_of_ne own]
    exact locked q

theorem acquire (locked : Exclusive holds pc none) (now : holds next = true) :
    Exclusive holds (Function.update pc p next) (some p) := by
  intro q
  by_cases own : q = p
  · rw [own, Function.update_self]
    exact iff_of_true now rfl
  · rw [Function.update_of_ne own, locked q]
    exact iff_of_false nofun fun same => own (Option.some.inj same).symm

theorem release (locked : Exclusive holds pc owner) (held : holds (pc p) = true) (no_more : holds next = false) :
    Exclusive holds (Function.update pc p next) none := by
  intro q
  refine iff_of_false ?_ nofun
  by_cases own : q = p
  · rw [own, Function.update_self, no_more]
    exact Bool.false_ne_true
  · rw [Function.update_of_ne own]
    exact fun holding => own (locked.eq holding held)

end Exclusive
end Transition
