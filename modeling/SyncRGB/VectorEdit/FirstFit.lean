import Mathlib.Data.List.ReduceOption

/-! Queries that are answered by the first entry that fits and is not used yet. -/
namespace VectorEdit
variable {α Q : Type} (fits : α → Q → Bool)

def firstFit (entries : List (α × Bool)) (q : Q) : Option Nat :=
  entries.findIdx? fun e => !e.2 && fits e.1 q

def markUsed (entries : List (α × Bool)) : Option Nat → List (α × Bool)
  | none => entries
  | some i => entries.modify i fun e => (e.1, true)

def answers : List (α × Bool) → List Q → List (Option Nat)
  | _, [] => []
  | entries, q :: qs => firstFit fits entries q :: answers (markUsed entries (firstFit fits entries q)) qs

def usedAfter (entries : List (α × Bool)) (qs : List Q) : List (α × Bool) :=
  qs.foldl (fun entries q => markUsed entries (firstFit fits entries q)) entries

variable {fits} {entries : List (α × Bool)} {q : Q} {qs : List Q} {i : Nat}

theorem firstFit_unused (found : firstFit fits entries q = some i) : ∃ a, entries[i]? = some (a, false) := by
  obtain ⟨inside, fit, -⟩ := List.findIdx?_eq_some_iff_getElem.mp found
  rw [Bool.and_eq_true, Bool.not_eq_true'] at fit
  refine ⟨entries[i].1, ?_⟩
  rw [List.getElem?_eq_getElem inside, ← fit.1]

theorem markUsed_used (found : firstFit fits entries q = some i) :
    ∃ a, (markUsed entries (some i))[i]? = some (a, true) := by
  obtain ⟨a, there⟩ := firstFit_unused found
  refine ⟨a, ?_⟩
  rw [markUsed, List.getElem?_modify_eq, there]
  rfl

/-- An entry that is not used after a mark was not used before. -/
theorem unused_of_markUsed {answer : Option Nat} {a : α} (unused : (markUsed entries answer)[i]? = some (a, false)) :
    entries[i]? = some (a, false) := by
  cases answer with
  | none => exact unused
  | some j =>
      rw [markUsed] at unused
      by_cases same : j = i
      · subst same
        rw [List.getElem?_modify_eq] at unused
        obtain ⟨e, -, marked⟩ := Option.map_eq_some_iff.mp unused
        cases marked
      · rwa [List.getElem?_modify_ne _ _ same] at unused

theorem answers_unused (answered : some i ∈ answers fits entries qs) : ∃ a, entries[i]? = some (a, false) := by
  induction qs generalizing entries with
  | nil => exact absurd answered List.not_mem_nil
  | cons q qs ih =>
      rw [answers] at answered
      rcases List.mem_cons.mp answered with first | later
      · exact firstFit_unused first.symm
      · obtain ⟨a, unused⟩ := ih later
        exact ⟨a, unused_of_markUsed unused⟩

/-- No entry answers two queries. -/
theorem answers_nodup (entries : List (α × Bool)) (qs : List Q) : (answers fits entries qs).reduceOption.Nodup := by
  induction qs generalizing entries with
  | nil => exact List.nodup_nil
  | cons q qs ih =>
      rw [answers]
      cases found : firstFit fits entries q with
      | none =>
          rw [List.reduceOption_cons_of_none]
          exact ih _
      | some i =>
          rw [List.reduceOption_cons_of_some, List.nodup_cons]
          refine ⟨?_, ih _⟩
          intro again
          obtain ⟨a, unused⟩ := answers_unused (List.reduceOption_mem_iff.mp again)
          obtain ⟨b, used⟩ := markUsed_used found
          rw [used] at unused
          cases unused

/-! ### Entry by entry -/

theorem firstFit_cons (e : α × Bool) (entries : List (α × Bool)) (q : Q) :
    firstFit fits (e :: entries) q =
      if !e.2 && fits e.1 q then some 0 else (firstFit fits entries q).map fun i => i + 1 :=
  List.findIdx?_cons

theorem markUsed_zero (e : α × Bool) (entries : List (α × Bool)) :
    markUsed (e :: entries) (some 0) = (e.1, true) :: entries := rfl

theorem markUsed_succ (e : α × Bool) (entries : List (α × Bool)) (answer : Option Nat) :
    markUsed (e :: entries) (answer.map fun i => i + 1) = e :: markUsed entries answer := by
  cases answer <;> rfl

/-- The first entry whose mark is new. -/
def newlyUsed (before after : List (α × Bool)) : Option Nat :=
  (before.zip after).findIdx? fun e => e.1.2 != e.2.2

theorem newlyUsed_markUsed (entries : List (α × Bool)) (q : Q) :
    newlyUsed entries (markUsed entries (firstFit fits entries q)) = firstFit fits entries q := by
  induction entries with
  | nil => rfl
  | cons e entries ih =>
      rw [firstFit_cons]
      split
      · rename_i fit
        rw [Bool.and_eq_true, Bool.not_eq_true'] at fit
        rw [markUsed_zero, newlyUsed, List.zip_cons_cons, List.findIdx?_cons, fit.1]
        rfl
      · rw [newlyUsed] at ih
        rw [markUsed_succ, newlyUsed, List.zip_cons_cons, List.findIdx?_cons, bne_self_eq_false,
          if_neg Bool.false_ne_true, ih]

end VectorEdit
