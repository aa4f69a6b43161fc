import Mathlib.Data.List.TakeWhile

/-! Loops that walk a vector with an index, every access checked. `none` is an access outside of the vector. -/
namespace VectorEdit
variable {α : Type}

theorem getElem?_length_append (front back : List α) (x : α) : (front ++ x :: back)[front.length]? = some x := by
  rw [List.getElem?_append_right (Nat.le_refl _), Nat.sub_self, List.getElem?_cons_zero]

theorem set_length_append (front back : List α) (x y : α) :
    (front ++ x :: back).set front.length y = front ++ y :: back := by
  rw [List.set_append_right _ _ (Nat.le_refl _), Nat.sub_self, List.set_cons_zero]

/-! ### Search -/

def scanFrom (stop : α → Bool) (xs : List α) : Nat → Nat → Option Nat
  | 0, i => some i
  | n+1, i => do
      let x ← xs[i]?
      if stop x then return i else scanFrom stop xs n (i + 1)

/-- Where `for(i = 0; i < xs.size(); i++) if(stop(xs[i])) break;` leaves `i`. -/
def scan (stop : α → Bool) (xs : List α) : Option Nat := scanFrom stop xs xs.length 0

theorem scanFrom_length (stop : α → Bool) (front back : List α) :
    scanFrom stop (front ++ back) back.length front.length =
      some (front.length + (back.takeWhile fun x => !stop x).length) := by
  induction back generalizing front with
  | nil => rfl
  | cons x back ih =>
      have next := ih (front ++ [x])
      rw [List.append_assoc, List.singleton_append, List.length_append, List.length_singleton] at next
      rw [List.length_cons, scanFrom, getElem?_length_append, Option.bind_eq_bind, Option.bind_some]
      cases stops : stop x with
      | true => simp [stops]
      | false =>
          rw [if_neg Bool.false_ne_true, next, List.takeWhile_cons_of_pos (by simp [stops]), List.length_cons]
          congr 1
          omega

theorem scan_eq (stop : α → Bool) (xs : List α) :
    scan stop xs = some (xs.takeWhile fun x => !stop x).length := by
  have all := scanFrom_length stop [] xs
  rwa [List.length_nil, Nat.zero_add] at all

theorem scan_passed {stop : α → Bool} {xs : List α} (passed : ∀ x ∈ xs, stop x = false) :
    scan stop xs = some xs.length := by
  rw [scan_eq, List.takeWhile_eq_self_iff.mpr fun x member => by rw [passed x member, Bool.not_false]]

theorem scan_stopped {stop : α → Bool} {front : List α} {x : α} (passed : ∀ y ∈ front, stop y = false)
    (stops : stop x = true) (back : List α) : scan stop (front ++ x :: back) = some front.length := by
  rw [scan_eq, List.takeWhile_append_of_pos fun y member => by rw [passed y member, Bool.not_false],
    List.takeWhile_cons_of_neg (by rw [stops]; exact Bool.false_ne_true), List.append_nil]

/-- Whether and where the search stops. -/
theorem passed_or_stopped (stop : α → Bool) (xs : List α) :
    (∀ x ∈ xs, stop x = false) ∨
      ∃ front x back, xs = front ++ x :: back ∧ (∀ y ∈ front, stop y = false) ∧ stop x = true := by
  induction xs with
  | nil => exact .inl fun x none_ => absurd none_ List.not_mem_nil
  | cons x xs ih =>
      cases stops : stop x with
      | true => exact .inr ⟨[], x, xs, rfl, fun y none_ => absurd none_ List.not_mem_nil, stops⟩
      | false =>
          rcases ih with passed | ⟨front, y, back, rfl, passed, found⟩
          · exact .inl (List.forall_mem_cons.mpr ⟨stops, passed⟩)
          · exact .inr ⟨x :: front, y, back, rfl, List.forall_mem_cons.mpr ⟨stops, passed⟩, found⟩

/-! ### Changes in place -/

def sweepFrom (f : α → α) (stop : α → Bool) : Nat → Nat → List α → Option (List α)
  | 0, _, xs => some xs
  | n+1, i, xs => do
      let x ← xs[i]?
      let xs := xs.set i (f x)
      if stop (f x) then return xs else sweepFrom f stop n (i + 1) xs

/-- `for(; i < xs.size(); i++) { xs[i] = f(xs[i]); if(stop(xs[i])) break; }`. -/
def sweep (f : α → α) (stop : α → Bool) (i : Nat) (xs : List α) : Option (List α) :=
  sweepFrom f stop (xs.length - i) i xs

/-- What the sweep makes of the elements in front of it. -/
def swept (f : α → α) (stop : α → Bool) : List α → List α
  | [] => []
  | x :: xs => f x :: if stop (f x) then xs else swept f stop xs

theorem sweepFrom_length (f : α → α) (stop : α → Bool) (front back : List α) :
    sweepFrom f stop back.length front.length (front ++ back) = some (front ++ swept f stop back) := by
  induction back generalizing front with
  | nil => rfl
  | cons x back ih =>
      have next := ih (front ++ [f x])
      rw [List.append_assoc, List.singleton_append, List.length_append, List.length_singleton] at next
      rw [List.length_cons, sweepFrom, getElem?_length_append, Option.bind_eq_bind, Option.bind_some,
        set_length_append, swept]
      split
      · rfl
      · rw [next, List.append_assoc, List.singleton_append]

theorem sweep_length (f : α → α) (stop : α → Bool) (front back : List α) :
    sweep f stop front.length (front ++ back) = some (front ++ swept f stop back) := by
  rw [sweep, List.length_append, Nat.add_sub_cancel_left, sweepFrom_length]

theorem sweep_isSome (f : α → α) (stop : α → Bool) {i : Nat} {xs : List α} (inside : i ≤ xs.length) :
    (sweep f stop i xs).isSome := by
  have run := sweep_length f stop (xs.take i) (xs.drop i)
  rw [List.take_append_drop, List.length_take, Nat.min_eq_left inside] at run
  rw [run]
  rfl

/-- A sweep that stops where nothing is left to change changes everything. -/
theorem swept_eq_map {f : α → α} {stop : α → Bool} {xs : List α}
    (rest : xs.Pairwise fun x y => stop (f x) = true → f y = y) : swept f stop xs = xs.map f := by
  induction xs with
  | nil => rfl
  | cons x xs ih =>
      obtain ⟨here, later⟩ := List.pairwise_cons.mp rest
      rw [swept, List.map_cons]
      split
      · rename_i stops
        rw [List.map_congr_left fun y member => here y member stops, List.map_id']
      · rw [ih later]

/-- A sweep without an end. -/
theorem swept_forever (f : α → α) (xs : List α) : swept f (fun _ => false) xs = xs.map f :=
  swept_eq_map (List.pairwise_of_forall fun _ _ stops => (Bool.false_ne_true stops).elim)

/-! ### Removal -/

def eraseWhileFrom (go erased : α → Bool) : Nat → Nat → List α → Option (Nat × List α)
  | 0, i, xs => some (i, xs)
  | n+1, i, xs => do
      let x ← xs[i]?
      if go x then
        if erased x then eraseWhileFrom go erased n i (xs.eraseIdx i)
        else eraseWhileFrom go erased n (i + 1) xs
      else return (i, xs)

/-- Where `while(i < xs.size() && go(xs[i])) if(erased(xs[i])) xs.erase(xs.begin() + i); else i++;` leaves `i`
and the vector, from `i = 0` on. -/
def eraseWhile (go erased : α → Bool) (xs : List α) : Option (Nat × List α) :=
  eraseWhileFrom go erased xs.length 0 xs

theorem eraseWhileFrom_length {go : α → Bool} (erased : α → Bool) (front : List α) {middle back : List α}
    (goes : ∀ x ∈ middle, go x = true) (stops : ∀ x rest, back = x :: rest → go x = false) :
    eraseWhileFrom go erased (middle ++ back).length front.length (front ++ (middle ++ back)) =
      some ((front ++ middle.filter fun x => !erased x).length,
        (front ++ middle.filter fun x => !erased x) ++ back) := by
  induction middle generalizing front with
  | nil =>
      rw [List.filter_nil, List.append_nil, List.nil_append]
      cases back with
      | nil => rfl
      | cons x rest =>
          rw [List.length_cons, eraseWhileFrom, getElem?_length_append, Option.bind_eq_bind, Option.bind_some,
            stops x rest rfl]
          rfl
  | cons x middle ih =>
      obtain ⟨here, later⟩ := List.forall_mem_cons.mp goes
      rw [List.cons_append, List.length_cons, eraseWhileFrom, getElem?_length_append, Option.bind_eq_bind,
        Option.bind_some, if_pos here]
      cases erases : erased x with
      | true =>
          have shorter : (front ++ x :: (middle ++ back)).eraseIdx front.length = front ++ (middle ++ back) := by
            rw [List.eraseIdx_append_of_length_le (Nat.le_refl _), Nat.sub_self, List.eraseIdx_cons_zero]
          rw [if_pos rfl, shorter, ih front later, List.filter_cons_of_neg (by simp [erases])]
      | false =>
          have one : (front ++ [x]).length = front.length + 1 := by simp
          have next := ih (front ++ [x]) later
          rw [List.append_assoc, List.append_assoc, List.singleton_append, List.singleton_append, one] at next
          rw [if_neg Bool.false_ne_true, next, List.filter_cons_of_pos (by simp [erases])]

/-- The removal stops at the end, or at the first element that is not to be walked over. -/
theorem eraseWhile_append {go : α → Bool} (erased : α → Bool) {front back : List α}
    (goes : ∀ x ∈ front, go x = true) (stops : ∀ x rest, back = x :: rest → go x = false) :
    eraseWhile go erased (front ++ back) =
      some ((front.filter fun x => !erased x).length, (front.filter fun x => !erased x) ++ back) := by
  have all := eraseWhileFrom_length erased [] goes stops
  rwa [List.nil_append, List.nil_append] at all

end VectorEdit
