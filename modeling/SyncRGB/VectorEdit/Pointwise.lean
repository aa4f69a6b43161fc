import Mathlib.Data.List.Forall2

/-! Two lists related element by element, when one of them is edited. -/
namespace VectorEdit
variable {α β γ : Type}

theorem map_set_of_eq (f : α → β) {xs : List α} {i : Nat} {x y : α} (h : xs[i]? = some x)
    (same : f y = f x) : (xs.set i y).map f = xs.map f := by
  obtain ⟨inside, rfl⟩ := List.getElem?_eq_some_iff.mp h
  have bound : i < (xs.map f).length := by rwa [List.length_map]
  have self : f xs[i] = (xs.map f)[i] := (List.getElem_map f).symm
  rw [List.map_set, same, self, List.set_getElem_self bound]

theorem forall₂_set {r : α → β → Prop} {xs : List α} {ys : List β} (all : List.Forall₂ r xs ys) {i : Nat}
    {y y' : β} (found : ys[i]? = some y) (keeps : ∀ x, r x y → r x y') :
    List.Forall₂ r xs (ys.set i y') := by
  induction all generalizing i with
  | nil => cases found
  | cons first rest ih =>
      cases i with
      | zero =>
          obtain rfl := Option.some.inj found
          exact .cons (keeps _ first) rest
      | succ i => exact .cons first (ih found)

theorem forall₂_modify {r : α → β → Prop} {xs : List α} {ys : List β} (all : List.Forall₂ r xs ys)
    {i : Nat} {f : β → β} (keeps : ∀ x y, ys[i]? = some y → r x y → r x (f y)) :
    List.Forall₂ r xs (ys.modify i f) := by
  induction all generalizing i with
  | nil => rw [List.modify_nil]; exact .nil
  | cons first rest ih =>
      cases i with
      | zero => exact .cons (keeps _ _ rfl first) rest
      | succ i => exact .cons first (ih keeps)

theorem forall₂_zipWith {r : α → β → Prop} {f : α → β → β} {xs : List α} {ys : List β}
    (all : List.Forall₂ r xs ys) (keeps : ∀ x y, r x y → r x (f x y)) :
    List.Forall₂ r xs (List.zipWith f xs ys) := by
  induction all with
  | nil => exact .nil
  | cons first _ ih => exact .cons (keeps _ _ first) ih

theorem exists_of_mem_right {r : α → β → Prop} {xs : List α} {ys : List β} (all : List.Forall₂ r xs ys)
    {y : β} (member : y ∈ ys) : ∃ x ∈ xs, r x y := by
  induction all with
  | nil => cases member
  | cons first _ ih =>
      obtain rfl | later := List.mem_cons.mp member
      · exact ⟨_, List.mem_cons_self, first⟩
      · obtain ⟨x, hx, same⟩ := ih later
        exact ⟨x, List.mem_cons_of_mem _ hx, same⟩

theorem forall_mem_modify_iff {p : α → Prop} {xs : List α} (all : ∀ x ∈ xs, p x) {i : Nat} {f : α → α} :
    (∀ y ∈ xs.modify i f, p y) ↔ ∀ x, xs[i]? = some x → p (f x) := by
  constructor
  · intro after x found
    have there : (xs.modify i f)[i]? = some (f x) := by
      rw [List.getElem?_modify_eq, found]
      rfl
    exact after _ (List.mem_of_getElem? there)
  · intro changed y member
    have each : List.Forall₂ (fun _ y => p y) xs xs := List.forall₂_same.mpr all
    obtain ⟨_, -, holds⟩ :=
      exists_of_mem_right (forall₂_modify each fun _ x found _ => changed x found) member
    exact holds

theorem forall₂_and {p q : α → β → Prop} {xs : List α} {ys : List β} (ps : List.Forall₂ p xs ys)
    (qs : List.Forall₂ q xs ys) : List.Forall₂ (fun x y => p x y ∧ q x y) xs ys := by
  induction ps with
  | nil => exact .nil
  | cons first _ ih =>
      obtain ⟨second, rest⟩ := List.forall₂_cons.mp qs
      exact .cons ⟨first, second⟩ (ih rest)

theorem forall₂_trans {p : α → β → Prop} {q : β → γ → Prop} {r : α → γ → Prop} {xs : List α}
    {ys : List β} {zs : List γ} (compose : ∀ x y z, p x y → q y z → r x z)
    (left : List.Forall₂ p xs ys) (right : List.Forall₂ q ys zs) : List.Forall₂ r xs zs := by
  induction left generalizing zs with
  | nil =>
      cases right
      exact .nil
  | cons first _ ih =>
      cases right with
      | cons second rest => exact .cons (compose _ _ _ first second) (ih rest)

/-- A field of a combined list is that of the first list just where every pair is back. -/
theorem zipWith_map_eq_iff {f : α → α → α} {g : α → γ} {ss xs : List α} {back : α → α → Prop}
    (length : ss.length = xs.length) (each : ∀ s x, g (f s x) = g s ↔ back s x) :
    (List.zipWith f ss xs).map g = ss.map g ↔ List.Forall₂ back ss xs := by
  induction ss generalizing xs with
  | nil =>
      obtain rfl := List.length_eq_zero_iff.mp length.symm
      exact iff_of_true rfl .nil
  | cons s ss ih =>
      cases xs with
      | nil => cases length
      | cons x xs =>
          rw [List.zipWith_cons_cons, List.map_cons, List.map_cons, List.cons_eq_cons,
            List.forall₂_cons, each, ih (Nat.succ.inj length)]

end VectorEdit
