import SyncRGB.Resources.Callbacks
import SyncRGB.VectorEdit.Positions

/-! Which callbacks a removal leaves. -/
namespace SyncRGB
open VectorEdit
variable {F A : Type}

namespace CallbackList

section
variable (l : CallbackList F A)

theorem pairs_length : l.pairs.length = l.callbacks.length := by
  rw [pairs, List.length_zip, l.paired, Nat.min_self]

theorem pairs_register (callback : F) (arg : A) : (l.register callback arg).pairs = l.pairs ++ [(callback, arg)] :=
  List.zip_append l.paired

theorem pairs_erase (idx : Nat) : (l.erase idx).pairs = l.pairs.eraseIdx idx :=
  zip_eraseIdx l.callbacks l.args idx

theorem calls_eq_pairs : l.calls = l.pairs := by
  apply List.ext_getElem
  · rw [pairs_length]
    exact List.length_ofFn
  · intro i _ _
    exact (List.getElem_ofFn _).trans List.getElem_zip.symm

end

section
variable [DecidableEq F] [DecidableEq A] {l : CallbackList F A} {callback : F} {arg : A} {front back : List (F × A)}

theorem unregisterFrom_end {idx : Nat} (behind : l.pairs.length ≤ idx) : unregisterFrom callback arg l idx = l := by
  rw [pairs_length] at behind
  rw [unregisterFrom, dif_neg (Nat.not_lt.mpr behind)]

/-- What the loop does with the pair in front of it. -/
theorem unregisterFrom_pair {pair : F × A} (split : l.pairs = front ++ pair :: back) :
    unregisterFrom callback arg l front.length =
      if pair = (callback, arg) then unregisterFrom callback arg (l.erase front.length) (front.length + 1)
      else unregisterFrom callback arg l (front.length + 1) := by
  have inside : front.length < l.callbacks.length := by
    rw [← pairs_length, split, List.length_append, List.length_cons]
    omega
  have second : front.length < l.args.length := l.paired ▸ inside
  have here : (l.callbacks[front.length], l.args[front.length]) = pair := by
    have at_ : l.pairs[front.length]? = some pair := by
      rw [split, List.getElem?_append_right (Nat.le_refl _), Nat.sub_self, List.getElem?_cons_zero]
    obtain ⟨_, zipped⟩ := List.getElem?_eq_some_iff.mp at_
    rw [← zipped]
    exact List.getElem_zip.symm
  rw [unregisterFrom, dif_pos inside, ← here]
  simp only [Prod.mk.injEq]

theorem pairs_unregisterFrom (split : l.pairs = front ++ back) :
    (unregisterFrom callback arg l front.length).pairs =
      front ++ eraseSkipping (fun pair => decide (pair = (callback, arg))) back := by
  fun_induction eraseSkipping (fun pair => decide (pair = (callback, arg))) back generalizing l front with
  | case1 =>
      rw [List.append_nil] at split
      rw [unregisterFrom_end (by rw [split]), split, List.append_nil]
  | case2 pair gone =>
      have erased : (l.erase front.length).pairs = front := by
        rw [pairs_erase, split, List.eraseIdx_append_of_length_le (Nat.le_refl _), Nat.sub_self,
          List.eraseIdx_cons_zero, List.append_nil]
      rw [unregisterFrom_pair split, if_pos (of_decide_eq_true gone),
        unregisterFrom_end (by rw [erased]; exact Nat.le_succ _), erased, List.append_nil]
  | case3 pair kept =>
      rw [unregisterFrom_pair split, if_neg (mt decide_eq_true kept),
        unregisterFrom_end (by rw [split, List.length_append, List.length_singleton]), split]
  | case4 pair next rest gone ih =>
      have erased : (l.erase front.length).pairs = front ++ [next] ++ rest := by
        rw [pairs_erase, split, List.eraseIdx_append_of_length_le (Nat.le_refl _), Nat.sub_self,
          List.eraseIdx_cons_zero, List.append_cons]
      have onward := ih erased
      rw [List.length_append, List.length_singleton] at onward
      rw [unregisterFrom_pair split, if_pos (of_decide_eq_true gone), onward, List.append_assoc]
      rfl
  | case5 pair next rest kept ih =>
      have onward := ih (split.trans (List.append_cons _ _ _))
      rw [List.length_append, List.length_singleton] at onward
      rw [unregisterFrom_pair split, if_neg (mt decide_eq_true kept), onward, List.append_assoc]
      rfl

theorem pairs_unregister (l : CallbackList F A) (callback : F) (arg : A) :
    (l.unregister callback arg).pairs = eraseSkipping (fun pair => decide (pair = (callback, arg))) l.pairs :=
  pairs_unregisterFrom (List.nil_append _).symm

end
end CallbackList

namespace Receivers

theorem list_register (s : Receivers F A) (notice other : Notice) (callback : F) (arg : A) :
    (register other s callback arg).list notice =
      if other = notice then (s.list notice).register callback arg else s.list notice := by
  cases other <;> cases notice <;> rfl

variable [DecidableEq F] [DecidableEq A]

theorem list_unregister (s : Receivers F A) (notice other : Notice) (callback : F) (arg : A) :
    (unregister other s callback arg).list notice =
      if other = notice then (s.list notice).unregister callback arg else s.list notice := by
  cases other <;> cases notice <;> rfl

section
variable {s : Receivers F A} {notice : Notice} {callback : F} {arg : A}

/-- A pair that is not registered is not registered by the removal of any pair. -/
theorem not_mem_operate {op : Operation F A} (none_ : (callback, arg) ∉ (s.list notice).pairs)
    (op_ne : Operation.register notice callback arg ≠ op) : (callback, arg) ∉ ((operate s op).list notice).pairs := by
  cases op with
  | register other callback' arg' =>
      rw [operate, list_register]
      split
      · rename_i same
        rw [CallbackList.pairs_register]
        intro mem
        rcases List.mem_append.mp mem with before | new
        · exact none_ before
        · obtain ⟨rfl, rfl⟩ := Prod.mk.inj (List.mem_singleton.mp new)
          exact op_ne (by rw [same])
      · exact none_
  | unregister other callback' arg' =>
      rw [operate, list_unregister]
      split
      · rw [CallbackList.pairs_unregister]
        exact fun mem => none_ ((eraseSkipping_sublist _).subset mem)
      · exact none_

theorem not_mem_foldl {later : List (Operation F A)} (none_ : (callback, arg) ∉ (s.list notice).pairs)
    (never : Operation.register notice callback arg ∉ later) :
    (callback, arg) ∉ ((later.foldl operate s).list notice).pairs := by
  induction later generalizing s with
  | nil => exact none_
  | cons op later ih =>
      rw [List.mem_cons, not_or] at never
      exact ih (not_mem_operate none_ never.1) never.2

end

theorem removes_iff (notice : Notice) (s : Receivers F A) (callback : F) (arg : A) :
    Removes notice s callback arg ↔ Apart (fun pair => decide (pair = (callback, arg))) (s.list notice).pairs := by
  have removed : (unregister notice s callback arg).list notice = (s.list notice).unregister callback arg := by
    rw [list_unregister, if_pos rfl]
  rw [← eraseSkipping_eq_filter_iff, ← CallbackList.pairs_unregister]
  constructor
  · intro removes
    rw [← removed]
    exact removes.left
  · intro left
    refine ⟨by rw [removed, left], fun later never => ?_⟩
    rw [CallbackList.calls_eq_pairs]
    apply not_mem_foldl _ never
    rw [removed, left]
    intro mem
    have kept := List.of_mem_filter mem
    simp at kept

/-- A receiver that is registered twice. -/
theorem second_still_called : ¬∀ (notice : Notice) (s : Receivers ℕ ℕ) callback arg, Removes notice s callback arg := by
  intro all
  let none_ : CallbackList ℕ ℕ := .empty
  let s : Receivers ℕ ℕ := ⟨none_, (none_.register 7 1).register 7 1, none_, none_, none_, none_, none_⟩
  have left := (all .deviceListChange s 7 1).left
  rw [list_unregister, if_pos rfl, CallbackList.pairs_unregister] at left
  exact absurd left (by decide)

end Receivers
end SyncRGB
