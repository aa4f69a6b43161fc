import Mathlib.Data.List.Perm.Basic
import Mathlib.Data.List.Range
import SyncRGB.Transition.Run

/-! The driver's file objects: requests of several threads load and execute a program through the same handle, and
closing the handle destroys it. -/
namespace SyncRGB.PawnDriver
open Transition

/-- A request between two of its steps, with its file object and the program it has in its hands. -/
inductive Irp
  | checkLoad (h : Nat)
  | load (h : Nat)
  | install (h vm : Nat)
  | discard (h vm : Nat)
  | checkExecute (h : Nat)
  | execute (h vm : Nat)
deriving DecidableEq, Repr

def Irp.handle : Irp → Nat
  | checkLoad h | load h | install h _ | discard h _ | checkExecute h | execute h _ => h

/-- A program that no file object has. -/
def Irp.owned : Irp → Option Nat
  | install _ vm | discard _ vm => some vm
  | _ => none

/-- Programs have the numbers in which they were created. -/
structure Driver where
  handles : List (Nat × Option Nat)
  irps : List Irp
  created : Nat
  destroyed : List Nat

def Driver.start : Driver := ⟨[], [], 0, []⟩

inductive Event
  | create (h : Nat)
  | request (i : Irp)
  | advance (i : Irp) (next : Option Irp)
  | close (h : Nat)

/-- `dispatch_irp`. The system closes a file object behind its last request. -/
inductive Driver.Step : Driver → Event → Driver → Prop
  | create {s : Driver} {h : Nat} : h ∉ s.handles.map Prod.fst →
      Step s (.create h) { s with handles := (h, none) :: s.handles }
  | requestLoad {s : Driver} {h : Nat} : h ∈ s.handles.map Prod.fst →
      Step s (.request (.checkLoad h)) { s with irps := .checkLoad h :: s.irps }
  | requestExecute {s : Driver} {h : Nat} : h ∈ s.handles.map Prod.fst →
      Step s (.request (.checkExecute h)) { s with irps := .checkExecute h :: s.irps }
  | alreadyInitialized {s : Driver} {h vm : Nat} {rest : List Irp} : s.irps.Perm (.checkLoad h :: rest) →
      (h, some vm) ∈ s.handles → Step s (.advance (.checkLoad h) none) { s with irps := rest }
  | notInitialized {s : Driver} {h : Nat} {rest : List Irp} : s.irps.Perm (.checkLoad h :: rest) →
      (h, none) ∈ s.handles → Step s (.advance (.checkLoad h) (some (.load h))) { s with irps := .load h :: rest }
  | loadFails {s : Driver} {h : Nat} {rest : List Irp} : s.irps.Perm (.load h :: rest) →
      Step s (.advance (.load h) none) { s with irps := rest }
  | loaded {s : Driver} {h : Nat} {rest : List Irp} : s.irps.Perm (.load h :: rest) →
      Step s (.advance (.load h) (some (.install h s.created)))
        { s with irps := .install h s.created :: rest, created := s.created + 1 }
  | installed {s : Driver} {h vm : Nat} {rest : List Irp} {others : List (Nat × Option Nat)} :
      s.irps.Perm (.install h vm :: rest) → s.handles.Perm ((h, none) :: others) →
      Step s (.advance (.install h vm) none) { s with irps := rest, handles := (h, some vm) :: others }
  | exchangeFails {s : Driver} {h vm first : Nat} {rest : List Irp} : s.irps.Perm (.install h vm :: rest) →
      (h, some first) ∈ s.handles →
      Step s (.advance (.install h vm) (some (.discard h vm))) { s with irps := .discard h vm :: rest }
  | discarded {s : Driver} {h vm : Nat} {rest : List Irp} : s.irps.Perm (.discard h vm :: rest) →
      Step s (.advance (.discard h vm) none) { s with irps := rest, destroyed := vm :: s.destroyed }
  | nothingToExecute {s : Driver} {h : Nat} {rest : List Irp} : s.irps.Perm (.checkExecute h :: rest) →
      (h, none) ∈ s.handles → Step s (.advance (.checkExecute h) none) { s with irps := rest }
  | executing {s : Driver} {h vm : Nat} {rest : List Irp} : s.irps.Perm (.checkExecute h :: rest) →
      (h, some vm) ∈ s.handles →
      Step s (.advance (.checkExecute h) (some (.execute h vm))) { s with irps := .execute h vm :: rest }
  | executed {s : Driver} {h vm : Nat} {rest : List Irp} : s.irps.Perm (.execute h vm :: rest) →
      Step s (.advance (.execute h vm) none) { s with irps := rest }
  | close {s : Driver} {h : Nat} {context : Option Nat} {others : List (Nat × Option Nat)} :
      (∀ i ∈ s.irps, i.handle ≠ h) → s.handles.Perm ((h, context) :: others) →
      Step s (.close h) { s with handles := others, destroyed := context.toList ++ s.destroyed }

/-- The programs that a request or a file object is going to destroy. -/
def Driver.owned (s : Driver) : List Nat := s.irps.filterMap Irp.owned ++ s.handles.filterMap Prod.snd

/-- Every program has one owner or is destroyed, and what executes belongs to the file object of the request. -/
structure Driver.Accounts (s : Driver) : Prop where
  objects : (s.handles.map Prod.fst).Nodup
  opened : ∀ i ∈ s.irps, i.handle ∈ s.handles.map Prod.fst
  once : (s.owned ++ s.destroyed).Perm (List.range s.created)
  executes : ∀ h vm, Irp.execute h vm ∈ s.irps → (h, some vm) ∈ s.handles

section
variable {s : Driver}

theorem accounts_start : Driver.start.Accounts where
  objects := .nil
  opened _ none_ := nomatch none_
  once := .nil
  executes _ _ none_ := nomatch none_

theorem owned_of_perm {irps : List Irp} {handles : List (Nat × Option Nat)} (first : s.irps.Perm irps)
    (second : s.handles.Perm handles) :
    s.owned.Perm (irps.filterMap Irp.owned ++ handles.filterMap Prod.snd) :=
  (first.filterMap _).append (second.filterMap _)

/-- A request begins, goes on or ends, with what it owned. -/
theorem Driver.Accounts.replace (accounts : s.Accounts) (next before : List Irp) {rest : List Irp}
    (taken : s.irps.Perm (before ++ rest)) (opened : ∀ i ∈ next, i.handle ∈ s.handles.map Prod.fst)
    (owner : next.filterMap Irp.owned = before.filterMap Irp.owned)
    (executes : ∀ h vm, Irp.execute h vm ∈ next → (h, some vm) ∈ s.handles) :
    Driver.Accounts { s with irps := next ++ rest } where
  objects := accounts.objects
  opened i in_ := by
    rcases List.mem_append.mp in_ with new | old
    · exact opened i new
    · exact accounts.opened i (taken.mem_iff.mpr (List.mem_append_right _ old))
  once := by
    refine List.Perm.trans (List.Perm.append_right _ ?_) accounts.once
    refine List.Perm.trans ?_ (owned_of_perm taken (.refl _)).symm
    refine List.Perm.append_right _ (List.Perm.of_eq ?_)
    rw [List.filterMap_append, List.filterMap_append, owner]
  executes h vm in_ := by
    rcases List.mem_append.mp in_ with new | old
    · exact executes h vm new
    · exact accounts.executes h vm (taken.mem_iff.mpr (List.mem_append_right _ old))

theorem Driver.Accounts.begin_ (accounts : s.Accounts) {i : Irp} (opened : i.handle ∈ s.handles.map Prod.fst)
    (owner : i.owned = none) (executes : ∀ h vm, i ≠ .execute h vm) :
    Driver.Accounts { s with irps := i :: s.irps } := by
  refine accounts.replace [i] [] (.refl _) ?_ ?_ ?_
  · exact List.forall_mem_singleton.mpr opened
  · rw [List.filterMap_cons_none owner]
  · exact fun h vm in_ => absurd (List.mem_singleton.mp in_).symm (executes h vm)

theorem Driver.Accounts.advance (accounts : s.Accounts) {i j : Irp} {rest : List Irp}
    (taken : s.irps.Perm (i :: rest)) (same : j.handle = i.handle) (owner : j.owned = i.owned)
    (executes : ∀ h vm, j = .execute h vm → (h, some vm) ∈ s.handles) :
    Driver.Accounts { s with irps := j :: rest } := by
  refine accounts.replace [j] [i] taken ?_ ?_ ?_
  · rw [List.forall_mem_singleton, same]
    exact accounts.opened i (taken.mem_iff.mpr List.mem_cons_self)
  · rw [List.filterMap_cons, List.filterMap_cons, owner]
  · exact fun h vm in_ => executes h vm (List.mem_singleton.mp in_).symm

theorem Driver.Accounts.finish (accounts : s.Accounts) {i : Irp} {rest : List Irp}
    (taken : s.irps.Perm (i :: rest)) (owner : i.owned = none) : Driver.Accounts { s with irps := rest } := by
  refine accounts.replace [] [i] taken ?_ ?_ ?_
  · exact fun _ none_ => nomatch none_
  · exact (List.filterMap_cons_none owner).symm
  · exact fun _ _ none_ => nomatch none_

/-- What one owner has less, the next one has more. -/
theorem Driver.Accounts.once_of_count (accounts : s.Accounts) {t : Driver}
    (count : ∀ vm, (t.owned ++ t.destroyed).count vm + (List.range s.created).count vm =
      (s.owned ++ s.destroyed).count vm + (List.range t.created).count vm) :
    (t.owned ++ t.destroyed).Perm (List.range t.created) := by
  refine List.perm_iff_count.mpr fun vm => ?_
  have before := accounts.once.count_eq vm
  have both := count vm
  omega

theorem Driver.Accounts.create (accounts : s.Accounts) {h : Nat} (fresh : h ∉ s.handles.map Prod.fst) :
    Driver.Accounts { s with handles := (h, none) :: s.handles } where
  objects := List.nodup_cons.mpr ⟨fresh, accounts.objects⟩
  opened i in_ := List.mem_cons_of_mem h (accounts.opened i in_)
  once := accounts.once
  executes h vm in_ := List.mem_cons_of_mem _ (accounts.executes h vm in_)

theorem Driver.Accounts.loaded (accounts : s.Accounts) {h : Nat} {rest : List Irp}
    (taken : s.irps.Perm (.load h :: rest)) :
    Driver.Accounts { s with irps := .install h s.created :: rest, created := s.created + 1 } where
  objects := accounts.objects
  opened i in_ := by
    rcases List.mem_cons.mp in_ with rfl | old
    · exact accounts.opened (.load h) (taken.mem_iff.mpr List.mem_cons_self)
    · exact accounts.opened i (taken.mem_iff.mpr (List.mem_cons_of_mem _ old))
  once := by
    refine accounts.once_of_count fun vm => ?_
    have before := (taken.filterMap Irp.owned).count_eq vm
    simp only [Driver.owned, List.count_append, before, List.filterMap_cons, Irp.owned, List.count_cons,
      List.range_succ, List.count_nil]
    omega
  executes h vm in_ := by
    rcases List.mem_cons.mp in_ with impossible | old
    · cases impossible
    · exact accounts.executes h vm (taken.mem_iff.mpr (List.mem_cons_of_mem _ old))

theorem Driver.Accounts.installed (accounts : s.Accounts) {h vm : Nat} {rest : List Irp}
    {others : List (Nat × Option Nat)} (taken : s.irps.Perm (.install h vm :: rest))
    (empty : s.handles.Perm ((h, none) :: others)) :
    Driver.Accounts { s with irps := rest, handles := (h, some vm) :: others } where
  objects := (empty.map Prod.fst).nodup_iff.mp accounts.objects
  opened i in_ := (empty.map Prod.fst).mem_iff.mp (accounts.opened i (taken.mem_iff.mpr (List.mem_cons_of_mem _ in_)))
  once := by
    refine accounts.once_of_count fun other => ?_
    have before := (taken.filterMap Irp.owned).count_eq other
    have context := (empty.filterMap Prod.snd).count_eq other
    simp only [Driver.owned, List.count_append, before, context, List.filterMap_cons, Irp.owned, List.count_cons]
    omega
  executes h' vm' in_ := by
    have old := accounts.executes h' vm' (taken.mem_iff.mpr (List.mem_cons_of_mem _ in_))
    rcases List.mem_cons.mp (empty.mem_iff.mp old) with impossible | other
    · cases impossible
    · exact List.mem_cons_of_mem _ other

theorem Driver.Accounts.discarded (accounts : s.Accounts) {h vm : Nat} {rest : List Irp}
    (taken : s.irps.Perm (.discard h vm :: rest)) :
    Driver.Accounts { s with irps := rest, destroyed := vm :: s.destroyed } where
  objects := accounts.objects
  opened i in_ := accounts.opened i (taken.mem_iff.mpr (List.mem_cons_of_mem _ in_))
  once := by
    refine accounts.once_of_count fun other => ?_
    have before := (taken.filterMap Irp.owned).count_eq other
    simp only [Driver.owned, List.count_append, before, List.filterMap_cons, Irp.owned, List.count_cons]
    omega
  executes h vm in_ := accounts.executes h vm (taken.mem_iff.mpr (List.mem_cons_of_mem _ in_))

theorem Driver.Accounts.close (accounts : s.Accounts) {h : Nat} {context : Option Nat}
    {others : List (Nat × Option Nat)} (idle : ∀ i ∈ s.irps, i.handle ≠ h)
    (closing : s.handles.Perm ((h, context) :: others)) :
    Driver.Accounts { s with handles := others, destroyed := context.toList ++ s.destroyed } where
  objects := (List.nodup_cons.mp ((closing.map Prod.fst).nodup_iff.mp accounts.objects)).2
  opened i in_ := by
    rcases List.mem_cons.mp ((closing.map Prod.fst).mem_iff.mp (accounts.opened i in_)) with same | other
    · exact absurd same (idle i in_)
    · exact other
  once := by
    refine accounts.once_of_count fun other => ?_
    have context_ := (closing.filterMap Prod.snd).count_eq other
    simp only [Driver.owned, List.count_append, context_]
    cases context with
    | none =>
        rw [List.filterMap_cons_none rfl]
        exact congrArg (· + _) (congrArg (_ + ·) (Nat.zero_add _))
    | some vm =>
        simp only [List.filterMap_cons, Option.toList_some, List.count_cons, List.count_nil]
        omega
  executes h' vm in_ := by
    rcases List.mem_cons.mp (closing.mem_iff.mp (accounts.executes h' vm in_)) with same | other
    · cases same
      exact absurd rfl (idle _ in_)
    · exact other

/-- Every step of every request keeps the accounts. -/
theorem Driver.Step.accounts {t : Driver} {e : Event} (step : s.Step e t) (accounts : s.Accounts) : t.Accounts := by
  cases step with
  | create fresh => exact accounts.create fresh
  | requestLoad open_ => exact accounts.begin_ open_ rfl fun _ _ same => nomatch same
  | requestExecute open_ => exact accounts.begin_ open_ rfl fun _ _ same => nomatch same
  | alreadyInitialized taken _ => exact accounts.finish taken rfl
  | notInitialized taken _ => exact accounts.advance taken rfl rfl fun _ _ same => nomatch same
  | loadFails taken => exact accounts.finish taken rfl
  | loaded taken => exact accounts.loaded taken
  | installed taken empty => exact accounts.installed taken empty
  | exchangeFails taken _ => exact accounts.advance taken rfl rfl fun _ _ same => nomatch same
  | discarded taken => exact accounts.discarded taken
  | nothingToExecute taken _ => exact accounts.finish taken rfl
  | executing taken has =>
      refine accounts.advance taken rfl rfl ?_
      rintro _ _ ⟨⟩
      exact has
  | executed taken => exact accounts.finish taken rfl
  | close idle closing => exact accounts.close idle closing

theorem accounts_of_run {events : List Event} (run : Run Driver.Step Driver.start events s) : s.Accounts :=
  run.invariant (fun _ _ _ accounts step => step.accounts accounts) accounts_start

theorem Driver.Accounts.owner_of_executing (accounts : s.Accounts) {h vm : Nat} (executing : .execute h vm ∈ s.irps) :
    vm ∈ s.owned :=
  List.mem_append_right _ (List.mem_filterMap.mpr ⟨_, accounts.executes h vm executing, rfl⟩)

theorem Driver.Accounts.owned_nodup (accounts : s.Accounts) : (s.owned ++ s.destroyed).Nodup :=
  accounts.once.nodup_iff.mpr List.nodup_range

theorem Driver.Accounts.one_handle (accounts : s.Accounts) {h h' vm : Nat} (first : (h, some vm) ∈ s.handles)
    (second : (h', some vm) ∈ s.handles) : h = h' := by
  have programs : (s.handles.filterMap Prod.snd).Nodup :=
    (List.nodup_append.mp (List.nodup_append.mp accounts.owned_nodup).1).2.1
  have apart := List.pairwise_filterMap.mp programs
  by_contra different
  have pairs : (h, some vm) ≠ (h', some vm) := fun same => different (congrArg Prod.fst same)
  have symmetric : Std.Symm fun (one other : Nat × Option Nat) =>
      ∀ x, one.snd = some x → ∀ y, other.snd = some y → x ≠ y :=
    ⟨fun _ _ distinct x has y has' => (distinct y has' x has).symm⟩
  exact apart.forall first second pairs vm rfl vm rfl rfl

/-- A file object has its program until it is closed. -/
theorem Driver.Step.keeps_program {t : Driver} {e : Event} {h vm : Nat} (step : s.Step e t) (open_ : e ≠ .close h)
    (has : (h, some vm) ∈ s.handles) : (h, some vm) ∈ t.handles := by
  cases step with
  | create _ => exact List.mem_cons_of_mem _ has
  | installed _ empty =>
      rcases List.mem_cons.mp (empty.mem_iff.mp has) with impossible | other
      · cases impossible
      · exact List.mem_cons_of_mem _ other
  | close _ closing =>
      rcases List.mem_cons.mp (closing.mem_iff.mp has) with same | other
      · cases same
        exact absurd rfl open_
      · exact other
  | _ => exact has

/-- No program is destroyed twice or while a request executes it, two file objects never have the same program, a file
object keeps the first program it gets, and behind the last file object every program is destroyed, however the
requests interleave. -/
theorem programs_destroyed_once {events : List Event} (run : Run Driver.Step Driver.start events s) :
    s.destroyed.Nodup ∧
    (∀ h vm, .execute h vm ∈ s.irps → vm ∉ s.destroyed ∧ (h, some vm) ∈ s.handles) ∧
    (∀ h h' vm, (h, some vm) ∈ s.handles → (h', some vm) ∈ s.handles → h = h') ∧
    (∀ h vm later t, (h, some vm) ∈ s.handles → Run Driver.Step s later t → .close h ∉ later →
      (h, some vm) ∈ t.handles) ∧
    (s.handles = [] → s.irps = [] ∧ ∀ vm < s.created, vm ∈ s.destroyed) := by
  have accounts := accounts_of_run run
  obtain ⟨_, destroyed, apart⟩ := List.nodup_append.mp accounts.owned_nodup
  refine ⟨destroyed, fun h vm executing => ⟨fun gone => ?_, accounts.executes h vm executing⟩,
    fun h h' vm first second => accounts.one_handle first second, fun h vm later t has rest open_ => ?_,
    fun closed => ?_⟩
  · exact apart vm (accounts.owner_of_executing executing) vm gone rfl
  · have keeps (a : Driver) (e : Event) (b : Driver) (has : (h, some vm) ∈ a.handles) (different : e ≠ .close h)
        (step : a.Step e b) : (h, some vm) ∈ b.handles := step.keeps_program different has
    exact rest.invariant_of_labels keeps (fun e in_ same => open_ (same ▸ in_)) has
  · have ended : s.irps = [] := by
      refine List.eq_nil_iff_forall_not_mem.mpr fun i in_ => ?_
      have open_ := accounts.opened i in_
      rw [closed] at open_
      exact nomatch open_
    refine ⟨ended, fun vm created => ?_⟩
    have known := accounts.once.mem_iff.mpr (List.mem_range.mpr created)
    rw [Driver.owned, ended, closed] at known
    exact known

end

/-- Two requests load at once, the second program is discarded, and the first one executes. -/
theorem programs_destroyed_once_of_race :
    Run Driver.Step Driver.start
      [.create 7, .request (.checkLoad 7), .request (.checkLoad 7), .advance (.checkLoad 7) (some (.load 7)),
        .advance (.checkLoad 7) (some (.load 7)), .advance (.load 7) (some (.install 7 0)),
        .advance (.load 7) (some (.install 7 1)), .advance (.install 7 0) none,
        .advance (.install 7 1) (some (.discard 7 1)), .advance (.discard 7 1) none, .request (.checkExecute 7),
        .advance (.checkExecute 7) (some (.execute 7 0))]
      ⟨[(7, some 0)], [.execute 7 0], 2, [1]⟩ ∧ [1].Nodup := by
  have run : Run Driver.Step Driver.start
      [.create 7, .request (.checkLoad 7), .request (.checkLoad 7), .advance (.checkLoad 7) (some (.load 7)),
        .advance (.checkLoad 7) (some (.load 7)), .advance (.load 7) (some (.install 7 0)),
        .advance (.load 7) (some (.install 7 1)), .advance (.install 7 0) none,
        .advance (.install 7 1) (some (.discard 7 1)), .advance (.discard 7 1) none, .request (.checkExecute 7),
        .advance (.checkExecute 7) (some (.execute 7 0))]
      ⟨[(7, some 0)], [.execute 7 0], 2, [1]⟩ := by
    refine .cons (.create (List.not_mem_nil)) ?_
    refine .cons (.requestLoad (by decide)) (.cons (.requestLoad (by decide)) ?_)
    refine .cons (.notInitialized (.refl _) (by decide)) ?_
    refine .cons (.notInitialized (.swap _ _ _) (by decide)) ?_
    refine .cons (.loaded (.refl _)) ?_
    refine .cons (.loaded (.swap _ _ _)) ?_
    refine .cons (.installed (.swap _ _ _) (.refl _)) ?_
    refine .cons (.exchangeFails (.refl _) List.mem_cons_self) ?_
    refine .cons (.discarded (.refl _)) ?_
    refine .cons (.requestExecute (by decide)) ?_
    exact .cons (.executing (.refl _) List.mem_cons_self) (.nil _)
  exact ⟨run, (programs_destroyed_once run).1⟩

end SyncRGB.PawnDriver
