import Mathlib.Data.List.Perm.Subperm
import SyncRGB.Resources.HotPlug
import SyncRGB.Transition.Run

/-! One rescan: which old controller each registration takes its state from, and what the sizes of the
three lists tell about the devices in the end. -/
namespace SyncRGB
open ByteCodec Transition
variable {Ptr : Type} [DecidableEq Ptr]

/-- The old controllers, the new ones, and for each match in its order the new controller with the old
one it was restored from. -/
structure Rescan (Ptr : Type) where
  rgbControllersHwCleanupPending : List Ptr
  rgbControllersHw : List Ptr
  restored : List (Ptr × Ptr)
deriving DecidableEq, Repr

namespace Rescan

/-- `rgb_controllers_hw_matched`. -/
def rgbControllersHwMatched (s : Rescan Ptr) : List Ptr := s.restored.map Prod.snd

inductive Action (Ptr : Type)
  | registerRGBController (controller : Ptr)
  | unregisterRGBController (controller : Ptr)
deriving DecidableEq, Repr

/-- The lists as `ResourceManager::Cleanup` leaves them. -/
def cleanup (s : Rescan Ptr) : Rescan Ptr where
  rgbControllersHwCleanupPending :=
    if s.rgbControllersHwCleanupPending.length = 0 then s.rgbControllersHw
    else s.rgbControllersHwCleanupPending
  rgbControllersHw := []
  restored := []

variable (object : Ptr → RGBController)

/-- Not matched already, and taken for the new controller. -/
def freeFor (matched : List Ptr) (c existing : Ptr) : Bool :=
  existing ∉ matched && (object existing).matchesExisting (object c)

/-- The first pending controller that is free for the new one. -/
def findExisting (s : Rescan Ptr) (c : Ptr) : Option Ptr :=
  s.rgbControllersHwCleanupPending.find? (freeFor object s.rgbControllersHwMatched c)

/-- What the two calls do to the lists, with the controllers as `object` tells them. -/
def step (s : Rescan Ptr) : Action Ptr → Rescan Ptr
  | .registerRGBController c =>
      { s with
        rgbControllersHw := s.rgbControllersHw ++ [c]
        restored :=
          match s.findExisting object c with
          | some existing => s.restored ++ [(c, existing)]
          | none => s.restored }
  | .unregisterRGBController c => { s with rgbControllersHw := s.rgbControllersHw.erase c }

def Step (s : Rescan Ptr) (a : Action Ptr) (t : Rescan Ptr) : Prop := t = s.step object a

/-- The verdict of `DetectDevicesCoroutine`. -/
def devicesChanged (s : Rescan Ptr) : Bool :=
  s.rgbControllersHw.length ≠ s.rgbControllersHwCleanupPending.length ||
    s.rgbControllersHwMatched.length ≠ s.rgbControllersHw.length

/-- A controller that took over the state of an old one is not unregistered. -/
def KeepsRestored (s : Rescan Ptr) : Action Ptr → Prop
  | .registerRGBController _ => True
  | .unregisterRGBController c => c ∉ s.restored.map Prod.fst

/-- One-to-one: the old controllers, in some order, beside the new ones they are taken for. -/
def Corresponds (olds news : List Ptr) : Prop :=
  ∃ order, order.Perm olds ∧
    List.Forall₂ (fun new old => (object old).matchesExisting (object new) = true) news order

/-- Every match is one of a pending controller that was free, and the identities agree. -/
structure Sound (s : Rescan Ptr) : Prop where
  once : s.rgbControllersHwMatched.Nodup
  pending : s.rgbControllersHwMatched ⊆ s.rgbControllersHwCleanupPending
  agree : ∀ e ∈ s.restored, (object e.2).matchesExisting (object e.1) = true

/-- Beside the restored controllers the list holds those that found none. -/
def Accounted (s : Rescan Ptr) : Prop :=
  ∃ unmatched, s.rgbControllersHw.Perm (s.restored.map Prod.fst ++ unmatched)

variable {object} {s t : Rescan Ptr} {a : Action Ptr}

theorem findExisting_eq_some {c existing : Ptr} (found : s.findExisting object c = some existing) :
    existing ∈ s.rgbControllersHwCleanupPending ∧ existing ∉ s.rgbControllersHwMatched ∧
      (object existing).matchesExisting (object c) = true := by
  have both := List.find?_some found
  simp only [freeFor, Bool.and_eq_true, decide_eq_true_eq] at both
  exact ⟨List.mem_of_find?_eq_some found, both.1, both.2⟩

theorem step_pending (s : Rescan Ptr) (a : Action Ptr) :
    (s.step object a).rgbControllersHwCleanupPending = s.rgbControllersHwCleanupPending := by
  cases a with
  | registerRGBController => rfl
  | unregisterRGBController => rfl

theorem Sound.step (sound : s.Sound object) (a : Action Ptr) : (s.step object a).Sound object := by
  cases a with
  | unregisterRGBController c => exact ⟨sound.once, sound.pending, sound.agree⟩
  | registerRGBController c =>
      cases found : s.findExisting object c with
      | none =>
          have same : (s.step object (.registerRGBController c)).restored = s.restored := by
            simp only [Rescan.step, found]
          constructor
          · rw [rgbControllersHwMatched, same]
            exact sound.once
          · rw [rgbControllersHwMatched, same]
            exact sound.pending
          · rw [same]
            exact sound.agree
      | some existing =>
          obtain ⟨member, free, agree⟩ := findExisting_eq_some found
          have added : (s.step object (.registerRGBController c)).restored =
              s.restored ++ [(c, existing)] := by
            simp only [Rescan.step, found]
          constructor
          · rw [rgbControllersHwMatched, added, List.map_append]
            exact sound.once.append (List.nodup_singleton _) (List.disjoint_singleton.mpr free)
          · rw [rgbControllersHwMatched, added, List.map_append]
            apply List.append_subset.mpr
            exact ⟨sound.pending, List.cons_subset.mpr ⟨member, List.nil_subset _⟩⟩
          · rw [added]
            intro e inside
            rcases List.mem_append.mp inside with old | new
            · exact sound.agree e old
            · cases List.mem_singleton.mp new
              exact agree

theorem Accounted.step (accounted : s.Accounted) (kept : s.KeepsRestored a) :
    (s.step object a).Accounted := by
  obtain ⟨unmatched, same⟩ := accounted
  cases a with
  | unregisterRGBController c =>
      apply Exists.intro (unmatched.erase c)
      change (s.rgbControllersHw.erase c).Perm (s.restored.map Prod.fst ++ unmatched.erase c)
      rw [← List.erase_append_right _ kept]
      exact same.erase c
  | registerRGBController c =>
      cases found : s.findExisting object c with
      | none =>
          apply Exists.intro (unmatched ++ [c])
          simp only [Rescan.step, found]
          rw [← List.append_assoc]
          exact same.append_right [c]
      | some existing =>
          apply Exists.intro unmatched
          simp only [Rescan.step, found, List.map_append, List.append_assoc]
          calc (s.rgbControllersHw ++ [c]).Perm ((s.restored.map Prod.fst ++ unmatched) ++ [c]) :=
                same.append_right [c]
            _ = s.restored.map Prod.fst ++ (unmatched ++ [c]) := List.append_assoc _ _ _
            _ |>.Perm (s.restored.map Prod.fst ++ ([c] ++ unmatched)) :=
                List.perm_append_comm.append_left _

/-- The flags of the pending controllers tell what the list of the matched ones tells. -/
theorem restoreDetected_eq {pending : List Ptr} (distinct : pending.Nodup) (matched : List Ptr) (c : Ptr) :
    restoreDetected (pending.map fun p => (object p, decide (p ∈ matched))) (object c) =
      match pending.find? (freeFor object matched c) with
      | some existing => (pending.map fun p => (object p, decide (p ∈ matched ++ [existing])),
          (object existing).restoreFrom (object c))
      | none => (pending.map fun p => (object p, decide (p ∈ matched)), object c) := by
  induction pending with
  | nil => rfl
  | cons p pending ih =>
      obtain ⟨fresh, distinct⟩ := List.nodup_cons.mp distinct
      have flag : (!decide (p ∈ matched) && (object p).matchesExisting (object c)) =
          freeFor object matched c p := by
        rw [freeFor, decide_not]
      rw [List.map_cons, restoreDetected, flag, List.find?_cons]
      cases freeFor object matched c p with
      | true =>
          have others : ∀ q ∈ pending,
              (object q, decide (q ∈ matched)) = (object q, decide (q ∈ matched ++ [p])) := by
            intro q member
            have apart : q ≠ p := fun same => fresh (same ▸ member)
            simp [apart]
          simp [List.map_congr_left others]
      | false =>
          rw [ih distinct]
          cases found : pending.find? (freeFor object matched c) with
          | none => rfl
          | some existing =>
              have apart : p ≠ existing := fun same => fresh (same ▸ List.mem_of_find?_eq_some found)
              simp [apart]

theorem Step.sound (sound : s.Sound object) (step : Step object s a t) : t.Sound object :=
  step ▸ sound.step a

theorem Step.pending (step : Step object s a t) :
    t.rgbControllersHwCleanupPending = s.rgbControllersHwCleanupPending :=
  step ▸ step_pending s a

omit [DecidableEq Ptr] in
theorem sound_cleanup (s : Rescan Ptr) : s.cleanup.Sound object :=
  ⟨List.nodup_nil, List.nil_subset _, fun _ member => nomatch member⟩

omit [DecidableEq Ptr] in
theorem accounted_cleanup (s : Rescan Ptr) : s.cleanup.Accounted := ⟨[], List.Perm.refl _⟩

omit [DecidableEq Ptr] in
/-- When the sizes agree and every match is accounted for, all new controllers are matched and all old
ones are used. -/
theorem corresponds_of_unchanged (sound : s.Sound object) (accounted : s.Accounted)
    (unchanged : s.devicesChanged = false) :
    Corresponds object s.rgbControllersHwCleanupPending s.rgbControllersHw := by
  simp only [devicesChanged, Bool.or_eq_false_iff, decide_eq_false_iff_not, not_not] at unchanged
  obtain ⟨count, all⟩ := unchanged
  obtain ⟨unmatched, same⟩ := accounted
  have sizes := same.length_eq
  simp only [rgbControllersHwMatched, List.length_map, List.length_append] at all sizes
  have none_ : unmatched = [] := List.length_eq_zero_iff.mp (by omega)
  rw [none_, List.append_nil] at same
  have pairs : List.Forall₂ (fun new old => (object old).matchesExisting (object new) = true)
      (s.restored.map Prod.fst) (s.restored.map Prod.snd) := by
    rw [List.forall₂_map_left_iff, List.forall₂_map_right_iff, List.forall₂_same]
    exact sound.agree
  obtain ⟨order, beside, reordered⟩ := List.perm_comp_forall₂ same pairs
  have used : s.rgbControllersHwMatched.Perm s.rgbControllersHwCleanupPending := by
    apply (sound.once.subperm sound.pending).perm_of_length_le
    rw [rgbControllersHwMatched, List.length_map]
    omega
  exact ⟨order, reordered.trans used, beside⟩

/-- In every rescan each old controller is used at most once. When no controller that was restored is
unregistered again, a verdict of no change means a one-to-one correspondence with the old list. -/
theorem rescan_matching (object : Ptr → RGBController) (old : List Ptr) (stale : List (Ptr × Ptr))
    (actions : List (Action Ptr)) (s : Rescan Ptr)
    (run : Run (Step object) (cleanup ⟨[], old, stale⟩) actions s) :
    (s.rgbControllersHwCleanupPending = old ∧ s.rgbControllersHwMatched.Nodup ∧
      s.rgbControllersHwMatched.Subperm s.rgbControllersHwCleanupPending ∧
      ∀ e ∈ s.restored, (object e.2).matchesExisting (object e.1) = true) ∧
    (Run (Guarded KeepsRestored (Step object)) (cleanup ⟨[], old, stale⟩) actions s →
      s.devicesChanged = false → Corresponds object old s.rgbControllersHw) := by
  have stays (s : Rescan Ptr) (a : Action Ptr) (t : Rescan Ptr) (sound : s.Sound object)
      (step : Step object s a t) : t.Sound object := step.sound sound
  have sound : s.Sound object := run.invariant stays (sound_cleanup _)
  have keeps (s : Rescan Ptr) (a : Action Ptr) (t : Rescan Ptr)
      (same : s.rgbControllersHwCleanupPending = old) (step : Step object s a t) :
      t.rgbControllersHwCleanupPending = old := (Step.pending step).trans same
  have pending : s.rgbControllersHwCleanupPending = old := run.invariant keeps rfl
  constructor
  · exact ⟨pending, sound.once, sound.once.subperm sound.pending, sound.agree⟩
  · intro guarded unchanged
    have counts (s : Rescan Ptr) (a : Action Ptr) (t : Rescan Ptr) (accounted : s.Accounted)
        (step : Guarded KeepsRestored (Step object) s a t) : t.Accounted :=
      step.2 ▸ accounted.step step.1
    have accounted : s.Accounted := guarded.invariant counts (accounted_cleanup _)
    rw [← pending]
    exact corresponds_of_unchanged sound accounted unchanged

/-- Controllers that only differ in their name: 1 and 11 report the same one. -/
def numbered (n : Nat) : RGBController := { RGBController.new 0 with name := [UInt8.ofNat (n % 10)] }

/-- Both old controllers are detected again. -/
theorem rescan_matching_again :
    Corresponds numbered [1, 2]
      (([.registerRGBController 12, .registerRGBController 11].foldl (step numbered)
        (cleanup ⟨[], [1, 2], []⟩)).rgbControllersHw) := by
  apply (rescan_matching numbered [1, 2] [] [.registerRGBController 12, .registerRGBController 11] _
    (.cons rfl (.cons rfl (.nil _)))).2
  · exact .cons ⟨trivial, rfl⟩ (.cons ⟨trivial, rfl⟩ (.nil _))
  · decide

/-- Controller 11 is unregistered after it was restored from 1, and 3 takes its place in the count. -/
theorem rescan_unregistered :
    ∃ s, Run (Step numbered) (cleanup ⟨[], [1, 2], []⟩)
        [.registerRGBController 11, .registerRGBController 3, .unregisterRGBController 11,
          .registerRGBController 12] s ∧
      s.devicesChanged = false ∧ ¬ Corresponds numbered [1, 2] s.rgbControllersHw := by
  refine ⟨_, .cons rfl (.cons rfl (.cons rfl (.cons rfl (.nil _)))), by decide, ?_⟩
  rintro ⟨order, same, beside⟩
  change List.Forall₂ _ [3, 12] order at beside
  cases beside with
  | cons first rest =>
      have old := same.subset List.mem_cons_self
      simp only [List.mem_cons, List.not_mem_nil, or_false] at old
      rcases old with rfl | rfl
      · exact absurd first (by decide)
      · exact absurd first (by decide)

end Rescan
end SyncRGB
