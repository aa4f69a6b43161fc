import Mathlib.Data.List.Nodup
import Mathlib.Data.List.Range
import SyncRGB.Resources.DetectionGate

/-! One detection at a time. The gate is tested long before it is stored, an abort opens it while the coroutine is
still to run, and the end of a detection opens it before it is over; as long as no call comes to its test then,
there is one place where the detection is, and every bus and every controller is deleted once. -/
namespace SyncRGB
open Transition

/-- What there is of a detection: the call that has passed the test, its coroutine in the slot, or the coroutine
at work. -/
inductive DetectionStage where
  | nowhere
  | calling (pc : RescanPc)
  | queued
  | running (pc : DetectPc)
  deriving DecidableEq, Repr

namespace DetectionStage

def underway : DetectionStage → Nat
  | nowhere => 0
  | _ => 1

/-- What the gate and the mark of an abort say. -/
def Gate (required aborted : Bool) : DetectionStage → Prop
  | nowhere => required = false ∧ aborted = false
  | calling .schedule | queued | running .lock | running .detectors | running .store => required = !aborted
  | calling _ => required = false ∧ aborted = false
  | running .deletePending | running .unlock => required = false

def locked : DetectionStage → Bool
  | running .lock => false
  | running _ => true
  | _ => false

def inHand : DetectionStage → List Nat
  | calling pc => pc.inHand
  | _ => []

/-- The busses of the last detection are gone, and those of the next are not there. -/
def cleared : DetectionStage → Bool
  | calling (.deleteBusses _) | calling .hidExit | calling .updateDeviceList | calling .store | calling .schedule
  | queued | running .lock => true
  | _ => false

/-- No controllers wait to be deleted. -/
def unsaved : DetectionStage → Bool
  | nowhere | calling .waitForDeviceDetection | calling .saveControllers | running .unlock => true
  | _ => false

/-- The device list is up to date. -/
def listed : DetectionStage → Bool
  | calling .store | calling .schedule | queued | running .lock | running .detectors | running .store
  | running .deletePending => true
  | _ => false

/-- A request to stop closes a gate that is open by a mark. -/
theorem Gate.stop {required aborted : Bool} {g : DetectionStage} (gate : g.Gate required aborted) :
    g.Gate false (aborted || required) := by
  have marked (shut : required = !aborted) : false = !(aborted || required) := by
    rw [shut, Bool.or_not_self]
    rfl
  have unmarked (open_ : required = false ∧ aborted = false) : false = false ∧ (aborted || required) = false := by
    rw [open_.1, open_.2]
    exact ⟨rfl, rfl⟩
  cases g with
  | nowhere => exact unmarked gate
  | queued => exact marked gate
  | calling pc =>
      cases pc with
      | schedule => exact marked gate
      | _ => exact unmarked gate
  | running pc =>
      cases pc with
      | deletePending => rfl
      | unlock => rfl
      | _ => exact marked gate

end DetectionStage

/-! ### The lists -/

theorem DeviceLists.update_eq {l : DeviceLists} (distinct : l.rgbControllersHw.Nodup)
    (unique : l.rgbControllers.Nodup) : l.update = { l with rgbControllers := l.rgbControllersHw } := by
  rw [update, UpdateDeviceList.updateDeviceList_eq distinct unique]

/-- Every bus was deleted, is in the hand of `Cleanup` or is listed; every controller was deleted, waits for it or
is listed. -/
structure Booked (l : DeviceLists) (g : DetectionStage) : Prop where
  copied : ∀ copy, g = .calling (.clearBusses copy) → copy = l.busses
  busses : (l.bussesDeleted ++ g.inHand ++ l.busses).Perm (List.range l.bussesMade)
  cleared : g.cleared = true → l.busses = []
  controllers : (l.controllersDeleted ++ l.rgbControllersHwCleanupPending ++ l.rgbControllersHw).Perm
    (List.range l.controllersMade)
  saved : g.unsaved = true → l.rgbControllersHwCleanupPending = []
  unique : l.rgbControllers.Nodup
  listed : g.listed = true → l.rgbControllers = l.rgbControllersHw

namespace Booked
variable {l : DeviceLists} {g g' : DetectionStage}

/-- Lines that leave the lists alone. -/
theorem relabel (booked : Booked l g) (copied : ∀ copy, g' = .calling (.clearBusses copy) → copy = l.busses)
    (inHand : g'.inHand = g.inHand) (cleared : g'.cleared = true → g.cleared = true)
    (saved : g'.unsaved = true → g.unsaved = true) (listed : g'.listed = true → g.listed = true) :
    Booked l g' where
  copied := copied
  busses := inHand ▸ booked.busses
  cleared now := booked.cleared (cleared now)
  controllers := booked.controllers
  saved now := booked.saved (saved now)
  unique := booked.unique
  listed now := booked.listed (listed now)

theorem hw_nodup (booked : Booked l g) : l.rgbControllersHw.Nodup := by
  have all : (l.controllersDeleted ++ l.rgbControllersHwCleanupPending ++ l.rgbControllersHw).Nodup :=
    booked.controllers.nodup_iff.mpr List.nodup_range
  exact (List.nodup_append.mp all).2.1

theorem saveControllers (booked : Booked l (.calling .saveControllers)) :
    Booked l.saveControllers (.calling .copyBusses) where
  copied _ other := by cases other
  busses := booked.busses
  cleared other := by cases other
  controllers := by
    have empty := booked.saved rfl
    have all := booked.controllers
    rw [empty, List.append_nil] at all
    rw [DeviceLists.saveControllers, empty]
    simpa using all
  saved other := by cases other
  unique := booked.unique
  listed other := by cases other

theorem clearBusses {copy : List Nat} (booked : Booked l (.calling (.clearBusses copy))) :
    Booked l.clearBusses (.calling (.deleteBusses copy)) where
  copied _ other := by cases other
  busses := by
    have all := booked.busses
    rw [← booked.copied copy rfl] at all
    simpa [DetectionStage.inHand, RescanPc.inHand, DeviceLists.clearBusses] using all
  cleared _ := rfl
  controllers := booked.controllers
  saved other := by cases other
  unique := booked.unique
  listed other := by cases other

theorem deleteBusses {copy : List Nat} (booked : Booked l (.calling (.deleteBusses copy))) :
    Booked (l.deleteBusses copy) (.calling .hidExit) where
  copied _ other := by cases other
  busses := by simpa [DetectionStage.inHand, RescanPc.inHand, DeviceLists.deleteBusses] using booked.busses
  cleared _ := booked.cleared rfl
  controllers := booked.controllers
  saved other := by cases other
  unique := booked.unique
  listed other := by cases other

theorem update (booked : Booked l (.calling .updateDeviceList)) : Booked l.update (.calling .store) := by
  rw [DeviceLists.update_eq booked.hw_nodup booked.unique]
  refine ⟨?_, booked.busses, ?_, booked.controllers, ?_, booked.hw_nodup, ?_⟩
  · intro _ other
    cases other
  · intro _
    exact booked.cleared rfl
  · intro other
    cases other
  · intro _
    rfl

/-- None of the old controllers is in use. -/
theorem deletePending (booked : Booked l (.running .deletePending)) :
    Booked l.deletePending (.running .unlock) where
  copied _ other := by cases other
  busses := booked.busses
  cleared other := by cases other
  controllers := by
    have all : (l.controllersDeleted ++ l.rgbControllersHwCleanupPending ++ l.rgbControllersHw).Nodup :=
      booked.controllers.nodup_iff.mpr List.nodup_range
    have apart : ∀ controller ∈ l.rgbControllersHwCleanupPending, controller ∉ l.rgbControllers := by
      intro controller waiting used
      rw [booked.listed rfl] at used
      exact (List.nodup_append.mp all).2.2 controller (List.mem_append_right _ waiting) controller used rfl
    have every : (l.rgbControllersHwCleanupPending.filter fun controller => controller ∉ l.rgbControllers) =
        l.rgbControllersHwCleanupPending := by
      rw [List.filter_eq_self]
      intro controller waiting
      exact decide_eq_true (apart controller waiting)
    rw [DeviceLists.deletePending, every, List.append_nil]
    exact booked.controllers
  saved _ := rfl
  unique := booked.unique
  listed other := by cases other

theorem registerI2CBus (booked : Booked l (.running .detectors)) :
    Booked l.registerI2CBus (.running .detectors) where
  copied _ other := by cases other
  busses := by
    rw [DeviceLists.registerI2CBus, List.range_succ, ← List.append_assoc]
    exact booked.busses.append_right _
  cleared other := by cases other
  controllers := booked.controllers
  saved other := by cases other
  unique := booked.unique
  listed := booked.listed

theorem registerRGBController (booked : Booked l (.running .detectors)) :
    Booked l.registerRGBController (.running .detectors) := by
  have more : (l.controllersDeleted ++ l.rgbControllersHwCleanupPending ++
      (l.rgbControllersHw ++ [l.controllersMade])).Perm (List.range (l.controllersMade + 1)) := by
    rw [List.range_succ, ← List.append_assoc]
    exact booked.controllers.append_right _
  have distinct : (l.rgbControllersHw ++ [l.controllersMade]).Nodup :=
    (List.nodup_append.mp (more.nodup_iff.mpr List.nodup_range)).2.1
  have listed := @DeviceLists.update_eq { l with
    rgbControllersHw := l.rgbControllersHw ++ [l.controllersMade]
    controllersMade := l.controllersMade + 1 } distinct booked.unique
  rw [DeviceLists.registerRGBController, listed]
  refine ⟨?_, booked.busses, ?_, more, ?_, distinct, ?_⟩
  · intro _ other
    cases other
  · intro other
    cases other
  · intro other
    cases other
  · intro _
    rfl

end Booked

/-! ### The place of the detection -/

inductive Place (Tid : Type) where
  | nowhere
  | call (caller : Option Tid)
  | queued
  | running (pc : DetectPc)

namespace Detections
variable {Tid : Type} [DecidableEq Tid] {s t : Detections Tid} {a : Action Tid} {p : Place Tid}

def stage (s : Detections Tid) : Place Tid → DetectionStage
  | .nowhere => .nowhere
  | .call c => .calling (s.calls c)
  | .queued => .queued
  | .running pc => .running pc

/-- There is one place where the detection is, if there is one, and the gate, the mutex and the lists are as they
have to be there. -/
structure Standing (s : Detections Tid) (p : Place Tid) : Prop where
  call : ∀ c, (s.calls c).passed = true ↔ p = .call c
  queued : s.scheduledBackgroundFunction = some .detectDevicesCoroutine ↔ p = .queued
  running : ∀ pc, s.background = .detecting pc ↔ p = .running pc
  init : s.calls none ≠ .idle → s.background = .init
  underway : s.underway = (s.stage p).underway
  gate : (s.stage p).Gate s.detectionIsRequired s.aborted
  mutex : s.detectDeviceMutex = (s.stage p).locked
  booked : Booked s.lists (s.stage p)

/-- A call comes to its test only when no other is between the test and the store, no stop was requested since the
store of a detection that is not over, and no detection is between its own store and its end. -/
def Timely (s : Detections Tid) (a : Action Tid) : Prop :=
  ∀ c, a = .advanceCall c → s.calls c = .test →
    (∀ d, (s.calls d).gateOpen = false) ∧ s.aborted = false ∧
      s.background ≠ .detecting .deletePending ∧ s.background ≠ .detecting .unlock

omit [DecidableEq Tid] in
theorem Started.standing (started : s.Started) : s.Standing .nowhere := by
  refine ⟨?_, ?_, ?_, ?_, started.underway, ⟨started.detectionIsRequired, started.aborted⟩,
    started.detectDeviceMutex, ?_⟩
  · intro c
    rw [started.calls c]
    exact iff_of_false (by decide) (by intro other; cases other)
  · apply iff_of_false
    · rcases started.slot with slot | slot
      · rw [slot]
        decide
      · rw [slot]
        decide
    · intro other
      cases other
  · intro pc
    rw [started.background]
    exact iff_of_false (by intro other; cases other) (by intro other; cases other)
  · intro busy
    exact absurd (started.calls none) busy
  · rw [started.lists]
    refine ⟨?_, .nil, ?_, .nil, fun _ => rfl, .nil, ?_⟩
    · intro _ other
      cases other
    · intro _
      rfl
    · intro _
      rfl

namespace Standing

omit [DecidableEq Tid] in
theorem unqueued (standing : s.Standing p) (elsewhere : p ≠ .queued) :
    s.scheduledBackgroundFunction ≠ some .detectDevicesCoroutine := mt standing.queued.mp elsewhere

omit [DecidableEq Tid] in
theorem still (standing : s.Standing p) (elsewhere : ∀ pc, p ≠ .running pc) (pc : DetectPc) :
    s.background ≠ .detecting pc := mt (standing.running pc).mp (elsewhere pc)

/-- A call steps to a line behind the test, with no other there and no coroutine. -/
theorem of_call {c : Option Tid} {pc : RescanPc} (standing : s.Standing p) (busy : s.calls c ≠ .idle)
    (more : pc.passed = true) (calls : t.calls = Function.update s.calls c pc)
    (others : ∀ d, d ≠ c → (s.calls d).passed = false) (background : t.background = s.background)
    (unqueued : t.scheduledBackgroundFunction ≠ some .detectDevicesCoroutine)
    (still : ∀ pc, s.background ≠ .detecting pc) (underway : t.underway = 1) (mutex : t.detectDeviceMutex = false)
    (gate : (DetectionStage.calling pc).Gate t.detectionIsRequired t.aborted)
    (booked : Booked t.lists (.calling pc)) : t.Standing (.call c) := by
  have own : t.calls c = pc := by rw [calls, Function.update_self]
  have apart {d : Option Tid} (other : d ≠ c) : t.calls d = s.calls d := by
    rw [calls, Function.update_of_ne other]
  have stage : t.stage (.call c) = .calling pc := by rw [Detections.stage, own]
  refine ⟨?_, ?_, ?_, ?_, ?_, ?_, ?_, ?_⟩
  · intro d
    by_cases same : d = c
    · rw [same, own]
      exact iff_of_true more rfl
    · rw [apart same, others d same]
      exact iff_of_false (by decide) (by intro other; cases other; exact same rfl)
  · exact iff_of_false unqueued (by intro other; cases other)
  · intro pc
    rw [background]
    exact iff_of_false (still pc) (by intro other; cases other)
  · intro awake
    rw [background]
    apply standing.init
    by_cases same : none = c
    · rwa [same]
    · rwa [apart same] at awake
  · rw [stage]
    exact underway
  · rw [stage]
    exact gate
  · rw [stage]
    exact mutex
  · rw [stage]
    exact booked

/-- A line of the call that has passed the test, behind which it has more to do. -/
theorem advance (standing : s.Standing p) {c : Option Tid} {pc : RescanPc} (passed : (s.calls c).passed = true)
    (more : pc.passed = true) (calls : t.calls = Function.update s.calls c pc)
    (background : t.background = s.background)
    (slot : t.scheduledBackgroundFunction = s.scheduledBackgroundFunction ∨
      t.scheduledBackgroundFunction = some .hidExitCoroutine)
    (underway : t.underway = s.underway) (mutex : t.detectDeviceMutex = s.detectDeviceMutex)
    (gate : (DetectionStage.calling pc).Gate t.detectionIsRequired t.aborted)
    (booked : Booked t.lists (.calling pc)) : t.Standing (.call c) := by
  have place := (standing.call c).mp passed
  subst place
  refine standing.of_call ?_ more calls ?_ background ?_ ?_ (underway.trans standing.underway)
    (mutex.trans standing.mutex) gate booked
  · intro idle
    rw [idle] at passed
    cases passed
  · intro d apart
    rw [← Bool.not_eq_true, standing.call d]
    intro other
    cases other
    exact apart rfl
  · rcases slot with kept | exit
    · rw [kept]
      exact standing.unqueued (by simp)
    · rw [exit]
      decide
  · exact standing.still (by simp)

/-- Lines of calls that have not passed the test. -/
theorem outside (standing : s.Standing p) {c : Option Tid} {pc : RescanPc} (before : (s.calls c).passed = false)
    (after : pc.passed = false) (calls : t.calls = Function.update s.calls c pc)
    (queued : t.scheduledBackgroundFunction = some .detectDevicesCoroutine ↔
      s.scheduledBackgroundFunction = some .detectDevicesCoroutine)
    (running : ∀ pc, t.background = .detecting pc ↔ s.background = .detecting pc)
    (init : t.calls none ≠ .idle → t.background = .init) (underway : t.underway = s.underway)
    (required : t.detectionIsRequired = s.detectionIsRequired) (aborted : t.aborted = s.aborted)
    (mutex : t.detectDeviceMutex = s.detectDeviceMutex) (lists : t.lists = s.lists) : t.Standing p := by
  have others {d : Option Tid} (apart : d ≠ c) : t.calls d = s.calls d := by
    rw [calls, Function.update_of_ne apart]
  have stage : t.stage p = s.stage p := by
    cases p with
    | call d =>
        have apart : d ≠ c := by
          rintro rfl
          rw [(standing.call d).mpr rfl] at before
          cases before
        rw [Detections.stage, Detections.stage, others apart]
    | nowhere => rfl
    | queued => rfl
    | running pc => rfl
  refine ⟨?_, queued.trans standing.queued, fun pc => (running pc).trans (standing.running pc), init, ?_, ?_, ?_,
    ?_⟩
  · intro d
    rw [← standing.call d]
    by_cases same : d = c
    · rw [same, before, calls, Function.update_self, after]
    · rw [others same]
  · rw [stage, underway]
    exact standing.underway
  · rw [stage, required, aborted]
    exact standing.gate
  · rw [stage, mutex]
    exact standing.mutex
  · rw [stage, lists]
    exact standing.booked

omit [DecidableEq Tid] in
/-- Where no call is behind the test any more. -/
theorem of_quiet {q : Place Tid} (calls : ∀ c, (t.calls c).passed = false) (elsewhere : ∀ c, q ≠ .call c)
    (queued : t.scheduledBackgroundFunction = some .detectDevicesCoroutine ↔ q = .queued)
    (running : ∀ pc, t.background = .detecting pc ↔ q = .running pc)
    (init : t.calls none ≠ .idle → t.background = .init) (underway : t.underway = (t.stage q).underway)
    (gate : (t.stage q).Gate t.detectionIsRequired t.aborted) (mutex : t.detectDeviceMutex = (t.stage q).locked)
    (booked : Booked t.lists (t.stage q)) : t.Standing q where
  call c := iff_of_false (ne_true_of_eq_false (calls c)) (elsewhere c)
  queued := queued
  running := running
  init := init
  underway := underway
  gate := gate
  mutex := mutex
  booked := booked

omit [DecidableEq Tid] in
theorem calls_quiet (standing : s.Standing p) (elsewhere : ∀ c, p ≠ .call c) (c : Option Tid) :
    (s.calls c).passed = false := by
  rw [← Bool.not_eq_true, standing.call c]
  exact elsewhere c

/-- The call that hands the detection over is no longer behind the test. -/
theorem calls_handedOver {c : Option Tid} (standing : s.Standing (.call c)) (d : Option Tid) :
    ((s.goto c .idle).calls d).passed = false := by
  rw [goto_calls]
  split
  · rfl
  · next apart =>
      rw [← Bool.not_eq_true, standing.call d]
      intro other
      cases other
      exact apart rfl

omit [DecidableEq Tid] in
/-- A call that comes to its test in time, while the gate is open, finds no detection. -/
theorem nowhere_of_timely (standing : s.Standing p) (closed : ∀ d, (s.calls d).gateOpen = false)
    (aborted : s.aborted = false) (deleting : s.background ≠ .detecting .deletePending)
    (unlocking : s.background ≠ .detecting .unlock) (required : s.detectionIsRequired = false) :
    p = .nowhere := by
  have gate := standing.gate
  rw [required, aborted] at gate
  cases p with
  | nowhere => rfl
  | queued => cases gate
  | call c =>
      have passed := (standing.call c).mpr rfl
      have shut := closed c
      rw [stage] at gate
      cases pc : s.calls c with
      | schedule =>
          rw [pc] at gate
          cases gate
      | idle =>
          rw [pc] at passed
          cases passed
      | test =>
          rw [pc] at passed
          cases passed
      | _ =>
          rw [pc] at shut
          cases shut
  | running pc =>
      have at_ := (standing.running pc).mpr rfl
      cases pc with
      | deletePending => exact absurd at_ deleting
      | unlock => exact absurd at_ unlocking
      | _ => cases gate

omit [DecidableEq Tid] in
/-- The call behind the test, with what holds on its line. -/
theorem own (standing : s.Standing p) {c : Option Tid} {pc : RescanPc} (at_ : s.calls c = pc)
    (passed : pc.passed = true) : p = .call c ∧
      (DetectionStage.calling pc).Gate s.detectionIsRequired s.aborted ∧ Booked s.lists (.calling pc) := by
  have place := (standing.call c).mp (at_ ▸ passed)
  subst place
  have gate := standing.gate
  have booked := standing.booked
  rw [stage, at_] at gate booked
  exact ⟨rfl, gate, booked⟩

omit [DecidableEq Tid] in
/-- The same for the coroutine at work. -/
theorem own_running (standing : s.Standing p) {pc : DetectPc} (at_ : s.background = .detecting pc) :
    p = .running pc ∧ (DetectionStage.running pc).Gate s.detectionIsRequired s.aborted ∧
      s.detectDeviceMutex = (DetectionStage.running pc).locked ∧ Booked s.lists (.running pc) := by
  have place := (standing.running pc).mp at_
  subst place
  exact ⟨rfl, standing.gate, standing.mutex, standing.booked⟩

omit [DecidableEq Tid] in
/-- A line of the coroutine at work that is not the last one. -/
theorem run (standing : s.Standing p) {pc next : DetectPc} (at_ : s.background = .detecting pc)
    (calls : t.calls = s.calls) (slot : t.scheduledBackgroundFunction = s.scheduledBackgroundFunction)
    (background : t.background = .detecting next) (underway : t.underway = s.underway)
    (gate : (DetectionStage.running next).Gate t.detectionIsRequired t.aborted)
    (mutex : t.detectDeviceMutex = (DetectionStage.running next).locked)
    (booked : Booked t.lists (.running next)) : t.Standing (.running next) := by
  obtain ⟨place, -⟩ := standing.own_running at_
  subst place
  refine of_quiet ?_ (by simp) ?_ ?_ ?_ (underway.trans standing.underway) gate mutex booked
  · rw [calls]
    exact standing.calls_quiet (by simp)
  · rw [slot]
    exact iff_of_false (standing.unqueued (by simp)) (by simp)
  · intro pc
    rw [background]
    simp
  · intro busy
    rw [calls] at busy
    cases at_.symm.trans (standing.init busy)

theorem step (standing : s.Standing p) (timely : s.Timely a) (step : Step s a t) : ∃ q, t.Standing q := by
  cases step.move with
  | call u idle =>
      refine ⟨p, standing.outside (by rw [idle]; rfl) rfl rfl Iff.rfl (fun _ => Iff.rfl) ?_ rfl rfl rfl rfl rfl⟩
      intro busy
      apply standing.init
      rwa [goto_calls, if_neg (by intro other; cases other)] at busy
  | turnAway c test required =>
      cases c with
      | some u =>
          refine ⟨p, standing.outside (by rw [test]; rfl) rfl rfl Iff.rfl (fun _ => Iff.rfl) ?_ rfl rfl rfl rfl rfl⟩
          intro busy
          apply standing.init
          rwa [turnAway, goto_calls, if_neg (by intro other; cases other)] at busy
      | none =>
          have init := standing.init (by rw [test]; intro other; cases other)
          refine ⟨p, standing.outside (by rw [test]; rfl) rfl rfl Iff.rfl ?_ ?_ rfl rfl rfl rfl rfl⟩
          · intro pc
            rw [init]
            exact iff_of_false (by intro other; cases other) (by intro other; cases other)
          · intro busy
            exact absurd ((goto_calls s none none .idle).trans (if_pos rfl)) busy
  | pass c test required =>
      obtain ⟨closed, aborted, deleting, unlocking⟩ := timely c rfl test
      cases standing.nowhere_of_timely closed aborted deleting unlocking required
      refine ⟨_, standing.of_call (by rw [test]; decide) rfl rfl ?_ rfl ?_ ?_ ?_ standing.mutex ?_ ?_⟩
      · intro d _
        exact standing.calls_quiet (by simp) d
      · exact standing.unqueued (by simp)
      · exact standing.still (by simp)
      · exact congrArg (· + 1) standing.underway
      · exact standing.gate
      · exact standing.booked.relabel (by intro _ other; cases other) rfl (by intro other; cases other)
          (fun _ => rfl) (by intro other; cases other)
  | wait c pc free =>
      obtain ⟨-, gate, booked⟩ := standing.own pc rfl
      refine ⟨_, standing.advance (by rw [pc]; rfl) rfl rfl rfl (.inl rfl) rfl rfl gate ?_⟩
      exact booked.relabel (by intro _ other; cases other) rfl (by intro other; cases other) (fun _ => rfl)
        (by intro other; cases other)
  | save c pc =>
      obtain ⟨-, gate, booked⟩ := standing.own pc rfl
      exact ⟨_, standing.advance (by rw [pc]; rfl) rfl rfl rfl (.inl rfl) rfl rfl gate booked.saveControllers⟩
  | copy c pc =>
      obtain ⟨-, gate, booked⟩ := standing.own pc rfl
      refine ⟨_, standing.advance (by rw [pc]; rfl) rfl rfl rfl (.inl rfl) rfl rfl gate ?_⟩
      exact booked.relabel (by intro _ same; cases same; rfl) rfl (by intro other; cases other)
        (by intro other; cases other) (by intro other; cases other)
  | clear c copy pc =>
      obtain ⟨-, gate, booked⟩ := standing.own pc rfl
      exact ⟨_, standing.advance (by rw [pc]; rfl) rfl rfl rfl (.inl rfl) rfl rfl gate booked.clearBusses⟩
  | delete c copy pc =>
      obtain ⟨-, gate, booked⟩ := standing.own pc rfl
      exact ⟨_, standing.advance (by rw [pc]; rfl) rfl rfl rfl (.inl rfl) rfl rfl gate booked.deleteBusses⟩
  | handOverExit u pc asleep =>
      obtain ⟨-, gate, booked⟩ := standing.own pc rfl
      refine ⟨_, standing.advance (by rw [pc]; rfl) rfl rfl rfl (.inr rfl) rfl rfl gate ?_⟩
      exact booked.relabel (by intro _ other; cases other) rfl (fun _ => rfl) (by intro other; cases other)
        (by intro other; cases other)
  | runExit pc =>
      obtain ⟨-, gate, booked⟩ := standing.own pc rfl
      refine ⟨_, standing.advance (by rw [pc]; rfl) rfl rfl rfl (.inl rfl) rfl rfl gate ?_⟩
      exact booked.relabel (by intro _ other; cases other) rfl (fun _ => rfl) (by intro other; cases other)
        (by intro other; cases other)
  | update c pc =>
      obtain ⟨-, gate, booked⟩ := standing.own pc rfl
      exact ⟨_, standing.advance (by rw [pc]; rfl) rfl rfl rfl (.inl rfl) rfl rfl gate booked.update⟩
  | store c pc =>
      obtain ⟨-, gate, booked⟩ := standing.own pc rfl
      refine ⟨_, standing.advance (by rw [pc]; rfl) rfl rfl rfl (.inl rfl) rfl rfl ?_ ?_⟩
      · have unmarked : s.aborted = false := gate.2
        exact (congrArg (!·) unmarked).symm
      · exact booked.relabel (by intro _ other; cases other) rfl (fun _ => rfl) (by intro other; cases other)
          (fun _ => rfl)
  | handOverDetection u pc asleep =>
      obtain ⟨place, gate, booked⟩ := standing.own pc rfl
      subst place
      refine ⟨.queued, of_quiet standing.calls_handedOver (by simp) (iff_of_true rfl rfl) ?_ ?_ standing.underway gate
        standing.mutex ?_⟩
      · intro pc
        exact iff_of_false (standing.still (by simp) pc) (by simp)
      · intro busy
        apply standing.init
        rwa [goto_calls, if_neg (by simp)] at busy
      · exact booked.relabel (by intro _ other; cases other) rfl (fun _ => rfl) (by intro other; cases other)
          (fun _ => rfl)
  | runDetection pc =>
      obtain ⟨place, gate, booked⟩ := standing.own pc rfl
      subst place
      refine ⟨.running .lock, of_quiet standing.calls_handedOver (by simp) ?_ (by simp [eq_comm]) ?_ standing.underway
        gate standing.mutex ?_⟩
      · exact iff_of_false (standing.unqueued (by simp)) (by simp)
      · intro busy
        exact absurd ((goto_calls s none none .idle).trans (if_pos rfl)) busy
      · exact booked.relabel (by intro _ other; cases other) rfl (fun _ => rfl) (by intro other; cases other)
          (fun _ => rfl)
  | stop =>
      refine ⟨p, standing.call, standing.queued, standing.running, standing.init, standing.underway, ?_,
        standing.mutex, standing.booked⟩
      exact standing.gate.stop
  | takeInit asleep slot =>
      have idle : s.calls none = .idle := by
        by_contra busy
        cases asleep.symm.trans (standing.init busy)
      refine ⟨p, standing.outside (by rw [idle]; rfl) rfl rfl ?_ ?_ (fun _ => rfl) rfl rfl rfl rfl rfl⟩
      · rw [slot]
        exact iff_of_false (by simp) (by simp)
      · intro pc
        rw [asleep]
        exact iff_of_false (by simp) (by simp)
  | takeExit asleep slot =>
      have unqueued : p ≠ .queued := by
        intro queued
        cases slot.symm.trans (standing.queued.mpr queued)
      exact ⟨p, standing.call, iff_of_false (by simp) unqueued, standing.running, standing.init, standing.underway,
        standing.gate, standing.mutex, standing.booked⟩
  | takeDetection asleep slot =>
      have place := standing.queued.mp slot
      subst place
      have quiet := standing.calls_quiet (by simp)
      have gone : (none : Option Coroutine) = some .detectDevicesCoroutine ↔
          Place.running .lock = (.queued : Place Tid) := iff_of_false (by simp) (by simp)
      refine ⟨.running .lock, of_quiet quiet (by simp) gone (by simp [eq_comm]) ?_ standing.underway standing.gate
        standing.mutex ?_⟩
      · intro busy
        cases asleep.symm.trans (standing.init busy)
      · exact standing.booked.relabel (by intro _ other; cases other) rfl (fun _ => rfl)
          (by intro other; cases other) (fun _ => rfl)
  | lock at_ free =>
      obtain ⟨-, gate, -, booked⟩ := standing.own_running at_
      refine ⟨_, standing.run at_ rfl rfl rfl rfl gate rfl ?_⟩
      exact booked.relabel (by intro _ other; cases other) rfl (by intro other; cases other)
        (by intro other; cases other) (fun _ => rfl)
  | detectors at_ =>
      obtain ⟨-, gate, mutex, booked⟩ := standing.own_running at_
      refine ⟨_, standing.run at_ rfl rfl rfl rfl gate mutex ?_⟩
      exact booked.relabel (by intro _ other; cases other) rfl (by intro other; cases other)
        (by intro other; cases other) (fun _ => rfl)
  | finish at_ =>
      obtain ⟨-, -, mutex, booked⟩ := standing.own_running at_
      refine ⟨_, standing.run at_ rfl rfl rfl rfl rfl mutex ?_⟩
      exact booked.relabel (by intro _ other; cases other) rfl (by intro other; cases other)
        (by intro other; cases other) (fun _ => rfl)
  | deletePending at_ =>
      obtain ⟨-, gate, mutex, booked⟩ := standing.own_running at_
      exact ⟨_, standing.run at_ rfl rfl rfl rfl gate mutex booked.deletePending⟩
  | unlock at_ =>
      obtain ⟨place, gate, -, booked⟩ := standing.own_running at_
      subst place
      refine ⟨.nowhere, of_quiet (standing.calls_quiet (by simp)) (by simp) ?_ (by simp) ?_ ?_ ⟨gate, rfl⟩ rfl
        ?_⟩
      · exact iff_of_false (standing.unqueued (by simp)) (by simp)
      · intro busy
        cases at_.symm.trans (standing.init busy)
      · exact congrArg (· - 1) standing.underway
      · exact booked.relabel (by intro _ other; cases other) rfl (by intro other; cases other) (fun _ => rfl)
          (by intro other; cases other)
  | registerI2CBus at_ =>
      obtain ⟨-, gate, mutex, booked⟩ := standing.own_running at_
      exact ⟨_, standing.run at_ rfl rfl at_ rfl gate mutex booked.registerI2CBus⟩
  | registerRGBController at_ =>
      obtain ⟨-, gate, mutex, booked⟩ := standing.own_running at_
      exact ⟨_, standing.run at_ rfl rfl at_ rfl gate mutex booked.registerRGBController⟩

end Standing

omit [DecidableEq Tid] in
/-- A call that comes to its test too early finds the gate open, and another detection. -/
theorem Standing.early (standing : s.Standing p)
    (early : ¬ ((∀ d, (s.calls d).gateOpen = false) ∧ s.aborted = false ∧
      s.background ≠ .detecting .deletePending ∧ s.background ≠ .detecting .unlock)) :
    s.detectionIsRequired = false ∧ s.underway = 1 := by
  have gate := standing.gate
  have outside {d : Option Tid} (unpassed : (s.calls d).passed = false) : (s.calls d).gateOpen = false := by
    cases pc : s.calls d with
    | idle => rfl
    | test => rfl
    | schedule => rfl
    | _ =>
        rw [pc] at unpassed
        cases unpassed
  -- Where the gate is the mark's, it is open because of the mark.
  have marked (shut : s.detectionIsRequired = !s.aborted) (closed : ∀ d, (s.calls d).gateOpen = false)
      (deleting : s.background ≠ .detecting .deletePending) (unlocking : s.background ≠ .detecting .unlock) :
      s.detectionIsRequired = false := by
    cases aborted : s.aborted with
    | true => rw [shut, aborted]; rfl
    | false => exact absurd ⟨closed, aborted, deleting, unlocking⟩ early
  cases p with
  | nowhere =>
      have quiet := standing.calls_quiet (by simp)
      have still := standing.still (by simp)
      exact absurd ⟨fun d => outside (quiet d), gate.2, still _, still _⟩ early
  | queued =>
      have quiet := standing.calls_quiet (by simp)
      exact ⟨marked gate (fun d => outside (quiet d)) (standing.still (by simp) _) (standing.still (by simp) _),
        standing.underway⟩
  | running pc =>
      have at_ := (standing.running pc).mpr rfl
      have quiet := standing.calls_quiet (by simp)
      refine ⟨?_, standing.underway⟩
      have away {other : DetectPc} (apart : pc ≠ other) : s.background ≠ .detecting other := by
        rw [at_]
        simpa using apart
      cases pc with
      | deletePending => exact gate
      | unlock => exact gate
      | _ => exact marked gate (fun d => outside (quiet d)) (away (by decide)) (away (by decide))
  | call c =>
      refine ⟨?_, standing.underway⟩
      have passed := (standing.call c).mpr rfl
      rw [stage] at gate
      cases pc : s.calls c with
      | schedule =>
          rw [pc] at gate
          refine marked gate ?_ (standing.still (by simp) _) (standing.still (by simp) _)
          intro d
          by_cases same : d = c
          · rw [same, pc]
            rfl
          · apply outside
            rw [← Bool.not_eq_true, standing.call d]
            simpa using Ne.symm same
      | idle =>
          rw [pc] at passed
          cases passed
      | test =>
          rw [pc] at passed
          cases passed
      | _ =>
          rw [pc] at gate
          exact gate.1

/-- One call is past its test until its coroutine has finished; while one cleans up there is no coroutine and no
other such call; nothing is deleted twice, or deleted and still listed, and what was registered is not lost; the
old controllers are gone when the detection is over, and the old busses when it is scheduled. -/
structure SingleDetection (s : Detections Tid) : Prop where
  single : s.underway ≤ 1
  undisturbed : ∀ c, (s.calls c).cleaning = true →
    s.scheduledBackgroundFunction ≠ some .detectDevicesCoroutine ∧ (∀ pc, s.background ≠ .detecting pc) ∧
      ∀ d, (s.calls d).passed = true → d = c
  bussesOnce : (s.lists.bussesDeleted ++ s.lists.busses).Nodup
  bussesKept : ∀ b < s.lists.bussesMade, b ∈ s.lists.bussesDeleted ∨ b ∈ s.lists.busses ∨
    ∃ c copy, s.calls c = .deleteBusses copy ∧ b ∈ copy
  bussesGone : s.scheduledBackgroundFunction = some .detectDevicesCoroutine → s.lists.busses = []
  controllersOnce : (s.lists.controllersDeleted ++ s.lists.rgbControllersHwCleanupPending ++
    s.lists.rgbControllersHw).Nodup
  controllersKept : ∀ k < s.lists.controllersMade, k ∈ s.lists.controllersDeleted ∨
    k ∈ s.lists.rgbControllersHwCleanupPending ∨ k ∈ s.lists.rgbControllersHw
  controllersGone : s.underway = 0 → s.lists.rgbControllersHwCleanupPending = []

omit [DecidableEq Tid] in
theorem Standing.single (standing : s.Standing p) : s.SingleDetection := by
  have booked := standing.booked
  refine ⟨?_, ?_, ?_, ?_, ?_, ?_, ?_, ?_⟩
  · rw [standing.underway]
    cases s.stage p with
    | nowhere => exact Nat.zero_le 1
    | _ => exact Nat.le_refl 1
  · intro c cleaning
    have passed : (s.calls c).passed = true := by
      cases pc : s.calls c with
      | idle =>
          rw [pc] at cleaning
          cases cleaning
      | test =>
          rw [pc] at cleaning
          cases cleaning
      | _ => rfl
    cases (standing.call c).mp passed
    refine ⟨standing.unqueued (by simp), standing.still (by simp), ?_⟩
    intro d also
    cases (standing.call d).mp also
    rfl
  · have all : (s.lists.bussesDeleted ++ (s.stage p).inHand ++ s.lists.busses).Nodup :=
      booked.busses.nodup_iff.mpr List.nodup_range
    exact all.sublist ((List.sublist_append_left _ _).append_right _)
  · intro b made
    have member := booked.busses.mem_iff.mpr (List.mem_range.mpr made)
    rw [List.mem_append, List.mem_append, or_assoc] at member
    refine member.imp_right ?_
    rintro (held | listed)
    · right
      cases p with
      | call c =>
          have hand : b ∈ (s.calls c).inHand := held
          cases pc : s.calls c with
          | deleteBusses copy =>
              rw [pc] at hand
              exact ⟨c, copy, pc, hand⟩
          | _ =>
              rw [pc] at hand
              cases hand
      | _ => cases held
    · exact .inl listed
  · intro slot
    cases standing.queued.mp slot
    exact booked.cleared rfl
  · exact booked.controllers.nodup_iff.mpr List.nodup_range
  · intro k made
    have member := booked.controllers.mem_iff.mpr (List.mem_range.mpr made)
    rwa [List.mem_append, List.mem_append, or_assoc] at member
  · intro done
    rw [standing.underway] at done
    cases p with
    | nowhere => exact booked.saved rfl
    | _ => cases done

/-- In every interleaving in which the calls come to their tests in time there is one detection at a time, and
everything is deleted once; the first call that comes too early passes its test beside another detection. -/
theorem single_detection {s : Detections Tid} (started : s.Started) :
    ∀ as t, Run (Guarded Timely Step) s as t → t.SingleDetection ∧
      ∀ a u, Step t a u → ¬ t.Timely a → ¬ u.SingleDetection := by
  intro as t run
  have keeps (s : Detections Tid) (a : Action Tid) (t : Detections Tid) (standing : ∃ p, s.Standing p)
      (step : Guarded Timely Step s a t) : ∃ p, t.Standing p := by
    obtain ⟨p, standing⟩ := standing
    exact standing.step step.1 step.2
  obtain ⟨p, standing⟩ := run.invariant keeps ⟨_, started.standing⟩
  refine ⟨standing.single, ?_⟩
  intro a u step late both
  simp only [Timely, not_forall] at late
  obtain ⟨c, rfl, test, early⟩ := late
  obtain ⟨open_, underway⟩ := standing.early early
  have passes : Step t (.advanceCall c) { t.goto c .waitForDeviceDetection with underway := t.underway + 1 } := by
    rw [Step, Detections.step, advanceCall, test, open_]
    rfl
  have same := Option.some.inj (step.symm.trans passes)
  have one : t.underway + 1 ≤ 1 := by
    rw [same] at both
    exact both.single
  omega

/-- Before anything is detected. -/
def fresh : Detections Bool where
  calls _ := .idle
  background := .asleep
  scheduledBackgroundFunction := none
  detectionIsRequired := false
  detectDeviceMutex := false
  lists := ⟨[], [], [], [], 0, 0, [], []⟩
  underway := 0
  aborted := false

theorem started_fresh : fresh.Started :=
  ⟨fun _ => rfl, rfl, .inl rfl, rfl, rfl, rfl, rfl, rfl⟩

/-- One rescan passes its test, and another comes to its own. -/
theorem single_detection_fresh :
    ∃ t, Run (Guarded Timely Step) fresh [.call true, .advanceCall (some true), .call false] t ∧ t.SingleDetection ∧
      ∃ u, Step t (.advanceCall (some false)) u ∧ ¬ u.SingleDetection := by
  have timely : (fresh.goto (some true) .test).Timely (.advanceCall (some true)) := by
    intro c _ _
    refine ⟨?_, rfl, by decide, by decide⟩
    intro d
    rw [goto_calls]
    split <;> rfl
  have run : Run (Guarded Timely Step) fresh [.call true, .advanceCall (some true), .call false] _ :=
    .cons ⟨nofun, rfl⟩ (.cons ⟨timely, rfl⟩ (.cons ⟨nofun, rfl⟩ (.nil _)))
  obtain ⟨single, next⟩ := single_detection started_fresh _ _ run
  refine ⟨_, run, single, _, rfl, next (.advanceCall (some false)) _ rfl ?_⟩
  intro timely
  have shut := (timely _ rfl rfl).1 (some true)
  cases shut

/-- After a first detection that finds a bus, two rescans come to their tests before either has stored the gate. -/
def twoRescans : List (Action Bool) :=
  .call true :: List.replicate 10 (.advanceCall (some true)) ++
    [.take, .advanceDetection, .registerI2CBus, .registerRGBController, .advanceDetection, .advanceDetection,
      .advanceDetection, .advanceDetection, .call true, .call false] ++
    (List.replicate 4 [.advanceCall (some true), .advanceCall (some false)]).flatten ++
    List.replicate 2 (.advanceCall (some true)) ++ List.replicate 2 (.advanceCall (some false))

/-- Both delete the bus. -/
theorem bus_deleted_twice :
    ∃ t, Run Step fresh twoRescans t ∧ t.lists.bussesDeleted = [0, 0] ∧ ¬ t.SingleDetection := by
  have deleted : (twoRescans.foldlM Detections.step fresh).map (·.lists.bussesDeleted) = some [0, 0] := by
    decide +kernel
  obtain ⟨t, run, twice⟩ := Option.map_eq_some_iff.mp deleted
  refine ⟨t, Run.of_foldlM run, twice, ?_⟩
  intro single
  have once := single.bussesOnce.of_append_left
  rw [twice] at once
  revert once
  decide

end Detections
end SyncRGB
