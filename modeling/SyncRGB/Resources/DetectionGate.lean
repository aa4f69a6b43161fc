import Mathlib.Logic.Function.Basic
import SyncRGB.Resources.DeviceList
import SyncRGB.Transition.Run

/-! Rescans from any number of threads, the abort and the background thread, one step a line: the gate in front of
a detection, and what its `Cleanup` and the detection do to the lists. -/
namespace SyncRGB
open Transition

inductive Coroutine where
  | initCoroutine
  | hidExitCoroutine
  | detectDevicesCoroutine
  deriving DecidableEq, Repr

/-- What a call of `DetectDevices` does next: its test of the gate, `Cleanup` from the wait to the hand-over of
the HID exit, and the rest. `Cleanup` keeps a copy of the busses. -/
inductive RescanPc where
  | idle
  | test
  | waitForDeviceDetection
  | saveControllers
  | copyBusses
  | clearBusses (copy : List Nat)
  | deleteBusses (copy : List Nat)
  | hidExit
  | updateDeviceList
  | store
  | schedule
  deriving DecidableEq, Repr

/-- What `DetectDevicesCoroutine` does next; the last three lines begin in `ProcessPostDetection`. -/
inductive DetectPc where
  | lock
  | detectors
  | store
  | deletePending
  | unlock
  deriving DecidableEq, Repr

/-- The background thread is in no coroutine, in the call that `InitCoroutine` makes, or in a detection. -/
inductive BackgroundWork where
  | asleep
  | init
  | detecting (pc : DetectPc)
  deriving DecidableEq, Repr

/-- The lists of the `ResourceManager`, with busses and controllers numbered as they are registered, and what was
deleted of them. -/
structure DeviceLists where
  busses : List Nat
  rgbControllersHw : List Nat
  rgbControllersHwCleanupPending : List Nat
  rgbControllers : List Nat
  bussesMade : Nat
  controllersMade : Nat
  bussesDeleted : List Nat
  controllersDeleted : List Nat
  deriving DecidableEq, Repr

namespace DeviceLists

/-- The first half of `Cleanup`. -/
def saveControllers (l : DeviceLists) : DeviceLists :=
  { l with
    rgbControllersHwCleanupPending :=
      if l.rgbControllersHwCleanupPending.length = 0 then l.rgbControllersHw else l.rgbControllersHwCleanupPending
    rgbControllersHw := [] }

def clearBusses (l : DeviceLists) : DeviceLists := { l with busses := [] }

def deleteBusses (l : DeviceLists) (copy : List Nat) : DeviceLists :=
  { l with bussesDeleted := l.bussesDeleted ++ copy }

/-- `UpdateDeviceList`. -/
def update (l : DeviceLists) : DeviceLists :=
  match updateDeviceList l.rgbControllersHw l.rgbControllers with
  | some (list, _) => { l with rgbControllers := list }
  | none => l

/-- The end of `ProcessPostDetection`. A controller that is in use is not deleted. -/
def deletePending (l : DeviceLists) : DeviceLists :=
  { l with
    controllersDeleted := l.controllersDeleted ++
      l.rgbControllersHwCleanupPending.filter fun controller => controller ∉ l.rgbControllers
    rgbControllersHwCleanupPending := [] }

def registerI2CBus (l : DeviceLists) : DeviceLists :=
  { l with busses := l.busses ++ [l.bussesMade], bussesMade := l.bussesMade + 1 }

def registerRGBController (l : DeviceLists) : DeviceLists :=
  { l with
    rgbControllersHw := l.rgbControllersHw ++ [l.controllersMade]
    controllersMade := l.controllersMade + 1 }.update

end DeviceLists

/-- `none` stands for the background thread in `InitCoroutine`. `underway` counts the calls that have passed the
test and whose coroutine has not finished; `aborted` says that a stop was requested since such a call stored the
gate. -/
structure Detections (Tid : Type) where
  calls : Option Tid → RescanPc
  background : BackgroundWork
  scheduledBackgroundFunction : Option Coroutine
  detectionIsRequired : Bool
  detectDeviceMutex : Bool
  lists : DeviceLists
  underway : Nat
  aborted : Bool

namespace RescanPc

/-- Behind the test, up to the hand-over of the coroutine. -/
def passed : RescanPc → Bool
  | idle | test => false
  | _ => true

/-- Behind the test, and the gate not stored yet. -/
def gateOpen : RescanPc → Bool
  | idle | test | schedule => false
  | _ => true

/-- In `Cleanup`, behind its wait. -/
def cleaning : RescanPc → Bool
  | saveControllers | copyBusses | clearBusses _ | deleteBusses _ | hidExit => true
  | _ => false

/-- The busses of the copy, from where `busses` does not hold them any more. -/
def inHand : RescanPc → List Nat
  | deleteBusses copy => copy
  | _ => []

end RescanPc

namespace Detections
variable {Tid : Type} [DecidableEq Tid]

def goto (s : Detections Tid) (c : Option Tid) (pc : RescanPc) : Detections Tid :=
  { s with calls := Function.update s.calls c pc }

@[simp] theorem goto_calls (s : Detections Tid) (c d : Option Tid) (pc : RescanPc) :
    (s.goto c pc).calls d = if d = c then pc else s.calls d := Function.update_apply _ _ _ _

/-- A call that the gate turns away ends, and with it `InitCoroutine`. -/
def turnAway (s : Detections Tid) : Option Tid → Detections Tid
  | some u => s.goto (some u) .idle
  | none => { s.goto none .idle with background := .asleep }

/-- `RunInBackgroundThread`. The background thread holds the mutex of the slot while it is in a coroutine, and
runs its own calls at once. -/
def handOver (s : Detections Tid) (c : Option Tid) (coroutine : Coroutine) (next : RescanPc) :
    Option (Detections Tid) :=
  match c with
  | some u =>
      if s.background = .asleep then
        some { s.goto (some u) next with scheduledBackgroundFunction := some coroutine }
      else none
  | none =>
      match coroutine with
      | .detectDevicesCoroutine => some { s.goto none next with background := .detecting .lock }
      | _ => some (s.goto none next)

/-- The next line of a call, with detection enabled. -/
def advanceCall (s : Detections Tid) (c : Option Tid) : Option (Detections Tid) :=
  match s.calls c with
  | .idle => none
  | .test =>
      if s.detectionIsRequired then some (s.turnAway c)
      else some { s.goto c .waitForDeviceDetection with underway := s.underway + 1 }
  | .waitForDeviceDetection => if s.detectDeviceMutex then none else some (s.goto c .saveControllers)
  | .saveControllers => some { s.goto c .copyBusses with lists := s.lists.saveControllers }
  | .copyBusses => some (s.goto c (.clearBusses s.lists.busses))
  | .clearBusses copy => some { s.goto c (.deleteBusses copy) with lists := s.lists.clearBusses }
  | .deleteBusses copy => some { s.goto c .hidExit with lists := s.lists.deleteBusses copy }
  | .hidExit => s.handOver c .hidExitCoroutine .updateDeviceList
  | .updateDeviceList => some { s.goto c .store with lists := s.lists.update }
  | .store => some { s.goto c .schedule with detectionIsRequired := true }
  | .schedule => s.handOver c .detectDevicesCoroutine .idle

/-- The background thread takes the coroutine from the slot. -/
def take (s : Detections Tid) : Option (Detections Tid) :=
  if s.background = .asleep then
    match s.scheduledBackgroundFunction with
    | none => none
    | some .initCoroutine =>
        some { s.goto none .test with scheduledBackgroundFunction := none, background := .init }
    | some .hidExitCoroutine => some { s with scheduledBackgroundFunction := none }
    | some .detectDevicesCoroutine =>
        some { s with scheduledBackgroundFunction := none, background := .detecting .lock }
  else none

/-- The next line of the detection. -/
def advanceDetection (s : Detections Tid) : DetectPc → Option (Detections Tid)
  | .lock =>
      if s.detectDeviceMutex then none
      else some { s with detectDeviceMutex := true, background := .detecting .detectors }
  | .detectors => some { s with background := .detecting .store }
  | .store => some { s with detectionIsRequired := false, background := .detecting .deletePending }
  | .deletePending => some { s with lists := s.lists.deletePending, background := .detecting .unlock }
  | .unlock =>
      some { s with
        detectDeviceMutex := false, background := .asleep, underway := s.underway - 1, aborted := false }

/-- `call` begins a call on a thread that has none; the detectors register busses and controllers. -/
inductive Action (Tid : Type) where
  | call (thread : Tid)
  | advanceCall (caller : Option Tid)
  | stopDeviceDetection
  | take
  | advanceDetection
  | registerI2CBus
  | registerRGBController
  deriving DecidableEq, Repr

def step (s : Detections Tid) : Action Tid → Option (Detections Tid)
  | .call u => if s.calls (some u) = .idle then some (s.goto (some u) .test) else none
  | .advanceCall c => s.advanceCall c
  | .stopDeviceDetection =>
      some { s with detectionIsRequired := false, aborted := s.aborted || s.detectionIsRequired }
  | .take => s.take
  | .advanceDetection =>
      match s.background with
      | .detecting pc => s.advanceDetection pc
      | _ => none
  | .registerI2CBus =>
      if s.background = .detecting .detectors then
        some { s with lists := s.lists.registerI2CBus }
      else none
  | .registerRGBController =>
      if s.background = .detecting .detectors then
        some { s with lists := s.lists.registerRGBController }
      else none

def Step (s : Detections Tid) (a : Action Tid) (t : Detections Tid) : Prop := s.step a = some t

/-- The lines with what they find and what they leave. -/
inductive Move (s : Detections Tid) : Action Tid → Detections Tid → Prop
  | call (u : Tid) : s.calls (some u) = .idle → Move s (.call u) (s.goto (some u) .test)
  | turnAway (c : Option Tid) : s.calls c = .test → s.detectionIsRequired = true →
      Move s (.advanceCall c) (s.turnAway c)
  | pass (c : Option Tid) : s.calls c = .test → s.detectionIsRequired = false →
      Move s (.advanceCall c) { s.goto c .waitForDeviceDetection with underway := s.underway + 1 }
  | wait (c : Option Tid) : s.calls c = .waitForDeviceDetection → s.detectDeviceMutex = false →
      Move s (.advanceCall c) (s.goto c .saveControllers)
  | save (c : Option Tid) : s.calls c = .saveControllers →
      Move s (.advanceCall c) { s.goto c .copyBusses with lists := s.lists.saveControllers }
  | copy (c : Option Tid) : s.calls c = .copyBusses →
      Move s (.advanceCall c) (s.goto c (.clearBusses s.lists.busses))
  | clear (c : Option Tid) (copy : List Nat) : s.calls c = .clearBusses copy →
      Move s (.advanceCall c) { s.goto c (.deleteBusses copy) with lists := s.lists.clearBusses }
  | delete (c : Option Tid) (copy : List Nat) : s.calls c = .deleteBusses copy →
      Move s (.advanceCall c) { s.goto c .hidExit with lists := s.lists.deleteBusses copy }
  | handOverExit (u : Tid) : s.calls (some u) = .hidExit → s.background = .asleep →
      Move s (.advanceCall (some u)) { s.goto (some u) .updateDeviceList with
        scheduledBackgroundFunction := some .hidExitCoroutine }
  | runExit : s.calls none = .hidExit → Move s (.advanceCall none) (s.goto none .updateDeviceList)
  | update (c : Option Tid) : s.calls c = .updateDeviceList →
      Move s (.advanceCall c) { s.goto c .store with lists := s.lists.update }
  | store (c : Option Tid) : s.calls c = .store →
      Move s (.advanceCall c) { s.goto c .schedule with detectionIsRequired := true }
  | handOverDetection (u : Tid) : s.calls (some u) = .schedule → s.background = .asleep →
      Move s (.advanceCall (some u)) { s.goto (some u) .idle with
        scheduledBackgroundFunction := some .detectDevicesCoroutine }
  | runDetection : s.calls none = .schedule →
      Move s (.advanceCall none) { s.goto none .idle with background := .detecting .lock }
  | stop : Move s .stopDeviceDetection
      { s with detectionIsRequired := false, aborted := s.aborted || s.detectionIsRequired }
  | takeInit : s.background = .asleep → s.scheduledBackgroundFunction = some .initCoroutine →
      Move s .take { s.goto none .test with scheduledBackgroundFunction := none, background := .init }
  | takeExit : s.background = .asleep → s.scheduledBackgroundFunction = some .hidExitCoroutine →
      Move s .take { s with scheduledBackgroundFunction := none }
  | takeDetection : s.background = .asleep → s.scheduledBackgroundFunction = some .detectDevicesCoroutine →
      Move s .take { s with scheduledBackgroundFunction := none, background := .detecting .lock }
  | lock : s.background = .detecting .lock → s.detectDeviceMutex = false →
      Move s .advanceDetection { s with detectDeviceMutex := true, background := .detecting .detectors }
  | detectors : s.background = .detecting .detectors →
      Move s .advanceDetection { s with background := .detecting .store }
  | finish : s.background = .detecting .store →
      Move s .advanceDetection { s with detectionIsRequired := false, background := .detecting .deletePending }
  | deletePending : s.background = .detecting .deletePending →
      Move s .advanceDetection { s with lists := s.lists.deletePending, background := .detecting .unlock }
  | unlock : s.background = .detecting .unlock →
      Move s .advanceDetection { s with
        detectDeviceMutex := false, background := .asleep, underway := s.underway - 1, aborted := false }
  | registerI2CBus : s.background = .detecting .detectors →
      Move s .registerI2CBus { s with lists := s.lists.registerI2CBus }
  | registerRGBController : s.background = .detecting .detectors →
      Move s .registerRGBController { s with lists := s.lists.registerRGBController }

variable {s t : Detections Tid} {a : Action Tid}

theorem move_of_advanceCall {c : Option Tid} (run : s.advanceCall c = some t) : Move s (.advanceCall c) t := by
  rw [advanceCall] at run
  split at run
  case h_1 pc => cases run
  case h_2 pc =>
      split at run
      · next required => cases run; exact .turnAway c pc required
      · next free => cases run; exact .pass c pc (Bool.eq_false_iff.mpr free)
  case h_3 pc =>
      split at run
      · cases run
      · next free => cases run; exact .wait c pc (Bool.eq_false_iff.mpr free)
  case h_4 pc => cases run; exact .save c pc
  case h_5 pc => cases run; exact .copy c pc
  case h_6 copy pc => cases run; exact .clear c copy pc
  case h_7 copy pc => cases run; exact .delete c copy pc
  case h_8 pc =>
      cases c with
      | none => cases run; exact .runExit pc
      | some u =>
          obtain ⟨asleep, same⟩ := Option.ite_none_right_eq_some.mp run
          cases same
          exact .handOverExit u pc asleep
  case h_9 pc => cases run; exact .update c pc
  case h_10 pc => cases run; exact .store c pc
  case h_11 pc =>
      cases c with
      | none => cases run; exact .runDetection pc
      | some u =>
          obtain ⟨asleep, same⟩ := Option.ite_none_right_eq_some.mp run
          cases same
          exact .handOverDetection u pc asleep

theorem move_of_take (run : s.take = some t) : Move s .take t := by
  obtain ⟨asleep, filled⟩ := Option.ite_none_right_eq_some.mp run
  split at filled
  · cases filled
  · next slot => cases filled; exact .takeInit asleep slot
  · next slot => cases filled; exact .takeExit asleep slot
  · next slot => cases filled; exact .takeDetection asleep slot

theorem move_of_advanceDetection {pc : DetectPc} (detecting : s.background = .detecting pc)
    (run : s.advanceDetection pc = some t) : Move s .advanceDetection t := by
  cases pc with
  | lock =>
      rw [advanceDetection] at run
      split at run
      · cases run
      · next free => cases run; exact .lock detecting (Bool.eq_false_iff.mpr free)
  | detectors => cases run; exact .detectors detecting
  | store => cases run; exact .finish detecting
  | deletePending => cases run; exact .deletePending detecting
  | unlock => cases run; exact .unlock detecting

theorem Step.move (step : Step s a t) : Move s a t := by
  cases a with
  | call u =>
      obtain ⟨idle, same⟩ := Option.ite_none_right_eq_some.mp step
      cases same
      exact .call u idle
  | advanceCall c => exact move_of_advanceCall step
  | stopDeviceDetection =>
      cases step
      exact .stop
  | take => exact move_of_take step
  | advanceDetection =>
      rw [Step, Detections.step] at step
      split at step
      · next pc detecting => exact move_of_advanceDetection detecting step
      · cases step
  | registerI2CBus =>
      obtain ⟨detecting, same⟩ := Option.ite_none_right_eq_some.mp step
      cases same
      exact .registerI2CBus detecting
  | registerRGBController =>
      obtain ⟨detecting, same⟩ := Option.ite_none_right_eq_some.mp step
      cases same
      exact .registerRGBController detecting

/-- With nothing detected yet, and perhaps `InitCoroutine` handed over. -/
structure Started (s : Detections Tid) : Prop where
  calls : ∀ c, s.calls c = .idle
  background : s.background = .asleep
  slot : s.scheduledBackgroundFunction = none ∨ s.scheduledBackgroundFunction = some .initCoroutine
  detectionIsRequired : s.detectionIsRequired = false
  detectDeviceMutex : s.detectDeviceMutex = false
  lists : s.lists = ⟨[], [], [], [], 0, 0, [], []⟩
  underway : s.underway = 0
  aborted : s.aborted = false

end Detections
end SyncRGB
