import Mathlib.Logic.Function.Basic
import SyncRGB.Transition.Fairness

/-! The background thread of the `ResourceManager` with its one slot for a coroutine, the threads that hand
coroutines over, and the destructor, one step a line. -/
namespace SyncRGB
open Transition

/-- What `BackgroundThreadFunction` does next. -/
inductive BackgroundPc (κ : Type) where
  | start
  | testRunning
  | testSlot
  | running (coroutine : κ)
  | wait
  | waiting
  | woken
  | ended
  deriving DecidableEq, Repr

/-- What a call of `RunInBackgroundThread` from another thread does next. A call from the background thread
itself runs at once, inside of the coroutine that makes it. -/
inductive HandOverPc (κ : Type) where
  | idle
  | lock (coroutine : κ)
  | assign (coroutine : κ)
  | unlock
  | notify
  deriving DecidableEq, Repr

/-- The destructor behind its `Cleanup`, which is a call like any other. -/
inductive DestructorPc where
  | idle
  | notify
  | join
  | done
  deriving DecidableEq, Repr

inductive BackgroundProcess (Tid : Type) where
  | background
  | caller (thread : Tid)
  | destructor
  deriving DecidableEq, Repr

/-- The slot keeps the thread that filled it beside the coroutine. The three lists say what was put into
the slot, what was taken from it and what was overwritten in it. -/
structure Background (Tid κ : Type) where
  pc : BackgroundPc κ
  callers : Tid → HandOverPc κ
  destructor : DestructorPc
  stateMutex : Option (BackgroundProcess Tid)
  scheduledBackgroundFunction : Option (Tid × κ)
  backgroundThreadRunning : Bool
  handedOver : List κ
  taken : List κ
  overwritten : List κ

namespace BackgroundPc
variable {κ : Type}

/-- Only a thread that waits notices a notification. -/
def notified : BackgroundPc κ → BackgroundPc κ
  | waiting => woken
  | pc => pc

/-- The lines between `lock` and `wait`. -/
def locked : BackgroundPc κ → Bool
  | testRunning | testSlot | running _ | wait => true
  | _ => false

/-- The lines behind the test of the slot, where it is empty. -/
def emptied : BackgroundPc κ → Bool
  | running _ | wait => true
  | _ => false

@[simp, grind =] theorem notified_locked (pc : BackgroundPc κ) : pc.notified.locked = pc.locked := by
  cases pc <;> rfl

@[simp, grind =] theorem notified_emptied (pc : BackgroundPc κ) : pc.notified.emptied = pc.emptied := by
  cases pc <;> rfl

@[simp, grind .] theorem notified_ne_waiting (pc : BackgroundPc κ) : pc.notified ≠ waiting := by
  cases pc <;> exact nofun

@[simp, grind =] theorem notified_eq_ended (pc : BackgroundPc κ) : pc.notified = ended ↔ pc = ended := by
  cases pc <;> simp [notified]

end BackgroundPc

def HandOverPc.locked {κ : Type} : HandOverPc κ → Bool
  | assign _ | unlock => true
  | _ => false

namespace Background
variable {Tid κ : Type} [DecidableEq Tid]

/-- `BackgroundFunctionStartTrigger.notify_one`. -/
def notifyOne (s : Background Tid κ) : Background Tid κ := { s with pc := s.pc.notified }

def goto (s : Background Tid κ) (t : Tid) (pc : HandOverPc κ) : Background Tid κ :=
  { s with callers := Function.update s.callers t pc }

section Fields
variable (s : Background Tid κ) (u : Tid) (pc : HandOverPc κ)

@[simp, grind =] theorem goto_callers (v : Tid) :
    (s.goto u pc).callers v = if v = u then pc else s.callers v := Function.update_apply _ _ _ _
@[simp, grind =] theorem goto_pc : (s.goto u pc).pc = s.pc := rfl
@[simp, grind =] theorem goto_destructor : (s.goto u pc).destructor = s.destructor := rfl
@[simp, grind =] theorem goto_stateMutex : (s.goto u pc).stateMutex = s.stateMutex := rfl
@[simp, grind =] theorem goto_scheduledBackgroundFunction :
    (s.goto u pc).scheduledBackgroundFunction = s.scheduledBackgroundFunction := rfl
@[simp, grind =] theorem goto_backgroundThreadRunning :
    (s.goto u pc).backgroundThreadRunning = s.backgroundThreadRunning := rfl
@[simp, grind =] theorem goto_handedOver : (s.goto u pc).handedOver = s.handedOver := rfl
@[simp, grind =] theorem goto_taken : (s.goto u pc).taken = s.taken := rfl
@[simp, grind =] theorem goto_overwritten : (s.goto u pc).overwritten = s.overwritten := rfl

omit [DecidableEq Tid]

@[simp, grind =] theorem notifyOne_pc : s.notifyOne.pc = s.pc.notified := rfl
@[simp, grind =] theorem notifyOne_callers : s.notifyOne.callers = s.callers := rfl
@[simp, grind =] theorem notifyOne_destructor : s.notifyOne.destructor = s.destructor := rfl
@[simp, grind =] theorem notifyOne_stateMutex : s.notifyOne.stateMutex = s.stateMutex := rfl
@[simp, grind =] theorem notifyOne_scheduledBackgroundFunction :
    s.notifyOne.scheduledBackgroundFunction = s.scheduledBackgroundFunction := rfl
@[simp, grind =] theorem notifyOne_backgroundThreadRunning :
    s.notifyOne.backgroundThreadRunning = s.backgroundThreadRunning := rfl
@[simp, grind =] theorem notifyOne_handedOver : s.notifyOne.handedOver = s.handedOver := rfl
@[simp, grind =] theorem notifyOne_taken : s.notifyOne.taken = s.taken := rfl
@[simp, grind =] theorem notifyOne_overwritten : s.notifyOne.overwritten = s.overwritten := rfl

end Fields

/-- The next line of `BackgroundThreadFunction`. Whatever the coroutine throws is caught. -/
def advance (s : Background Tid κ) : Option (Background Tid κ) :=
  match s.pc with
  | .start | .woken =>
      if s.stateMutex = none then some { s with stateMutex := some .background, pc := .testRunning }
      else none
  | .testRunning =>
      if s.backgroundThreadRunning then some { s with pc := .testSlot }
      else some { s with stateMutex := none, pc := .ended }
  | .testSlot =>
      match s.scheduledBackgroundFunction with
      | some (_, coroutine) =>
          some { s with
            scheduledBackgroundFunction := none
            taken := s.taken ++ [coroutine]
            pc := .running coroutine }
      | none => some { s with pc := .wait }
  | .running _ => some { s with pc := .wait }
  | .wait => some { s with stateMutex := none, pc := .waiting }
  | .waiting => none
  | .ended => none

/-- The next line of the thread's call. -/
def advanceCaller (s : Background Tid κ) (t : Tid) : Option (Background Tid κ) :=
  match s.callers t with
  | .idle => none
  | .lock coroutine =>
      if s.stateMutex = none then some ({ s with stateMutex := some (.caller t) }.goto t (.assign coroutine))
      else none
  | .assign coroutine =>
      some ({ s with
        scheduledBackgroundFunction := some (t, coroutine)
        handedOver := s.handedOver ++ [coroutine]
        overwritten := s.overwritten ++ (s.scheduledBackgroundFunction.map Prod.snd).toList }.goto t .unlock)
  | .unlock => some ({ s with stateMutex := none }.goto t .notify)
  | .notify => some (s.notifyOne.goto t .idle)

def advanceDestructor (s : Background Tid κ) : Option (Background Tid κ) :=
  match s.destructor with
  | .idle => none
  | .notify => some { s.notifyOne with destructor := .join }
  | .join =>
      match s.pc with
      | .ended => some { s with destructor := .done }
      | _ => none
  | .done => none

/-- `call` begins a call on a thread that has none; `stop` is the destructor's first line. -/
inductive Action (Tid κ : Type) where
  | background
  | spuriousWakeup
  | call (thread : Tid) (coroutine : κ)
  | caller (thread : Tid)
  | stop
  | destructor
  deriving DecidableEq, Repr

def Action.owner : Action Tid κ → Option (BackgroundProcess Tid)
  | .background => some .background
  | .caller t => some (.caller t)
  | .destructor => some .destructor
  | .spuriousWakeup | .call _ _ | .stop => none

def step (s : Background Tid κ) : Action Tid κ → Option (Background Tid κ)
  | .background => s.advance
  | .spuriousWakeup =>
      match s.pc with
      | .waiting => some { s with pc := .woken }
      | _ => none
  | .call t coroutine =>
      match s.callers t with
      | .idle => some (s.goto t (.lock coroutine))
      | _ => none
  | .caller t => s.advanceCaller t
  | .stop =>
      if s.destructor = .idle then some { s with backgroundThreadRunning := false, destructor := .notify }
      else none
  | .destructor => s.advanceDestructor

def Step (s : Background Tid κ) (a : Action Tid κ) (t : Background Tid κ) : Prop := s.step a = some t

/-- As the constructor starts the thread. -/
structure Started (s : Background Tid κ) : Prop where
  pc : s.pc = .start
  callers : ∀ t, s.callers t = .idle
  destructor : s.destructor = .idle
  free : s.stateMutex = none
  empty : s.scheduledBackgroundFunction = none
  running : s.backgroundThreadRunning = true
  handedOver : s.handedOver = []
  taken : s.taken = []
  overwritten : s.overwritten = []

def slotted (s : Background Tid κ) : List κ := (s.scheduledBackgroundFunction.map Prod.snd).toList

/-- What was handed over was taken in this order, or is in the slot. -/
structure Lossless (s : Background Tid κ) : Prop where
  none_ : s.overwritten = []
  order : s.handedOver = s.taken ++ s.slotted

/-- A coroutine is put into the slot only when the last one was taken. -/
def FindsSlotEmpty (s : Background Tid κ) (a : Action Tid κ) : Prop :=
  ∀ t coroutine, a = .caller t → s.callers t = .assign coroutine → s.scheduledBackgroundFunction = none

/-- The lines of the three processes with what they find and what they leave. -/
inductive Move (s : Background Tid κ) : Action Tid κ → Background Tid κ → Prop
  | acquire : s.pc = .start ∨ s.pc = .woken → s.stateMutex = none →
      Move s .background { s with stateMutex := some .background, pc := .testRunning }
  | goOn : s.pc = .testRunning → s.backgroundThreadRunning = true →
      Move s .background { s with pc := .testSlot }
  | leave : s.pc = .testRunning → s.backgroundThreadRunning = false →
      Move s .background { s with stateMutex := none, pc := .ended }
  | take (u : Tid) (coroutine : κ) : s.pc = .testSlot →
      s.scheduledBackgroundFunction = some (u, coroutine) →
      Move s .background { s with
        scheduledBackgroundFunction := none
        taken := s.taken ++ [coroutine]
        pc := .running coroutine }
  | pass : s.pc = .testSlot → s.scheduledBackgroundFunction = none →
      Move s .background { s with pc := .wait }
  | finish (coroutine : κ) : s.pc = .running coroutine → Move s .background { s with pc := .wait }
  | sleep : s.pc = .wait → Move s .background { s with stateMutex := none, pc := .waiting }
  | wake : s.pc = .waiting → Move s .spuriousWakeup { s with pc := .woken }
  | call (u : Tid) (coroutine : κ) : s.callers u = .idle →
      Move s (.call u coroutine) (s.goto u (.lock coroutine))
  | lock (u : Tid) (coroutine : κ) : s.callers u = .lock coroutine → s.stateMutex = none →
      Move s (.caller u) ({ s with stateMutex := some (.caller u) }.goto u (.assign coroutine))
  | put (u : Tid) (coroutine : κ) : s.callers u = .assign coroutine →
      Move s (.caller u) ({ s with
        scheduledBackgroundFunction := some (u, coroutine)
        handedOver := s.handedOver ++ [coroutine]
        overwritten := s.overwritten ++ s.slotted }.goto u .unlock)
  | unlock (u : Tid) : s.callers u = .unlock →
      Move s (.caller u) ({ s with stateMutex := none }.goto u .notify)
  | notify (u : Tid) : s.callers u = .notify → Move s (.caller u) (s.notifyOne.goto u .idle)
  | stop : s.destructor = .idle →
      Move s .stop { s with backgroundThreadRunning := false, destructor := .notify }
  | destructorNotify : s.destructor = .notify →
      Move s .destructor { s.notifyOne with destructor := .join }
  | join : s.destructor = .join → s.pc = .ended → Move s .destructor { s with destructor := .done }

variable {s t : Background Tid κ} {a : Action Tid κ}

theorem move_of_advance (run : s.advance = some t) : Move s .background t := by
  rw [advance] at run
  split at run
  case h_1 pc =>
      split at run
      · next free => cases run; exact .acquire (.inl pc) free
      · cases run
  case h_2 pc =>
      split at run
      · next free => cases run; exact .acquire (.inr pc) free
      · cases run
  case h_3 pc =>
      split at run
      · next running => cases run; exact .goOn pc running
      · next stopped => cases run; exact .leave pc (Bool.eq_false_iff.mpr stopped)
  case h_4 pc =>
      split at run
      · next u coroutine filled => cases run; exact .take u coroutine pc filled
      · next empty => cases run; exact .pass pc empty
  case h_5 coroutine pc => cases run; exact .finish coroutine pc
  case h_6 pc => cases run; exact .sleep pc
  case h_7 => cases run
  case h_8 => cases run

theorem move_of_advanceCaller {u : Tid} (run : s.advanceCaller u = some t) : Move s (.caller u) t := by
  rw [advanceCaller] at run
  split at run
  case h_1 => cases run
  case h_2 coroutine pc =>
      split at run
      · next free => cases run; exact .lock u coroutine pc free
      · cases run
  case h_3 coroutine pc => cases run; exact .put u coroutine pc
  case h_4 pc => cases run; exact .unlock u pc
  case h_5 pc => cases run; exact .notify u pc

theorem Step.move (step : Step s a t) : Move s a t := by
  cases a with
  | background => exact move_of_advance step
  | caller u => exact move_of_advanceCaller step
  | spuriousWakeup =>
      rw [Step, Background.step] at step
      split at step
      · next pc => cases step; exact .wake pc
      · cases step
  | call u coroutine =>
      rw [Step, Background.step] at step
      split at step
      · next pc => cases step; exact .call u coroutine pc
      · cases step
  | stop =>
      rw [Step, Background.step] at step
      split at step
      · next pc => cases step; exact .stop pc
      · cases step
  | destructor =>
      rw [Step, Background.step, advanceDestructor] at step
      split at step
      · cases step
      · next pc => cases step; exact .destructorNotify pc
      · next pc =>
          split at step
          · next ended => cases step; exact .join pc ended
          · cases step
      · cases step

end Background
end SyncRGB
