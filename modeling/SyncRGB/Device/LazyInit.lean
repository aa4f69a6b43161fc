import SyncRGB.Transition.Mutex
import SyncRGB.Transition.Run

/-! The initialisation of a device at its first use, called for and armed again by any number of threads. -/
namespace SyncRGB
open Transition

/-- What a thread does next: in `EnsureInitializedForControl` with the call of `DeviceInitialize`, and then in
`ResetDeviceInitialization` and `SetDeviceInitializer`, which share their last lines. -/
inductive InitPc (Fn : Type) where
  | idle
  | load
  | lock
  | reload
  | deviceInitialize
  | running (initializer : Option Fn)
  | store
  | unlock
  | leave
  | unwind
  | raise
  | lockReset
  | lockSet (initializer : Option Fn)
  | assign (initializer : Option Fn)
  | clear
  | unlockArming
  deriving DecidableEq, Repr

/-- A call begins, returns or ends with an exception; a run of the initializer begins, returns or throws; the
device counts as not initialised again. -/
inductive InitEvent (T : Type) where
  | called (t : T)
  | returned (t : T)
  | raised (t : T)
  | began (t : T)
  | finished (t : T)
  | threw (t : T)
  | rearmed (t : T)
  | internal
  deriving DecidableEq, Repr

/-- The members of the controller. The mutex is held by a thread or free. -/
structure InitShared (T Fn : Type) where
  deviceInitializeMutex : Option T
  deviceInitialized : Bool
  deviceInitializer : Option Fn

variable {T Fn : Type}

/-- The lines of the program of thread `t`. An empty `DeviceInitializer` cannot throw. -/
inductive InitLine (t : T) : InitPc Fn → InitShared T Fn → InitEvent T → InitPc Fn → InitShared T Fn → Prop where
  | call {m : InitShared T Fn} : InitLine t .idle m (.called t) .load m
  | loadTrue {m : InitShared T Fn} : m.deviceInitialized = true → InitLine t .load m .internal .leave m
  | loadFalse {m : InitShared T Fn} : m.deviceInitialized = false → InitLine t .load m .internal .lock m
  | lock {m : InitShared T Fn} : m.deviceInitializeMutex = none →
      InitLine t .lock m .internal .reload { m with deviceInitializeMutex := some t }
  | reloadTrue {m : InitShared T Fn} : m.deviceInitialized = true → InitLine t .reload m .internal .unlock m
  | reloadFalse {m : InitShared T Fn} : m.deviceInitialized = false → InitLine t .reload m .internal .deviceInitialize m
  | begin {m : InitShared T Fn} : InitLine t .deviceInitialize m (.began t) (.running m.deviceInitializer) m
  | finish {m : InitShared T Fn} {initializer : Option Fn} :
      InitLine t (.running initializer) m (.finished t) .store m
  | throw {m : InitShared T Fn} {initializer : Fn} : InitLine t (.running (some initializer)) m (.threw t) .unwind m
  | store {m : InitShared T Fn} : InitLine t .store m .internal .unlock { m with deviceInitialized := true }
  | unlock {m : InitShared T Fn} : InitLine t .unlock m .internal .leave { m with deviceInitializeMutex := none }
  | leave {m : InitShared T Fn} : InitLine t .leave m (.returned t) .idle m
  | unwind {m : InitShared T Fn} : InitLine t .unwind m .internal .raise { m with deviceInitializeMutex := none }
  | raise {m : InitShared T Fn} : InitLine t .raise m (.raised t) .idle m
  | reset {m : InitShared T Fn} : InitLine t .idle m .internal .lockReset m
  | lockReset {m : InitShared T Fn} : m.deviceInitializeMutex = none →
      InitLine t .lockReset m .internal .clear { m with deviceInitializeMutex := some t }
  | set {m : InitShared T Fn} (initializer : Option Fn) : InitLine t .idle m .internal (.lockSet initializer) m
  | lockSet {m : InitShared T Fn} {initializer : Option Fn} : m.deviceInitializeMutex = none →
      InitLine t (.lockSet initializer) m .internal (.assign initializer) { m with deviceInitializeMutex := some t }
  | assign {m : InitShared T Fn} {initializer : Option Fn} :
      InitLine t (.assign initializer) m .internal .clear { m with deviceInitializer := initializer }
  | clear {m : InitShared T Fn} : InitLine t .clear m (.rearmed t) .unlockArming { m with deviceInitialized := false }
  | unlockArming {m : InitShared T Fn} :
      InitLine t .unlockArming m .internal .idle { m with deviceInitializeMutex := none }

/-- A controller and the threads that use it. -/
structure LazyInit (T Fn : Type) where
  pc : T → InitPc Fn
  members : InitShared T Fn

namespace LazyInit
variable [DecidableEq T]

/-- What the constructor leaves. -/
def constructed : LazyInit T Fn := ⟨fun _ => .idle, ⟨none, false, none⟩⟩

/-- A thread takes its next line. -/
def Step (s : LazyInit T Fn) (event : InitEvent T) (s' : LazyInit T Fn) : Prop :=
  ∃ t next members, InitLine t (s.pc t) s.members event next members ∧ s' = ⟨Function.update s.pc t next, members⟩

end LazyInit

/-! ### What is asked of the events -/

namespace InitEvent

/-- A run that began has ended when another one begins. -/
def NoOverlap (events : List (InitEvent T)) : Prop :=
  ∀ front t middle u back, events = front ++ began t :: (middle ++ began u :: back) →
    finished t ∈ middle ∨ threw t ∈ middle

/-- Between two runs the device was armed again. -/
def RunsOnce (events : List (InitEvent T)) : Prop :=
  ∀ front t middle u back, events = front ++ began t :: (middle ++ began u :: back) → ∃ v, rearmed v ∈ middle

/-- Behind a run that returned no other begins or returns before the device is armed again. -/
def FinishesOnce (events : List (InitEvent T)) : Prop :=
  ∀ front t middle event u back, events = front ++ finished t :: (middle ++ event :: back) →
    event = began u ∨ event = finished u → ∃ v, rearmed v ∈ middle

/-- A run has returned since the device was last armed. -/
def Initialised (events : List (InitEvent T)) : Prop :=
  ∃ front u back, events = front ++ finished u :: back ∧ ∀ v, rearmed v ∉ back

/-- When a call returns, a run has returned since the device was last armed in front of the call. -/
def ReturnsInitialised (events : List (InitEvent T)) : Prop :=
  ∀ front t middle back, events = front ++ called t :: (middle ++ returned t :: back) →
    Initialised front ∨ ∃ u, finished u ∈ middle

/-- A run that threw leaves the device not initialised, until one returns. -/
def ThrowLeaves (events : List (InitEvent T)) (deviceInitialized : Bool) : Prop :=
  ∀ front t middle, events = front ++ threw t :: middle → (∀ u, finished u ∉ middle) → deviceInitialized = false

end InitEvent

/-- Once since the device was armed, except for runs that throw. -/
structure LazilyInitialised (events : List (InitEvent T)) (s : LazyInit T Fn) : Prop where
  noOverlap : InitEvent.NoOverlap events
  finishesOnce : InitEvent.FinishesOnce events
  returnsInitialised : InitEvent.ReturnsInitialised events
  throwLeaves : InitEvent.ThrowLeaves events s.members.deviceInitialized

end SyncRGB
