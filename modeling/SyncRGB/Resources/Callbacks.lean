import SyncRGB.VectorEdit.SkippingErase

/-! The callbacks that the resource manager and the log manager hold for their receivers. -/
namespace SyncRGB
open VectorEdit

/-- The vector of callbacks and the vector of their arguments. -/
structure CallbackList (F A : Type) where
  callbacks : List F
  args : List A
  paired : callbacks.length = args.length

namespace CallbackList
variable {F A : Type}

def pairs (l : CallbackList F A) : List (F × A) := l.callbacks.zip l.args

def empty : CallbackList F A := ⟨[], [], rfl⟩

def register (l : CallbackList F A) (newCallback : F) (newCallbackArg : A) : CallbackList F A where
  callbacks := l.callbacks ++ [newCallback]
  args := l.args ++ [newCallbackArg]
  paired := by rw [List.length_append, List.length_append, l.paired]; rfl

/-- The erasures at the same place of both vectors. -/
def erase (l : CallbackList F A) (idx : Nat) : CallbackList F A where
  callbacks := l.callbacks.eraseIdx idx
  args := l.args.eraseIdx idx
  paired := by rw [List.length_eraseIdx, List.length_eraseIdx, l.paired]

/-- The loop that calls them, each with its argument. -/
def calls (l : CallbackList F A) : List (F × A) :=
  List.ofFn fun idx : Fin l.callbacks.length => (l.callbacks[idx], l.args.get (idx.cast l.paired))

section
variable [DecidableEq F] [DecidableEq A]

/-- The loop of the removal, from `idx` on. -/
def unregisterFrom (callback : F) (arg : A) (l : CallbackList F A) (idx : Nat) : CallbackList F A :=
  if _h : idx < l.callbacks.length then
    have : idx < l.args.length := l.paired ▸ _h
    if l.callbacks[idx] = callback ∧ l.args[idx] = arg then unregisterFrom callback arg (l.erase idx) (idx + 1)
    else unregisterFrom callback arg l (idx + 1)
  else l
  termination_by l.callbacks.length - idx
  decreasing_by
    · rw [erase, List.length_eraseIdx]
      split <;> omega
    · omega

def unregister (l : CallbackList F A) (callback : F) (arg : A) : CallbackList F A := unregisterFrom callback arg l 0

end
end CallbackList

/-- The lists of `ResourceManager`, and that of `LogManager`. -/
structure Receivers (F A : Type) where
  clientInfoChange : CallbackList F A
  deviceListChange : CallbackList F A
  i2cBusListChange : CallbackList F A
  detectionProgress : CallbackList F A
  detectionStart : CallbackList F A
  detectionEnd : CallbackList F A
  dialogShow : CallbackList F A

namespace Receivers
variable {F A : Type} [DecidableEq F] [DecidableEq A]

section
variable (s : Receivers F A) (callback : F) (arg : A)

def registerClientInfoChangeCallback : Receivers F A :=
  { s with clientInfoChange := s.clientInfoChange.register callback arg }

def registerDeviceListChangeCallback : Receivers F A :=
  { s with deviceListChange := s.deviceListChange.register callback arg }

def registerI2CBusListChangeCallback : Receivers F A :=
  { s with i2cBusListChange := s.i2cBusListChange.register callback arg }

def registerDetectionProgressCallback : Receivers F A :=
  { s with detectionProgress := s.detectionProgress.register callback arg }

def registerDetectionStartCallback : Receivers F A :=
  { s with detectionStart := s.detectionStart.register callback arg }

def registerDetectionEndCallback : Receivers F A :=
  { s with detectionEnd := s.detectionEnd.register callback arg }

def registerDialogShowCallback : Receivers F A :=
  { s with dialogShow := s.dialogShow.register callback arg }

def unregisterClientInfoChangeCallback : Receivers F A :=
  { s with clientInfoChange := s.clientInfoChange.unregister callback arg }

def unregisterDeviceListChangeCallback : Receivers F A :=
  { s with deviceListChange := s.deviceListChange.unregister callback arg }

def unregisterI2CBusListChangeCallback : Receivers F A :=
  { s with i2cBusListChange := s.i2cBusListChange.unregister callback arg }

def unregisterDetectionProgressCallback : Receivers F A :=
  { s with detectionProgress := s.detectionProgress.unregister callback arg }

def unregisterDetectionStartCallback : Receivers F A :=
  { s with detectionStart := s.detectionStart.unregister callback arg }

def unregisterDetectionEndCallback : Receivers F A :=
  { s with detectionEnd := s.detectionEnd.unregister callback arg }

def unregisterDialogShowCallback : Receivers F A :=
  { s with dialogShow := s.dialogShow.unregister callback arg }

end

/-- What the receivers are told. -/
inductive Notice where
  | clientInfoChange
  | deviceListChange
  | i2cBusListChange
  | detectionProgress
  | detectionStart
  | detectionEnd
  | dialogShow
  deriving DecidableEq, Repr

def list (s : Receivers F A) : Notice → CallbackList F A
  | .clientInfoChange => s.clientInfoChange
  | .deviceListChange => s.deviceListChange
  | .i2cBusListChange => s.i2cBusListChange
  | .detectionProgress => s.detectionProgress
  | .detectionStart => s.detectionStart
  | .detectionEnd => s.detectionEnd
  | .dialogShow => s.dialogShow

def register : Notice → Receivers F A → F → A → Receivers F A
  | .clientInfoChange => registerClientInfoChangeCallback
  | .deviceListChange => registerDeviceListChangeCallback
  | .i2cBusListChange => registerI2CBusListChangeCallback
  | .detectionProgress => registerDetectionProgressCallback
  | .detectionStart => registerDetectionStartCallback
  | .detectionEnd => registerDetectionEndCallback
  | .dialogShow => registerDialogShowCallback

def unregister : Notice → Receivers F A → F → A → Receivers F A
  | .clientInfoChange => unregisterClientInfoChangeCallback
  | .deviceListChange => unregisterDeviceListChangeCallback
  | .i2cBusListChange => unregisterI2CBusListChangeCallback
  | .detectionProgress => unregisterDetectionProgressCallback
  | .detectionStart => unregisterDetectionStartCallback
  | .detectionEnd => unregisterDetectionEndCallback
  | .dialogShow => unregisterDialogShowCallback

inductive Operation (F A : Type) where
  | register (notice : Notice) (callback : F) (arg : A)
  | unregister (notice : Notice) (callback : F) (arg : A)
  deriving DecidableEq

def operate (s : Receivers F A) : Operation F A → Receivers F A
  | .register notice callback arg => register notice s callback arg
  | .unregister notice callback arg => unregister notice s callback arg

/-- The removal leaves the other pairs, and its receiver is not called until it is registered again. -/
structure Removes (notice : Notice) (s : Receivers F A) (callback : F) (arg : A) : Prop where
  left : ((unregister notice s callback arg).list notice).pairs =
    (s.list notice).pairs.filter fun pair => !decide (pair = (callback, arg))
  silent (later : List (Operation F A)) : Operation.register notice callback arg ∉ later →
    (callback, arg) ∉ ((later.foldl operate (unregister notice s callback arg)).list notice).calls

end Receivers
end SyncRGB
