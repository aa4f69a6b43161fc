import Mathlib.Logic.Function.Basic
import SyncRGB.Transition.Run

/-! The device thread of a controller with its two call flags, and the callers of `UpdateLEDs` and
`UpdateMode` that run next to it. -/
namespace SyncRGB
open Transition

/-- `UpdateMode` with `DeviceUpdateMode`, `UpdateLEDs` with `DeviceUpdateLEDs`. -/
inductive DeviceCall where
  | mode
  | leds
  deriving DecidableEq, Repr

/-- The statements of a branch of the loop; `updating` is inside of the device call. -/
inductive CallLine where
  | clearFlag
  | ensureInitialized
  | deviceUpdate
  | updating
  deriving DecidableEq, Repr

/-- What `DeviceCallThreadFunction` does next. -/
inductive CallPc where
  | clearLeds
  | clearMode
  | testRunning
  | testFlag (call : DeviceCall)
  | testReset (call : DeviceCall)
  | branch (call : DeviceCall) (resetBefore : Bool) (line : CallLine)
  | sleep
  | ended
  deriving DecidableEq, Repr

/-- A request stores `true` in its flag; a write to the device begins with its call. -/
inductive CallEvent where
  | requested (call : DeviceCall)
  | began (call : DeviceCall)
  deriving DecidableEq, Repr

/-- The thread, the atomics it shares with the callers, and what has happened, newest first. -/
structure CallThread where
  pc : CallPc
  callFlag : DeviceCall → Bool
  flags : UInt32
  deviceThreadRunning : Bool
  deviceInitialized : Bool
  history : List CallEvent

/-- `CONTROLLER_FLAG_RESET_BEFORE_UPDATE` is bit 8 of the controller flags. -/
def CallThread.resetBeforeUpdate (s : CallThread) : Bool := s.flags &&& 256 != 0

/-- The last request of the kind has no write that began behind it. -/
def unserved (k : DeviceCall) : List CallEvent → Bool
  | [] => false
  | .requested call :: h => call = k || unserved k h
  | .began call :: h => call ≠ k && unserved k h

namespace CallPc

def after : DeviceCall → CallPc
  | .mode => testFlag .leds
  | .leds => testRunning

def skip : DeviceCall → CallPc
  | .mode => testFlag .leds
  | .leds => sleep

/-- The thread clears the flag before it begins another write of the kind. -/
def deaf (k : DeviceCall) : CallPc → Bool
  | clearLeds => true
  | clearMode => k = .mode
  | branch call false .updating => call = k
  | branch call false .clearFlag => call = k
  | _ => false

/-- The flag was cleared for a write that is to begin yet. -/
def committed (k : DeviceCall) : CallPc → Bool
  | branch call true .ensureInitialized => call = k
  | branch call true .deviceUpdate => call = k
  | _ => false

end CallPc

namespace CallThread

def clear (s : CallThread) (call : DeviceCall) : CallThread :=
  { s with callFlag := Function.update s.callFlag call false }

/-- The constructor sets the flags and starts the thread; the call flags are what they happen to be. -/
structure Constructed (s : CallThread) : Prop where
  pc : s.pc = .clearLeds
  flags : s.flags = 0
  running : s.deviceThreadRunning = true
  initialized : s.deviceInitialized = false
  history : s.history = []

/-- A branch of the loop, the flag cleared in front of the device call or behind it. -/
def advanceBranch (s : CallThread) (call : DeviceCall) : Bool → CallLine → CallThread
  | true, .clearFlag => { s.clear call with pc := .branch call true .ensureInitialized }
  | false, .clearFlag => { s.clear call with pc := .after call }
  | resetBefore, .ensureInitialized =>
      { s with deviceInitialized := true, pc := .branch call resetBefore .deviceUpdate }
  | resetBefore, .deviceUpdate =>
      { s with history := .began call :: s.history, pc := .branch call resetBefore .updating }
  | true, .updating => { s with pc := .after call }
  | false, .updating => { s with pc := .branch call false .clearFlag }

/-- The next statement of `DeviceCallThreadFunction`. -/
def advance (s : CallThread) : Option CallThread :=
  match s.pc with
  | .clearLeds => some { s.clear .leds with pc := .clearMode }
  | .clearMode => some { s.clear .mode with pc := .testRunning }
  | .testRunning => some { s with pc := if s.deviceThreadRunning then .testFlag .mode else .ended }
  | .testFlag call => some { s with pc := if s.callFlag call then .testReset call else .skip call }
  | .testReset call =>
      some { s with
        pc := if s.resetBeforeUpdate then .branch call true .clearFlag
          else .branch call false .ensureInitialized }
  | .branch call resetBefore line => some (s.advanceBranch call resetBefore line)
  | .sleep => some { s with pc := .testRunning }
  | .ended => none

/-- The device thread, its callers, a driver that sets its flags or asks for another initialization, and
the destructor. -/
inductive Action where
  | thread
  | request (call : DeviceCall)
  | setFlags (flags : UInt32)
  | resetDeviceInitialization
  | stop
  deriving DecidableEq, Repr

def step (s : CallThread) : Action → Option CallThread
  | .thread => s.advance
  | .request call =>
      some { s with
        callFlag := Function.update s.callFlag call true, history := .requested call :: s.history }
  | .setFlags flags => some { s with flags }
  | .resetDeviceInitialization => some { s with deviceInitialized := false }
  | .stop => some { s with deviceThreadRunning := false }

def Step (s : CallThread) (a : Action) (t : CallThread) : Prop := s.step a = some t

/-- No request is lost: its flag is still set, or a write began behind it, or the iteration that cleared
the flag is about to begin one. -/
def NoneLost (s : CallThread) : Prop :=
  ∀ k, unserved k s.history = true → s.callFlag k = true ∨ s.pc.committed k = true

/-- A request comes when the thread will begin a write before it clears the flag. -/
def Heard (s : CallThread) (a : Action) : Prop := ∀ k, a = .request k → s.pc.deaf k = false

/-- Where the thread is about to clear a flag without a write, nothing waits for one. -/
def Attentive (s : CallThread) : Prop :=
  ∀ k, unserved k s.history = true →
    (s.callFlag k = true ∨ s.pc.committed k = true) ∧ s.pc.deaf k = false

theorem Attentive.noneLost {s : CallThread} (ok : s.Attentive) : s.NoneLost :=
  fun k waits => (ok k waits).1

theorem Constructed.attentive {s : CallThread} (new : s.Constructed) : s.Attentive := by
  intro k waits
  rw [new.history] at waits
  cases waits

theorem Attentive.moved {s t : CallThread} (ok : s.Attentive) (flag : t.callFlag = s.callFlag)
    (history : t.history = s.history)
    (committed : ∀ k, s.pc.committed k = true → t.pc.committed k = true)
    (deaf : ∀ k, t.pc.deaf k = true → s.pc.deaf k = true) : t.Attentive := by
  intro k waits
  rw [history] at waits
  obtain ⟨served, heard⟩ := ok k waits
  refine ⟨?_, Bool.eq_false_iff.mpr fun isDeaf => ?_⟩
  · rw [flag]
    exact served.imp_right (committed k)
  · exact absurd (deaf k isDeaf) (Bool.eq_false_iff.mp heard)

/-- A statement that only goes on to one at which the thread hears every request. -/
theorem Attentive.listening {s : CallThread} (ok : s.Attentive) {pc : CallPc}
    (idle : ∀ k, s.pc.committed k = false) (listens : ∀ k, pc.deaf k = false) :
    Attentive { s with pc } := by
  intro k waits
  obtain ⟨served, -⟩ := ok k waits
  exact ⟨.inl (served.resolve_right (Bool.eq_false_iff.mp (idle k))), listens k⟩

/-- Clearing a flag for which nothing waits, or for which the write is about to begin. -/
theorem Attentive.cleared {s : CallThread} (ok : s.Attentive) {call : DeviceCall} {pc : CallPc}
    (free : s.pc.deaf call = true ∨ pc.committed call = true)
    (committed : ∀ k, s.pc.committed k = false)
    (deaf : ∀ k, k ≠ call → pc.deaf k = true → s.pc.deaf k = true)
    (heard : pc.deaf call = false) : Attentive { s.clear call with pc } := by
  intro k waits
  obtain ⟨served, here⟩ := ok k waits
  by_cases same : k = call
  · subst same
    have coming := free.resolve_left (Bool.eq_false_iff.mp here)
    exact ⟨.inr coming, heard⟩
  · refine ⟨.inl ?_, Bool.eq_false_iff.mpr fun isDeaf => ?_⟩
    · have flag := served.resolve_right (Bool.eq_false_iff.mp (committed k))
      exact (Function.update_of_ne same _ _).trans flag
    · exact absurd (deaf k same isDeaf) (Bool.eq_false_iff.mp here)

/-- The write of a call begins: nothing of its kind waits any longer. -/
theorem Attentive.began {s : CallThread} (ok : s.Attentive) {call : DeviceCall} {resetBefore : Bool}
    (here : s.pc = .branch call resetBefore .deviceUpdate) :
    Attentive { s with
      history := .began call :: s.history, pc := .branch call resetBefore .updating } := by
  intro k waits
  simp only [unserved, Bool.and_eq_true, decide_eq_true_eq] at waits
  obtain ⟨other, waits⟩ := waits
  obtain ⟨served, -⟩ := ok k waits
  have notCommitted : s.pc.committed k = false := by
    rw [here]
    cases resetBefore <;> simp [CallPc.committed, other]
  refine ⟨.inl (served.resolve_right (Bool.eq_false_iff.mp notCommitted)), ?_⟩
  cases resetBefore <;> simp [CallPc.deaf, other]

theorem Attentive.advanceBranch {s : CallThread} (ok : s.Attentive) {call : DeviceCall}
    {resetBefore : Bool} {line : CallLine} (here : s.pc = .branch call resetBefore line) :
    (s.advanceBranch call resetBefore line).Attentive := by
  cases line with
  | clearFlag =>
      cases resetBefore with
      | true =>
          refine ok.cleared (.inr (by simp [CallPc.committed])) (fun k => by rw [here]; rfl)
            (fun k _ deaf => ?_) rfl
          cases deaf
      | false =>
          refine ok.cleared (.inl (by simp [here, CallPc.deaf])) (fun k => by rw [here]; rfl)
            (fun k _ deaf => ?_) (by cases call <;> rfl)
          cases call <;> cases deaf
  | ensureInitialized =>
      refine ok.moved (t := s.advanceBranch call resetBefore .ensureInitialized) ?_ ?_
        (fun k coming => ?_) fun k deaf => ?_
      · cases resetBefore <;> rfl
      · cases resetBefore <;> rfl
      · rw [here] at coming
        cases resetBefore with
        | true => exact coming
        | false => cases coming
      · cases resetBefore <;> cases deaf
  | deviceUpdate =>
      have begun := ok.began here
      cases resetBefore <;> exact begun
  | updating =>
      refine ok.moved (t := s.advanceBranch call resetBefore .updating) ?_ ?_ (fun k coming => ?_) ?_
      · cases resetBefore <;> rfl
      · cases resetBefore <;> rfl
      · rw [here] at coming
        cases resetBefore <;> cases coming
      · intro k deaf
        rw [here]
        cases resetBefore with
        | true => cases call <;> cases deaf
        | false => exact deaf

theorem Attentive.advance {s t : CallThread} (ok : s.Attentive) (next : s.advance = some t) :
    t.Attentive := by
  unfold CallThread.advance at next
  split at next
  case h_8 => cases next
  all_goals obtain rfl := Option.some.inj next
  case h_1 pc =>
    refine ok.cleared (.inl (by rw [pc]; rfl)) (fun k => by rw [pc]; rfl) (fun k _ _ => ?_) rfl
    rw [pc]
    rfl
  case h_2 pc =>
    refine ok.cleared (.inl (by rw [pc]; rfl)) (fun k => by rw [pc]; rfl) (fun k _ deaf => ?_) rfl
    cases deaf
  case h_3 pc =>
    apply ok.listening (fun k => by rw [pc]; rfl)
    intro k
    split <;> rfl
  case h_4 call pc =>
    apply ok.listening (fun k => by rw [pc]; rfl)
    intro k
    split
    · rfl
    · cases call <;> rfl
  case h_5 call pc =>
    apply ok.listening (fun k => by rw [pc]; rfl)
    intro k
    split <;> rfl
  case h_6 call resetBefore line pc => exact ok.advanceBranch pc
  case h_7 pc =>
    exact ok.listening (fun k => by rw [pc]; rfl) fun k => rfl

theorem Attentive.step {s t : CallThread} {a : Action} (ok : s.Attentive) (heard : s.Heard a)
    (next : s.Step a t) : t.Attentive := by
  cases a with
  | thread => exact ok.advance next
  | request call =>
      obtain rfl := Option.some.inj next
      intro k waits
      by_cases same : k = call
      · subst same
        exact ⟨.inl (Function.update_self _ _ _), heard k rfl⟩
      · have waited : unserved k s.history = true := by simpa [unserved, Ne.symm same] using waits
        obtain ⟨served, here⟩ := ok k waited
        exact ⟨served.imp_left (Function.update_of_ne same _ _).trans, here⟩
  | setFlags flags | resetDeviceInitialization | stop =>
      obtain rfl := Option.some.inj next
      exact ok.moved rfl rfl (fun _ coming => coming) fun _ deaf => deaf

theorem lost_of_clear {s : CallThread} {k : DeviceCall} (waits : unserved k s.history = true)
    (clear : s.callFlag k = false) (idle : s.pc.committed k = false) : ¬ s.NoneLost := by
  intro none
  obtain flag | coming := none k waits
  · exact absurd flag (Bool.eq_false_iff.mp clear)
  · exact absurd coming (Bool.eq_false_iff.mp idle)

/-- A request the thread does not hear is lost a few statements later. -/
theorem lost_of_deaf {s : CallThread} {k : DeviceCall} (deaf : s.pc.deaf k = true) :
    ∃ n t, Run Step s (.request k :: List.replicate n .thread) t ∧ ¬ t.NoneLost := by
  obtain ⟨pc, callFlag, flags, running, initialized, history⟩ := s
  have waits : unserved k (.requested k :: history) = true := by simp [unserved]
  match pc with
  | .clearLeds =>
      cases k with
      | leds => exact ⟨1, _, .cons rfl (.cons rfl (.nil _)), lost_of_clear waits rfl rfl⟩
      | mode => exact ⟨2, _, .cons rfl (.cons rfl (.cons rfl (.nil _))), lost_of_clear waits rfl rfl⟩
  | .clearMode =>
      cases k with
      | leds => cases deaf
      | mode => exact ⟨1, _, .cons rfl (.cons rfl (.nil _)), lost_of_clear waits rfl rfl⟩
  | .branch call false .updating =>
      obtain rfl := of_decide_eq_true deaf
      refine ⟨2, _, .cons rfl (.cons rfl (.cons rfl (.nil _))), lost_of_clear waits ?_ ?_⟩
      · exact Function.update_self _ _ _
      · cases call <;> rfl
  | .branch call false .clearFlag =>
      obtain rfl := of_decide_eq_true deaf
      refine ⟨1, _, .cons rfl (.cons rfl (.nil _)), lost_of_clear waits ?_ ?_⟩
      · exact Function.update_self _ _ _
      · cases call <;> rfl

/-- In every run from the constructor on in which each request is heard, no request is lost; and a request
the thread does not hear is lost by its next statements. -/
theorem requests_served {s : CallThread} (new : s.Constructed) :
    (∀ as t, Run (Guarded Heard Step) s as t → t.NoneLost) ∧
    ∀ as t k, Run Step s as t → ¬ t.Heard (.request k) →
      ∃ n u, Run Step t (.request k :: List.replicate n .thread) u ∧ ¬ u.NoneLost := by
  constructor
  · intro as t run
    have keeps (s : CallThread) (a : Action) (t : CallThread) (ok : s.Attentive)
        (next : Guarded Heard Step s a t) : t.Attentive := ok.step next.1 next.2
    exact (run.invariant keeps new.attentive).noneLost
  · intro as t k _ unheard
    apply lost_of_deaf
    by_contra hears
    apply unheard
    intro call same
    cases same
    exact Bool.eq_false_iff.mpr hears

/-- A controller as the constructor leaves it, both call flags happening to be set. -/
def constructed : CallThread where
  pc := .clearLeds
  callFlag := fun _ => true
  flags := 0
  deviceThreadRunning := true
  deviceInitialized := false
  history := []

theorem constructed_new : constructed.Constructed := ⟨rfl, rfl, rfl, rfl, rfl⟩

/-- A request for the colors, and two for the mode: before and during the update of the colors. -/
def heardRequests : List Action :=
  [.thread, .thread, .thread, .request .leds, .thread, .thread, .thread, .thread, .request .mode, .thread,
    .request .mode, .thread, .thread, .thread, .thread, .thread, .thread, .thread]

/-- A write begins behind each of the kinds. -/
theorem requests_served_constructed :
    ∃ t, Run (Guarded Heard Step) constructed heardRequests t ∧ t.NoneLost ∧ t.history =
      [.began .mode, .requested .mode, .began .leds, .requested .mode, .requested .leds] := by
  have request {s : CallThread} {call : DeviceCall} (hears : s.pc.deaf call = false) : s.Heard (.request call) := by
    intro k same
    cases same
    exact hears
  obtain ⟨t, run, history⟩ : ∃ t, Run (Guarded Heard Step) constructed heardRequests t ∧ t.history =
      [.began .mode, .requested .mode, .began .leds, .requested .mode, .requested .leds] := by
    refine ⟨?state, ?run, ?history⟩
    case run =>
      iterate 3 apply Run.cons ⟨nofun, rfl⟩
      apply Run.cons ⟨request rfl, rfl⟩
      iterate 4 apply Run.cons ⟨nofun, rfl⟩
      apply Run.cons ⟨request rfl, rfl⟩
      apply Run.cons ⟨nofun, rfl⟩
      apply Run.cons ⟨request rfl, rfl⟩
      iterate 7 apply Run.cons ⟨nofun, rfl⟩
      exact .nil _
    case history => rfl
  exact ⟨t, run, (requests_served constructed_new).1 _ t run, history⟩

/-- Up to the call of `DeviceUpdateLEDs` for a first request. -/
def firstWrite : List Action :=
  [.thread, .thread, .thread, .request .leds, .thread, .thread, .thread, .thread, .thread]

/-- A second request during that call is cleared with the first one. -/
theorem request_lost_in_write :
    ∃ t, Run Step constructed (firstWrite ++ [.request .leds, .thread, .thread]) t ∧ ¬ t.NoneLost := by
  refine ⟨?state, ?run, ?lost⟩
  case run =>
    iterate 12 apply Run.cons rfl
    exact .nil _
  case lost => exact lost_of_clear (k := .leds) rfl rfl rfl

end CallThread
end SyncRGB
