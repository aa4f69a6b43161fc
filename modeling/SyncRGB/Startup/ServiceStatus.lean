import Mathlib.Algebra.Group.Nat.Defs
import Mathlib.Data.List.Basic

/-! The status that the Windows service reports. Every call of `ReportServiceStatus` runs under
`service_status_mutex`, so that any interleaving of the callers is one sequence of calls. -/
namespace SyncRGB

inductive ServiceState
  | stopped
  | startPending
  | stopPending
  | running
  | continuePending
  | pausePending
  | paused
  deriving DecidableEq, Repr

/-- What `SetServiceStatus` is given. -/
structure ServiceStatus where
  currentState : ServiceState
  controlsAccepted : UInt32
  win32ExitCode : UInt32
  serviceSpecificExitCode : UInt32
  checkPoint : UInt32
  waitHint : UInt32

/-- The arguments of one call. -/
structure ServiceReport where
  currentState : ServiceState
  win32ExitCode : UInt32
  waitHint : UInt32

/-- `ERROR_SERVICE_SPECIFIC_ERROR`. -/
def serviceSpecificError : UInt32 := 1066

/-- The fields of `service_status` for a report. -/
def ServiceReport.status (report : ServiceReport) (checkPoint controlsAccepted : UInt32) : ServiceStatus where
  currentState := report.currentState
  controlsAccepted := controlsAccepted
  win32ExitCode := report.win32ExitCode
  serviceSpecificExitCode := if report.win32ExitCode = serviceSpecificError then 1 else 0
  checkPoint := checkPoint
  waitHint := report.waitHint

/-- The statics of the service and the statuses passed on so far, oldest first. -/
structure Service where
  lastState : ServiceState
  serviceCheckpoint : UInt32
  mutexHeld : Bool
  passed : List ServiceStatus

def Service.start : Service := ⟨.startPending, 1, false, []⟩

/-- `SERVICE_ACCEPT_STOP | SERVICE_ACCEPT_PRESHUTDOWN`. -/
def acceptStop : UInt32 := 1 ||| 256

namespace Service

/-- `service_status_mutex.lock()`; `none` when it waits for ever. -/
def lock (s : Service) : Option Service := if s.mutexHeld then none else some { s with mutexHeld := true }

def unlock (s : Service) : Service := { s with mutexHeld := false }

/-- The `switch` on the last state returns early. -/
def refuses (lastState currentState : ServiceState) : Bool :=
  match lastState with
  | .running => currentState == .startPending
  | .stopPending => currentState != .stopPending && currentState != .stopped
  | .stopped => true
  | _ => false

/-- The status is passed on. -/
def setServiceStatus (status : ServiceStatus) (s : Service) : Service :=
  { s with lastState := status.currentState, passed := s.passed ++ [status] }

/-- `ReportServiceStatus`. -/
def reportServiceStatus (report : ServiceReport) (s : Service) : Option Service := do
  let s ← s.lock
  if refuses s.lastState report.currentState then return s.unlock
  else
    match report.currentState with
    | .startPending | .stopPending =>
        let counted := { s with serviceCheckpoint := s.serviceCheckpoint + 1 }
        return (counted.setServiceStatus (report.status s.serviceCheckpoint 0)).unlock
    | .running | .stopped => return (s.setServiceStatus (report.status 0 acceptStop)).unlock
    | _ => return s.unlock

/-- A sequence of calls. -/
def reportAll (reports : List ServiceReport) (s : Service) : Option Service :=
  reports.foldlM (fun s report => s.reportServiceStatus report) s

end Service

/-! ### The order of the states -/

/-- The states the service can be in, in their order. -/
def ServiceState.rank : ServiceState → Nat
  | .startPending => 0
  | .running => 1
  | .stopPending => 2
  | .stopped => 3
  | .continuePending | .pausePending | .paused => 4

def ServiceState.pending (state : ServiceState) : Bool := state == .startPending || state == .stopPending

def ServiceStatus.pending (status : ServiceStatus) : Bool := status.currentState.pending

@[simp] theorem ServiceReport.pending_status (report : ServiceReport) (checkPoint controls : UInt32) :
    (report.status checkPoint controls).pending = report.currentState.pending := rfl

/-- The statuses never go back and end with `SERVICE_STOPPED`; the pending ones are counted. -/
structure InOrder (passed : List ServiceStatus) : Prop where
  states : ∀ status ∈ passed, status.currentState.rank < 4
  forward : passed.Pairwise fun a b => a.currentState.rank ≤ b.currentState.rank
  last : passed.Pairwise fun a _ => a.currentState ≠ .stopped
  counted (i : Nat) (status : ServiceStatus) : (passed.filter ServiceStatus.pending)[i]? = some status →
    status.checkPoint.toNat = (i + 1) % 2 ^ 32
  idle : ∀ status ∈ passed, status.pending = false → status.checkPoint = 0

namespace InOrder
variable {passed : List ServiceStatus}

/-- A status that goes on from all the others. -/
theorem snoc (order : InOrder passed) {status : ServiceStatus} (state : status.currentState.rank < 4)
    (onward : ∀ a ∈ passed, a.currentState.rank ≤ status.currentState.rank)
    (open_ : ∀ a ∈ passed, a.currentState ≠ .stopped)
    (number : status.checkPoint.toNat =
      if status.pending then ((passed.filter ServiceStatus.pending).length + 1) % 2 ^ 32 else 0) :
    InOrder (passed ++ [status]) where
  states := List.forall_mem_append.mpr ⟨order.states, List.forall_mem_singleton.mpr state⟩
  forward := List.pairwise_append.mpr
    ⟨order.forward, List.pairwise_singleton _ _, fun a member _ own =>
      List.mem_singleton.mp own ▸ onward a member⟩
  last := List.pairwise_append.mpr
    ⟨order.last, List.pairwise_singleton _ _, fun a member _ _ => open_ a member⟩
  counted := by
    intro i other found
    rw [List.filter_append] at found
    by_cases earlier : i < (passed.filter ServiceStatus.pending).length
    · rw [List.getElem?_append_left earlier] at found
      exact order.counted i other found
    · rw [List.getElem?_append_right (by omega)] at found
      cases pending : status.pending with
      | false => simp [pending] at found
      | true =>
          rw [List.filter_cons_of_pos pending, List.filter_nil, List.getElem?_singleton] at found
          split_ifs at found with first
          cases found
          rw [number, if_pos pending]
          congr 2
          omega
  idle := by
    refine List.forall_mem_append.mpr ⟨order.idle, List.forall_mem_singleton.mpr fun idle => ?_⟩
    rw [idle, if_neg Bool.false_ne_true] at number
    exact UInt32.toNat_inj.mp number

/-- Before the counter wraps the check points grow. -/
theorem increasing (order : InOrder passed) :
    ((passed.filter ServiceStatus.pending).take (2 ^ 32 - 1)).Pairwise
      fun a b => a.checkPoint < b.checkPoint := by
  rw [List.pairwise_iff_getElem]
  intro i j hi hj before
  rw [List.length_take] at hi hj
  have first := order.counted i _ (List.getElem?_eq_getElem (by omega))
  have second := order.counted j _ (List.getElem?_eq_getElem (by omega))
  rw [List.getElem_take, List.getElem_take, UInt32.lt_iff_toNat_lt, first, second,
    Nat.mod_eq_of_lt (by omega), Nat.mod_eq_of_lt (by omega)]
  omega

end InOrder

namespace Service

/-- Between calls: the mutex is free, and the last state is the furthest one passed on. -/
structure Settled (s : Service) : Prop where
  free : s.mutexHeld = false
  order : InOrder s.passed
  reached : ∀ status ∈ s.passed, status.currentState.rank ≤ s.lastState.rank
  state : s.lastState.rank < 4
  checkpoint : s.serviceCheckpoint.toNat = ((s.passed.filter ServiceStatus.pending).length + 1) % 2 ^ 32

theorem settled_start : Settled start where
  free := rfl
  order := ⟨List.forall_mem_nil _, .nil, .nil, nofun, List.forall_mem_nil _⟩
  reached := List.forall_mem_nil _
  state := by decide
  checkpoint := rfl

theorem rank_le_of_not_refuses {lastState currentState : ServiceState}
    (passes : refuses lastState currentState = false) (service : lastState.rank < 4)
    (state : currentState.rank < 4) :
    lastState.rank ≤ currentState.rank ∧ lastState ≠ .stopped := by
  cases lastState <;> cases currentState <;> simp_all [refuses, ServiceState.rank]

/-- The service after a report that is passed on. -/
def passedOn (report : ServiceReport) (s : Service) : Service :=
  if report.currentState.pending then
    { s.setServiceStatus (report.status s.serviceCheckpoint 0) with serviceCheckpoint := s.serviceCheckpoint + 1 }
  else s.setServiceStatus (report.status 0 acceptStop)

variable {s : Service}

/-- All that a call can do: pass a status on, or leave everything as it was. -/
theorem report_cases (free : s.mutexHeld = false) (report : ServiceReport) :
    s.reportServiceStatus report = some s ∨
      refuses s.lastState report.currentState = false ∧ report.currentState.rank < 4 ∧
      s.reportServiceStatus report = some (s.passedOn report) := by
  obtain ⟨lastState, checkpoint, held, passed⟩ := s
  obtain ⟨currentState, exitCode, waitHint⟩ := report
  cases free
  cases refused : refuses lastState currentState with
  | true =>
      left
      simp [reportServiceStatus, lock, unlock, refused]
  | false =>
      cases currentState
      case continuePending | pausePending | paused =>
        left
        simp [reportServiceStatus, lock, unlock]
      case startPending | stopPending =>
        right
        exact ⟨rfl, Nat.lt_of_sub_eq_succ rfl, by simp [reportServiceStatus, lock, refused]; rfl⟩
      case running | stopped =>
        right
        exact ⟨rfl, Nat.lt_of_sub_eq_succ rfl, by simp [reportServiceStatus, lock, refused]; rfl⟩

theorem length_pending_snoc (passed : List ServiceStatus) (status : ServiceStatus) :
    ((passed ++ [status]).filter ServiceStatus.pending).length =
      (passed.filter ServiceStatus.pending).length + if status.pending then 1 else 0 := by
  rw [List.filter_append, List.length_append]
  cases pending : status.pending with
  | true => rw [List.filter_cons_of_pos pending, List.filter_nil, List.length_singleton, if_pos rfl]
  | false =>
      rw [List.filter_cons_of_neg (by rw [pending]; decide), List.filter_nil, if_neg Bool.false_ne_true]
      rfl

theorem Settled.unstopped (settled : s.Settled) (open_ : s.lastState ≠ .stopped) :
    ∀ status ∈ s.passed, status.currentState ≠ .stopped := by
  intro status member stopped
  have furthest := settled.reached status member
  have service := settled.state
  rw [stopped] at furthest
  apply open_
  revert furthest service
  cases s.lastState <;> decide

theorem Settled.passedOn (settled : s.Settled) {report : ServiceReport}
    (passes : refuses s.lastState report.currentState = false) (state : report.currentState.rank < 4) :
    (s.passedOn report).Settled := by
  obtain ⟨onward, open_⟩ := rank_le_of_not_refuses passes settled.state state
  have reached : ∀ status ∈ s.passed, status.currentState.rank ≤ report.currentState.rank :=
    fun status member => Nat.le_trans (settled.reached status member) onward
  have unstopped := settled.unstopped open_
  unfold Service.passedOn
  split_ifs with pending
  · constructor
    · exact settled.free
    · apply settled.order.snoc state reached unstopped
      rw [ServiceReport.pending_status, if_pos pending]
      exact settled.checkpoint
    · exact List.forall_mem_append.mpr ⟨reached, List.forall_mem_singleton.mpr (Nat.le_refl _)⟩
    · exact state
    · simp only [setServiceStatus]
      rw [length_pending_snoc, ServiceReport.pending_status, if_pos pending, UInt32.toNat_add,
        settled.checkpoint]
      exact Nat.mod_add_mod _ _ 1
  · constructor
    · exact settled.free
    · apply settled.order.snoc state reached unstopped
      rw [ServiceReport.pending_status, if_neg pending]
      rfl
    · exact List.forall_mem_append.mpr ⟨reached, List.forall_mem_singleton.mpr (Nat.le_refl _)⟩
    · exact state
    · simp only [setServiceStatus]
      rw [length_pending_snoc, ServiceReport.pending_status, if_neg pending]
      exact settled.checkpoint

theorem Settled.report (settled : s.Settled) (report : ServiceReport) :
    ∃ t, s.reportServiceStatus report = some t ∧ t.Settled := by
  rcases report_cases settled.free report with kept | ⟨passes, state, done⟩
  · exact ⟨s, kept, settled⟩
  · exact ⟨_, done, settled.passedOn passes state⟩

theorem Settled.reportAll (settled : s.Settled) (reports : List ServiceReport) :
    ∃ t, s.reportAll reports = some t ∧ t.Settled := by
  induction reports generalizing s with
  | nil => exact ⟨s, rfl, settled⟩
  | cons report reports ih =>
      obtain ⟨t, first, next⟩ := settled.report report
      obtain ⟨u, rest, last⟩ := ih next
      refine ⟨u, ?_, last⟩
      rw [Service.reportAll, List.foldlM_cons, first]
      exact rest

/-- Whatever is reported in whatever order, every call returns with the mutex free, and the statuses passed
on are in order. -/
theorem reportAll_inOrder (reports : List ServiceReport) :
    ∃ t, start.reportAll reports = some t ∧ t.mutexHeld = false ∧ InOrder t.passed ∧
      ((t.passed.filter ServiceStatus.pending).take (2 ^ 32 - 1)).Pairwise
        fun a b => a.checkPoint < b.checkPoint := by
  obtain ⟨t, run, settled⟩ := settled_start.reportAll reports
  exact ⟨t, run, settled.free, settled.order, settled.order.increasing⟩

end Service
end SyncRGB
