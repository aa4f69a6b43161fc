import SyncRGB.Resources.Detection

/-! What an exception leaves of a detection run. Whatever is thrown before the coroutine unlocks, the
catch of the background thread finds the mutex locked. -/
namespace SyncRGB
open ByteCodec Effect
namespace Detection
variable {ω Ptr Bus Slots Hid α β : Type} [DecidableEq Ptr]

/-- The four things a run sets at its start, as a completed run leaves them. -/
structure AsAfterCompletedRun (s : Detection ω Ptr) : Prop where
  mutexFree : s.detectDeviceMutex = false
  notSuppressing : s.suppressMode = false
  notRequired : s.detectionIsRequired = false
  nonePending : s.lists.rgbControllersHwCleanupPending = []

/-- The tests another `DetectDevices` meets: that of `ProcessPreDetection`, then `WaitForDeviceDetection`
in `Cleanup`. -/
def Proceeds (s : Detection ω Ptr) : Prop :=
  s.detectionIsRequired = false ∧ s.detectDeviceMutex = false

/-- While the coroutine is at work. -/
def Held (s : Detection ω Ptr) : Prop := s.detectDeviceMutex = true ∧ s.suppressMode = true

/-- The last part of `ProcessPostDetection` has been reached. -/
def Reset (s : Detection ω Ptr) : Prop :=
  s.detectionIsRequired = false ∧ s.lists.rgbControllersHwCleanupPending = []

theorem foldl_step_pending (object : Ptr → RGBController) (calls : List (Rescan.Action Ptr))
    (lists : Rescan Ptr) :
    (calls.foldl (Rescan.step object) lists).rgbControllersHwCleanupPending =
      lists.rgbControllersHwCleanupPending := by
  induction calls generalizing lists with
  | nil => rfl
  | cons a calls ih => exact (ih _).trans (Rescan.step_pending lists a)

/-- What other code cannot reach. -/
structure Untouched (inv : Detection ω Ptr → Prop) : Prop where
  called : ∀ (s : Detection ω Ptr) (lists : Rescan Ptr) (aborted : Bool) (world : ω),
    lists.rgbControllersHwCleanupPending = s.lists.rgbControllersHwCleanupPending → inv s →
      inv { s with detectionIsRequired := s.detectionIsRequired && !aborted, lists, world }
  progressMutex : ∀ (s : Detection ω Ptr) (locked : Bool), inv s →
    inv { s with detectionProgressMutex := locked }
  busMutex : ∀ (s : Detection ω Ptr) (locked : Bool), inv s →
    inv { s with i2cBusListChangeMutex := locked }
  interfaceFail : ∀ (s : Detection ω Ptr) (failed : Bool), inv s →
    inv { s with i2cInterfaceFail := failed }
  initial : ∀ (s : Detection ω Ptr) (initial : Bool), inv s → inv { s with initialDetection := initial }

omit [DecidableEq Ptr] in
theorem untouched_held : Untouched (Held : Detection ω Ptr → Prop) :=
  ⟨fun _ _ _ _ _ held => held, fun _ _ held => held, fun _ _ held => held, fun _ _ held => held,
    fun _ _ held => held⟩

omit [DecidableEq Ptr] in
theorem untouched_reset : Untouched (Reset : Detection ω Ptr → Prop) := by
  constructor
  · intro s lists aborted world same reset
    exact ⟨by simp [reset.1], same.trans reset.2⟩
  all_goals exact fun _ _ reset => reset

omit [DecidableEq Ptr] in
theorem untouched_completed : Untouched (AsAfterCompletedRun : Detection ω Ptr → Prop) := by
  constructor
  · intro s lists aborted world same done
    exact ⟨done.mutexFree, done.notSuppressing, by simp [done.notRequired], same.trans done.nonePending⟩
  all_goals exact fun _ _ done => ⟨done.mutexFree, done.notSuppressing, done.notRequired, done.nonePending⟩

omit [DecidableEq Ptr] in
theorem Untouched.and {inv inv' : Detection ω Ptr → Prop} (left : Untouched inv)
    (right : Untouched inv') : Untouched fun s => inv s ∧ inv' s :=
  ⟨fun s lists aborted world same both =>
      ⟨left.called s lists aborted world same both.1, right.called s lists aborted world same both.2⟩,
    fun s b both => ⟨left.progressMutex s b both.1, right.progressMutex s b both.2⟩,
    fun s b both => ⟨left.busMutex s b both.1, right.busMutex s b both.2⟩,
    fun s b both => ⟨left.interfaceFail s b both.1, right.interfaceFail s b both.2⟩,
    fun s b both => ⟨left.initial s b both.1, right.initial s b both.2⟩⟩

section Parts
variable {inv : Detection ω Ptr → Prop} (untouched : Untouched inv)
  (m : Machinery ω Ptr Bus Slots Hid)
include untouched

theorem Untouched.call (object : Ptr → RGBController) (callout : Callout ω Ptr α) :
    Preserves inv (call object callout) := by
  intro s holds
  have after := untouched.called s _ (callout s.world).aborted (callout s.world).world
    (foldl_step_pending object (callout s.world).calls s.lists) holds
  rw [Detection.call]
  cases (callout s.world).outcome with
  | ok a => exact after
  | error e => exact after

omit untouched [DecidableEq Ptr] in
theorem preserves_whileRequired {body : α → Detecting ω Ptr Unit} (each : ∀ x, Preserves inv (body x))
    (xs : List α) : Preserves inv (whileRequired body xs) := by
  induction xs with
  | nil => exact .pure ()
  | cons x xs ih =>
      apply Preserves.bind .get
      intro s
      apply Preserves.ite
      · exact .bind (each x) fun _ => ih
      · exact .pure ()

theorem Untouched.detectionProgressChanged : Preserves inv (detectionProgressChanged m) := by
  apply Preserves.bind (.modify fun s => untouched.progressMutex s true)
  intro _
  apply Preserves.bind (.forM (untouched.call m.object))
  intro _
  exact .modify fun s => untouched.progressMutex s false

theorem Untouched.i2cBusListChanged : Preserves inv (i2cBusListChanged m) := by
  apply Preserves.bind (.modify fun s => untouched.busMutex s true)
  intro _
  apply Preserves.bind (.forM (untouched.call m.object))
  intro _
  exact .modify fun s => untouched.busMutex s false

omit untouched [DecidableEq Ptr] in
theorem preserves_thisDeviceEnabled (name : Bytes) : Preserves inv (thisDeviceEnabled m name) := by
  rw [thisDeviceEnabled]
  split
  · exact .lift _
  · exact .pure true

theorem Untouched.runEnabled (name : Bytes) {body : Detecting ω Ptr Unit} (keeps : Preserves inv body) :
    Preserves inv (runEnabled m name body) := by
  apply Preserves.bind (preserves_thisDeviceEnabled m name)
  intro enabled
  apply Preserves.ite
  · exact .bind (untouched.detectionProgressChanged m) fun _ => keeps
  · exact .pure ()

theorem Untouched.detectI2cInterfaces : Preserves inv (detectI2cInterfaces m) := by
  apply preserves_whileRequired
  intro detector
  apply Preserves.bind (untouched.call m.object detector)
  intro success
  apply Preserves.bind
  · apply Preserves.ite
    · exact .modify fun s => untouched.interfaceFail s true
    · exact .pure ()
  · exact fun _ => untouched.i2cBusListChanged m

theorem Untouched.detectI2cDevices : Preserves inv (detectI2cDevices m) := by
  apply preserves_whileRequired
  intro d
  exact untouched.runEnabled m d.name (untouched.call m.object _)

theorem Untouched.detectOn {Args : Type} (args : Args) (d : Detector ω Ptr Args) :
    Preserves inv (detectOn m args d) := by
  apply Preserves.ite
  · exact untouched.runEnabled m d.name (untouched.call m.object _)
  · exact .pure ()

theorem Untouched.detectDimm (bus : Bus) : Preserves inv (detectDimm m bus) := by
  apply Preserves.ite
  · apply Preserves.bind (untouched.call m.object _)
    intro slots
    exact preserves_whileRequired (untouched.detectOn m _) _
  · exact .pure ()

theorem Untouched.detectDimms (busses : List Bus) : Preserves inv (detectDimms m busses) := by
  induction busses with
  | nil => exact .pure ()
  | cons bus busses ih =>
      apply Preserves.bind
      · exact .bind .get fun _ => .pure _
      · intro enabled
        apply Preserves.ite
        · exact .bind (untouched.detectDimm m bus) fun _ => ih
        · exact .pure ()

theorem Untouched.detectPciDevice (d : Detector ω Ptr Bus) : Preserves inv (detectPciDevice m d) := by
  apply untouched.runEnabled
  apply Preserves.bind .get
  intro s
  apply Preserves.forM
  intro bus
  apply Preserves.ite
  · exact untouched.call m.object _
  · exact .pure ()

theorem Untouched.detectHidSafely : Preserves inv (detectHidSafely m) := by
  apply preserves_whileRequired
  intro d
  apply Preserves.bind (untouched.call m.object _)
  intro hidDevices
  exact .forM fun hid => untouched.detectOn m hid d.toDetector

theorem Untouched.detectHidDevice (hid : Hid) : Preserves inv (detectHidDevice m hid) := by
  apply Preserves.bind (untouched.detectionProgressChanged m)
  intro _
  apply Preserves.bind
  · apply preserves_whileRequired
    intro d
    exact untouched.detectOn m hid d.toDetector
  · exact fun _ => preserves_whileRequired (untouched.detectOn m _) _

theorem Untouched.detectHidDevices (safe : Bool) (hidDevices : List Hid) :
    Preserves inv (detectHidDevices m safe hidDevices) := by
  apply Preserves.ite
  · exact untouched.detectHidSafely m
  · exact .forM (untouched.detectHidDevice m)

theorem Untouched.detectLibusb : Preserves inv (detectLibusb m) := by
  rw [Detection.detectLibusb]
  split
  · exact .pure ()
  · apply Preserves.bind (untouched.call m.object _)
    intro hidDevices
    apply Preserves.forM
    intro hid
    apply Preserves.bind (untouched.detectionProgressChanged m)
    intro _
    exact preserves_whileRequired (untouched.detectOn m _) _

theorem Untouched.detectOtherDevices : Preserves inv (detectOtherDevices m) := by
  apply preserves_whileRequired
  intro d
  exact untouched.runEnabled m d.name (untouched.call m.object _)

omit untouched [DecidableEq Ptr] in
theorem preserves_setting (key : String) (read : Json → Handled α) (default : α) :
    Preserves inv (setting m key read default) := by
  rw [setting]
  split
  · exact .lift _
  · exact .pure default

theorem Untouched.enumerateAll (safe : Bool) : Preserves inv (enumerateAll m safe) := by
  apply Preserves.ite
  · exact .pure []
  · exact untouched.call m.object _

/-- Settings, detectors and callbacks leave alone what only the coroutine sets. -/
theorem Untouched.scan : Preserves inv (scan m) := by
  apply Preserves.bind (preserves_setting m _ _ _)
  intro safe
  apply Preserves.bind (preserves_setting m _ _ _)
  intro _
  apply Preserves.bind (.modify fun s => untouched.initial s false)
  intro _
  apply Preserves.bind (untouched.enumerateAll m safe)
  intro hidDevices
  apply Preserves.bind (untouched.detectI2cInterfaces m)
  intro _
  apply Preserves.bind (untouched.detectI2cDevices m)
  intro _
  apply Preserves.bind (untouched.detectionProgressChanged m)
  intro _
  apply Preserves.bind .get
  intro s
  apply Preserves.bind (untouched.detectDimms m _)
  intro _
  apply Preserves.bind (preserves_whileRequired (untouched.detectPciDevice m) _)
  intro _
  apply Preserves.bind (untouched.detectHidDevices m safe hidDevices)
  intro _
  apply Preserves.bind (untouched.detectLibusb m)
  intro _
  exact untouched.detectOtherDevices m

theorem Untouched.showDialog (dialog : Dialog) (due : Bool) :
    Preserves inv (showDialog m dialog due) := by
  apply Preserves.ite
  · exact .forM fun show_ => untouched.call m.object (show_ dialog)
  · exact .pure ()

theorem Untouched.showDialogs : Preserves inv (showDialogs m) := by
  apply Preserves.bind .get
  intro s
  apply Preserves.bind (untouched.showDialog m _ _)
  intro _
  apply Preserves.bind (untouched.showDialog m _ _)
  intro _
  exact untouched.showDialog m _ _

end Parts

/-- The flag and the lists are reset in front of the notification of the network clients. -/
theorem keeps_processPostDetection (m : Machinery ω Ptr Bus Slots Hid) :
    Keeps Held (processPostDetection m) (fun _ s => Held s ∧ Reset s) Held := by
  have both : Untouched fun s : Detection ω Ptr => Held s ∧ Reset s := untouched_held.and untouched_reset
  apply Keeps.bind (untouched_held.detectionProgressChanged m)
  intro _
  apply Keeps.bind (Preserves.forM (untouched_held.call m.object))
  intro _
  have cleared : Keeps (Held : Detection ω Ptr → Prop) (modify fun s : Detection ω Ptr => { s with
      detectionIsRequired := false
      lists := { s.lists with rgbControllersHwCleanupPending := [], restored := [] } } :
      Detecting ω Ptr PUnit) (fun _ s => Held s ∧ Reset s) Held :=
    Keeps.modify fun s held => ⟨held, rfl, rfl⟩
  apply Keeps.bind cleared
  intro _
  split
  · next scanComplete _ =>
      exact (both.call m.object scanComplete).mono (fun _ _ after => after) fun _ after => after.1
  · exact Keeps.pure fun s after => after

/-- A run that throws before it unlocks leaves everything locked; one that unlocks has reset all. -/
theorem keeps_detectLocked (m : Machinery ω Ptr Bus Slots Hid) :
    Keeps (fun _ => True) (detectLocked m) (fun _ => AsAfterCompletedRun) Held := by
  have locked : Keeps (fun _ : Detection ω Ptr => True) (modify fun s : Detection ω Ptr =>
      { s with detectDeviceMutex := true } : Detecting ω Ptr PUnit)
      (fun _ s => s.detectDeviceMutex = true) Held := Keeps.modify fun s _ => rfl
  apply Keeps.bind locked
  intro _
  have suppressing : Keeps (fun s : Detection ω Ptr => s.detectDeviceMutex = true)
      (modify fun s : Detection ω Ptr => { s with suppressMode := true, i2cInterfaceFail := false } :
        Detecting ω Ptr PUnit) (fun _ => Held) Held := Keeps.modify fun s locked => ⟨locked, rfl⟩
  apply Keeps.bind suppressing
  intro _
  apply Keeps.bind (untouched_held.scan m)
  intro _
  apply Keeps.bind (Preserves.get)
  intro s
  apply Keeps.bind (keeps_processPostDetection m)
  intro _
  have stopped : Keeps (fun s : Detection ω Ptr => Held s ∧ Reset s) (modify fun t : Detection ω Ptr =>
      { t with suppressMode := false, flushed := s.lists.devicesChanged } : Detecting ω Ptr PUnit)
      (fun _ s => s.suppressMode = false ∧ Reset s) Held := Keeps.modify fun t both => ⟨rfl, both.2⟩
  apply Keeps.bind stopped
  intro _
  exact Keeps.modify fun t reset => ⟨rfl, reset.1, reset.2.1, reset.2.2⟩

/-- Behind the lock and the start of the suppression. -/
def begun (s : Detection ω Ptr) : Detection ω Ptr :=
  { s with detectDeviceMutex := true, suppressMode := true, i2cInterfaceFail := false }

/-- Between the lock and the unlock neither the scan, with its settings, detectors and callbacks, nor what is called
behind it throws. -/
structure NothingThrown (m : Machinery ω Ptr Bus Slots Hid) (s : Detection ω Ptr) : Prop where
  scan : (scan m s.begun).1 = .ok ()
  postDetection : (processPostDetection m (Detection.scan m s.begun).2).1 = .ok ()

/-- What the coroutine does behind the scan, up to the unlock. -/
def finish (m : Machinery ω Ptr Bus Slots Hid) : Detecting ω Ptr Unit := do
  let changed := (← get).lists.devicesChanged
  processPostDetection m
  modify fun s => { s with suppressMode := false, flushed := changed }
  modify fun s => { s with detectDeviceMutex := false }

theorem detectLocked_eq (m : Machinery ω Ptr Bus Slots Hid) (s : Detection ω Ptr) :
    detectLocked m s = (scan m >>= fun _ => finish m) s.begun := rfl

theorem detectLocked_ok_iff (m : Machinery ω Ptr Bus Slots Hid) (s : Detection ω Ptr) :
    (detectLocked m s).1 = .ok () ↔ NothingThrown m s := by
  rw [detectLocked_eq]
  rcases scanned : scan m s.begun with ⟨thrown | _, t⟩
  · rw [bind_error scanned]
    apply iff_of_false nofun
    intro none_
    have fine := none_.scan
    rw [scanned] at fine
    cases fine
  · have got : (get : Detecting ω Ptr (Detection ω Ptr)) t = (.ok t, t) := rfl
    rw [bind_ok scanned]
    rcases after : processPostDetection m t with ⟨thrown | _, u⟩
    · rw [show finish m t = (.error thrown, u) from (bind_ok got).trans (bind_error after)]
      apply iff_of_false nofun
      intro none_
      have fine := none_.postDetection
      rw [scanned, after] at fine
      cases fine
    · rw [show finish m t = _ from (bind_ok got).trans (bind_ok after)]
      refine iff_of_true rfl ⟨by rw [scanned], ?_⟩
      rw [scanned, after]

/-- Once the exception is caught, the detection state is as after a completed run exactly when nothing was
thrown while the coroutine held the mutex. -/
theorem detection_recovers_iff (m : Machinery ω Ptr Bus Slots Hid) (s : Detection ω Ptr) :
    (AsAfterCompletedRun (backgroundRun (detectDevicesCoroutine m) s) ∧
      Proceeds (backgroundRun (detectDevicesCoroutine m) s)) ↔ NothingThrown m s := by
  rw [← detectLocked_ok_iff]
  have once := keeps_detectLocked m s trivial
  cases run : detectLocked m s with
  | mk result t =>
      rw [run] at once
      cases result with
      | ok unlocked =>
          have after : AsAfterCompletedRun (backgroundRun (detectDevicesCoroutine m) s) := by
            rw [backgroundRun, detectDevicesCoroutine, bind_ok run]
            exact (untouched_completed.showDialogs m).left once
          exact iff_of_true ⟨after, after.notRequired, after.mutexFree⟩ rfl
      | error thrown =>
          have left : backgroundRun (detectDevicesCoroutine m) s = t := by
            rw [backgroundRun, detectDevicesCoroutine, bind_error run]
          apply iff_of_false
          · rintro ⟨after, -⟩
            have free := after.mutexFree
            rw [left, once.1] at free
            cases free
          · exact nofun

/-- Settings and nothing to detect. -/
def bare (detectorSettings : Json) : Machinery Unit Nat Unit Unit Unit where
  object := Rescan.numbered
  detectorSettings := detectorSettings
  busses := fun _ => []
  isDramSmbus := fun _ => false
  readSpd := fun _ world => ⟨.ok (), [], false, world⟩
  hidEnumerate := fun _ _ world => ⟨.ok [], [], false, world⟩
  libusbEnumerate := none
  i2cBusDetectors := []
  i2cDeviceDetectors := []
  i2cDimmDeviceDetectors := []
  i2cPciDeviceDetectors := []
  hidDeviceDetectors := []
  hidWrappedDeviceDetectors := []
  deviceDetectors := []
  detectionProgressCallbacks := []
  i2cBusListChangeCallbacks := []
  detectionEndCallbacks := []
  websocketServer := none
  dialogShowCallbacks := []
  udevNotExist := false
  udevMultiple := false

/-- As `ProcessPreDetection` leaves it, with one old controller. -/
def pendingRun : Detection Unit Nat where
  detectDeviceMutex := false
  detectionProgressMutex := false
  i2cBusListChangeMutex := false
  suppressMode := false
  detectionIsRequired := true
  initialDetection := true
  i2cInterfaceFail := false
  flushed := false
  lists := ⟨[1], [], []⟩
  world := ()

/-- `"hid_safe_mode": "on"` stops the run for good: all four are left as the start set them. -/
theorem detection_sticks :
    let s := backgroundRun (detectDevicesCoroutine
      (bare (.object [(ascii "hid_safe_mode", .string (ascii "on"))]))) pendingRun
    ¬ AsAfterCompletedRun s ∧ s.detectDeviceMutex = true ∧ s.suppressMode = true ∧
      s.detectionIsRequired = true ∧ s.lists.rgbControllersHwCleanupPending = [1] := by
  refine ⟨fun after => ?_, by decide, by decide, by decide, by decide⟩
  have free := after.mutexFree
  revert free
  decide

end Detection
end SyncRGB
