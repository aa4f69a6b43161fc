import SyncRGB.Effect.Keeps
import SyncRGB.JsonRpc.Json
import SyncRGB.Resources.Rescan

/-! A run of the detection coroutine: what it sets at its start and resets at its end, with the settings it
converts, the detectors and the callbacks it calls in between. Any of these may throw. -/
namespace SyncRGB
open ByteCodec Effect

/-- What leaves a detection run early: a failed settings conversion, or whatever a detector or callback
throws. -/
inductive Thrown where
  | conversion (failure : Failure)
  | other (what : Bytes)
  deriving DecidableEq

/-- What happens while the coroutine is in other code: drivers register and unregister controllers, an
abort may be requested, the rest of the program goes on. -/
structure Happening (ω Ptr α : Type) where
  outcome : Except Thrown α
  calls : List (Rescan.Action Ptr)
  aborted : Bool
  world : ω

abbrev Callout (ω Ptr α : Type) := ω → Happening ω Ptr α

/-- `flushed` is what the last `StopSuppressing` was told to do with the buffered messages. -/
structure Detection (ω Ptr : Type) where
  detectDeviceMutex : Bool
  detectionProgressMutex : Bool
  i2cBusListChangeMutex : Bool
  suppressMode : Bool
  detectionIsRequired : Bool
  initialDetection : Bool
  i2cInterfaceFail : Bool
  flushed : Bool
  lists : Rescan Ptr
  world : ω

/-- A detector with the test for what it is run on. -/
structure Detector (ω Ptr Args : Type) where
  name : Bytes
  appliesTo : Args → Bool
  function : Args → Callout ω Ptr Unit

structure HidDetector (ω Ptr Hid : Type) extends Detector ω Ptr Hid where
  vid : UInt16
  pid : UInt16

/-- `default_wrapper` and the wrapper around libhidapi-libusb. -/
inductive HidapiWrapper
  | default
  | libusb

inductive Dialog
  | udevMissing
  | udevMulti
  | i2cError

/-- All that a run finds and calls. -/
structure Machinery (ω Ptr Bus Slots Hid : Type) where
  object : Ptr → RGBController
  detectorSettings : Json
  busses : ω → List Bus
  isDramSmbus : Bus → Bool
  readSpd : Bus → Callout ω Ptr Slots
  hidEnumerate : UInt16 → UInt16 → Callout ω Ptr (List Hid)
  libusbEnumerate : Option (Callout ω Ptr (List Hid))
  i2cBusDetectors : List (Callout ω Ptr Bool)
  i2cDeviceDetectors : List (Detector ω Ptr Unit)
  i2cDimmDeviceDetectors : List (Detector ω Ptr (Bus × Slots))
  i2cPciDeviceDetectors : List (Detector ω Ptr Bus)
  hidDeviceDetectors : List (HidDetector ω Ptr Hid)
  hidWrappedDeviceDetectors : List (Detector ω Ptr (HidapiWrapper × Hid))
  deviceDetectors : List (Detector ω Ptr Unit)
  detectionProgressCallbacks : List (Callout ω Ptr Unit)
  i2cBusListChangeCallbacks : List (Callout ω Ptr Unit)
  detectionEndCallbacks : List (Callout ω Ptr Unit)
  websocketServer : Option (Callout ω Ptr Unit)
  dialogShowCallbacks : List (Dialog → Callout ω Ptr Unit)
  udevNotExist : Bool
  udevMultiple : Bool

namespace Detection
variable {ω Ptr Bus Slots Hid α β : Type} [DecidableEq Ptr]

abbrev Detecting (ω Ptr α : Type) := Changing Thrown (Detection ω Ptr) α

/-- A settings value, converted. -/
def convert (x : Handled α) : Detecting ω Ptr α := liftM (x.mapError Thrown.conversion)

/-- A call into other code. It can ask for the detection to stop, not for another one to start. -/
def call (object : Ptr → RGBController) (callout : Callout ω Ptr α) : Detecting ω Ptr α := fun s =>
  let happening := callout s.world
  (happening.outcome,
    { s with
      detectionIsRequired := s.detectionIsRequired && !happening.aborted
      lists := happening.calls.foldl (Rescan.step object) s.lists
      world := happening.world })

/-- The loops that go on while `detection_is_required`. -/
def whileRequired (body : α → Detecting ω Ptr Unit) : List α → Detecting ω Ptr Unit
  | [] => pure ()
  | x :: xs => do
      if (← get).detectionIsRequired then
        body x
        whileRequired body xs

variable (m : Machinery ω Ptr Bus Slots Hid)

/-- `ResourceManager::DetectionProgressChanged`. -/
def detectionProgressChanged : Detecting ω Ptr Unit := do
  modify fun s => { s with detectionProgressMutex := true }
  m.detectionProgressCallbacks.forM (call m.object)
  modify fun s => { s with detectionProgressMutex := false }

/-- `ResourceManager::I2CBusListChanged`. -/
def i2cBusListChanged : Detecting ω Ptr Unit := do
  modify fun s => { s with i2cBusListChangeMutex := true }
  m.i2cBusListChangeCallbacks.forM (call m.object)
  modify fun s => { s with i2cBusListChangeMutex := false }

/-- The entry of a detector in the settings, if there is one. -/
def detectorSetting (name : Bytes) : Option Json :=
  match m.detectorSettings.find "detectors" with
  | some (.object fields) => (fields.find? fun field => field.1 = name).map Prod.snd
  | _ => none

/-- `this_device_enabled`. -/
def thisDeviceEnabled (name : Bytes) : Detecting ω Ptr Bool :=
  match detectorSetting m name with
  | some setting => convert setting.toBool
  | none => pure true

/-- Runs a detector, with a progress report in front, unless the settings disable it. -/
def runEnabled (name : Bytes) (body : Detecting ω Ptr Unit) : Detecting ω Ptr Unit := do
  if ← thisDeviceEnabled m name then
    detectionProgressChanged m
    body

def noteInterface (success : Bool) : Detecting ω Ptr Unit :=
  if success = false then modify fun s => { s with i2cInterfaceFail := true } else pure ()

def detectI2cInterfaces : Detecting ω Ptr Unit :=
  whileRequired (fun detector => do
    noteInterface (← call m.object detector)
    i2cBusListChanged m) m.i2cBusDetectors

def detectI2cDevices : Detecting ω Ptr Unit :=
  whileRequired (fun d => runEnabled m d.name (call m.object (d.function ()))) m.i2cDeviceDetectors

/-- A detector that goes by what it finds. -/
def detectOn {Args : Type} (args : Args) (d : Detector ω Ptr Args) : Detecting ω Ptr Unit := do
  if d.appliesTo args then
    runEnabled m d.name (call m.object (d.function args))

/-- `ResourceManager::IsAnyDimmDetectorEnabled`. -/
def isAnyDimmDetectorEnabled : Detecting ω Ptr Bool := do
  let required := (← get).detectionIsRequired
  return required && m.i2cDimmDeviceDetectors.any fun d =>
    match detectorSetting m d.name with
    | some (.boolean true) => true
    | _ => false

def detectDimm (bus : Bus) : Detecting ω Ptr Unit := do
  if m.isDramSmbus bus then
    let slots ← call m.object (m.readSpd bus)
    whileRequired (detectOn m (bus, slots)) m.i2cDimmDeviceDetectors

def detectDimms : List Bus → Detecting ω Ptr Unit
  | [] => pure ()
  | bus :: busses => do
      if ← isAnyDimmDetectorEnabled m then
        detectDimm m bus
        detectDimms busses

/-- A PCI detector is enabled once for all the busses. -/
def detectPciDevice (d : Detector ω Ptr Bus) : Detecting ω Ptr Unit :=
  runEnabled m d.name do
    let busses := m.busses (← get).world
    busses.forM fun bus => if d.appliesTo bus then call m.object (d.function bus) else pure ()

def detectPciDevices : Detecting ω Ptr Unit :=
  whileRequired (detectPciDevice m) m.i2cPciDeviceDetectors

/-- With `hid_safe_mode` each detector lists its own devices. -/
def detectHidSafely : Detecting ω Ptr Unit :=
  whileRequired (fun d => do
    let hidDevices ← call m.object (m.hidEnumerate d.vid d.pid)
    hidDevices.forM fun hid => detectOn m hid d.toDetector) m.hidDeviceDetectors

def detectHidDevice (hid : Hid) : Detecting ω Ptr Unit := do
  detectionProgressChanged m
  whileRequired (fun d => detectOn m hid d.toDetector) m.hidDeviceDetectors
  whileRequired (detectOn m (.default, hid)) m.hidWrappedDeviceDetectors

/-- The devices libhidapi-libusb lists, where the library can be loaded. -/
def detectLibusb : Detecting ω Ptr Unit :=
  match m.libusbEnumerate with
  | none => pure ()
  | some enumerate => do
      let hidDevices ← call m.object enumerate
      hidDevices.forM fun hid => do
        detectionProgressChanged m
        whileRequired (detectOn m (.libusb, hid)) m.hidWrappedDeviceDetectors

def detectOtherDevices : Detecting ω Ptr Unit :=
  whileRequired (fun d => runEnabled m d.name (call m.object (d.function ()))) m.deviceDetectors

/-- A setting of the run, converted if it is there. -/
def setting (key : String) (read : Json → Handled α) (default : α) : Detecting ω Ptr α :=
  match m.detectorSettings.find key with
  | some value => convert (read value)
  | none => pure default

def hidSafeMode : Detecting ω Ptr Bool := setting m "hid_safe_mode" Json.toBool false

/-- The delay of a first detection is converted in any case. -/
def initialDetectionDelay : Detecting ω Ptr UInt32 :=
  setting m "initial_detection_delay_ms" Json.toWord 0

def enumerateAll (safe : Bool) : Detecting ω Ptr (List Hid) :=
  if safe then pure [] else call m.object (m.hidEnumerate 0 0)

def detectHidDevices (safe : Bool) (hidDevices : List Hid) : Detecting ω Ptr Unit :=
  if safe then detectHidSafely m else hidDevices.forM (detectHidDevice m)

/-- The coroutine between the start of the suppression and the end of the detectors. -/
def scan : Detecting ω Ptr Unit := do
  let safe ← hidSafeMode m
  let _delay ← initialDetectionDelay m
  modify fun s => { s with initialDetection := false }
  let hidDevices ← enumerateAll m safe
  detectI2cInterfaces m
  detectI2cDevices m
  detectionProgressChanged m
  detectDimms m (m.busses (← get).world)
  detectPciDevices m
  detectHidDevices m safe hidDevices
  detectLibusb m
  detectOtherDevices m

/-- `ResourceManager::ProcessPostDetection`. -/
def processPostDetection : Detecting ω Ptr Unit := do
  detectionProgressChanged m
  m.detectionEndCallbacks.forM (call m.object)
  modify fun s => { s with
    detectionIsRequired := false
    lists := { s.lists with rgbControllersHwCleanupPending := [], restored := [] } }
  match m.websocketServer with
  | some scanComplete => call m.object scanComplete
  | none => pure ()

/-- The coroutine while it holds `DetectDeviceMutex`. -/
def detectLocked : Detecting ω Ptr Unit := do
  modify fun s => { s with detectDeviceMutex := true }
  modify fun s => { s with suppressMode := true, i2cInterfaceFail := false }
  scan m
  let changed := (← get).lists.devicesChanged
  processPostDetection m
  modify fun s => { s with suppressMode := false, flushed := changed }
  modify fun s => { s with detectDeviceMutex := false }

def showDialog (dialog : Dialog) (due : Bool) : Detecting ω Ptr Unit :=
  if due then m.dialogShowCallbacks.forM fun show_ => call m.object (show_ dialog) else pure ()

/-- The dialogs on missing or doubled udev rules and on failed I2C interfaces. -/
def showDialogs : Detecting ω Ptr Unit := do
  let failed := (← get).i2cInterfaceFail
  showDialog m .udevMissing m.udevNotExist
  showDialog m .udevMulti (m.udevMultiple && !m.udevNotExist)
  showDialog m .i2cError (failed && !m.udevNotExist && !m.udevMultiple)

/-- `ResourceManager::DetectDevicesCoroutine`. -/
def detectDevicesCoroutine : Detecting ω Ptr Unit := do
  detectLocked m
  showDialogs m

/-- What `BackgroundThreadFunction` leaves of a coroutine: it catches whatever is thrown and only logs. -/
def backgroundRun (coroutine : Detecting ω Ptr Unit) (s : Detection ω Ptr) : Detection ω Ptr :=
  (coroutine s).2

end Detection
end SyncRGB
