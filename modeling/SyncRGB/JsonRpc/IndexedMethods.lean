import SyncRGB.JsonRpc.ErrorAtomicity

/-! The JSON-RPC methods that are given indices: the tests of their parameters, the device that they find,
and what they do to it. -/
namespace SyncRGB
open ByteCodec Effect RGBController
namespace JsonRpc

inductive IndexedMethod where
  | getControllerData
  | getControllerInfo
  | control (method : ControlMethod)
  deriving DecidableEq, Repr

section
variable (vectorTooLong : Bytes) (p : Platform) (params : Json)

/-- The part of `JSONRPCHandler::CallMethod` for these methods. -/
def callIndexed : IndexedMethod → Control (List RGBController) Json
  | .getControllerData => getControllerData vectorTooLong params
  | .getControllerInfo => getControllerInfo params
  | .control method => callControl p params method

def modeIndexParams : Handled UInt32 := do
  params.require ["deviceIndex", "modeIndex"] "Missing required parameters: deviceIndex, modeIndex"
  word "modeIndex" params

/-- The tests of the parameters, with the `zone_idx`, `led_idx` or `mode_idx` of a method that has one. -/
def partIndex : IndexedMethod → Handled UInt32
  | .getControllerData | .getControllerInfo | .control .getZones | .control .setCustomMode => do
      deviceIndexParam params
      return 0
  | .control .setLEDColor => do return (← ledColorParams (p.uninitialized 0) params).1
  | .control .setZoneColor => do return (← zoneColorParams (p.uninitialized 0) params).1
  | .control .setZoneMultipleLed => do return (← zoneMultipleLedParams params).zoneIdx
  | .control .setMultipleZoneMultipleLed => do
      let _ ← multipleZoneMultipleLedParams params
      return 0
  | .control .setAllColors => do
      let _ ← allColorsParams (p.uninitialized 0) params
      return 0
  | .control .setMultipleColors => do
      let _ ← multipleColorsParams params
      return 0
  | .control .setKeyColor => do
      let _ ← keyColorParams (p.uninitialized 0) params
      return 0
  | .control .setMode => modeIndexParams params
  | .control .updateMode => do return (← modeParams params).2
  | .control .resizeZone => do return (← resizeZoneParams params).1
  | .control .clearSegments => clearSegmentsParams params
  | .control .addSegment => do return (← addSegmentParams p.uninitializedType params).1

/-- Work on a mode that has been found. -/
def onPart (part : UInt32) (work : Change Mode Unit) : Change RGBController Unit := fun c =>
  match c.modes[part.toNat]? with
  | some m =>
      let (result, m) := work m
      (result, { c with modes := c.modes.set part.toNat m })
  | none => (.ok (), c)

/-- What a method does to the device `i`, at the zone, LED or mode `part` of it: its tests there, its writes
and its reply. -/
def act (i : Nat) (part : UInt32) : IndexedMethod → Control RGBController Json
  | .getControllerData => do
      return .object [(ascii "controller", ← controllerToJSON vectorTooLong (← get))]
  | .getControllerInfo => do
      let c ← get
      return .object [(ascii "name", .string c.name), (ascii "vendor", .string c.vendor),
        (ascii "description", .string c.description), (ascii "type", .ofInt32 c.type),
        (ascii "location", .string c.location), (ascii "serial", .string c.serial)]
  | .control .getZones => do
      return .object [(ascii "zones", .array ((← get).zones.map zoneToJSON))]
  | .control .setLEDColor => do
      let (_, color) ← handled (ledColorParams (p.uninitialized 0) params)
      handled (checkLed part (← get))
      modify (setLED part.toNat color)
      return success
  | .control .setZoneColor => do
      let (_, color) ← handled (zoneColorParams (p.uninitialized 0) params)
      colorZone part color
      return success
  | .control .setZoneMultipleLed => do
      let request ← handled (zoneMultipleLedParams params)
      setZone (p.driver i) { request with zoneIdx := part }
      return .object [(ascii "success", .boolean true), (ascii "ledCount", .ofSize request.colors.length),
        (ascii "forced", .boolean request.force)]
  | .control .setMultipleZoneMultipleLed => do
      let request ← handled (multipleZoneMultipleLedParams params)
      setZones (p.driver i) request
      let ledCount (colors : List RGBColor) : Json :=
        if colors = [] then .null else .ofSize colors.length
      return .object [(ascii "success", .boolean true),
        (ascii "zoneCount", .ofSize request.zoneColors.length),
        (ascii "ledCounts", .array (request.zoneColors.map ledCount)),
        (ascii "forced", .boolean request.force)]
  | .control .setAllColors => do
      let color ← handled (allColorsParams (p.uninitialized 0) params)
      storing (setAllLEDs color)
      return success
  | .control .setMultipleColors => do
      let colors ← handled (multipleColorsParams params)
      changing (setItemColors p.uninitialized 0 colors)
      return success
  | .control .setKeyColor => do
      let (keyName, color) ← handled (keyColorParams (p.uninitialized 0) params)
      let ledIdx ← handled (findKey keyName (← get))
      modify (setLED ledIdx color)
      return success
  | .control .setMode => do
      handled (checkMode part (← get))
      modify (RGBController.setMode part.toInt32)
      return success
  | .control .setCustomMode => do
      modify RGBController.setCustomMode
      return success
  | .control .updateMode => do
      let (modeObj, _) ← handled (modeParams params)
      handled (checkMode part (← get))
      changing (onPart part (updateParameters p.uninitialized modeObj))
      modify (RGBController.setMode part.toInt32)
      return success
  | .control .resizeZone => do
      let (_, newSize) ← handled (resizeZoneParams params)
      handled (checkResizable part (← get))
      modify (p.driver i part.toNat newSize)
      return success
  | .control .clearSegments => do
      handled (checkZone part (← get))
      storing (RGBController.clearSegments part.toInt32)
      return success
  | .control .addSegment => do
      let (_, newSeg) ← handled (addSegmentParams p.uninitializedType params)
      handled (checkZone part (← get))
      storing (RGBController.addSegment part.toInt32 newSeg)
      return success

end

/-! ### How a method ends -/

/-- The tests in front fail, or the work is done on the device that the request finds and no other. -/
def WorksOnFound (params : Json) (tests : Handled UInt32)
    (work : Nat → UInt32 → Control RGBController Json) (method : Control (List RGBController) Json)
    (cs : List RGBController) : Prop :=
  (∃ e, (tests = .error e ∨ ∃ part, tests = .ok part ∧ (device params cs).1 = .error e) ∧
      method cs = (.error (.failure e), cs)) ∨
    ∃ part i c, tests = .ok part ∧ device params cs = (.ok (i, c), cs) ∧
      method cs = ((work i part c).1, cs.set i (work i part c).2)

section
variable {params : Json} {cs : List RGBController}

theorem device_cases (params : Json) (cs : List RGBController) :
    (∃ e, device params cs = (.error e, cs)) ∨
      ∃ i c, device params cs = (.ok (i, c), cs) ∧ cs[i]? = some c := by
  rcases run_cases (device params) cs with ⟨⟨i, c⟩, t, run⟩ | ⟨e, t, run⟩
  · have same : t = cs := by rw [← reads_device params cs, run]
    subst same
    exact .inr ⟨i, c, run, device_found (congrArg Prod.fst run)⟩
  · have same : t = cs := by rw [← reads_device params cs, run]
    subst same
    exact .inl ⟨e, run⟩

/-- The shape of every method: tests, the device, work on it. -/
theorem worksOnFound {β : Type} {x : Handled β} {part : β → UInt32} {tests : Handled UInt32}
    {work : Nat → UInt32 → Control RGBController Json}
    {rest : β → Nat × RGBController → Control (List RGBController) Json}
    (tested : tests = part <$> x)
    (works : ∀ b i c, x = .ok b → cs[i]? = some c →
      rest b (i, c) cs = ((work i (part b) c).1, cs.set i (work i (part b) c).2)) :
    WorksOnFound params tests work (do
      let b ← handled x
      let found ← changing (device params)
      rest b found) cs := by
  subst tested
  cases given : x with
  | error e => exact .inl ⟨e, .inl rfl, rfl⟩
  | ok b =>
      have passed : (handled (.ok b) : Control (List RGBController) β) cs = (.ok b, cs) := rfl
      rcases device_cases params cs with ⟨e, run⟩ | ⟨i, c, run, found⟩
      · have stopped : (changing (device params)) cs = (.error (.failure e), cs) := by
          rw [changing, run]
          rfl
        refine .inl ⟨e, .inr ⟨_, rfl, by rw [run]⟩, ?_⟩
        rw [bind_ok passed, bind_error stopped]
      · have reached : (changing (device params)) cs = (.ok (i, c), cs) := by
          rw [changing, run]
          rfl
        refine .inr ⟨part b, i, c, rfl, run, ?_⟩
        rw [bind_ok passed, bind_ok reached]
        exact works b i c given found

/-! ### Work on one device -/

section
variable {σ α β : Type} {i : Nat} {c : RGBController}

theorem handled_ok {x : Handled β} {b : β} {f : β → Control σ α} {s : σ} (given : x = .ok b) :
    (handled x >>= f) s = f b s := by
  subst given
  rfl

theorem handled_error {x : Handled β} {e : Failure} {f : β → Control σ α} {s : σ} (given : x = .error e) :
    (handled x >>= f) s = (.error (.failure e), s) := by
  subst given
  rfl

theorem reading {f : σ → Control σ α} {s : σ} :
    ((get : Control σ σ) >>= f) s = f s s := rfl

theorem set_same (found : cs[i]? = some c) : cs.set i c = cs := by
  obtain ⟨inside, rfl⟩ := List.getElem?_eq_some_iff.mp found
  exact List.set_getElem_self inside

theorem work_found (found : cs[i]? = some c) (work : Control RGBController Unit) (reply : Json) :
    (do onDevice i work; return reply : Control (List RGBController) Json) cs =
      (((do work; return reply : Control RGBController Json) c).1,
        cs.set i ((do work; return reply : Control RGBController Json) c).2) := by
  rcases run_cases work c with ⟨a, d, run⟩ | ⟨e, d, run⟩
  · have once : onDevice i work cs = (.ok a, cs.set i d) := by simp only [onDevice, found, run]
    rw [bind_ok once, bind_ok run]
    rfl
  · have once : onDevice i work cs = (.error e, cs.set i d) := by simp only [onDevice, found, run]
    rw [bind_error once, bind_error run]

/-- A test of the device that has been found is as good as one in its work. -/
theorem checked_found (found : cs[i]? = some c) (check : RGBController → Handled β)
    (work : β → Control RGBController Unit) (reply : Json) :
    (do
      let b ← handled (check c)
      onDevice i (work b)
      return reply : Control (List RGBController) Json) cs =
      (((do
        let b ← handled (check (← get))
        work b
        return reply : Control RGBController Json) c).1,
        cs.set i ((do
          let b ← handled (check (← get))
          work b
          return reply : Control RGBController Json) c).2) := by
  rw [reading]
  cases checked : check c with
  | error e =>
      rw [handled_error rfl, handled_error rfl, set_same found]
  | ok b =>
      rw [handled_ok rfl, handled_ok rfl]
      exact work_found found (work b) reply

end

/-! ### Methods -/

section
variable {σ α β : Type}

theorem changing_bind (m : Change σ β) (f : β → Change σ α) :
    (changing (m >>= f) : Control σ α) = changing m >>= fun b => changing (f b) := by
  funext s
  rcases run_cases m s with ⟨b, t, run⟩ | ⟨e, t, run⟩
  · have once : changing m s = (.ok b, t) := by
      rw [changing, run]
      rfl
    rw [bind_ok once, changing, bind_ok run]
    rfl
  · have once : changing m s = (.error (.failure e), t) := by
      rw [changing, run]
      rfl
    rw [bind_error once, changing, bind_error run]
    rfl

theorem changing_lift (x : Handled α) : (changing (liftM x) : Control σ α) = handled x := by
  funext s
  cases x with
  | error e => rfl
  | ok a => rfl

end

section
variable (params cs) (p : Platform) (vectorTooLong : Bytes)

/-- A report depends on the controller alone. -/
theorem controllerToJSON_run {σ : Type} (c : RGBController) (s : σ) :
    (controllerToJSON vectorTooLong c : Control σ Json) s =
      (((controllerToJSON vectorTooLong c : Control Unit Json) ()).1, s) := by
  simp only [controllerToJSON, activeModeName]
  split
  · rfl
  · split
    · rfl
    · rfl

theorem getControllerData_works : WorksOnFound params (partIndex p params .getControllerData)
    (fun i part => act vectorTooLong p params i part .getControllerData)
    (getControllerData vectorTooLong params) cs := by
  apply worksOnFound rfl
  rintro - i c - found
  rw [act, reading]
  cases report : ((controllerToJSON vectorTooLong c : Control Unit Json) ()).1 with
  | error e =>
      have here := (controllerToJSON_run vectorTooLong c cs).trans (by rw [report])
      have there := (controllerToJSON_run vectorTooLong c c).trans (by rw [report])
      rw [bind_error there, set_same found]
      exact bind_error here
  | ok j =>
      have here := (controllerToJSON_run vectorTooLong c cs).trans (by rw [report])
      have there := (controllerToJSON_run vectorTooLong c c).trans (by rw [report])
      rw [bind_ok there]
      exact (bind_ok here).trans (Prod.ext rfl (set_same found).symm)

theorem getControllerInfo_works : WorksOnFound params (partIndex p params .getControllerInfo)
    (fun i part => act vectorTooLong p params i part .getControllerInfo) (getControllerInfo params) cs := by
  apply worksOnFound rfl
  rintro - i c - found
  exact Prod.ext rfl (set_same found).symm

theorem getZones_works : WorksOnFound params (partIndex p params (.control .getZones))
    (fun i part => act vectorTooLong p params i part (.control .getZones)) (getZones params) cs := by
  apply worksOnFound rfl
  rintro - i c - found
  exact Prod.ext rfl (set_same found).symm

theorem setLEDColor_works : WorksOnFound params (partIndex p params (.control .setLEDColor))
    (fun i part => act vectorTooLong p params i part (.control .setLEDColor))
    (setLEDColor (p.uninitialized 0) params) cs := by
  apply worksOnFound rfl
  rintro ⟨ledIdx, color⟩ i c given found
  rw [act, handled_ok given]
  exact checked_found found (checkLed ledIdx) (fun _ => modify (setLED ledIdx.toNat color)) success

theorem setZoneColor_works : WorksOnFound params (partIndex p params (.control .setZoneColor))
    (fun i part => act vectorTooLong p params i part (.control .setZoneColor))
    (setZoneColor (p.uninitialized 0) params) cs := by
  apply worksOnFound rfl
  rintro ⟨zoneIdx, color⟩ i c given found
  rw [act, handled_ok given]
  exact work_found found (colorZone zoneIdx color) success

theorem setAllColors_works : WorksOnFound params (partIndex p params (.control .setAllColors))
    (fun i part => act vectorTooLong p params i part (.control .setAllColors))
    (setAllColors (p.uninitialized 0) params) cs := by
  apply worksOnFound rfl
  intro color i c given found
  rw [act, handled_ok given]
  exact work_found found (storing (setAllLEDs color)) success

theorem setKeyColor_works : WorksOnFound params (partIndex p params (.control .setKeyColor))
    (fun i part => act vectorTooLong p params i part (.control .setKeyColor))
    (setKeyColor (p.uninitialized 0) params) cs := by
  apply worksOnFound rfl
  rintro ⟨keyName, color⟩ i c given found
  rw [act, handled_ok given]
  exact checked_found found (findKey keyName) (fun ledIdx => modify (setLED ledIdx color)) success

theorem setMultipleColors_works : WorksOnFound params (partIndex p params (.control .setMultipleColors))
    (fun i part => act vectorTooLong p params i part (.control .setMultipleColors))
    (setMultipleColors p.uninitialized params) cs := by
  apply worksOnFound rfl
  intro colors i c given found
  rw [act, handled_ok given]
  exact work_found found (changing (setItemColors p.uninitialized 0 colors)) success

theorem resizeZone_works : WorksOnFound params (partIndex p params (.control .resizeZone))
    (fun i part => act vectorTooLong p params i part (.control .resizeZone))
    (resizeZone p.driver params) cs := by
  apply worksOnFound rfl
  rintro ⟨zoneIdx, newSize⟩ i c given found
  rw [act, handled_ok given]
  exact checked_found found (checkResizable zoneIdx) (fun _ => modify (p.driver i zoneIdx.toNat newSize)) success

theorem clearSegments_works : WorksOnFound params (partIndex p params (.control .clearSegments))
    (fun i part => act vectorTooLong p params i part (.control .clearSegments)) (clearSegments params) cs := by
  apply worksOnFound (id_map _).symm
  intro zoneIdx i c _ found
  exact checked_found found (checkZone zoneIdx)
    (fun _ => storing (RGBController.clearSegments zoneIdx.toInt32)) success

theorem addSegment_works : WorksOnFound params (partIndex p params (.control .addSegment))
    (fun i part => act vectorTooLong p params i part (.control .addSegment))
    (addSegment p.uninitializedType params) cs := by
  apply worksOnFound rfl
  rintro ⟨zoneIdx, newSeg⟩ i c given found
  rw [act, handled_ok given]
  exact checked_found found (checkZone zoneIdx)
    (fun _ => storing (RGBController.addSegment zoneIdx.toInt32 newSeg)) success

theorem modify_found {i : Nat} {c : RGBController} (found : cs[i]? = some c) (f : RGBController → RGBController) :
    cs.modify i f = cs.set i (f c) := by
  apply List.ext_getElem?
  intro k
  rw [List.getElem?_modify, List.getElem?_set]
  by_cases here : i = k
  · subst here
    obtain ⟨inside, rfl⟩ := List.getElem?_eq_some_iff.mp found
    simp [inside]
  · simp [here]

theorem setCustomMode_works : WorksOnFound params (partIndex p params (.control .setCustomMode))
    (fun i part => act vectorTooLong p params i part (.control .setCustomMode))
    (modeMethod (setCustomMode params)) cs := by
  have shape : modeMethod (setCustomMode params) = (do
      let _ ← handled (deviceIndexParam params)
      let found ← changing (device params)
      modify fun cs => cs.modify found.1 RGBController.setCustomMode
      return success) := by
    simp only [modeMethod, setCustomMode, changing_bind, changing_lift, bind_assoc]
    rfl
  rw [shape]
  apply worksOnFound rfl
  rintro - i c - found
  exact Prod.ext rfl (modify_found cs found _)

theorem setMode_works : WorksOnFound params (partIndex p params (.control .setMode))
    (fun i part => act vectorTooLong p params i part (.control .setMode)) (modeMethod (setMode params)) cs := by
  have shape : modeMethod (setMode params) = (do
      let modeIdx ← handled (modeIndexParams params)
      let found ← changing (device params)
      handled (checkMode modeIdx found.2)
      modify fun cs => cs.modify found.1 (RGBController.setMode modeIdx.toInt32)
      return success) := by
    simp only [modeMethod, setMode, modeIndexParams, word, ← changing_lift, liftM_bind, changing_bind, bind_assoc]
    rfl
  rw [shape]
  apply worksOnFound (id_map _).symm
  intro modeIdx i c _ found
  rw [act, reading, id_eq]
  cases checked : checkMode modeIdx c with
  | error e =>
      rw [handled_error rfl, handled_error rfl, set_same found]
  | ok b =>
      rw [handled_ok rfl, handled_ok rfl]
      exact Prod.ext rfl (modify_found cs found _)

theorem deviceAt_of_word {w : UInt32} (given : word "deviceIndex" params = .ok w) :
    device params = deviceAt w := by
  have index : params.get "deviceIndex" >>= Json.toWord = .ok w := given
  rw [device, index]
  rfl

theorem zoneMultipleLedParams_device {request : ZoneRequest}
    (given : zoneMultipleLedParams params = .ok request) :
    word "deviceIndex" params = .ok request.deviceIdx := by
  obtain ⟨_, _, given⟩ := Handled.bind_eq_ok.mp given
  obtain ⟨force, _, given⟩ := Handled.bind_eq_ok.mp given
  obtain ⟨color, _, given⟩ := Handled.bind_eq_ok.mp given
  split at given
  · obtain ⟨colors, _, given⟩ := Handled.bind_eq_ok.mp given
    obtain ⟨deviceIdx, device, given⟩ := Handled.bind_eq_ok.mp given
    obtain ⟨zoneIdx, _, given⟩ := Handled.bind_eq_ok.mp given
    cases given
    exact device
  · cases given

theorem multipleZoneMultipleLedParams_device {request : ZonesRequest}
    (given : multipleZoneMultipleLedParams params = .ok request) :
    word "deviceIndex" params = .ok request.deviceIdx := by
  obtain ⟨_, _, given⟩ := Handled.bind_eq_ok.mp given
  obtain ⟨force, _, given⟩ := Handled.bind_eq_ok.mp given
  obtain ⟨color, _, given⟩ := Handled.bind_eq_ok.mp given
  split at given
  · obtain ⟨zoneColors, _, given⟩ := Handled.bind_eq_ok.mp given
    obtain ⟨deviceIdx, device, given⟩ := Handled.bind_eq_ok.mp given
    cases given
    exact device
  · cases given

/-- The device index that is read with the other parameters is the one of the request. -/
theorem device_of_params {β : Type} {x : Handled β} {index : β → UInt32}
    (reads : ∀ b, x = .ok b → word "deviceIndex" params = .ok (index b))
    (rest : β → Nat × RGBController → Control (List RGBController) Json) :
    (do
      let b ← handled x
      let found ← changing (deviceAt (index b))
      rest b found : Control (List RGBController) Json) = (do
      let b ← handled x
      let found ← changing (device params)
      rest b found) := by
  funext cs
  cases given : x with
  | error e => rw [handled_error rfl, handled_error rfl]
  | ok b => rw [handled_ok rfl, handled_ok rfl, deviceAt_of_word params (reads b given)]

theorem setZoneMultipleLed_works : WorksOnFound params (partIndex p params (.control .setZoneMultipleLed))
    (fun i part => act vectorTooLong p params i part (.control .setZoneMultipleLed))
    (setZoneMultipleLed p.driver params) cs := by
  have shape : setZoneMultipleLed p.driver params = (do
      let request ← handled (zoneMultipleLedParams params)
      let found ← changing (device params)
      onDevice found.1 (setZone (p.driver found.1) request)
      return .object [(ascii "success", .boolean true), (ascii "ledCount", .ofSize request.colors.length),
        (ascii "forced", .boolean request.force)]) :=
    device_of_params params (fun _ => zoneMultipleLedParams_device params) _
  rw [shape]
  apply worksOnFound rfl
  intro request i c given found
  rw [act, handled_ok given]
  exact work_found found _ _

theorem setMultipleZoneMultipleLed_works :
    WorksOnFound params (partIndex p params (.control .setMultipleZoneMultipleLed))
      (fun i part => act vectorTooLong p params i part (.control .setMultipleZoneMultipleLed))
      (setMultipleZoneMultipleLed p.driver params) cs := by
  have shape : setMultipleZoneMultipleLed p.driver params = (do
      let request ← handled (multipleZoneMultipleLedParams params)
      let found ← changing (device params)
      onDevice found.1 (setZones (p.driver found.1) request)
      let ledCount (colors : List RGBColor) : Json :=
        if colors = [] then .null else .ofSize colors.length
      return .object [(ascii "success", .boolean true),
        (ascii "zoneCount", .ofSize request.zoneColors.length),
        (ascii "ledCounts", .array (request.zoneColors.map ledCount)),
        (ascii "forced", .boolean request.force)]) :=
    device_of_params params (fun _ => multipleZoneMultipleLedParams_device params) _
  rw [shape]
  apply worksOnFound rfl
  intro request i c given found
  rw [act, handled_ok given]
  exact work_found found _ _

theorem onMode_found {i : Nat} {c : RGBController} (found : cs[i]? = some c) (part : UInt32)
    (work : Change Mode Unit) :
    onMode i part.toNat work cs = ((onPart part work c).1, cs.set i (onPart part work c).2) := by
  rw [onMode, onPart, found, Option.bind_some]
  cases mode : c.modes[part.toNat]? with
  | none => exact Prod.ext rfl (set_same found).symm
  | some m => exact Prod.ext rfl (modify_found cs found _)

theorem updateMode_works : WorksOnFound params (partIndex p params (.control .updateMode))
    (fun i part => act vectorTooLong p params i part (.control .updateMode))
    (modeMethod (updateMode p.uninitialized params)) cs := by
  have shape : modeMethod (updateMode p.uninitialized params) = (do
      let given ← handled (modeParams params)
      let found ← changing (device params)
      handled (checkMode given.2 found.2)
      changing (onMode found.1 given.2.toNat (updateParameters p.uninitialized given.1))
      modify fun cs => cs.modify found.1 (RGBController.setMode given.2.toInt32)
      return success) := by
    rw [updateMode_eq, modeMethod]
    simp only [← changing_lift, changing_bind, bind_assoc]
    rfl
  rw [shape]
  apply worksOnFound rfl
  rintro ⟨modeObj, modeIdx⟩ i c given found
  rw [act, handled_ok given]
  dsimp only
  rw [reading]
  cases checked : checkMode modeIdx c with
  | error e =>
      rw [handled_error rfl, handled_error rfl, set_same found]
  | ok b =>
      rw [handled_ok rfl, handled_ok rfl]
      have once := onMode_found cs found modeIdx (updateParameters p.uninitialized modeObj)
      rcases run_cases (onPart modeIdx (updateParameters p.uninitialized modeObj)) c with
        ⟨_, d, run⟩ | ⟨e, d, run⟩
      · rw [run] at once
        have here : changing (onMode i modeIdx.toNat (updateParameters p.uninitialized modeObj)) cs =
            (.ok (), cs.set i d) := by
          rw [changing, once]
          rfl
        have there : changing (onPart modeIdx (updateParameters p.uninitialized modeObj)) c = (.ok (), d) := by
          rw [changing, run]
          rfl
        have inside := List.getElem?_eq_some_iff.mp found |>.1
        rw [bind_ok here, bind_ok there]
        refine Prod.ext rfl ?_
        exact (modify_found _ (List.getElem?_set_self inside) _).trans (List.set_set _)
      · rw [run] at once
        have here : changing (onMode i modeIdx.toNat (updateParameters p.uninitialized modeObj)) cs =
            (.error (.failure e), cs.set i d) := by
          rw [changing, once]
          rfl
        have there : changing (onPart modeIdx (updateParameters p.uninitialized modeObj)) c =
            (.error (.failure e), d) := by
          rw [changing, run]
          rfl
        rw [bind_error here, bind_error there]

/-- Every method that is given indices does its work on the device that the request finds. -/
theorem callIndexed_works (method : IndexedMethod) : WorksOnFound params (partIndex p params method)
    (fun i part => act vectorTooLong p params i part method) (callIndexed vectorTooLong p params method) cs := by
  cases method with
  | getControllerData => exact getControllerData_works params cs p vectorTooLong
  | getControllerInfo => exact getControllerInfo_works params cs p vectorTooLong
  | control method =>
      cases method with
      | setLEDColor => exact setLEDColor_works params cs p vectorTooLong
      | setZoneColor => exact setZoneColor_works params cs p vectorTooLong
      | setZoneMultipleLed => exact setZoneMultipleLed_works params cs p vectorTooLong
      | setMultipleZoneMultipleLed => exact setMultipleZoneMultipleLed_works params cs p vectorTooLong
      | setAllColors => exact setAllColors_works params cs p vectorTooLong
      | setMultipleColors => exact setMultipleColors_works params cs p vectorTooLong
      | setKeyColor => exact setKeyColor_works params cs p vectorTooLong
      | setMode => exact setMode_works params cs p vectorTooLong
      | setCustomMode => exact setCustomMode_works params cs p vectorTooLong
      | updateMode => exact updateMode_works params cs p vectorTooLong
      | getZones => exact getZones_works params cs p vectorTooLong
      | resizeZone => exact resizeZone_works params cs p vectorTooLong
      | clearSegments => exact clearSegments_works params cs p vectorTooLong
      | addSegment => exact addSegment_works params cs p vectorTooLong

end

end
end JsonRpc
end SyncRGB
