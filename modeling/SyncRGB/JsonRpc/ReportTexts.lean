import SyncRGB.JsonRpc.MethodReplies

/-! The methods that report texts of the devices: exactly when their replies are in UTF-8. -/
namespace SyncRGB
open ByteCodec Effect

def Zone.textsInUtf8 (z : Zone) : Bool := isUtf8 z.name && z.segments.all fun s => isUtf8 s.name

namespace RGBController

def identityInUtf8 (c : RGBController) : Bool :=
  [c.name, c.vendor, c.description, c.location, c.serial].all isUtf8

def textsInUtf8 (c : RGBController) : Bool :=
  c.identityInUtf8 && (c.leds.all fun led => isUtf8 led.name) && c.modes.all fun m => isUtf8 m.name

end RGBController

namespace JsonRpc

/-! ### Replies -/

/-- What goes into the envelope is in UTF-8. -/
def Written : Except Stop Json → Prop
  | .ok reply => ((reply.find "error").getD reply).dumps = true
  | .error e => Legible e

/-- A reply without an error goes into its envelope as it is. -/
theorem written_iff {reply : Json} (noError : reply.find "error" = none) :
    Written (.ok reply) ↔ reply.dumps = true := by
  rw [Written, noError]
  rfl

theorem written_of_dumps {reply : Json} (dumped : reply.dumps = true) : Written (.ok reply) := by
  rw [Written]
  cases found : reply.find "error" with
  | none => exact dumped
  | some error => exact Json.dumps_of_find dumped found

theorem methodReply_dumps (reply : Json) (id : Int32) :
    (methodReply reply id).dumps = true ↔ Written (.ok reply) := by
  have version : isUtf8 (ascii "2.0") = true := isUtf8_ofList (by decide)
  unfold methodReply
  rw [Written]
  cases reply.find "error" with
  | some error =>
      dsimp only
      rw [Json.dumps_object_of_ascii rfl]
      simp [version]
  | none =>
      dsimp only
      rw [createResult, Json.dumps_object_of_ascii rfl]
      simp [version]

theorem written_of_yields {σ : Type} {m : Control σ Json}
    (yields : Yields (fun reply => reply.dumps = true) Legible m) (s : σ) : Written (m s).1 := by
  have once := yields s
  cases result : (m s).1 with
  | ok reply =>
      rw [result] at once
      exact written_of_dumps once
  | error e =>
      rw [result] at once
      exact once

/-- Behind a check or a conversion, it is the rest that counts. -/
theorem written_handled {σ β : Type} {x : Handled β} (checked : Checked x) {f : β → Control σ Json} {s : σ} :
    Written ((handled x >>= f) s).1 ↔ ∀ b, x = .ok b → Written (f b s).1 := by
  cases x with
  | ok a =>
      have run : (handled (.ok a : Handled β) : Control σ β) s = (.ok a, s) := rfl
      rw [bind_ok run]
      constructor
      · intro written b same
        cases same
        exact written
      · intro all
        exact all a rfl
  | error e =>
      have run : (handled (.error e : Handled β) : Control σ β) s = (.error (.failure e), s) := rfl
      rw [bind_error run]
      apply iff_of_true (checked e rfl)
      intro b other
      cases other

theorem handled_bind {σ α β : Type} (x : Handled β) (f : β → Handled α) :
    (handled (x >>= f) : Control σ α) = handled x >>= fun b => handled (f b) := by
  cases x with
  | ok a => rfl
  | error e => rfl

theorem written_changing {σ β : Type} {m : Change σ β} (reads : ReadsOnly m)
    (readable : Readable m) {f : β → Control σ Json} {s : σ} :
    Written ((changing m >>= f) s).1 ↔ ∀ b, (m s).1 = .ok b → Written (f b s).1 := by
  have once : changing m s = (handled (m s).1 : Control σ β) s := by
    have whole : m s = ((m s).1, s) := Prod.ext rfl (reads s)
    rw [changing, whole]
    cases (m s).1 <;> rfl
  have checked : Checked (m s).1 := by
    intro e failed
    have legible := readable s
    rwa [failed] at legible
  rw [bind_of_same once]
  exact written_handled checked

/-! ### Parts -/

theorem colorToJSON_dumps (color : RGBColor) : (colorToJSON color).dumps = true := by
  rw [colorToJSON, Json.dumps_object_of_ascii rfl]
  simp

theorem colors_dumps (colors : List RGBColor) : (Json.array (colors.map colorToJSON)).dumps = true := by
  rw [Json.dumps_array, List.all_map, List.all_eq_true]
  intro color _
  exact colorToJSON_dumps color

theorem ledToJSON_dumps (c : RGBController) (led : Led) (ledIdx : Nat) :
    (ledToJSON c led ledIdx).dumps = isUtf8 led.name := by
  unfold ledToJSON
  cases ledPosition c (UInt32.ofNat ledIdx) with
  | none =>
      rw [Json.dumps_object_of_ascii rfl]
      simp
  | some position =>
      rw [Json.dumps_object_of_ascii rfl]
      simp [Json.dumps_array]

theorem leds_dumps (c : RGBController) :
    (Json.array (c.leds.mapIdx fun ledIdx led => ledToJSON c led ledIdx)).dumps =
      c.leds.all fun led => isUtf8 led.name := by
  rw [Json.dumps_array, Bool.eq_iff_iff, List.all_eq_true, List.all_eq_true]
  constructor
  · intro all led mem
    obtain ⟨ledIdx, inside, rfl⟩ := List.mem_iff_getElem.mp mem
    rw [← ledToJSON_dumps c _ ledIdx]
    exact all _ (List.mem_mapIdx.mpr ⟨ledIdx, inside, rfl⟩)
  · intro all j mem
    obtain ⟨ledIdx, inside, rfl⟩ := List.mem_mapIdx.mp mem
    rw [ledToJSON_dumps]
    exact all _ (List.getElem_mem inside)

theorem modeToJSON_dumps (m : Mode) : (modeToJSON m).dumps = isUtf8 m.name := by
  rw [modeToJSON, Json.dumps_object_of_ascii rfl]
  simp [colors_dumps]

theorem segmentToJSON_dumps (s : Segment) : (segmentToJSON s).dumps = isUtf8 s.name := by
  rw [segmentToJSON, Json.dumps_object_of_ascii rfl]
  simp

theorem matrixMapToJSON_dumps (map : Option MatrixMap) : (matrixMapToJSON map).dumps = true := by
  cases map with
  | none => rfl
  | some m =>
      rw [matrixMapToJSON, Json.dumps_object_of_ascii rfl]
      simp [Json.dumps_array]

theorem zoneToJSON_dumps (z : Zone) : (zoneToJSON z).dumps = z.textsInUtf8 := by
  have segments : (Json.array (z.segments.map segmentToJSON)).dumps =
      z.segments.all fun s => isUtf8 s.name := by
    rw [Json.dumps_array, List.all_map]
    congr 1
    funext s
    exact segmentToJSON_dumps s
  rw [zoneToJSON, Json.dumps_object_of_ascii rfl]
  simp [matrixMapToJSON_dumps, segments, Zone.textsInUtf8]

/-! ### Controllers -/

section
variable {σ : Type} {vectorTooLong : Bytes}

/-- A controller with an active mode is reported, and its texts are those of the report. -/
theorem controllerToJSON_ok {c : RGBController} (active : 0 ≤ c.activeMode) :
    ∃ reply, reply.dumps = c.textsInUtf8 ∧
      ∀ s : σ, controllerToJSON vectorTooLong c s = (.ok reply, s) := by
  have modes : (Json.array (c.modes.map modeToJSON)).dumps = c.modes.all fun m => isUtf8 m.name := by
    rw [Json.dumps_array, List.all_map]
    congr 1
    funext m
    exact modeToJSON_dumps m
  obtain ⟨name, named, run⟩ : ∃ name : Json, ((c.modes.all fun m => isUtf8 m.name) = true → name.dumps = true) ∧
      ∀ s : σ, activeModeName vectorTooLong c s = (.ok name, s) := by
    rw [activeModeName, if_pos active]
    refine ⟨_, ?_, fun s => rfl⟩
    intro all
    cases found : c.modes[c.activeMode.toInt.toNat]? with
    | none => rfl
    | some m => exact List.all_eq_true.mp all m (List.mem_of_getElem? found)
  refine ⟨_, ?_, fun s => bind_ok (run s)⟩
  rw [Json.dumps_object_of_ascii rfl]
  simp only [List.all_cons, List.all_nil, Json.dumps_string, Json.dumps_ofInt32, Json.dumps_ofSize,
    colors_dumps, leds_dumps, modes, RGBController.textsInUtf8, RGBController.identityInUtf8]
  cases all : c.modes.all fun m => isUtf8 m.name with
  | true => simp [named all, Bool.and_assoc]
  | false => simp

/-- Without one it is not, and the exception of the vector is legible. -/
theorem controllerToJSON_error (legible : isUtf8 vectorTooLong = true) {c : RGBController}
    (inactive : c.activeMode < 0) :
    ∃ e, Legible e ∧ ∀ s : σ, controllerToJSON vectorTooLong c s = (.error e, s) := by
  have negative : ¬ 0 ≤ c.activeMode := by
    rw [Int32.le_iff_toInt_le, Int32.lt_iff_toInt_lt] at *
    omega
  by_cases behind : c.activeMode = -1
  · refine ⟨.outside, trivial, fun s => ?_⟩
    have run : activeModeName vectorTooLong c s = (.error .outside, s) := by
      rw [activeModeName, if_neg negative, if_pos behind]
      rfl
    exact bind_error run
  · refine ⟨.exception vectorTooLong, legible, fun s => ?_⟩
    have run : activeModeName vectorTooLong c s = (.error (.exception vectorTooLong), s) := by
      rw [activeModeName, if_neg negative, if_neg behind]
      rfl
    exact bind_error run

theorem controllers_ok {cs : List RGBController} (active : ∀ c ∈ cs, 0 ≤ c.activeMode) :
    ∃ replies : List Json, replies.all Json.dumps = cs.all RGBController.textsInUtf8 ∧
      ∀ s : σ, cs.mapM (controllerToJSON vectorTooLong) s = (.ok replies, s) := by
  induction cs with
  | nil => exact ⟨[], rfl, fun s => rfl⟩
  | cons c cs ih =>
      obtain ⟨reply, texts, run⟩ := controllerToJSON_ok (active c (.head _))
      obtain ⟨replies, rest, runs⟩ := ih fun c mem => active c (.tail _ mem)
      refine ⟨reply :: replies, ?_, fun s => ?_⟩
      · rw [List.all_cons, List.all_cons, texts, rest]
      · rw [List.mapM_cons, bind_ok (run s), bind_ok (runs s)]
        rfl

theorem controllers_error (legible : isUtf8 vectorTooLong = true) {cs : List RGBController}
    (inactive : ∃ c ∈ cs, c.activeMode < 0) :
    ∃ e, Legible e ∧ ∀ s : σ, cs.mapM (controllerToJSON vectorTooLong) s = (.error e, s) := by
  induction cs with
  | nil =>
      obtain ⟨c, none_, -⟩ := inactive
      cases none_
  | cons c cs ih =>
      by_cases first : c.activeMode < 0
      · obtain ⟨e, text, run⟩ := controllerToJSON_error legible first
        refine ⟨e, text, fun s => ?_⟩
        rw [List.mapM_cons, bind_error (run s)]
      · obtain ⟨reply, -, run⟩ := controllerToJSON_ok (Int32.not_lt.mp first)
        obtain ⟨d, mem, later⟩ := inactive
        rcases List.mem_cons.mp mem with rfl | mem
        · exact absurd later first
        · obtain ⟨e, text, runs⟩ := ih ⟨d, mem, later⟩
          refine ⟨e, text, fun s => ?_⟩
          rw [List.mapM_cons, bind_ok (run s), bind_error (runs s)]

end

/-! ### Methods -/

section
variable {vectorTooLong : Bytes} (params : Json) (cs : List RGBController)

theorem getControllers_written (legible : isUtf8 vectorTooLong = true) :
    Written (getControllers vectorTooLong cs).1 ↔
      (∃ c ∈ cs, c.activeMode < 0) ∨ ∀ c ∈ cs, c.textsInUtf8 = true := by
  have read : (get : Control (List RGBController) (List RGBController)) cs = (.ok cs, cs) := rfl
  rw [getControllers, bind_ok read]
  by_cases inactive : ∃ c ∈ cs, c.activeMode < 0
  · obtain ⟨e, text, run⟩ := controllers_error legible inactive
    rw [bind_error (run cs)]
    exact iff_of_true text (.inl inactive)
  · have active : ∀ c ∈ cs, 0 ≤ c.activeMode := fun c mem => Int32.not_lt.mp fun less => inactive ⟨c, mem, less⟩
    obtain ⟨replies, texts, run⟩ := controllers_ok active
    have dumped : (Json.object [(ascii "controllers", .array replies)]).dumps =
        cs.all RGBController.textsInUtf8 := by
      rw [Json.dumps_object_of_ascii rfl]
      simpa [Json.dumps_array] using texts
    rw [bind_ok (run cs), or_iff_right inactive, ← List.all_eq_true, ← dumped]
    exact written_iff rfl

theorem getControllerCount_written : Written (getControllerCount cs).1 := by
  apply written_of_dumps
  rw [Json.dumps_object_of_ascii rfl]
  simp

/-- A device is only found with its index among the parameters. -/
theorem deviceIndexParam_of_device {found : Nat × RGBController} (ok : (device params cs).1 = .ok found) :
    deviceIndexParam params = .ok () := by
  rw [deviceIndexParam, Json.require]
  cases given : params.contains "deviceIndex" with
  | true =>
      rw [List.all_cons, given]
      rfl
  | false =>
      have missing : params.find "deviceIndex" = none := by simpa [Json.contains] using given
      have failed : ∃ e, (params.get "deviceIndex" >>= Json.toWord : Handled UInt32) = .error e := by
        cases params with
        | object fields =>
            rw [Json.get, missing]
            exact ⟨_, rfl⟩
        | _ => exact ⟨_, rfl⟩
      obtain ⟨e, failed⟩ := failed
      have run : (liftM (params.get "deviceIndex" >>= Json.toWord : Handled UInt32) :
          Change (List RGBController) UInt32) cs = (.error e, cs) := by
        rw [failed]
        rfl
      rw [device, bind_error run] at ok
      cases ok

/-- A report of one device. -/
theorem written_report {report : Nat × RGBController → Control (List RGBController) Json}
    {P : RGBController → Prop} (each : ∀ i c, Written (report (i, c) cs).1 ↔ P c) :
    Written ((do
      handled (deviceIndexParam params)
      let found ← changing (device params)
      report found) cs).1 ↔
      ∀ i c, (device params cs).1 = .ok (i, c) → P c := by
  have checked : Checked (deviceIndexParam params) := Checked.require _ (isUtf8_ofList (by decide)) params
  have behind := written_changing (reads_device params) (yields_device params) (s := cs) (f := report)
  apply (written_handled checked).trans
  constructor
  · intro all i c found
    exact (each i c).mp (behind.mp (all () (deviceIndexParam_of_device params cs found)) (i, c) found)
  · intro all _ _
    exact behind.mpr fun found ok => (each found.1 found.2).mpr (all found.1 found.2 ok)

theorem getControllerData_written (legible : isUtf8 vectorTooLong = true) :
    Written (getControllerData vectorTooLong params cs).1 ↔ ∀ i c, (device params cs).1 = .ok (i, c) →
      c.activeMode < 0 ∨ c.textsInUtf8 = true := by
  apply written_report params cs
  intro i c
  dsimp only
  by_cases inactive : c.activeMode < 0
  · obtain ⟨e, text, run⟩ := controllerToJSON_error legible inactive
    rw [bind_error (run cs)]
    exact iff_of_true text (.inl inactive)
  · obtain ⟨reply, texts, run⟩ := controllerToJSON_ok (Int32.not_lt.mp inactive)
    rw [bind_ok (run cs), or_iff_right inactive, ← texts]
    apply (written_iff rfl).trans
    rw [Json.dumps_object_of_ascii rfl]
    simp

theorem getControllerInfo_written :
    Written (getControllerInfo params cs).1 ↔ ∀ i c, (device params cs).1 = .ok (i, c) →
      c.identityInUtf8 = true := by
  apply written_report params cs
  intro i c
  apply (written_iff rfl).trans
  rw [Json.dumps_object_of_ascii rfl]
  simp [RGBController.identityInUtf8]

theorem getZones_written :
    Written (getZones params cs).1 ↔ ∀ i c, (device params cs).1 = .ok (i, c) →
      ∀ z ∈ c.zones, z.textsInUtf8 = true := by
  apply written_report params cs
  intro i c
  have zones : (Json.array (c.zones.map zoneToJSON)).dumps = c.zones.all Zone.textsInUtf8 := by
    rw [Json.dumps_array, List.all_map]
    congr 1
    funext z
    exact zoneToJSON_dumps z
  apply (written_iff rfl).trans
  rw [Json.dumps_object_of_ascii rfl]
  simp [zones]

end

end JsonRpc
end SyncRGB
