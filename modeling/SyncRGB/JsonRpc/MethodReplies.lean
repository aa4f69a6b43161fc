import SyncRGB.JsonRpc.ErrorAtomicity
import SyncRGB.JsonRpc.ErrorTexts

/-! The methods that report no text of a device are answered in UTF-8, whatever the state. -/
namespace SyncRGB
open ByteCodec Effect RGBController

@[simp] theorem Json.dumps_ofUInt32 (n : UInt32) : (Json.ofUInt32 n).dumps = true := rfl
@[simp] theorem Json.dumps_ofSize (n : Nat) : (Json.ofSize n).dumps = true := rfl

namespace JsonRpc

/-! ### Steps -/

section
variable {σ α : Type} {good : α → Prop}

/-- A change whose failures are legible. -/
abbrev Readable (m : Change σ α) : Prop := Yields (fun _ => True) LegibleFailure m

theorem yields_lift {x : Handled α} (checked : Checked x) :
    Yields (fun a => x = .ok a) LegibleFailure (liftM x : Change σ α) :=
  Yields.lift (fun _ ok => ok) checked

theorem yields_handled {x : Handled α} (checked : Checked x) :
    Yields (fun a => x = .ok a) Legible (handled x : Control σ α) := by
  intro s
  cases x with
  | ok a => exact rfl
  | error e => exact checked e rfl

/-- A check whose result does not matter. -/
theorem yields_check {x : Handled α} (checked : Checked x) :
    Yields (fun _ => True) Legible (handled x : Control σ α) := by
  intro s
  cases x with
  | ok a => trivial
  | error e => exact checked e rfl

theorem yields_changing {m : Change σ α} (yields : Yields good LegibleFailure m) :
    Yields good Legible (changing m) := by
  intro s
  have once := yields s
  have same : (changing m s).1 = (m s).1.mapError Stop.failure := rfl
  rw [same]
  cases result : (m s).1 with
  | ok a =>
      rw [result] at once
      exact once
  | error e =>
      rw [result] at once
      exact once

theorem yields_storing (f : σ → Option σ) : Yields (fun _ => True) Legible (storing f) := by
  intro s
  unfold storing
  cases f s with
  | some t => trivial
  | none => trivial

theorem yields_onDevice {work : Control RGBController Unit} (yields : Yields (fun _ => True) Legible work)
    (i : Nat) : Yields (fun _ => True) Legible (onDevice i work) := by
  intro cs
  unfold onDevice
  cases cs[i]? with
  | some c => exact yields c
  | none => trivial

theorem yields_found {deviceIdx : UInt32} :
    Readable (do
      match (← get)[deviceIdx.toNat]? with
      | some c => return (deviceIdx.toNat, c)
      | none => throw (.error errDeviceIndexOutOfRange (ascii "Device index out of range")) :
      Change (List RGBController) (Nat × RGBController)) := by
  apply Yields.bind Yields.get
  intro cs _
  split
  · exact Yields.pure trivial
  · exact Yields.throw (isUtf8_ofList (by decide))

theorem yields_device (params : Json) : Readable (device params) := by
  apply Yields.bind
  · apply yields_lift
    exact Checked.word "deviceIndex" params
  · intro deviceIdx _
    exact yields_found

theorem yields_deviceAt (deviceIdx : UInt32) : Readable (deviceAt deviceIdx) := yields_found

/-- The reply behind the work on a device. -/
theorem yields_work {work : Control RGBController Unit} (yields : Yields (fun _ => True) Legible work)
    (i : Nat) {reply : Json} (dumped : reply.dumps = true) :
    Yields (fun reply => reply.dumps = true) Legible (do onDevice i work; return reply) := by
  apply Yields.bind (yields_onDevice yields i)
  intro _ _
  exact Yields.pure dumped

end

theorem success_dumps : success.dumps = true := by
  rw [success, Json.dumps_object_of_ascii rfl]
  simp

/-! ### Colors and modes one by one -/

theorem yields_setItemColor (uninitialized : UInt32) (item : Json) :
    Readable (setItemColor uninitialized item) := by
  unfold setItemColor
  split
  · apply Yields.bind (yields_lift (Checked.word _ item))
    intro ledIdx _
    apply Yields.bind Yields.get
    intro c _
    split
    · apply Yields.bind
      · apply yields_lift
        apply Checked.bind (Checked.get _ item)
        intro color _
        exact Checked.parseColor _ color
      · intro color _
        exact Yields.modify _
    · exact Yields.pure trivial
  · exact Yields.pure trivial

theorem yields_setItemColors (uninitialized : Nat → UInt32) (n : Nat) (items : List Json) :
    Readable (setItemColors uninitialized n items) := by
  induction items generalizing n with
  | nil => exact Yields.pure trivial
  | cons item rest ih =>
      apply Yields.bind (yields_setItemColor _ item)
      intro _ _
      exact ih (n + 1)

theorem yields_pushColors (uninitialized : Nat → UInt32) (n : Nat) (colors : List Json) :
    Readable (pushColors uninitialized n colors) := by
  induction colors generalizing n with
  | nil => exact Yields.pure trivial
  | cons color rest ih =>
      apply Yields.bind (yields_lift (Checked.parseColor _ color))
      intro color _
      apply Yields.bind (Yields.modify _)
      intro _ _
      exact ih (n + 1)

theorem yields_updateColors (uninitialized : Nat → UInt32) (modeObj : Json) :
    Readable (updateColors uninitialized modeObj) := by
  unfold updateColors
  split
  · apply Yields.bind (yields_lift (Checked.get _ modeObj))
    intro colors _
    split
    · apply Yields.bind (Yields.modify _)
      intro _ _
      exact yields_pushColors _ _ _
    · exact Yields.pure trivial
  · exact Yields.pure trivial

theorem Checked.optionalWord (key : String) (modeObj : Json) : Checked (optionalWord key modeObj) := by
  unfold JsonRpc.optionalWord
  split
  · apply bind (word key modeObj)
    intro value _
    exact pure _
  · exact pure _

theorem yields_updateParameters (uninitialized : Nat → UInt32) (modeObj : Json) :
    Readable (updateParameters uninitialized modeObj) := by
  rw [updateParameters_eq]
  apply Yields.bind (yields_lift (Checked.optionalWord _ modeObj))
  intro speed _
  apply Yields.bind (Yields.modify _)
  intro _ _
  apply Yields.bind (yields_lift (Checked.optionalWord _ modeObj))
  intro direction _
  apply Yields.bind (Yields.modify _)
  intro _ _
  exact yields_updateColors uninitialized modeObj

theorem yields_onMode {work : Change Mode Unit} (readable : Readable work) (i modeIdx : Nat) :
    Readable (onMode i modeIdx work) := by
  intro cs
  unfold onMode
  cases cs[i]?.bind fun c => c.modes[modeIdx]? with
  | some m => exact readable m
  | none => trivial

/-! ### Sizes -/

section
variable (resizeZone : Nat → UInt32 → RGBController → RGBController)

theorem yields_requestSize (zone n : Nat) :
    Yields (fun _ => True) Legible (requestSize resizeZone zone n) := by
  apply Yields.bind (Yields.modify _)
  intro _ _
  apply Yields.bind Yields.get
  intro c _
  split
  · exact Yields.pure trivial
  · exact yields_check (Checked.refuse _ (isUtf8_ofList (by decide)))

theorem yields_sizeZone (force : Bool) (zone n : Nat) :
    Yields (fun _ => True) Legible (sizeZone resizeZone force zone n) := by
  apply Yields.bind Yields.get
  intro c _
  split
  · split
    · exact Yields.pure trivial
    · split
      · exact Yields.modify _
      · split
        · exact yields_check (Checked.refuse _ (isUtf8_ofList (by decide)))
        · exact yields_requestSize resizeZone zone n
  · exact yields_check (Checked.refuse _ (isUtf8_ofList (by decide)))

theorem yields_sizeUnlessSame (zone n : Nat) :
    Yields (fun _ => True) Legible (sizeUnlessSame resizeZone zone n) := by
  apply Yields.bind Yields.get
  intro c _
  split
  · exact Yields.pure trivial
  · exact yields_requestSize resizeZone zone n

theorem yields_requestSizes (zone : Nat) (given : List (List RGBColor)) :
    Yields (fun _ => True) Legible (requestSizes resizeZone zone given) := by
  induction given generalizing zone with
  | nil => exact Yields.pure trivial
  | cons colors rest ih =>
      apply Yields.bind (yields_sizeUnlessSame resizeZone zone colors.length)
      intro _ _
      exact ih (zone + 1)

theorem yields_sizeZones (force : Bool) (given : List (List RGBColor)) :
    Yields (fun _ => True) Legible (sizeZones resizeZone force given) := by
  apply Yields.bind Yields.get
  intro c _
  apply Yields.bind (yields_handled (Checked.checkZoneNumber force _ _))
  intro _ _
  split
  · exact yields_storing _
  · apply Yields.bind (yields_handled (Checked.checkCounts given _))
    intro _ _
    exact yields_requestSizes resizeZone 0 given

end

/-! ### Methods -/

section
variable (p : Platform) (params : Json)

/-- Every reply is in UTF-8. -/
abbrev Answers (m : Control (List RGBController) Json) : Prop :=
  Yields (fun reply => reply.dumps = true) Legible m

theorem setLEDColor_answers : Answers (setLEDColor (p.uninitialized 0) params) := by
  apply Yields.bind (yields_handled (Checked.ledColorParams _ params))
  rintro ⟨ledIdx, color⟩ _
  apply Yields.bind (yields_changing (yields_device params))
  rintro ⟨i, c⟩ _
  apply Yields.bind (yields_handled (Checked.checkLed ledIdx c))
  intro _ _
  exact yields_work (Yields.modify _) i success_dumps

theorem setZoneColor_answers : Answers (setZoneColor (p.uninitialized 0) params) := by
  apply Yields.bind (yields_handled (Checked.zoneColorParams _ params))
  rintro ⟨zoneIdx, color⟩ _
  apply Yields.bind (yields_changing (yields_device params))
  rintro ⟨i, c⟩ _
  apply yields_work _ i success_dumps
  apply Yields.bind Yields.get
  intro c _
  apply Yields.bind (yields_handled (Checked.checkZone zoneIdx c))
  intro _ _
  exact yields_storing _

theorem setAllColors_answers : Answers (setAllColors (p.uninitialized 0) params) := by
  apply Yields.bind (yields_handled (Checked.allColorsParams _ params))
  intro color _
  apply Yields.bind (yields_changing (yields_device params))
  rintro ⟨i, c⟩ _
  exact yields_work (yields_storing _) i success_dumps

theorem setKeyColor_answers (dumped : params.dumps = true) :
    Answers (setKeyColor (p.uninitialized 0) params) := by
  apply Yields.bind (yields_handled (Checked.keyColorParams _ params))
  rintro ⟨keyName, color⟩ parsed
  apply Yields.bind (yields_changing (yields_device params))
  rintro ⟨i, c⟩ _
  apply Yields.bind (yields_handled (Checked.findKey (keyName_isUtf8 dumped parsed) c))
  intro ledIdx _
  exact yields_work (Yields.modify _) i success_dumps

theorem setMultipleColors_answers : Answers (setMultipleColors p.uninitialized params) := by
  apply Yields.bind (yields_handled (Checked.multipleColorsParams params))
  intro colors _
  apply Yields.bind (yields_changing (yields_device params))
  rintro ⟨i, c⟩ _
  exact yields_work (yields_changing (yields_setItemColors _ 0 colors)) i success_dumps

theorem setZoneMultipleLed_answers : Answers (setZoneMultipleLed p.driver params) := by
  apply Yields.bind (yields_handled (Checked.zoneMultipleLedParams params))
  intro request _
  apply Yields.bind (yields_changing (yields_deviceAt _))
  rintro ⟨i, c⟩ _
  apply yields_work
  · apply Yields.bind (yields_sizeZone _ _ _ _)
    intro _ _
    exact yields_storing _
  · rw [Json.dumps_object_of_ascii rfl]
    rfl

theorem setMultipleZoneMultipleLed_answers : Answers (setMultipleZoneMultipleLed p.driver params) := by
  apply Yields.bind (yields_handled (Checked.multipleZoneMultipleLedParams params))
  intro request _
  apply Yields.bind (yields_changing (yields_deviceAt _))
  rintro ⟨i, c⟩ _
  apply yields_work
  · apply Yields.bind (yields_sizeZones _ _ _)
    intro _ _
    exact yields_storing _
  · have counts : (Json.array (request.zoneColors.map fun colors =>
        if colors = [] then Json.null else .ofSize colors.length)).dumps = true := by
      rw [Json.dumps_array, List.all_map, List.all_eq_true]
      intro colors _
      rw [Function.comp_apply]
      split
      · rfl
      · rfl
    rw [Json.dumps_object_of_ascii rfl]
    simpa using counts

theorem setMode_answers : Answers (modeMethod (setMode params)) := by
  apply Yields.bind
  · apply yields_changing
    apply Yields.bind (yields_lift (Checked.require _ (isUtf8_ofList (by decide)) params))
    intro _ _
    apply Yields.bind (yields_lift (Checked.word _ params))
    intro modeIdx _
    apply Yields.bind (yields_device params)
    rintro ⟨i, c⟩ _
    apply Yields.bind (yields_lift (Checked.checkMode modeIdx c))
    intro _ _
    exact Yields.modify _
  · intro _ _
    exact Yields.pure success_dumps

theorem setCustomMode_answers : Answers (modeMethod (setCustomMode params)) := by
  apply Yields.bind
  · apply yields_changing
    apply Yields.bind (yields_lift (Checked.require _ (isUtf8_ofList (by decide)) params))
    intro _ _
    apply Yields.bind (yields_device params)
    rintro ⟨i, c⟩ _
    exact Yields.modify _
  · intro _ _
    exact Yields.pure success_dumps

theorem updateMode_answers : Answers (modeMethod (updateMode p.uninitialized params)) := by
  apply Yields.bind
  · apply yields_changing
    apply Yields.bind (yields_lift (Checked.require _ (isUtf8_ofList (by decide)) params))
    intro _ _
    apply Yields.bind (yields_lift (Checked.get _ params))
    intro modeObj _
    apply Yields.bind (yields_lift (Checked.require _ (isUtf8_ofList (by decide)) modeObj))
    intro _ _
    apply Yields.bind (yields_lift (Checked.word _ modeObj))
    intro modeIdx _
    apply Yields.bind (yields_device params)
    rintro ⟨i, c⟩ _
    apply Yields.bind (yields_lift (Checked.checkMode modeIdx c))
    intro _ _
    apply Yields.bind (yields_onMode (yields_updateParameters _ modeObj) i _)
    intro _ _
    exact Yields.modify _
  · intro _ _
    exact Yields.pure success_dumps

theorem resizeZone_answers : Answers (resizeZone p.driver params) := by
  apply Yields.bind (yields_handled (Checked.resizeZoneParams params))
  rintro ⟨zoneIdx, newSize⟩ _
  apply Yields.bind (yields_changing (yields_device params))
  rintro ⟨i, c⟩ _
  apply Yields.bind (yields_handled (Checked.checkResizable zoneIdx c))
  intro _ _
  exact yields_work (Yields.modify _) i success_dumps

theorem clearSegments_answers : Answers (clearSegments params) := by
  apply Yields.bind (yields_handled (Checked.clearSegmentsParams params))
  intro zoneIdx _
  apply Yields.bind (yields_changing (yields_device params))
  rintro ⟨i, c⟩ _
  apply Yields.bind (yields_handled (Checked.checkZone zoneIdx c))
  intro _ _
  exact yields_work (yields_storing _) i success_dumps

theorem addSegment_answers : Answers (addSegment p.uninitializedType params) := by
  apply Yields.bind (yields_handled (Checked.addSegmentParams _ params))
  rintro ⟨zoneIdx, newSeg⟩ _
  apply Yields.bind (yields_changing (yields_device params))
  rintro ⟨i, c⟩ _
  apply Yields.bind (yields_handled (Checked.checkZone zoneIdx c))
  intro _ _
  exact yields_work (yields_storing _) i success_dumps

/-- Every reply of a color, mode or zone method is in UTF-8, the report of the zones apart. -/
theorem callControl_answers (dumped : params.dumps = true) (method : ControlMethod)
    (silent : method ≠ .getZones) : Answers (callControl p params method) := by
  cases method with
  | setLEDColor => exact setLEDColor_answers p params
  | setZoneColor => exact setZoneColor_answers p params
  | setZoneMultipleLed => exact setZoneMultipleLed_answers p params
  | setMultipleZoneMultipleLed => exact setMultipleZoneMultipleLed_answers p params
  | setAllColors => exact setAllColors_answers p params
  | setMultipleColors => exact setMultipleColors_answers p params
  | setKeyColor => exact setKeyColor_answers p params dumped
  | setMode => exact setMode_answers params
  | setCustomMode => exact setCustomMode_answers params
  | updateMode => exact updateMode_answers p params
  | getZones => exact absurd rfl silent
  | resizeZone => exact resizeZone_answers p params
  | clearSegments => exact clearSegments_answers params
  | addSegment => exact addSegment_answers p params

end

end JsonRpc
end SyncRGB
