import SyncRGB.JsonRpc.Dispatcher

/-! The errors of the methods have texts in UTF-8 when the parameters do. -/
namespace SyncRGB
open ByteCodec Effect RGBController

namespace Json

theorem dumps_of_find {key : String} {j value : Json} (dumped : j.dumps = true)
    (found : j.find key = some value) : value.dumps = true := by
  cases j with
  | object fields =>
      obtain ⟨field, first, rfl⟩ := Option.map_eq_some_iff.mp found
      exact (dumps_object.mp dumped field (List.mem_of_find?_eq_some first)).2
  | _ => cases found

theorem dumps_of_get {key : String} {j value : Json} (dumped : j.dumps = true)
    (got : j.get key = .ok value) : value.dumps = true := by
  cases j with
  | object fields =>
      cases found : (object fields).find key with
      | none =>
          rw [get, found] at got
          cases got
          rfl
      | some value' =>
          rw [get_of_find found] at got
          cases got
          exact dumps_of_find dumped found
  | _ => cases got

theorem isUtf8_of_toBytes {j : Json} {s : Bytes} (dumped : j.dumps = true) (text : j.toBytes = .ok s) :
    isUtf8 s = true := by
  cases j with
  | string s' =>
      cases text
      exact dumped
  | _ => cases text

end Json

namespace JsonRpc

def LegibleFailure : Failure → Prop
  | .error _ message => isUtf8 message = true
  | .typeError _ => True

/-- The text that goes into the reply is in UTF-8. -/
def Legible : Stop → Prop
  | .failure f => LegibleFailure f
  | .exception what => isUtf8 what = true
  | .outside => True

/-! ### Checks and conversions -/

section
variable {α β : Type}

/-- The failures of a check, or of a conversion. -/
def Checked (x : Handled α) : Prop := ∀ e, x = .error e → LegibleFailure e

namespace Checked

theorem pure (a : α) : Checked (Pure.pure a : Handled α) := by
  intro e failed
  cases failed

theorem bind {x : Handled β} {f : β → Handled α} (first : Checked x)
    (rest : ∀ b, x = .ok b → Checked (f b)) : Checked (x >>= f) := by
  intro e failed
  cases x with
  | error e' =>
      cases failed
      exact first _ rfl
  | ok b => exact rest b rfl e failed

theorem error (code : Int) {message : Bytes} (legible : isUtf8 message = true) :
    Checked (throw (.error code message) : Handled α) := by
  intro e failed
  cases failed
  exact legible

theorem refuse (code : Int) {message : String} (legible : isUtf8 (ascii message) = true) :
    Checked (refuse code message : Handled α) := error code legible

theorem typeError (id : Nat) : Checked (throw (.typeError id) : Handled α) := by
  intro e failed
  cases failed
  trivial

theorem require (keys : List String) {message : String} (legible : isUtf8 (ascii message) = true)
    (j : Json) : Checked (j.require keys message) := by
  unfold Json.require
  split
  · exact pure _
  · exact refuse _ legible

theorem get (key : String) (j : Json) : Checked (j.get key) := by
  cases j with
  | object fields => exact pure _
  | _ => exact typeError _

theorem toWord (j : Json) : Checked j.toWord := by
  cases j with
  | null | string | array | object => exact typeError _
  | _ => exact pure _

theorem toBytes (j : Json) : Checked j.toBytes := by
  cases j with
  | string => exact pure _
  | _ => exact typeError _

theorem toBool (j : Json) : Checked j.toBool := by
  cases j with
  | boolean => exact pure _
  | _ => exact typeError _

theorem valueOf (key : String) {convert : Json → Handled α} (checked : ∀ j, Checked (convert j))
    (default : α) (j : Json) : Checked (j.valueOf key convert default) := by
  cases j with
  | object fields =>
      rw [Json.valueOf]
      cases (Json.object fields).find key with
      | some j => exact checked j
      | none => exact pure _
  | _ => exact typeError _

theorem word (key : String) (params : Json) : Checked (word key params) := by
  apply bind (get key params)
  intro j _
  exact toWord j

theorem parseColor (uninitialized : UInt32) (color : Json) : Checked (parseColor uninitialized color) := by
  unfold JsonRpc.parseColor
  split
  · apply bind (get _ _)
    intro red _
    apply bind (toWord red)
    intro red _
    apply bind (valueOf _ toWord _ _)
    intro green _
    apply bind (valueOf _ toWord _ _)
    intro blue _
    exact pure _
  · split
    · exact pure _
    · exact toWord _
    · exact toWord _
    · exact toWord _
    · exact pure _

/-! ### The parameters of the methods -/

theorem profileName (params : Json) : Checked (profileName params) := by
  apply bind (require _ (isUtf8_ofList (by decide)) _)
  intro _ _
  apply bind (get _ _)
  intro name _
  exact toBytes name

theorem saveParams (params : Json) : Checked (saveParams params) := by
  apply bind (profileName params)
  intro name _
  apply bind (valueOf _ toBool _ _)
  intro includeSizes _
  exact pure _

theorem ledColorParams (uninitialized : UInt32) (params : Json) :
    Checked (ledColorParams uninitialized params) := by
  apply bind (require _ (isUtf8_ofList (by decide)) _)
  intro _ _
  apply bind (word _ _)
  intro ledIdx _
  apply bind (get _ _)
  intro color _
  apply bind (parseColor _ color)
  intro color _
  exact pure _

theorem zoneColorParams (uninitialized : UInt32) (params : Json) :
    Checked (zoneColorParams uninitialized params) := by
  apply bind (require _ (isUtf8_ofList (by decide)) _)
  intro _ _
  apply bind (word _ _)
  intro zoneIdx _
  apply bind (get _ _)
  intro color _
  apply bind (parseColor _ color)
  intro color _
  exact pure _

theorem allColorsParams (uninitialized : UInt32) (params : Json) :
    Checked (allColorsParams uninitialized params) := by
  apply bind (require _ (isUtf8_ofList (by decide)) _)
  intro _ _
  apply bind (get _ _)
  intro color _
  exact parseColor _ color

theorem keyColorParams (uninitialized : UInt32) (params : Json) :
    Checked (keyColorParams uninitialized params) := by
  apply bind (require _ (isUtf8_ofList (by decide)) _)
  intro _ _
  apply bind (get _ _)
  intro key _
  apply bind (toBytes key)
  intro keyName _
  apply bind (get _ _)
  intro color _
  apply bind (parseColor _ color)
  intro color _
  exact pure _

theorem multipleColorsParams (params : Json) : Checked (multipleColorsParams params) := by
  apply bind (require _ (isUtf8_ofList (by decide)) _)
  intro _ _
  apply bind (get _ _)
  intro colors _
  split
  · exact pure _
  · exact refuse _ (isUtf8_ofList (by decide))

theorem forceParam (params : Json) : Checked (forceParam params) := by
  unfold JsonRpc.forceParam
  split
  · exact pure _
  · exact refuse _ (isUtf8_ofList (by decide))
  · exact pure _

theorem rgbArrays (colors : List Json) : Checked (rgbArrays colors) := by
  induction colors with
  | nil => exact pure _
  | cons rgb rest ih =>
      rw [JsonRpc.rgbArrays]
      split
      · apply bind ih
        intro colors _
        exact pure _
      · exact refuse _ (isUtf8_ofList (by decide))

theorem zoneMultipleLedParams (params : Json) : Checked (zoneMultipleLedParams params) := by
  apply bind (require _ (isUtf8_ofList (by decide)) _)
  intro _ _
  apply bind (forceParam params)
  intro force _
  apply bind (get _ _)
  intro color _
  split
  · apply bind (rgbArrays _)
    intro colors _
    apply bind (word _ _)
    intro deviceIdx _
    apply bind (word _ _)
    intro zoneIdx _
    exact pure _
  · exact refuse _ (isUtf8_ofList (by decide))

theorem zoneArrays (force : Bool) (zones : List Json) : Checked (zoneArrays force zones) := by
  induction zones with
  | nil => exact pure _
  | cons colors rest ih =>
      cases colors with
      | array colors =>
          rw [JsonRpc.zoneArrays]
          split
          · exact refuse _ (isUtf8_ofList (by decide))
          · apply bind (rgbArrays colors)
            intro parsed _
            apply bind ih
            intro others _
            exact pure _
      | _ =>
          cases force with
          | true => exact refuse _ (isUtf8_ofList (by decide))
          | false => exact refuse _ (isUtf8_ofList (by decide))

theorem multipleZoneMultipleLedParams (params : Json) : Checked (multipleZoneMultipleLedParams params) := by
  apply bind (require _ (isUtf8_ofList (by decide)) _)
  intro _ _
  apply bind (forceParam params)
  intro force _
  apply bind (get _ _)
  intro color _
  split
  · apply bind (zoneArrays force _)
    intro zoneColors _
    apply bind (word _ _)
    intro deviceIdx _
    exact pure _
  · exact refuse _ (isUtf8_ofList (by decide))

theorem resizeZoneParams (params : Json) : Checked (resizeZoneParams params) := by
  apply bind (require _ (isUtf8_ofList (by decide)) _)
  intro _ _
  apply bind (word _ _)
  intro zoneIdx _
  apply bind (word _ _)
  intro newSize _
  exact pure _

theorem clearSegmentsParams (params : Json) : Checked (clearSegmentsParams params) := by
  apply bind (require _ (isUtf8_ofList (by decide)) _)
  intro _ _
  exact word _ _

theorem addSegmentParams (uninitialized : Int32) (params : Json) :
    Checked (addSegmentParams uninitialized params) := by
  apply bind (require _ (isUtf8_ofList (by decide)) _)
  intro _ _
  apply bind (word _ _)
  intro zoneIdx _
  apply bind (get _ _)
  intro segmentObj _
  apply bind (valueOf _ toWord _ _)
  intro startIdx _
  apply bind (valueOf _ toWord _ _)
  intro ledsCount _
  apply bind (valueOf _ toBytes _ _)
  intro name _
  exact pure _

/-! ### Checks against the device -/

theorem checkZone (zoneIdx : UInt32) (c : RGBController) : Checked (checkZone zoneIdx c) := by
  unfold JsonRpc.checkZone
  split
  · exact pure _
  · exact refuse _ (isUtf8_ofList (by decide))

theorem checkLed (ledIdx : UInt32) (c : RGBController) : Checked (checkLed ledIdx c) := by
  unfold JsonRpc.checkLed
  split
  · exact pure _
  · exact refuse _ (isUtf8_ofList (by decide))

theorem checkMode (modeIdx : UInt32) (c : RGBController) : Checked (checkMode modeIdx c) := by
  unfold JsonRpc.checkMode
  split
  · exact pure _
  · exact refuse _ (isUtf8_ofList (by decide))

theorem checkResizable (zoneIdx : UInt32) (c : RGBController) : Checked (checkResizable zoneIdx c) := by
  unfold JsonRpc.checkResizable
  split
  · split
    · exact refuse _ (isUtf8_ofList (by decide))
    · exact pure _
  · exact refuse _ (isUtf8_ofList (by decide))

theorem checkZoneNumber (force : Bool) (given zones : Nat) : Checked (checkZoneNumber force given zones) := by
  unfold JsonRpc.checkZoneNumber
  split
  · cases force with
    | true => exact refuse _ (isUtf8_ofList (by decide))
    | false => exact refuse _ (isUtf8_ofList (by decide))
  · exact pure _

theorem checkCounts (given : List (List RGBColor)) (zones : List Zone) : Checked (checkCounts given zones) := by
  fun_induction JsonRpc.checkCounts given zones with
  | case1 => exact refuse _ (isUtf8_ofList (by decide))
  | case2 _ _ _ _ _ ih => exact ih
  | case3 => exact pure _

/-- The key that is not found is one of the parameters. -/
theorem findKey {keyName : Bytes} (legible : isUtf8 keyName = true) (c : RGBController) :
    Checked (findKey keyName c) := by
  unfold JsonRpc.findKey
  split
  · exact pure _
  · apply error
    rw [isUtf8_append (isUtf8_ofList (by decide))]
    exact legible

end Checked
end

/-- The name of a key comes from the parameters. -/
theorem keyName_isUtf8 {uninitialized : UInt32} {params : Json} {keyName : Bytes} {color : RGBColor}
    (dumped : params.dumps = true) (parsed : keyColorParams uninitialized params = .ok (keyName, color)) :
    isUtf8 keyName = true := by
  obtain ⟨_, _, parsed⟩ := Handled.bind_eq_ok.mp parsed
  obtain ⟨key, got, parsed⟩ := Handled.bind_eq_ok.mp parsed
  obtain ⟨name, text, parsed⟩ := Handled.bind_eq_ok.mp parsed
  obtain ⟨_, _, parsed⟩ := Handled.bind_eq_ok.mp parsed
  obtain ⟨_, _, parsed⟩ := Handled.bind_eq_ok.mp parsed
  cases parsed
  exact Json.isUtf8_of_toBytes (Json.dumps_of_get dumped got) text

/-- So does the name of a profile. -/
theorem profileName_isUtf8 {params : Json} {name : Bytes} (dumped : params.dumps = true)
    (parsed : profileName params = .ok name) : isUtf8 name = true := by
  obtain ⟨_, _, parsed⟩ := Handled.bind_eq_ok.mp parsed
  obtain ⟨j, got, text⟩ := Handled.bind_eq_ok.mp parsed
  exact Json.isUtf8_of_toBytes (Json.dumps_of_get dumped got) text

end JsonRpc
end SyncRGB
