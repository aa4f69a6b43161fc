import SyncRGB.JsonRpc.Dump

/-! JSON values that are read from a file, changed and written out. -/
namespace SyncRGB
open ByteCodec

namespace Json

def findKey (key : Bytes) : Json → Option Json
  | object fields => (fields.find? fun field => field.1 = key).map Prod.snd
  | _ => none

def isObject : Json → Bool
  | object _ => true
  | _ => false

/-- The fields of an object are ordered by their keys. -/
def setField (key : Bytes) (value : Json) : List (Bytes × Json) → List (Bytes × Json)
  | [] => [(key, value)]
  | field :: rest =>
      if field.1 = key then (key, value) :: rest
      else if key < field.1 then (key, value) :: field :: rest
      else field :: setField key value rest

/-- `operator[]` on the left of an assignment; `null` becomes an object. -/
def setKey : Json → Bytes → Json → Handled Json
  | null, key, value => return object [(key, value)]
  | object fields, key, value => return object (setField key value fields)
  | _, _, _ => throw (.typeError 305)

/-- `clear`, which keeps the type of the value. -/
def cleared : Json → Json
  | null => null
  | boolean _ => boolean false
  | unsigned _ => unsigned 0
  | integer _ => integer 0
  | float _ => float 0
  | string _ => string []
  | array _ => array []
  | object _ => object []

/-- Whether keys can be set. -/
def takesKeys (j : Json) : Prop := j = null ∨ j.isObject

theorem findKey_setField (key key' : Bytes) (value : Json) (fields : List (Bytes × Json)) :
    (object (setField key value fields)).findKey key' =
      if key' = key then some value else (object fields).findKey key' := by
  induction fields with
  | nil =>
      by_cases same : key' = key
      · simp [setField, findKey, same]
      · simp [setField, findKey, same, Ne.symm same]
  | cons field rest ih =>
      unfold findKey at ih ⊢
      rw [setField]
      by_cases here : field.1 = key
      · rw [if_pos here]
        by_cases same : key' = key
        · simp [same]
        · simp [same, Ne.symm same, here]
      · rw [if_neg here]
        by_cases before : key < field.1
        · rw [if_pos before]
          by_cases same : key' = key
          · simp [same]
          · simp [same, Ne.symm same]
        · rw [if_neg before]
          by_cases first : field.1 = key'
          · have other : key' ≠ key := fun same => here (first.trans same)
            simp [first, other]
          · simp only [List.find?_cons_of_neg, first, decide_false, Bool.false_eq_true, not_false_eq_true]
            exact ih

/-- A key that is set holds its value, and all others what they held. -/
theorem findKey_of_setKey {key : Bytes} {value j changed : Json} (set_ : j.setKey key value = .ok changed)
    (key' : Bytes) : changed.findKey key' = if key' = key then some value else j.findKey key' := by
  cases j with
  | null =>
      cases set_
      exact findKey_setField key key' value []
  | object fields =>
      cases set_
      exact findKey_setField key key' value fields
  | _ => cases set_

theorem setKey_object {j : Json} (object_ : j.isObject = true) (key : Bytes) (value : Json) :
    ∃ changed, j.setKey key value = .ok changed ∧ changed.isObject = true ∧
      ∀ key', changed.findKey key' = if key' = key then some value else j.findKey key' := by
  cases j with
  | object fields => exact ⟨_, rfl, rfl, findKey_of_setKey rfl⟩
  | _ => cases object_

theorem setKey_of_takesKeys {key : Bytes} {value j : Json} :
    (∃ changed, j.setKey key value = .ok changed) ↔ j.takesKeys := by
  unfold takesKeys
  cases j with
  | null => exact iff_of_true ⟨_, rfl⟩ (.inl rfl)
  | object fields => exact iff_of_true ⟨_, rfl⟩ (.inr rfl)
  | _ => exact iff_of_false (by rintro ⟨_, ⟨⟩⟩) (by rintro (is | is) <;> cases is)

end Json

/-- What `filesystem::exists` and the opened stream find at a path. -/
inductive SettingsFile where
  | unknown
  | missing
  | closed
  | holds (content : Bytes)

/-- `operator>>` of a stream into a value: the value that is parsed; or, after a parse error, what the parser leaves. -/
abbrev JsonParser := Bytes → Json → Except Json Json

end SyncRGB
