import SyncRGB.Settings.SettingsManager

/-! Which runs of calls leave the settings store usable. -/
namespace SyncRGB
open ByteCodec Transition
namespace SettingsManager

/-- The value that was set last under a key, after one call more. -/
def lastAfter (key : Bytes) (last : Option Json) : Call → Option Json
  | .set settingsKey newSettings => if key = settingsKey then some newSettings else last
  | .load _ _ => none
  | _ => last

/-- The value that was set last under a key since the settings were loaded. -/
def lastSet (key : Bytes) (calls : List Call) : Option Json := calls.foldl (lastAfter key) none

section
variable (parse : JsonParser) (dumpText : Json → Bytes)

/-- A call on the store, next to the calls that were made on it. -/
def Calls (before : SettingsManager × List Call) (c : Call) (after : SettingsManager × List Call) : Prop :=
  ∃ reply, call parse dumpText before.1 c = some (after.1, reply) ∧ after.2 = before.2 ++ [c]

/-- The mutex is free, and each key is answered with what was set last. -/
structure Usable (now : SettingsManager × List Call) : Prop where
  free : now.1.locked = false
  answers (key : Bytes) (value : Json) :
    lastSet key now.2 = some value → call parse dumpText now.1 (.get key) = some (now.1, .settings value)

end

/-- A key is set in an object or in no value at all; and it can be told whether the file to load exists. -/
def CallFits (now : SettingsManager × List Call) : Call → Prop
  | .set _ _ => now.1.settingsData.takesKeys
  | .load _ file => file ≠ .unknown
  | _ => True

section
variable {parse : JsonParser} {dumpText : Json → Bytes}

theorem lastSet_concat (key : Bytes) (calls : List Call) (c : Call) :
    lastSet key (calls ++ [c]) = lastAfter key (lastSet key calls) c := by
  rw [lastSet, List.foldl_append]
  rfl

theorem get_of_free {s : SettingsManager} (free : s.locked = false) (key : Bytes) :
    call parse dumpText s (.get key) = some (s, .settings ((s.settingsData.findKey key).getD .null)) := by
  unfold call
  rw [free, if_neg Bool.false_ne_true]

/-- What a free store answers. -/
theorem usable_iff {now : SettingsManager × List Call} :
    Usable parse dumpText now ↔ now.1.locked = false ∧
      ∀ key value, lastSet key now.2 = some value → (now.1.settingsData.findKey key).getD .null = value := by
  constructor
  · rintro ⟨free, answers⟩
    refine ⟨free, ?_⟩
    intro key value last
    have answered := answers key value last
    rw [get_of_free free] at answered
    cases answered
    rfl
  · rintro ⟨free, holds⟩
    refine ⟨free, ?_⟩
    intro key value last
    rw [get_of_free free, holds key value last]

/-- A load ends with a free mutex, unless it cannot be told whether the file exists. -/
theorem loadSettings_locked (parse : JsonParser) (filename : Bytes) (file : SettingsFile) (s : SettingsManager) :
    (loadSettings parse filename file s).1.locked = false ↔ file ≠ .unknown := by
  cases file with
  | unknown => exact iff_of_false Bool.true_eq_false_eq_False.elim fun other => other rfl
  | _ => exact iff_of_true rfl nofun

/-- What was set last under each key is found in the data that a call has changed, if it was found before. -/
theorem findKey_of_set {data data' : Json} {key : Bytes} {value : Json} (set_ : data.setKey key value = .ok data')
    {calls : List Call} (holds : ∀ key value, lastSet key calls = some value → (data.findKey key).getD .null = value)
    (key' : Bytes) (value' : Json) (last : lastSet key' (calls ++ [.set key value]) = some value') :
    (data'.findKey key').getD .null = value' := by
  rw [lastSet_concat, lastAfter] at last
  rw [Json.findKey_of_setKey set_]
  split
  next here =>
    rw [if_pos here] at last
    cases last
    rfl
  next other =>
    rw [if_neg other] at last
    exact holds key' value' last

/-- A call on a usable store leaves it usable exactly if it fits. -/
theorem usable_step {before after : SettingsManager × List Call} {c : Call} (usable : Usable parse dumpText before)
    (step : Calls parse dumpText before c after) : Usable parse dumpText after ↔ CallFits before c := by
  obtain ⟨s, calls⟩ := before
  obtain ⟨t, _⟩ := after
  obtain ⟨reply, called, rfl⟩ := step
  obtain ⟨free, holds⟩ := usable_iff.mp usable
  dsimp only at free holds called
  have same (unchanged : t = s) (kept : ∀ key last, lastAfter key last c = last) :
      Usable parse dumpText (t, calls ++ [c]) := by
    rw [usable_iff, unchanged]
    refine ⟨free, fun key value last => holds key value ?_⟩
    rwa [lastSet_concat, kept] at last
  unfold call at called
  rw [free, if_neg Bool.false_ne_true] at called
  cases c with
  | get key =>
      cases called
      exact iff_of_true (same rfl fun _ _ => rfl) trivial
  | set key value =>
      dsimp only at called
      cases set_ : s.settingsData.setKey key value with
      | ok data =>
          rw [set_] at called
          cases called
          exact iff_of_true (usable_iff.mpr ⟨rfl, findKey_of_set set_ holds⟩)
            (Json.setKey_of_takesKeys.mp ⟨data, set_⟩)
      | error e =>
          rw [set_] at called
          cases called
          refine iff_of_false (fun usable => Bool.false_ne_true usable.free.symm) ?_
          intro takes
          obtain ⟨data, succeeds⟩ := Json.setKey_of_takesKeys.mpr takes
          rw [set_] at succeeds
          cases succeeds
  | load filename file =>
      have now : t = (loadSettings parse filename file s).1 := (congrArg Prod.fst (Option.some.inj called)).symm
      rw [usable_iff, now]
      refine (and_iff_left ?_).trans (loadSettings_locked parse filename file s)
      intro key value last
      rw [lastSet_concat] at last
      cases last
  | save opens =>
      cases called
      exact iff_of_true (same rfl fun _ _ => rfl) trivial

/-- A call that sets a key changes no other. -/
theorem set_other {s t : SettingsManager} {reply : Reply} {key key' : Bytes} {value : Json} (other : key' ≠ key)
    (called : call parse dumpText s (.set key value) = some (t, reply)) :
    t.settingsData.findKey key' = s.settingsData.findKey key' := by
  unfold call at called
  split at called
  · cases called
  · dsimp only at called
    cases set_ : s.settingsData.setKey key value with
    | ok data =>
        rw [set_] at called
        cases called
        rw [Json.findKey_of_setKey set_, if_neg other]
    | error e =>
        rw [set_] at called
        cases called
        rfl

theorem new_usable : Usable parse dumpText (.new, []) := usable_iff.mpr ⟨rfl, nofun⟩

/-- The runs in which the store survives each call are those whose calls fit. -/
theorem store_survives_iff (parse : JsonParser) (dumpText : Json → Bytes) (calls : List Call)
    (now : SettingsManager × List Call) :
    (Run (Kept (Usable parse dumpText) (Calls parse dumpText)) (.new, []) calls now ↔
      Run (Guarded CallFits (Calls parse dumpText)) (.new, []) calls now) ∧
    ∀ s t reply key key' value, key' ≠ key → call parse dumpText s (.set key value) = some (t, reply) →
      t.settingsData.findKey key' = s.settingsData.findKey key' := by
  have exact_ (before : SettingsManager × List Call) (c : Call) (after : SettingsManager × List Call)
      (usable : Usable parse dumpText before) (step : Calls parse dumpText before c after) :
      Usable parse dumpText after ↔ CallFits before c := usable_step usable step
  exact ⟨Run.kept_iff exact_ new_usable, fun _ _ _ _ _ _ => set_other⟩

end

/-- The parser on the text of an empty array and on texts that are no JSON from the first byte on. -/
def parseEmptyArray : JsonParser := fun content before =>
  if content = ascii "[]" then .ok (.array []) else .error before

/-- With an array in the file, the first key that is set throws, and the mutex is held for good. -/
theorem array_file_blocks :
    let now : SettingsManager := ⟨.array [], ascii "OpenRGB.json", true, true⟩
    let calls := [.load (ascii "OpenRGB.json") (.holds (ascii "[]")), .set (ascii "AutoStart") .null]
    Run (Calls parseEmptyArray fun _ => []) (.new, []) calls (now, calls) ∧ now.locked = true ∧
      ∀ c, call parseEmptyArray (fun _ => []) now c = none := by
  intro now calls
  have load : Calls parseEmptyArray (fun _ => []) (.new, []) (.load (ascii "OpenRGB.json") (.holds (ascii "[]")))
      ({ now with locked := false }, calls.take 1) := ⟨.done, rfl, rfl⟩
  have set_ : Calls parseEmptyArray (fun _ => []) ({ now with locked := false }, calls.take 1)
      (.set (ascii "AutoStart") .null) (now, calls) := ⟨.thrown, rfl, rfl⟩
  exact ⟨.cons load (.cons set_ (.nil _)), rfl, fun c => rfl⟩

end SettingsManager
end SyncRGB
