import SyncRGB.JsonRpc.SizeRequests

/-! Errors of the color, mode and zone methods. Three methods write before they have checked everything:
what they wrote by then has to change nothing. -/
namespace SyncRGB
open ByteCodec VectorEdit Effect RGBController
namespace JsonRpc

/-! ### Items with a LED and a color -/

section
variable (uninitialized : Nat → UInt32)

/-- The color an item gives to a LED that exists. -/
def decodeItem (leds n : Nat) (item : Json) : Handled (Option (Nat × RGBColor)) :=
  if item.contains "ledIndex" && item.contains "color" then do
    let ledIdx ← word "ledIndex" item
    if ledIdx.toNat < leds then
      let color ← item.get "color" >>= parseColor (uninitialized n)
      return some (ledIdx.toNat, color)
    else return none
  else return none

def storeItem : Option (Nat × RGBColor) → RGBController → RGBController
  | some (led, color), c => setLED led color c
  | none, c => c

/-- When an item cannot be decoded, each LED has the color that the items in front store last. -/
def ItemsHarmless (items : List Json) (c : RGBController) : Prop :=
  let decoded := decodeUpTo (decodeItem uninitialized c.leds.length) 0 items
  decoded.2 ≠ none → ∀ led color, (decoded.1.filterMap id).reverse.lookup led = some color →
    led < c.colors.length → c.colors[led]? = some color

theorem setItemColor_eq (n : Nat) (item : Json) (c : RGBController) :
    setItemColor (uninitialized n) item c =
      (do
        let store ← (liftM (decodeItem uninitialized c.leds.length n item) :
          Change RGBController (Option (Nat × RGBColor)))
        modify (storeItem store)) c := by
  unfold setItemColor decodeItem
  cases item.contains "ledIndex" && item.contains "color" with
  | false => rfl
  | true =>
      cases word "ledIndex" item with
      | error e => rfl
      | ok ledIdx =>
          have found : (liftM (Except.ok ledIdx : Handled UInt32) : Change RGBController UInt32) c =
              (.ok ledIdx, c) := rfl
          have read : (get : Change RGBController RGBController) c = (.ok c, c) := rfl
          simp only [if_true, liftM_bind, bind_assoc]
          rw [bind_ok found, bind_ok found, bind_ok read]
          split
          · cases item.get "color" with
            | error e => rfl
            | ok color =>
                have given : (liftM (Except.ok color : Handled Json) : Change RGBController Json) c =
                    (.ok color, c) := rfl
                simp only [liftM_bind, bind_assoc]
                rw [bind_ok given, bind_ok given]
                cases parseColor (uninitialized n) color with
                | error e => rfl
                | ok color => rfl
          · rfl

theorem setItemColors_eq (n : Nat) (items : List Json) (c : RGBController) :
    setItemColors uninitialized n items c =
      writeEach (decodeItem uninitialized c.leds.length) storeItem n items c := by
  induction items generalizing n c with
  | nil => rfl
  | cons item rest ih =>
      rcases decoded : decodeItem uninitialized c.leds.length n item with e | store
      · have once : setItemColor (uninitialized n) item c = (.error e, c) := by
          rw [setItemColor_eq, decoded]
          rfl
        have here : (liftM (decodeItem uninitialized c.leds.length n item) :
            Change RGBController (Option (Nat × RGBColor))) c = (.error e, c) := by
          rw [decoded]
          rfl
        rw [setItemColors, writeEach, bind_error once, bind_error here]
      · have once : setItemColor (uninitialized n) item c = (.ok (), storeItem store c) := by
          rw [setItemColor_eq, decoded]
          rfl
        have here : (liftM (decodeItem uninitialized c.leds.length n item) :
            Change RGBController (Option (Nat × RGBColor))) c = (.ok store, c) := by
          rw [decoded]
          rfl
        have written : (modify (storeItem store) : Change RGBController Unit) c =
            (.ok (), storeItem store c) := rfl
        have leds : (storeItem store c).leds = c.leds := by
          rcases store with _ | ⟨led, color⟩
          · rfl
          · simp only [storeItem, setLED]
            split
            · rfl
            · rfl
        rw [setItemColors, writeEach, bind_ok once, bind_ok here, bind_ok written, ih, leds]

theorem foldl_storeItem (stores : List (Option (Nat × RGBColor))) (c : RGBController) :
    stores.foldl (fun c store => storeItem store c) c =
      { c with colors := setAll (stores.filterMap id) c.colors } := by
  induction stores generalizing c with
  | nil => rfl
  | cons store stores ih =>
      rw [List.foldl_cons, ih]
      rcases store with _ | ⟨led, color⟩
      · rfl
      · have first : (some (led, color) :: stores).filterMap id = (led, color) :: stores.filterMap id := rfl
        simp only [first, storeItem, setLED, setAll, List.foldl_cons]
        split
        · rfl
        · rw [List.set_eq_of_length_le (by omega)]

theorem setItemColors_failsClean (items : List Json) (c : RGBController) :
    FailsClean (fun _ => True) (setItemColors uninitialized 0 items) c ↔
      ItemsHarmless uninitialized items c := by
  have same := setItemColors_eq uninitialized 0 items c
  rw [FailsClean, same]
  apply (FailsClean.writeEach_iff _ _ 0 items c).trans
  apply imp_congr_right
  intro _
  rw [foldl_storeItem, ← setAll_eq_self_iff]
  constructor
  · intro unchanged
    exact congrArg RGBController.colors unchanged
  · intro unchanged
    rw [unchanged]

end

/-! ### Parameters of a mode -/

section
variable (uninitialized : Nat → UInt32)

def optionalWord (key : String) (obj : Json) : Handled (Option UInt32) :=
  if obj.contains key then do
    let n ← word key obj
    return some n
  else return none

def updateColors (modeObj : Json) : Change Mode Unit := do
  if modeObj.contains "colors" then
    match ← modeObj.get "colors" with
    | .array colors =>
        modify fun m => { m with colors := [] }
        pushColors uninitialized 0 colors
    | _ => return ()

/-- What the mode object gives in front of a value that cannot be decoded is what the mode has. -/
def ModeHarmless (modeObj : Json) (m : Mode) : Prop :=
  ∀ speed, optionalWord "speed" modeObj = .ok speed →
    match optionalWord "direction" modeObj with
    | .error _ => speed.getD m.speed = m.speed
    | .ok direction => ∀ colors, modeObj.find "colors" = some (.array colors) →
        let decoded := decodeUpTo (fun n => parseColor (uninitialized n)) 0 colors
        decoded.2 ≠ none →
          speed.getD m.speed = m.speed ∧ direction.getD m.direction = m.direction ∧ decoded.1 = m.colors

theorem pushColors_eq (n : Nat) (colors : List Json) :
    pushColors uninitialized n colors =
      writeEach (fun n => parseColor (uninitialized n))
        (fun color m => { m with colors := m.colors ++ [color] }) n colors := by
  induction colors generalizing n with
  | nil => rfl
  | cons color rest ih =>
      rw [pushColors, writeEach]
      simp only [ih]

theorem foldl_pushColors (colors : List RGBColor) (m : Mode) :
    colors.foldl (fun (m : Mode) color => { m with colors := m.colors ++ [color] }) m =
      { m with colors := m.colors ++ colors } := by
  induction colors generalizing m with
  | nil => rw [List.foldl_nil, List.append_nil]
  | cons color rest ih => rw [List.foldl_cons, ih, List.append_assoc, List.singleton_append]

/-- The parameters are set one after the other. -/
theorem updateParameters_eq (modeObj : Json) :
    updateParameters uninitialized modeObj = (do
      let speed ← (optionalWord "speed" modeObj : Handled (Option UInt32))
      modify fun m => { m with speed := speed.getD m.speed }
      let direction ← (optionalWord "direction" modeObj : Handled (Option UInt32))
      modify fun m => { m with direction := direction.getD m.direction }
      updateColors uninitialized modeObj) := by
  unfold updateParameters updateColors optionalWord word
  cases modeObj.contains "speed" <;> cases modeObj.contains "direction"
  · rfl
  all_goals
    simp only [Bool.false_eq_true, ↓reduceIte, liftM_bind, liftM_pure, liftM_map, bind_assoc, bind_pure_comp,
      map_bind, bind_map_left, pure_bind, Option.getD_some, Option.getD_none] <;> rfl

theorem updateColors_array {modeObj : Json} {colors : List Json}
    (found : modeObj.find "colors" = some (.array colors)) (m : Mode) :
    updateColors uninitialized modeObj m = pushColors uninitialized 0 colors { m with colors := [] } := by
  have given : modeObj.contains "colors" = true := by
    rw [Json.contains, found]
    rfl
  rw [updateColors, given, Json.get_of_find found]
  rfl

theorem updateColors_other {modeObj : Json}
    (other : ¬ ∃ colors, modeObj.find "colors" = some (.array colors)) (m : Mode) :
    updateColors uninitialized modeObj m = (.ok (), m) := by
  rw [updateColors]
  cases found : modeObj.find "colors" with
  | none =>
      have missing : modeObj.contains "colors" = false := by
        rw [Json.contains, found]
        rfl
      rw [missing]
      rfl
  | some value =>
      have given : modeObj.contains "colors" = true := by
        rw [Json.contains, found]
        rfl
      rw [given, Json.get_of_find found]
      cases value with
      | array colors => exact absurd ⟨colors, found⟩ other
      | _ => rfl

theorem updateParameters_run (modeObj : Json) (m : Mode) :
    updateParameters uninitialized modeObj m =
      match optionalWord "speed" modeObj with
      | .error e => (.error e, m)
      | .ok speed =>
          match optionalWord "direction" modeObj with
          | .error e => (.error e, { m with speed := speed.getD m.speed })
          | .ok direction =>
              updateColors uninitialized modeObj
                { m with speed := speed.getD m.speed, direction := direction.getD m.direction } := by
  rw [updateParameters_eq]
  cases optionalWord "speed" modeObj with
  | error e => rfl
  | ok speed =>
      cases optionalWord "direction" modeObj with
      | error e => rfl
      | ok direction => rfl

theorem updateParameters_failsClean (modeObj : Json) (m : Mode) :
    FailsClean (fun _ => True) (updateParameters uninitialized modeObj) m ↔
      ModeHarmless uninitialized modeObj m := by
  have run := updateParameters_run uninitialized modeObj m
  rw [FailsClean, run, ModeHarmless]
  cases optionalWord "speed" modeObj with
  | error e =>
      apply iff_of_true
      · intro e t run _
        cases run
        rfl
      · intro speed ok
        cases ok
  | ok speed =>
      cases optionalWord "direction" modeObj with
      | error e =>
          constructor
          · intro clean _ ok
            cases ok
            exact congrArg Mode.speed (clean e _ rfl trivial)
          · intro same e t run _
            cases run
            simp only [same speed rfl]
      | ok direction =>
          by_cases array : ∃ colors, modeObj.find "colors" = some (.array colors)
          · obtain ⟨colors, found⟩ := array
            simp only [updateColors_array uninitialized found, pushColors_eq, writeEach_eq, foldl_pushColors,
              List.nil_append, found]
            cases decoded : decodeUpTo (fun n => parseColor (uninitialized n)) 0 colors with
            | mk front failure =>
                cases failure with
                | none =>
                    apply iff_of_true
                    · intro e t run _
                      cases run
                    · intro _ _ others same failed
                      cases same
                      rw [decoded] at failed
                      exact absurd rfl failed
                | some e =>
                    constructor
                    · intro clean _ ok others same _
                      cases ok
                      cases same
                      have unchanged := clean e _ rfl trivial
                      rw [decoded]
                      exact ⟨congrArg Mode.speed unchanged, congrArg Mode.direction unchanged,
                        congrArg Mode.colors unchanged⟩
                    · intro same e' t run _
                      cases run
                      have held := same speed rfl colors rfl
                      rw [decoded] at held
                      obtain ⟨speeds, directions, kept⟩ := held (Option.some_ne_none e)
                      have kept : front = m.colors := kept
                      simp only [speeds, directions, kept]
          · simp only [updateColors_other uninitialized array]
            apply iff_of_true
            · intro e t run _
              cases run
            · intro _ _ colors found
              exact absurd ⟨colors, found⟩ array

theorem onMode_failsClean {work : Change Mode Unit} {i modeIdx : Nat} {cs : List RGBController} :
    FailsClean (fun _ => True) (onMode i modeIdx work) cs ↔
      ∀ c m, cs[i]? = some c → c.modes[modeIdx]? = some m → FailsClean (fun _ => True) work m := by
  constructor
  · intro clean c m found mode e t worked counted
    have run : onMode i modeIdx work cs =
        (.error e, cs.modify i fun c => { c with modes := c.modes.set modeIdx t }) := by
      simp only [onMode, found, Option.bind_some, mode, worked]
    have same := congrArg (fun cs : List RGBController => cs[i]?.bind fun c => c.modes[modeIdx]?)
      (clean e _ run counted)
    have inside := List.getElem?_eq_some_iff.mp mode |>.1
    simpa [List.getElem?_modify, found, mode, List.getElem?_set_self inside] using same
  · intro clean e ds run counted
    unfold onMode at run
    split at run
    · rename_i m mode
      obtain ⟨c, found, mode⟩ := Option.bind_eq_some_iff.mp mode
      rcases run_cases work m with ⟨_, t, worked⟩ | ⟨e', t, worked⟩
      · rw [worked] at run
        cases run
      · rw [worked] at run
        cases run
        rw [clean c m found mode e t worked counted]
        have kept : { c with modes := c.modes.set modeIdx m } = c := by
          obtain ⟨inside, rfl⟩ := List.getElem?_eq_some_iff.mp mode
          rw [List.set_getElem_self]
        apply List.ext_getElem?
        intro k
        rw [List.getElem?_modify]
        by_cases here : i = k
        · subst here
          simp [found, kept]
        · simp [here]
    · cases run

end

/-! ### Sizes of zones -/

section
variable {resizeZone : Nat → UInt32 → RGBController → RGBController}

theorem sizeZone_clean (behaves : AppliesOrIgnores resizeZone) (force : Bool) (zone n : Nat)
    (c : RGBController) : FailsClean IsError (sizeZone resizeZone force zone n) c := by
  have read : (get : Control RGBController RGBController) c = (.ok c, c) := rfl
  rw [FailsClean, sizeZone, bind_ok read]
  cases found : c.zones[zone]? with
  | none => exact FailsClean.of_reads (reads_handled _)
  | some z =>
      have inside := List.getElem?_eq_some_iff.mp found |>.1
      dsimp only
      by_cases same : n = z.ledsCount.toNat
      · rw [if_pos same]
        exact FailsClean.of_succeeds (Succeeds.pure _)
      · rw [if_neg same]
        cases force with
        | true => exact FailsClean.of_succeeds (Succeeds.modify _)
        | false =>
            by_cases range : n < z.ledsMin.toNat ∨ z.ledsMax.toNat < n
            · simp only [Bool.false_eq_true, if_false, if_pos range]
              exact FailsClean.of_reads (reads_handled _)
            · simp only [Bool.false_eq_true, if_false, if_neg range, requestSize_eq]
              have small : n < 2 ^ 32 := by
                have := z.ledsMax.toNat_lt
                omega
              intro e t run _
              split at run
              · cases run
              · rename_i refused
                cases run
                exact refused_ignored behaves inside small refused

theorem checkCounts_small {given : List (List RGBColor)} {zs : List Zone}
    (length : given.length = zs.length) (checked : checkCounts given zs = .ok ()) :
    ∀ colors ∈ given, colors.length < 2 ^ 32 := by
  induction given generalizing zs with
  | nil => exact fun _ mem => absurd mem List.not_mem_nil
  | cons colors rest ih =>
      cases zs with
      | nil => cases length
      | cons z zs =>
          rw [checkCounts] at checked
          split at checked
          · cases checked
          · intro other mem
            rcases List.mem_cons.mp mem with rfl | mem
            · have count := z.ledsCount.toNat_lt
              have most := z.ledsMax.toNat_lt
              omega
            · exact ih (Nat.succ.inj length) checked other mem

theorem sizeZones_failsClean (behaves : AppliesOrIgnores resizeZone) (force : Bool)
    (given : List (List RGBColor)) (c : RGBController) :
    FailsClean IsError (sizeZones resizeZone force given) c ↔
      (force = false → checkZoneNumber false given.length c.zones.length = .ok () →
        checkCounts given c.zones = .ok () → RefusesFirstOrTakesAll resizeZone 0 given c) := by
  have read : FailsClean IsError (sizeZones resizeZone force given) c ↔
      FailsClean IsError (do
        handled (checkZoneNumber force given.length c.zones.length)
        if force then storing (forceSizes given)
        else do
          handled (checkCounts given c.zones)
          requestSizes resizeZone 0 given) c := Iff.rfl
  rw [read, behind_handled]
  cases force with
  | true =>
      apply iff_of_true
      · intro _ _
        exact FailsClean.of_succeeds (storing_succeeds _)
      · intro false
        cases false
  | false =>
      have rest (number : checkZoneNumber false given.length c.zones.length = .ok ())
          (counts : checkCounts given c.zones = .ok ()) :
          FailsClean IsError (requestSizes resizeZone 0 given) c ↔
            RefusesFirstOrTakesAll resizeZone 0 given c := by
        have length : given.length = c.zones.length := by
          by_contra other
          rw [checkZoneNumber, if_pos (.inr ⟨rfl, other⟩)] at number
          cases number
        exact requestSizes_failsClean behaves 0 given c (by omega) (checkCounts_small length counts)
      constructor
      · intro clean _ number counts
        exact (rest number counts).mp (behind_handled.mp (clean () number) () counts)
      · intro harmless _ number
        exact behind_handled.mpr fun _ counts => (rest number counts).mpr (harmless rfl number counts)

end
/-! ### All methods -/

/-- The mode object of `UpdateMode` and the index in it. -/
def modeParams (params : Json) : Handled (Json × UInt32) := do
  params.require ["deviceIndex", "mode"] "Missing required parameters: deviceIndex, mode"
  let modeObj ← params.get "mode"
  modeObj.require ["index"] "Mode object missing 'index' field"
  let modeIdx ← word "index" modeObj
  return (modeObj, modeIdx)

/-- The methods that write early write nothing new in front of their error; the others write last. -/
def ErrorsHarmless (p : Platform) (params : Json) (cs : List RGBController) : ControlMethod → Prop
  | .setMultipleColors => ∀ items i c, multipleColorsParams params = .ok items →
      (device params cs).1 = .ok (i, c) → ItemsHarmless p.uninitialized items c
  | .updateMode => ∀ modeObj modeIdx i c m, modeParams params = .ok (modeObj, modeIdx) →
      (device params cs).1 = .ok (i, c) → c.modes[modeIdx.toNat]? = some m →
      ModeHarmless p.uninitialized modeObj m
  | .setMultipleZoneMultipleLed => ∀ request i c, multipleZoneMultipleLedParams params = .ok request →
      (deviceAt request.deviceIdx cs).1 = .ok (i, c) → request.force = false →
      checkZoneNumber false request.zoneColors.length c.zones.length = .ok () →
      checkCounts request.zoneColors c.zones = .ok () →
      RefusesFirstOrTakesAll (p.driver i) 0 request.zoneColors c
  | _ => True

section
variable (p : Platform) (params : Json) (cs : List RGBController)

theorem setMultipleColors_failsClean :
    FailsClean IsError (setMultipleColors p.uninitialized params) cs ↔
      ErrorsHarmless p params cs .setMultipleColors := by
  rw [setMultipleColors, behind_handled]
  constructor
  · intro clean items i c parsed found
    have work := (behind_changing (reads_device params)).mp (clean items parsed) (i, c) found
    have items_ := work_failsClean.mp work c (device_found found)
    exact (setItemColors_failsClean _ items c).mp (changing_failsClean.mp items_)
  · intro harmless items parsed
    apply (behind_changing (reads_device params)).mpr
    rintro ⟨i, c⟩ found
    apply work_failsClean.mpr
    intro d same
    rw [device_found found] at same
    cases same
    apply changing_failsClean.mpr
    exact (setItemColors_failsClean _ items c).mpr (harmless items i c parsed found)

theorem updateMode_eq (uninitialized : Nat → UInt32) : updateMode uninitialized params = (do
    let (modeObj, modeIdx) ← (modeParams params : Handled (Json × UInt32))
    let (i, c) ← device params
    checkMode modeIdx c
    onMode i modeIdx.toNat (updateParameters uninitialized modeObj)
    modify fun cs => cs.modify i (RGBController.setMode modeIdx.toInt32)) := by
  simp only [updateMode, modeParams, word, liftM_bind, bind_assoc]
  rfl

theorem updateMode_failsClean :
    FailsClean IsError (modeMethod (updateMode p.uninitialized params)) cs ↔
      ErrorsHarmless p params cs .updateMode := by
  apply (FailsClean.bind_of_succeeds fun _ => Succeeds.pure _).trans
  apply changing_failsClean.trans
  rw [updateMode_eq, FailsClean.bind_lift]
  constructor
  · intro clean modeObj modeIdx i c m parsed found mode
    have behind := (FailsClean.bind_of_reads (reads_device params)).mp (clean _ parsed) (i, c) found
    have inside := List.getElem?_eq_some_iff.mp mode |>.1
    have checked : checkMode modeIdx c = .ok () := if_pos inside
    have work := FailsClean.bind_lift.mp behind () checked
    have parameters := (FailsClean.bind_of_succeeds fun _ => Succeeds.modify _).mp work
    exact (updateParameters_failsClean _ modeObj m).mp
      (onMode_failsClean.mp parameters c m (device_found found) mode)
  · rintro harmless ⟨modeObj, modeIdx⟩ parsed
    apply (FailsClean.bind_of_reads (reads_device params)).mpr
    rintro ⟨i, c⟩ found
    apply FailsClean.bind_lift.mpr
    intro _ _
    apply (FailsClean.bind_of_succeeds fun _ => Succeeds.modify _).mpr
    apply onMode_failsClean.mpr
    intro d m same mode
    rw [device_found found] at same
    cases same
    exact (updateParameters_failsClean _ modeObj m).mpr (harmless modeObj modeIdx i c m parsed found mode)

theorem setZoneMultipleLed_clean (behaves : ∀ i, AppliesOrIgnores (p.driver i)) :
    FailsClean IsError (setZoneMultipleLed p.driver params) cs := by
  apply clean_behind (reads_handled _)
  intro request
  apply clean_behind (reads_changing (reads_deviceAt _))
  rintro ⟨i, c⟩
  apply work_failsClean.mpr
  intro c _
  apply (FailsClean.bind_of_succeeds fun _ => storing_succeeds _).mpr
  exact sizeZone_clean (behaves i) _ _ _ c

theorem setMultipleZoneMultipleLed_failsClean (behaves : ∀ i, AppliesOrIgnores (p.driver i)) :
    FailsClean IsError (setMultipleZoneMultipleLed p.driver params) cs ↔
      ErrorsHarmless p params cs .setMultipleZoneMultipleLed := by
  have zones (request : ZonesRequest) (i : Nat) (c : RGBController) :
      FailsClean IsError (setZones (p.driver i) request) c ↔
        FailsClean IsError (sizeZones (p.driver i) request.force request.zoneColors) c :=
    FailsClean.bind_of_succeeds fun _ => storing_succeeds _
  rw [setMultipleZoneMultipleLed, behind_handled]
  constructor
  · intro clean request i c parsed found
    have work := (behind_changing (reads_deviceAt _)).mp (clean request parsed) (i, c) found
    have sizes := (zones request i c).mp (work_failsClean.mp work c (deviceAt_found found))
    exact (sizeZones_failsClean (behaves i) _ _ c).mp sizes
  · intro harmless request parsed
    apply (behind_changing (reads_deviceAt _)).mpr
    rintro ⟨i, c⟩ found
    apply work_failsClean.mpr
    intro d same
    rw [deviceAt_found found] at same
    cases same
    apply (zones request i c).mpr
    exact (sizeZones_failsClean (behaves i) _ _ c).mpr (harmless request i c parsed found)

end

/-- An error leaves every controller as it was, exactly when the methods that write early write nothing new
in front of it. -/
theorem error_atomicity (p : Platform) (behaves : ∀ i, AppliesOrIgnores (p.driver i))
    (method : ControlMethod) (params : Json) (cs : List RGBController) :
    FailsClean IsError (callControl p params method) cs ↔ ErrorsHarmless p params cs method := by
  cases method with
  | setMultipleColors => exact setMultipleColors_failsClean p params cs
  | updateMode => exact updateMode_failsClean p params cs
  | setMultipleZoneMultipleLed => exact setMultipleZoneMultipleLed_failsClean p params cs behaves
  | setLEDColor => exact iff_of_true (setLEDColor_clean p params cs) trivial
  | setZoneColor => exact iff_of_true (setZoneColor_clean p params cs) trivial
  | setZoneMultipleLed => exact iff_of_true (setZoneMultipleLed_clean p params cs behaves) trivial
  | setAllColors => exact iff_of_true (setAllColors_clean p params cs) trivial
  | setKeyColor => exact iff_of_true (setKeyColor_clean p params cs) trivial
  | setMode => exact iff_of_true (setMode_clean params cs) trivial
  | setCustomMode => exact iff_of_true (setCustomMode_clean params cs) trivial
  | getZones => exact iff_of_true (getZones_clean params cs) trivial
  | resizeZone => exact iff_of_true (resizeZone_clean p params cs) trivial
  | clearSegments => exact iff_of_true (clearSegments_clean params cs) trivial
  | addSegment => exact iff_of_true (addSegment_clean p params cs) trivial

/-- Devices that resize no zone. -/
def fixedSizes : Platform where
  driver _ _ _ c := c
  uninitialized _ := 0
  uninitializedType := 0

/-- A speed, and a direction that is no number. -/
def speedAndText (speed : UInt64) : Json :=
  .object [(ascii "deviceIndex", .unsigned 0), (ascii "mode",
    .object [(ascii "index", .unsigned 0), (ascii "speed", .unsigned speed), (ascii "direction", .string [])])]

def slowDevice : RGBController := { RGBController.new 0 with modes := [Mode.new] }

/-- The speed that the mode has does no harm. -/
theorem error_atomicity_same_speed :
    FailsClean IsError (callControl fixedSizes (speedAndText 0) .updateMode) [slowDevice] := by
  apply (error_atomicity fixedSizes (fun _ _ _ _ => .inl rfl) _ _ _).mpr
  intro modeObj modeIdx i c m parsed found mode speed decoded
  cases parsed
  cases found
  cases mode
  cases decoded
  rfl

theorem error_atomicity_new_speed : AppliesOrIgnores (fixedSizes.driver 0) ∧
    ¬ FailsClean IsError (callControl fixedSizes (speedAndText 1) .updateMode) [slowDevice] := by
  constructor
  · exact fun _ _ _ => .inl rfl
  · intro clean
    have unchanged := clean (.failure (.typeError 302))
      [{ slowDevice with modes := [{ Mode.new with speed := 1 }] }] rfl (by simp [IsError])
    exact absurd unchanged (by decide)

end JsonRpc
end SyncRGB
