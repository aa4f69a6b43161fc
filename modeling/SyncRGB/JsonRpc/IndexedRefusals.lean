import SyncRGB.JsonRpc.IndexedMethods
import SyncRGB.JsonRpc.ZoneFrame

/-! Which requests the tests on the device refuse that has been found, and which of these leave it changed. -/
namespace SyncRGB
open ByteCodec Effect RGBController
namespace JsonRpc

/-- The answer is an error. -/
def Refusal {σ α : Type} (outcome : Except Stop α × σ) : Prop := ∃ e, IsError e ∧ outcome.1 = .error e

section
variable (p : Platform) (params : Json)

/-- The parameters of a mode can be decoded. -/
def ModeDecodes (uninitialized : Nat → UInt32) (modeObj : Json) : Prop :=
  (∃ speed, optionalWord "speed" modeObj = .ok speed) ∧
    (∃ direction, optionalWord "direction" modeObj = .ok direction) ∧
    ∀ colors, modeObj.find "colors" = some (.array colors) →
      (decodeUpTo (fun n => parseColor (uninitialized n)) 0 colors).2 = none

/-- The tests that are made on the device that has been found. -/
def Refuses (i : Nat) (part : UInt32) (c : RGBController) : IndexedMethod → Prop
  | .getControllerData => c.activeMode < 0 ∧ c.activeMode ≠ -1
  | .getControllerInfo | .control .getZones | .control .setAllColors | .control .setCustomMode => False
  | .control .setLEDColor => c.leds.length ≤ part.toNat
  | .control .setZoneColor | .control .clearSegments | .control .addSegment => c.zones.length ≤ part.toNat
  | .control .setZoneMultipleLed => ∃ request, zoneMultipleLedParams params = .ok request ∧
      if request.force then c.zones.length ≤ part.toNat
      else ¬ TakesSize (p.driver i) part.toNat request.colors.length c
  | .control .setMultipleZoneMultipleLed => ∃ request, multipleZoneMultipleLedParams params = .ok request ∧
      if request.force then c.zones.length < request.zoneColors.length
      else ¬ TakesSizes (p.driver i) request.zoneColors c
  | .control .setMultipleColors => ∃ items, multipleColorsParams params = .ok items ∧
      (decodeUpTo (decodeItem p.uninitialized c.leds.length) 0 items).2 ≠ none
  | .control .setKeyColor => ∃ keyName color, keyColorParams (p.uninitialized 0) params = .ok (keyName, color) ∧
      ∀ led ∈ c.leds, led.name ≠ keyName
  | .control .setMode => c.modes.length ≤ part.toNat
  | .control .updateMode => c.modes.length ≤ part.toNat ∨
      ∃ modeObj modeIdx, modeParams params = .ok (modeObj, modeIdx) ∧ ¬ ModeDecodes p.uninitialized modeObj
  | .control .resizeZone => ∀ z, c.zones[part.toNat]? = some z → z.ledsMin = z.ledsMax

/-- The controller behind the size requests up to the one that is refused. -/
def askUntilRefused (resizeZone : Nat → UInt32 → RGBController → RGBController) :
    Nat → List (List RGBColor) → RGBController → RGBController
  | _, [], c => c
  | zone, colors :: rest, c =>
      if c.countAt zone = some colors.length then askUntilRefused resizeZone (zone + 1) rest c
      else
        let d := resizeZone zone (UInt32.ofNat colors.length) c
        if d.countAt zone = some colors.length then askUntilRefused resizeZone (zone + 1) rest d else d

/-- The device is changed in front of the test that refuses the request. -/
def WritesFirst (i : Nat) (part : UInt32) (c : RGBController) : IndexedMethod → Prop
  | .control .setMultipleColors => ∃ items, multipleColorsParams params = .ok items ∧
      ¬ ItemsHarmless p.uninitialized items c
  | .control .updateMode => ∃ modeObj modeIdx m, modeParams params = .ok (modeObj, modeIdx) ∧
      c.modes[part.toNat]? = some m ∧ ¬ ModeHarmless p.uninitialized modeObj m
  | .control .setZoneMultipleLed => ∃ request z, zoneMultipleLedParams params = .ok request ∧
      request.force = false ∧ c.zones[part.toNat]? = some z ∧ request.colors.length ≠ z.ledsCount.toNat ∧
      z.ledsMin.toNat ≤ request.colors.length ∧ request.colors.length ≤ z.ledsMax.toNat ∧
      let d := p.driver i part.toNat (UInt32.ofNat request.colors.length) c
      d.countAt part.toNat ≠ some request.colors.length ∧ d ≠ c
  | .control .setMultipleZoneMultipleLed => ∃ request, multipleZoneMultipleLedParams params = .ok request ∧
      request.force = false ∧ checkZoneNumber false request.zoneColors.length c.zones.length = .ok () ∧
      checkCounts request.zoneColors c.zones = .ok () ∧ ¬ TakesAll (p.driver i) 0 request.zoneColors c ∧
      askUntilRefused (p.driver i) 0 request.zoneColors c ≠ c
  | _ => False

end

/-! ### Refusals -/

section
variable {σ α β : Type}

theorem refusal_failure (e : Failure) (s : σ) : Refusal ((.error (.failure e), s) : Except Stop α × σ) :=
  ⟨_, Stop.noConfusion, rfl⟩

theorem not_refusal_ok (a : α) (s : σ) : ¬ Refusal (.ok a, s) := by
  rintro ⟨e, _, same⟩
  cases same

theorem not_refusal_of_succeeds {m : Control σ α} (succeeds : Succeeds IsError m) (s : σ) : ¬ Refusal (m s) := by
  rintro ⟨e, counts, failed⟩
  exact succeeds s e (m s).2 (Prod.ext failed rfl) counts

theorem refusal_check {x : Handled β} {f : β → Control σ α} {s : σ}
    (never : ∀ b, ¬ Refusal (f b s)) : Refusal ((handled x >>= f) s) ↔ ∃ e, x = .error e := by
  cases x with
  | error e =>
      rw [handled_error rfl]
      exact iff_of_true (refusal_failure e s) ⟨e, rfl⟩
  | ok b =>
      rw [handled_ok rfl]
      apply iff_of_false (never b)
      rintro ⟨e, same⟩
      cases same

theorem refusal_bind {m : Control σ β} {f : β → Control σ α} {s : σ}
    (never : ∀ b t, ¬ Refusal (f b t)) : Refusal ((m >>= f) s) ↔ Refusal (m s) := by
  rcases run_cases m s with ⟨b, t, run⟩ | ⟨e, t, run⟩
  · rw [bind_ok run, run]
    exact iff_of_false (never b t) (not_refusal_ok b t)
  · rw [bind_error run, run]
    constructor
    · rintro ⟨_, counts, same⟩
      cases same
      exact ⟨e, counts, rfl⟩
    · rintro ⟨_, counts, same⟩
      cases same
      exact ⟨e, counts, rfl⟩

theorem storing_reply_succeeds (f : σ → Option σ) (reply : α) :
    Succeeds IsError (do storing f; return reply) :=
  (storing_succeeds f).bind fun _ => Succeeds.pure reply

theorem modify_reply_succeeds (f : σ → σ) (reply : α) :
    Succeeds IsError (do modify f; return reply) := (Succeeds.modify f).bind fun _ => Succeeds.pure reply

/-- Work behind a test of the state. -/
theorem refusal_tested {check : σ → Handled β} {f : β → Control σ α} {s : σ}
    (succeeds : ∀ b, Succeeds IsError (f b)) :
    Refusal ((do
      let b ← handled (check (← get))
      f b) s) ↔ ∃ e, check s = .error e := by
  rw [reading]
  exact refusal_check fun b => not_refusal_of_succeeds (succeeds b) s

end

section
variable {c : RGBController}

/-- A test that answers with one error. -/
theorem tested_error {p : Prop} [Decidable p] {refused : Handled Unit} {refusal : Failure}
    (refuses : refused = .error refusal) : (∃ e, (if p then return () else refused) = Except.error e) ↔ ¬p := by
  split
  · rename_i holds
    apply iff_of_false _ (not_not_intro holds)
    rintro ⟨e, failed⟩
    cases failed
  · rename_i fails
    exact iff_of_true ⟨refusal, refuses⟩ fails

theorem checkLed_error (ledIdx : UInt32) : (∃ e, checkLed ledIdx c = .error e) ↔ c.leds.length ≤ ledIdx.toNat :=
  (tested_error rfl).trans Nat.not_lt

theorem checkZone_error (zoneIdx : UInt32) :
    (∃ e, checkZone zoneIdx c = .error e) ↔ c.zones.length ≤ zoneIdx.toNat :=
  (tested_error rfl).trans Nat.not_lt

theorem checkMode_error (modeIdx : UInt32) :
    (∃ e, checkMode modeIdx c = .error e) ↔ c.modes.length ≤ modeIdx.toNat :=
  (tested_error rfl).trans Nat.not_lt

theorem checkResizable_error (zoneIdx : UInt32) : (∃ e, checkResizable zoneIdx c = .error e) ↔
    ∀ z, c.zones[zoneIdx.toNat]? = some z → z.ledsMin = z.ledsMax := by
  rw [checkResizable]
  cases c.zones[zoneIdx.toNat]? with
  | none =>
      apply iff_of_true ⟨_, rfl⟩
      intro z found
      cases found
  | some z =>
      dsimp only
      split
      · rename_i fixed
        apply iff_of_true ⟨_, rfl⟩
        intro z' same
        cases same
        exact fixed
      · rename_i resizable
        apply iff_of_false
        · rintro ⟨e, failed⟩
          cases failed
        · exact fun fixed => resizable (fixed z rfl)

theorem findKey_error (keyName : Bytes) :
    (∃ e, findKey keyName c = .error e) ↔ ∀ led ∈ c.leds, led.name ≠ keyName := by
  rw [findKey]
  cases index : c.leds.findIdx? fun led => led.name = keyName with
  | none =>
      apply iff_of_true ⟨_, rfl⟩
      simpa [List.findIdx?_eq_none_iff] using index
  | some ledIdx =>
      apply iff_of_false
      · rintro ⟨e, failed⟩
        cases failed
      · intro missing
        obtain ⟨inside, named, -⟩ := List.findIdx?_eq_some_iff_getElem.mp index
        exact missing _ (List.getElem_mem inside) (by simpa using named)

end

/-! ### Colors one by one -/

section
variable {σ α β : Type} {uninitialized : Nat → UInt32}

/-- Values that are written one by one fail with the first one that cannot be decoded. -/
theorem writeEach_refusal (decode : Nat → β → Handled α) (write : α → σ → σ) (xs : List β) (s : σ) :
    Refusal ((changing (writeEach decode write 0 xs) : Control σ Unit) s) ↔
      (decodeUpTo decode 0 xs).2 ≠ none := by
  rw [changing, writeEach_eq]
  cases (decodeUpTo decode 0 xs).2 with
  | none => exact iff_of_false (not_refusal_ok _ _) fun other => other rfl
  | some e => exact iff_of_true (refusal_failure e _) (Option.some_ne_none e)

theorem setItemColors_refusal (items : List Json) (c : RGBController) :
    Refusal ((changing (setItemColors uninitialized 0 items) : Control RGBController Unit) c) ↔
      (decodeUpTo (decodeItem uninitialized c.leds.length) 0 items).2 ≠ none := by
  rw [changing, setItemColors_eq]
  exact writeEach_refusal _ storeItem items c

theorem updateParameters_refusal (modeObj : Json) (m : Mode) :
    Refusal ((changing (updateParameters uninitialized modeObj) : Control Mode Unit) m) ↔
      ¬ ModeDecodes uninitialized modeObj := by
  rw [changing, updateParameters_run, ModeDecodes]
  cases speeds : optionalWord "speed" modeObj with
  | error e =>
      apply iff_of_true (refusal_failure e _)
      rintro ⟨⟨speed, same⟩, -⟩
      cases same
  | ok speed =>
      cases directions : optionalWord "direction" modeObj with
      | error e =>
          apply iff_of_true (refusal_failure e _)
          rintro ⟨-, ⟨direction, same⟩, -⟩
          cases same
      | ok direction =>
          have decoded (colors : Prop) : ((∃ s, (Except.ok speed : Handled _) = .ok s) ∧
              (∃ d, (Except.ok direction : Handled _) = .ok d) ∧ colors) ↔ colors := by simp
          rw [decoded]
          by_cases array : ∃ colors, modeObj.find "colors" = some (.array colors)
          · obtain ⟨colors, found⟩ := array
            dsimp only
            rw [updateColors_array uninitialized found, pushColors_eq]
            apply (writeEach_refusal _ _ colors _).trans
            simp [found]
          · dsimp only
            rw [updateColors_other uninitialized array]
            apply iff_of_false (not_refusal_ok _ _)
            exact fun other => other fun colors found => absurd ⟨colors, found⟩ array

end

/-! ### Sizes -/

section
variable (resizeZone : Nat → UInt32 → RGBController → RGBController)

theorem requestSizes_eq (zone : Nat) (given : List (List RGBColor)) (c : RGBController) :
    (TakesAll resizeZone zone given c ∧ (requestSizes resizeZone zone given c).1 = .ok () ∨
      ¬ TakesAll resizeZone zone given c ∧ (requestSizes resizeZone zone given c).1 = .error notSupported) ∧
      (requestSizes resizeZone zone given c).2 = askUntilRefused resizeZone zone given c := by
  induction given generalizing zone c with
  | nil => exact ⟨.inl ⟨trivial, rfl⟩, rfl⟩
  | cons colors rest ih =>
      have once := sizeUnlessSame_eq resizeZone zone colors.length c
      rw [requestSizes, TakesAll, askUntilRefused]
      by_cases same : c.countAt zone = some colors.length
      · rw [if_pos same] at once
        rw [if_pos same, if_pos same, bind_ok once]
        exact ih (zone + 1) c
      · rw [if_neg same, requestSize_eq] at once
        rw [if_neg same, if_neg same]
        by_cases taken : (resizeZone zone (UInt32.ofNat colors.length) c).countAt zone = some colors.length
        · rw [if_pos taken] at once
          rw [bind_ok once, if_pos taken]
          simpa only [taken, true_and] using ih (zone + 1) (resizeZone zone (UInt32.ofNat colors.length) c)
        · rw [if_neg taken] at once
          rw [bind_error once, if_neg taken]
          exact ⟨.inr ⟨fun all => taken all.1, rfl⟩, rfl⟩

variable {resizeZone}

theorem sizeZone_refusal (force : Bool) (zone n : Nat) (c : RGBController) :
    Refusal (sizeZone resizeZone force zone n c) ↔
      if force then c.zones.length ≤ zone else ¬ TakesSize resizeZone zone n c := by
  cases force with
  | false =>
      rw [if_neg Bool.false_ne_true]
      rcases @sizeZone_run resizeZone zone n c with ⟨takes, run⟩ | ⟨refuses, e, t, counts, run⟩
      · rw [run]
        exact iff_of_false (not_refusal_ok _ _) fun refuses => refuses takes
      · rw [run]
        exact iff_of_true ⟨e, counts, rfl⟩ refuses
  | true =>
      have read : (get : Control RGBController RGBController) c = (.ok c, c) := rfl
      rw [if_pos rfl, sizeZone, bind_ok read, ← List.getElem?_eq_none_iff]
      cases c.zones[zone]? with
      | none => exact iff_of_true (refusal_failure _ c) rfl
      | some z =>
          apply iff_of_false _ (Option.some_ne_none z)
          dsimp only
          split
          · exact not_refusal_ok _ c
          · exact not_refusal_ok _ _

theorem checkZoneNumber_error (force : Bool) (given zones : Nat) :
    (∃ e, checkZoneNumber force given zones = .error e) ↔ given > zones ∨ (force = false ∧ given ≠ zones) := by
  rw [checkZoneNumber]
  split
  · rename_i refused
    exact iff_of_true ⟨_, rfl⟩ refused
  · rename_i passed
    apply iff_of_false _ passed
    rintro ⟨e, failed⟩
    cases failed

theorem sizeZones_unforced (given : List (List RGBColor)) (c : RGBController) :
    sizeZones resizeZone false given c = (do
      handled (checkZoneNumber false given.length c.zones.length)
      handled (checkCounts given c.zones)
      requestSizes resizeZone 0 given) c := rfl

theorem sizeZones_refusal (force : Bool) (given : List (List RGBColor)) (c : RGBController) :
    Refusal (sizeZones resizeZone force given c) ↔
      if force then c.zones.length < given.length else ¬ TakesSizes resizeZone given c := by
  cases force with
  | true =>
      have shape : sizeZones resizeZone true given c =
          (do
            handled (checkZoneNumber true given.length c.zones.length)
            storing (forceSizes given)) c := rfl
      rw [shape, if_pos rfl, refusal_check fun _ => not_refusal_of_succeeds (storing_succeeds _) c,
        checkZoneNumber_error]
      simp
  | false =>
      rw [sizeZones_unforced, if_neg Bool.false_ne_true, TakesSizes]
      cases number : checkZoneNumber false given.length c.zones.length with
      | error e =>
          rw [handled_error rfl]
          apply iff_of_true (refusal_failure e c)
          rintro ⟨same, -⟩
          cases same
      | ok _ =>
          rw [handled_ok rfl]
          cases counts : checkCounts given c.zones with
          | error e =>
              rw [handled_error rfl]
              apply iff_of_true (refusal_failure e c)
              rintro ⟨-, same, -⟩
              cases same
          | ok _ =>
              rw [handled_ok rfl]
              rcases (requestSizes_eq resizeZone 0 given c).1 with ⟨all, ok⟩ | ⟨refused, error⟩
              · apply iff_of_false
                · rintro ⟨e, _, same⟩
                  rw [ok] at same
                  cases same
                · exact fun refuses => refuses ⟨rfl, rfl, all⟩
              · apply iff_of_true
                · exact ⟨_, Stop.noConfusion, error⟩
                · exact fun takes => refused takes.2.2

/-- The device is left changed exactly when it refuses a size and has changed at that. -/
theorem sizeZone_failsClean (force : Bool) (zone n : Nat) (c : RGBController) :
    FailsClean IsError (sizeZone resizeZone force zone n) c ↔
      ¬ (force = false ∧ ∃ z, c.zones[zone]? = some z ∧ n ≠ z.ledsCount.toNat ∧ z.ledsMin.toNat ≤ n ∧
        n ≤ z.ledsMax.toNat ∧ (resizeZone zone (UInt32.ofNat n) c).countAt zone ≠ some n ∧
        resizeZone zone (UInt32.ofNat n) c ≠ c) := by
  have read : (get : Control RGBController RGBController) c = (.ok c, c) := rfl
  rw [FailsClean, sizeZone, bind_ok read]
  cases found : c.zones[zone]? with
  | none =>
      apply iff_of_true
      · exact FailsClean.of_reads (reads_handled _)
      · rintro ⟨-, z, same, -⟩
        cases same
  | some z =>
      dsimp only
      by_cases same : n = z.ledsCount.toNat
      · rw [if_pos same]
        apply iff_of_true
        · exact FailsClean.of_succeeds (Succeeds.pure _)
        · rintro ⟨-, z', here, differs, -⟩
          cases here
          exact differs same
      · rw [if_neg same]
        cases force with
        | true =>
            apply iff_of_true
            · exact FailsClean.of_succeeds (Succeeds.modify _)
            · rintro ⟨forced, -⟩
              cases forced
        | false =>
            by_cases range : n < z.ledsMin.toNat ∨ z.ledsMax.toNat < n
            · simp only [Bool.false_eq_true, if_false, if_pos range]
              apply iff_of_true
              · exact FailsClean.of_reads (reads_handled _)
              · rintro ⟨-, z', here, -, low, high, -⟩
                cases here
                omega
            · simp only [Bool.false_eq_true, if_false, if_neg range, requestSize_eq]
              by_cases taken : (resizeZone zone (UInt32.ofNat n) c).countAt zone = some n
              · rw [if_pos taken]
                apply iff_of_true
                · intro e t run
                  cases run
                · rintro ⟨-, z', -, -, -, -, refused, -⟩
                  exact refused taken
              · rw [if_neg taken]
                constructor
                · rintro clean ⟨-, z', -, -, -, -, -, changed⟩
                  exact changed (clean _ _ rfl Stop.noConfusion)
                · intro harmless e t run _
                  cases run
                  by_contra changed
                  exact harmless ⟨trivial, z, rfl, same, by omega, by omega, taken, changed⟩

theorem sizeZones_left (force : Bool) (given : List (List RGBColor)) (c : RGBController) :
    FailsClean IsError (sizeZones resizeZone force given) c ↔
      ¬ (force = false ∧ checkZoneNumber false given.length c.zones.length = .ok () ∧
        checkCounts given c.zones = .ok () ∧ ¬ TakesAll resizeZone 0 given c ∧
        askUntilRefused resizeZone 0 given c ≠ c) := by
  cases force with
  | true =>
      apply iff_of_true
      · apply behind_handled.mpr
        intro _ _
        exact FailsClean.of_succeeds (storing_succeeds _)
      · rintro ⟨forced, -⟩
        cases forced
  | false =>
      rw [FailsClean, sizeZones_unforced]
      cases number : checkZoneNumber false given.length c.zones.length with
      | error e =>
          rw [handled_error rfl]
          apply iff_of_true
          · intro e' t run _
            cases run
            rfl
          · rintro ⟨-, same, -⟩
            cases same
      | ok _ =>
          rw [handled_ok rfl]
          cases counts : checkCounts given c.zones with
          | error e =>
              rw [handled_error rfl]
              apply iff_of_true
              · intro e' t run _
                cases run
                rfl
              · rintro ⟨-, -, same, -⟩
                cases same
          | ok _ =>
              rw [handled_ok rfl]
              obtain ⟨outcome, left⟩ := requestSizes_eq resizeZone 0 given c
              rcases outcome with ⟨all, ok⟩ | ⟨refused, error⟩
              · apply iff_of_true
                · intro e t run _
                  rw [run] at ok
                  cases ok
                · exact fun changed => changed.2.2.2.1 all
              · rw [← left]
                constructor
                · intro clean changed
                  exact changed.2.2.2.2 (clean _ _ (Prod.ext error rfl) Stop.noConfusion)
                · intro harmless e t run _
                  by_contra changed
                  apply harmless
                  refine ⟨rfl, rfl, rfl, refused, ?_⟩
                  rw [run]
                  exact changed

end

/-! ### Work on the device -/

section
variable {p : Platform} {params : Json} {i : Nat} {part : UInt32} {c : RGBController}

theorem controllerToJSON_refusal (vectorTooLong : Bytes) (c : RGBController) :
    Refusal ((controllerToJSON vectorTooLong c : Control RGBController Json) c) ↔
      c.activeMode < 0 ∧ c.activeMode ≠ -1 := by
  rw [controllerToJSON, activeModeName]
  split
  · rename_i mode
    apply iff_of_false (not_refusal_ok _ c)
    rintro ⟨negative, -⟩
    exact absurd negative (Int32.not_lt.mpr mode)
  · rename_i negative
    split
    · rename_i minusOne
      apply iff_of_false
      · rintro ⟨e, counts, same⟩
        cases same
        exact counts rfl
      · exact fun other => other.2 minusOne
    · rename_i other
      apply iff_of_true ⟨_, Stop.noConfusion, rfl⟩
      exact ⟨Int32.not_le.mp negative, other⟩

theorem onPart_refusal {m : Mode} (mode : c.modes[part.toNat]? = some m) (work : Change Mode Unit) :
    Refusal ((changing (onPart part work) : Control RGBController Unit) c) ↔
      Refusal ((changing work : Control Mode Unit) m) := by
  rw [changing, changing, onPart, mode]
  rcases run_cases work m with ⟨_, d, run⟩ | ⟨e, d, run⟩
  · simp only [run]
    exact iff_of_false (not_refusal_ok _ _) (not_refusal_ok _ _)
  · simp only [run]
    exact iff_of_true (refusal_failure e _) (refusal_failure e _)

/-- What is done on the device is refused by the tests that are made on it and by nothing else. -/
theorem act_refusal (vectorTooLong : Bytes) {method : IndexedMethod}
    (tested : partIndex p params method = .ok part) :
    Refusal (act vectorTooLong p params i part method c) ↔ Refuses p params i part c method := by
  cases method with
  | getControllerData =>
      rw [act, reading]
      apply (refusal_bind fun _ d => not_refusal_ok _ d).trans
      exact controllerToJSON_refusal vectorTooLong c
  | getControllerInfo => exact iff_of_false (not_refusal_ok _ c) id
  | control method =>
      cases method with
      | getZones => exact iff_of_false (not_refusal_ok _ c) id
      | setCustomMode => exact iff_of_false (not_refusal_ok _ _) id
      | setMode =>
          apply (refusal_tested fun _ => modify_reply_succeeds _ _).trans
          exact checkMode_error part
      | clearSegments =>
          apply (refusal_tested fun _ => storing_reply_succeeds _ _).trans
          exact checkZone_error part
      | setLEDColor =>
          obtain ⟨⟨ledIdx, color⟩, given, -⟩ := Handled.bind_eq_ok.mp tested
          rw [act, handled_ok given]
          apply (refusal_tested fun _ => modify_reply_succeeds _ _).trans
          exact checkLed_error part
      | setZoneColor =>
          obtain ⟨⟨zoneIdx, color⟩, given, -⟩ := Handled.bind_eq_ok.mp tested
          rw [act, handled_ok given]
          apply (refusal_bind fun _ d => not_refusal_ok _ d).trans
          apply (refusal_tested fun _ => storing_succeeds _).trans
          exact checkZone_error part
      | setAllColors =>
          obtain ⟨color, given, -⟩ := Handled.bind_eq_ok.mp tested
          rw [act, handled_ok given]
          exact iff_of_false (not_refusal_of_succeeds (storing_reply_succeeds _ _) c) id
      | setKeyColor =>
          obtain ⟨⟨keyName, color⟩, given, -⟩ := Handled.bind_eq_ok.mp tested
          rw [act, handled_ok given]
          apply (refusal_tested fun _ => modify_reply_succeeds _ _).trans
          apply (findKey_error keyName).trans
          constructor
          · exact fun missing => ⟨keyName, color, given, missing⟩
          · rintro ⟨_, _, same, missing⟩
            cases given.symm.trans same
            exact missing
      | resizeZone =>
          obtain ⟨⟨zoneIdx, newSize⟩, given, -⟩ := Handled.bind_eq_ok.mp tested
          rw [act, handled_ok given]
          apply (refusal_tested fun _ => modify_reply_succeeds _ _).trans
          exact checkResizable_error part
      | addSegment =>
          obtain ⟨⟨zoneIdx, newSeg⟩, given, -⟩ := Handled.bind_eq_ok.mp tested
          rw [act, handled_ok given]
          apply (refusal_tested fun _ => storing_reply_succeeds _ _).trans
          exact checkZone_error part
      | setMultipleColors =>
          obtain ⟨items, given, -⟩ := Handled.bind_eq_ok.mp tested
          rw [act, handled_ok given]
          apply (refusal_bind fun _ d => not_refusal_ok _ d).trans
          apply (setItemColors_refusal items c).trans
          constructor
          · exact fun undecodable => ⟨items, given, undecodable⟩
          · rintro ⟨_, same, undecodable⟩
            cases given.symm.trans same
            exact undecodable
      | setZoneMultipleLed =>
          obtain ⟨request, given, -⟩ := Handled.bind_eq_ok.mp tested
          rw [act, handled_ok given]
          apply (refusal_bind fun _ d => not_refusal_ok _ d).trans
          apply (refusal_bind fun _ d => not_refusal_of_succeeds (storing_succeeds _) d).trans
          apply (sizeZone_refusal _ _ _ c).trans
          constructor
          · exact fun refused => ⟨request, given, refused⟩
          · rintro ⟨_, same, refused⟩
            cases given.symm.trans same
            exact refused
      | setMultipleZoneMultipleLed =>
          obtain ⟨request, given, -⟩ := Handled.bind_eq_ok.mp tested
          rw [act, handled_ok given]
          apply (refusal_bind fun _ d => not_refusal_ok _ d).trans
          apply (refusal_bind fun _ d => not_refusal_of_succeeds (storing_succeeds _) d).trans
          apply (sizeZones_refusal _ _ c).trans
          constructor
          · exact fun refused => ⟨request, given, refused⟩
          · rintro ⟨_, same, refused⟩
            cases given.symm.trans same
            exact refused
      | updateMode =>
          obtain ⟨⟨modeObj, modeIdx⟩, given, -⟩ := Handled.bind_eq_ok.mp tested
          rw [act, handled_ok given]
          dsimp only
          rw [reading]
          have undecodable : (∃ modeObj modeIdx, modeParams params = .ok (modeObj, modeIdx) ∧
              ¬ ModeDecodes p.uninitialized modeObj) ↔ ¬ ModeDecodes p.uninitialized modeObj := by
            constructor
            · rintro ⟨_, _, same, refused⟩
              cases given.symm.trans same
              exact refused
            · exact fun refused => ⟨modeObj, modeIdx, given, refused⟩
          rw [Refuses, undecodable, ← checkMode_error]
          cases checked : checkMode part c with
          | error e =>
              rw [handled_error rfl]
              exact iff_of_true (refusal_failure e c) (.inl ⟨e, rfl⟩)
          | ok _ =>
              have inside : part.toNat < c.modes.length := by
                by_contra outside
                obtain ⟨e, failed⟩ := (checkMode_error part).mpr (by omega : c.modes.length ≤ part.toNat)
                rw [failed] at checked
                cases checked
              rw [handled_ok rfl]
              apply (refusal_bind fun _ d => not_refusal_ok _ _).trans
              apply (onPart_refusal (List.getElem?_eq_getElem inside) _).trans
              apply (updateParameters_refusal modeObj _).trans
              simp

theorem onPart_failsClean {work : Change Mode Unit} :
    FailsClean IsError (changing (onPart part work)) c ↔
      ∀ m, c.modes[part.toNat]? = some m → FailsClean (fun _ => True) work m := by
  apply changing_failsClean.trans
  constructor
  · intro clean m mode e t run counted
    have left := clean e { c with modes := c.modes.set part.toNat t } (by simp only [onPart, mode, run]) counted
    have same := congrArg (fun c : RGBController => c.modes[part.toNat]?) left
    have inside := List.getElem?_eq_some_iff.mp mode |>.1
    simpa [mode, List.getElem?_set_self inside] using same
  · intro clean e d run counted
    unfold onPart at run
    split at run
    · rename_i m mode
      rcases run_cases work m with ⟨_, t, worked⟩ | ⟨e', t, worked⟩
      · rw [worked] at run
        cases run
      · rw [worked] at run
        cases run
        rw [clean m mode e t worked counted]
        obtain ⟨inside, rfl⟩ := List.getElem?_eq_some_iff.mp mode
        rw [List.set_getElem_self]
    · cases run

/-- Work behind a test of the state fails there or not at all. -/
theorem clean_tested {σ α β : Type} {check : σ → Handled β} {f : β → Control σ α} {s : σ}
    (succeeds : ∀ b, Succeeds IsError (f b)) :
    FailsClean IsError (do
      let b ← handled (check (← get))
      f b) s := by
  apply clean_behind ReadsOnly.get
  intro t
  apply clean_behind (reads_handled _)
  intro b
  exact FailsClean.of_succeeds (succeeds b)

/-- A request that is refused leaves the device as it was, unless it writes in front of the test. -/
theorem act_failsClean (vectorTooLong : Bytes) {method : IndexedMethod}
    (tested : partIndex p params method = .ok part) :
    FailsClean IsError (act vectorTooLong p params i part method) c ↔
      ¬ WritesFirst p params i part c method := by
  cases method with
  | getControllerData =>
      apply iff_of_true _ id
      intro e t run _
      rw [act, reading] at run
      rcases report : ((controllerToJSON vectorTooLong c : Control Unit Json) ()).1 with failure | j
      · have once := (controllerToJSON_run vectorTooLong c c).trans (by rw [report])
        rw [bind_error once] at run
        cases run
        rfl
      · have once := (controllerToJSON_run vectorTooLong c c).trans (by rw [report])
        rw [bind_ok once] at run
        cases run
  | getControllerInfo => exact iff_of_true (FailsClean.of_succeeds fun _ _ _ run => by cases run) id
  | control method =>
      cases method with
      | getZones => exact iff_of_true (FailsClean.of_succeeds fun _ _ _ run => by cases run) id
      | setCustomMode => exact iff_of_true (FailsClean.of_succeeds (modify_reply_succeeds _ _)) id
      | setMode => exact iff_of_true (clean_tested fun _ => modify_reply_succeeds _ _) id
      | clearSegments => exact iff_of_true (clean_tested fun _ => storing_reply_succeeds _ _) id
      | setLEDColor =>
          apply iff_of_true _ id
          apply clean_behind (reads_handled _)
          rintro ⟨ledIdx, color⟩
          exact clean_tested fun _ => modify_reply_succeeds _ _
      | setZoneColor =>
          apply iff_of_true _ id
          apply clean_behind (reads_handled _)
          rintro ⟨zoneIdx, color⟩
          apply (FailsClean.bind_of_succeeds fun _ => Succeeds.pure _).mpr
          exact clean_tested fun _ => storing_succeeds _
      | setAllColors =>
          apply iff_of_true _ id
          apply clean_behind (reads_handled _)
          intro color
          exact FailsClean.of_succeeds (storing_reply_succeeds _ _)
      | setKeyColor =>
          apply iff_of_true _ id
          apply clean_behind (reads_handled _)
          rintro ⟨keyName, color⟩
          exact clean_tested fun _ => modify_reply_succeeds _ _
      | resizeZone =>
          apply iff_of_true _ id
          apply clean_behind (reads_handled _)
          rintro ⟨zoneIdx, newSize⟩
          exact clean_tested fun _ => modify_reply_succeeds _ _
      | addSegment =>
          apply iff_of_true _ id
          apply clean_behind (reads_handled _)
          rintro ⟨zoneIdx, newSeg⟩
          exact clean_tested fun _ => storing_reply_succeeds _ _
      | setMultipleColors =>
          obtain ⟨items, given, -⟩ := Handled.bind_eq_ok.mp tested
          rw [act, FailsClean, handled_ok given]
          apply (FailsClean.bind_of_succeeds fun _ => Succeeds.pure _).trans
          apply (changing_failsClean.trans (setItemColors_failsClean _ items c)).trans
          constructor
          · rintro harmless ⟨_, same, writes⟩
            cases given.symm.trans same
            exact writes harmless
          · intro harmless
            by_contra writes
            exact harmless ⟨items, given, writes⟩
      | setZoneMultipleLed =>
          obtain ⟨request, given, -⟩ := Handled.bind_eq_ok.mp tested
          rw [act, FailsClean, handled_ok given]
          apply (FailsClean.bind_of_succeeds fun _ => Succeeds.pure _).trans
          apply (FailsClean.bind_of_succeeds fun _ => storing_succeeds _).trans
          apply (sizeZone_failsClean _ _ _ c).trans
          apply not_congr
          constructor
          · rintro ⟨unforced, z, changed⟩
            exact ⟨request, z, given, unforced, changed⟩
          · rintro ⟨_, z, same, unforced, changed⟩
            cases given.symm.trans same
            exact ⟨unforced, z, changed⟩
      | setMultipleZoneMultipleLed =>
          obtain ⟨request, given, -⟩ := Handled.bind_eq_ok.mp tested
          rw [act, FailsClean, handled_ok given]
          apply (FailsClean.bind_of_succeeds fun _ => Succeeds.pure _).trans
          apply (FailsClean.bind_of_succeeds fun _ => storing_succeeds _).trans
          apply (sizeZones_left _ _ c).trans
          apply not_congr
          constructor
          · exact fun changed => ⟨request, given, changed⟩
          · rintro ⟨_, same, changed⟩
            cases given.symm.trans same
            exact changed
      | updateMode =>
          obtain ⟨⟨modeObj, modeIdx⟩, given, -⟩ := Handled.bind_eq_ok.mp tested
          rw [act, FailsClean, handled_ok given]
          dsimp only
          rw [reading]
          apply behind_handled.trans
          constructor
          · rintro clean ⟨_, _, m, same, mode, writes⟩
            cases given.symm.trans same
            have checked : checkMode part c = .ok () := if_pos (List.getElem?_eq_some_iff.mp mode).1
            have work := (FailsClean.bind_of_succeeds fun _ => modify_reply_succeeds _ _).mp (clean () checked)
            exact writes ((updateParameters_failsClean _ modeObj m).mp (onPart_failsClean.mp work m mode))
          · intro harmless _ _
            apply (FailsClean.bind_of_succeeds fun _ => modify_reply_succeeds _ _).mpr
            apply onPart_failsClean.mpr
            intro m mode
            apply (updateParameters_failsClean _ modeObj m).mpr
            by_contra writes
            exact harmless ⟨modeObj, modeIdx, m, given, mode, writes⟩

end

end JsonRpc
end SyncRGB
