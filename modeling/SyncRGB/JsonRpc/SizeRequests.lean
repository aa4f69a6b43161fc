import SyncRGB.JsonRpc.CleanErrors

/-! New sizes that a device is asked for one after the other: a device that applies or ignores a size leaves
a changed controller behind exactly when it refuses a later size than one it has taken. -/
namespace SyncRGB
open ByteCodec Effect RGBController
namespace JsonRpc
variable (resizeZone : Nat → UInt32 → RGBController → RGBController)

/-- The device takes every size that differs. -/
def TakesAll : Nat → List (List RGBColor) → RGBController → Prop
  | _, [], _ => True
  | zone, colors :: rest, c =>
      if c.countAt zone = some colors.length then TakesAll (zone + 1) rest c
      else
        let d := resizeZone zone (UInt32.ofNat colors.length) c
        d.countAt zone = some colors.length ∧ TakesAll (zone + 1) rest d

/-- The device refuses the first size that differs, or takes every one. -/
def RefusesFirstOrTakesAll : Nat → List (List RGBColor) → RGBController → Prop
  | _, [], _ => True
  | zone, colors :: rest, c =>
      if c.countAt zone = some colors.length then RefusesFirstOrTakesAll (zone + 1) rest c
      else
        let d := resizeZone zone (UInt32.ofNat colors.length) c
        d.countAt zone = some colors.length → TakesAll resizeZone (zone + 1) rest d

/-- The controller behind a request. -/
def askSize (zone n : Nat) (c : RGBController) : RGBController :=
  if c.countAt zone = some n then c else resizeZone zone (UInt32.ofNat n) c

/-- The controller behind all the requests. -/
def askSizes : Nat → List (List RGBColor) → RGBController → RGBController
  | _, [], c => c
  | zone, colors :: rest, c => askSizes (zone + 1) rest (askSize resizeZone zone colors.length c)

def notSupported : Stop :=
  .failure (.error errResizeNotSupported (ascii "Zone does not support the requested LED count"))

theorem requestSize_eq (zone n : Nat) (c : RGBController) :
    requestSize resizeZone zone n c =
      if (resizeZone zone (UInt32.ofNat n) c).countAt zone = some n then
        (.ok (), resizeZone zone (UInt32.ofNat n) c)
      else (.error notSupported, resizeZone zone (UInt32.ofNat n) c) := by
  have resized : (modify (resizeZone zone (UInt32.ofNat n)) : Control RGBController Unit) c =
      (.ok (), resizeZone zone (UInt32.ofNat n) c) := rfl
  have read (d : RGBController) : (get : Control RGBController RGBController) d = (.ok d, d) := rfl
  rw [requestSize, bind_ok resized, bind_ok (read _)]
  unfold countAt
  split
  · rfl
  · rfl

theorem sizeUnlessSame_eq (zone n : Nat) (c : RGBController) :
    sizeUnlessSame resizeZone zone n c =
      if c.countAt zone = some n then (.ok (), c) else requestSize resizeZone zone n c := by
  have read : (get : Control RGBController RGBController) c = (.ok c, c) := rfl
  rw [sizeUnlessSame, bind_ok read]
  unfold countAt
  split
  · rfl
  · rfl

variable {resizeZone}

theorem requestSizes_ok {zone : Nat} {given : List (List RGBColor)} {c : RGBController}
    (all : TakesAll resizeZone zone given c) :
    requestSizes resizeZone zone given c = (.ok (), askSizes resizeZone zone given c) := by
  induction given generalizing zone c with
  | nil => rfl
  | cons colors rest ih =>
      have once := sizeUnlessSame_eq resizeZone zone colors.length c
      rw [TakesAll] at all
      rw [askSizes, askSize]
      split at all
      · rename_i same
        rw [if_pos same] at once ⊢
        exact (bind_ok once).trans (ih all)
      · rename_i differs
        rw [if_neg differs, requestSize_eq, if_pos all.1] at once
        rw [if_neg differs]
        exact (bind_ok once).trans (ih all.2)

/-- What holds behind each answer of the device holds behind all the requests. -/
theorem askSizes_induction {inv : RGBController → Prop}
    (step : ∀ zone n c, inv c → inv (resizeZone zone n c)) (zone : Nat) (given : List (List RGBColor))
    {c : RGBController} (holds : inv c) : inv (askSizes resizeZone zone given c) := by
  induction given generalizing zone c with
  | nil => exact holds
  | cons colors rest ih =>
      rw [askSizes, askSize]
      apply ih
      split
      · exact holds
      · exact step _ _ _ holds

variable (behaves : AppliesOrIgnores resizeZone)
include behaves

theorem other_countAt {zone other : Nat} (n : UInt32) (c : RGBController) (away : other ≠ zone) :
    (resizeZone zone n c).countAt other = c.countAt other := by
  rcases behaves zone n c with same | applied
  · rw [same]
  · rw [countAt_of_applied applied, if_neg away]

theorem zones_length_resizeZone (zone : Nat) (n : UInt32) (c : RGBController) :
    (resizeZone zone n c).zones.length = c.zones.length := by
  rcases behaves zone n c with same | applied
  · rw [same]
  · simpa using congrArg List.length applied

theorem zones_length_askSizes (zone : Nat) (given : List (List RGBColor)) (c : RGBController) :
    (askSizes resizeZone zone given c).zones.length = c.zones.length := by
  have step (zone : Nat) (n : UInt32) (d : RGBController) (same : d.zones.length = c.zones.length) :
      (resizeZone zone n d).zones.length = c.zones.length :=
    (zones_length_resizeZone behaves zone n d).trans same
  exact askSizes_induction step zone given rfl

theorem countAt_askSizes_of_lt {zone k : Nat} (given : List (List RGBColor)) (c : RGBController)
    (before : k < zone) : (askSizes resizeZone zone given c).countAt k = c.countAt k := by
  induction given generalizing zone c with
  | nil => rfl
  | cons colors rest ih =>
      rw [askSizes, ih _ (by omega), askSize]
      split
      · rfl
      · exact other_countAt behaves _ c (by omega)

/-- Behind the requests each zone has as many LEDs as it is given colors. -/
theorem countAt_askSizes {zone k : Nat} {given : List (List RGBColor)} {c : RGBController}
    (all : TakesAll resizeZone zone given c) {colors : List RGBColor} (gives : given[k]? = some colors) :
    (askSizes resizeZone zone given c).countAt (zone + k) = some colors.length := by
  induction given generalizing zone k c with
  | nil => cases gives
  | cons first rest ih =>
      rw [TakesAll] at all
      rw [askSizes, askSize]
      cases k with
      | zero =>
          cases gives
          rw [Nat.add_zero zone, countAt_askSizes_of_lt behaves rest _ (by omega)]
          split at all
          · rename_i same
            rw [if_pos same, same]
          · rename_i differs
            rw [if_neg differs, all.1]
      | succ k =>
          have behind : zone + (k + 1) = zone + 1 + k := by omega
          rw [behind]
          split at all
          · rename_i same
            rw [if_pos same]
            exact ih all gives
          · rename_i differs
            rw [if_neg differs]
            exact ih all.2 gives

/-- A size that is refused has been ignored. -/
theorem refused_ignored {zone n : Nat} {c : RGBController} (exists_ : zone < c.zones.length)
    (small : n < 2 ^ 32) (refused : (resizeZone zone (UInt32.ofNat n) c).countAt zone ≠ some n) :
    resizeZone zone (UInt32.ofNat n) c = c := by
  rcases behaves zone (UInt32.ofNat n) c with same | applied
  · exact same
  · rw [countAt_of_applied applied, if_pos rfl, if_pos exists_] at refused
    exact absurd (congrArg some (UInt32.toNat_ofNat_of_lt' small)) refused

/-- The requests behind a zone leave its size alone, and fail when one of them is refused. -/
theorem requestSizes_run (zone : Nat) (given : List (List RGBColor)) (c : RGBController) :
    ∃ result d, requestSizes resizeZone zone given c = (result, d) ∧
      (∀ k < zone, d.countAt k = c.countAt k) ∧
      (TakesAll resizeZone zone given c ∧ result = .ok () ∨
        ¬ TakesAll resizeZone zone given c ∧ result = .error notSupported) := by
  induction given generalizing zone c with
  | nil => exact ⟨_, _, rfl, fun _ _ => rfl, .inl ⟨trivial, rfl⟩⟩
  | cons colors rest ih =>
      by_cases same : c.countAt zone = some colors.length
      · have once : sizeUnlessSame resizeZone zone colors.length c = (.ok (), c) := by
          rw [sizeUnlessSame_eq, if_pos same]
        obtain ⟨result, d, run, kept, outcome⟩ := ih (zone + 1) c
        refine ⟨result, d, (bind_ok once).trans run, fun k before => kept k (by omega), ?_⟩
        rwa [TakesAll, if_pos same]
      · have once := sizeUnlessSame_eq resizeZone zone colors.length c
        rw [if_neg same, requestSize_eq] at once
        by_cases taken : (resizeZone zone (UInt32.ofNat colors.length) c).countAt zone = some colors.length
        · rw [if_pos taken] at once
          obtain ⟨result, d, run, kept, outcome⟩ :=
            ih (zone + 1) (resizeZone zone (UInt32.ofNat colors.length) c)
          refine ⟨result, d, (bind_ok once).trans run, ?_, ?_⟩
          · intro k before
            rw [kept k (by omega), other_countAt behaves _ c (by omega)]
          · simpa only [TakesAll, if_neg same, taken, true_and] using outcome
        · rw [if_neg taken] at once
          refine ⟨_, _, bind_error once, ?_, .inr ⟨?_, rfl⟩⟩
          · intro k before
            exact other_countAt behaves _ c (by omega)
          · rw [TakesAll, if_neg same]
            exact fun all => taken all.1

theorem requestSizes_failsClean (zone : Nat) (given : List (List RGBColor)) (c : RGBController)
    (room : zone + given.length ≤ c.zones.length) (small : ∀ colors ∈ given, colors.length < 2 ^ 32) :
    FailsClean IsError (requestSizes resizeZone zone given) c ↔
      RefusesFirstOrTakesAll resizeZone zone given c := by
  induction given generalizing zone with
  | nil =>
      apply iff_of_true _ trivial
      exact FailsClean.of_succeeds (Succeeds.pure _)
  | cons colors rest ih =>
      rw [List.length_cons] at room
      rw [RefusesFirstOrTakesAll]
      by_cases same : c.countAt zone = some colors.length
      · have once : sizeUnlessSame resizeZone zone colors.length c = (.ok (), c) := by
          rw [sizeUnlessSame_eq, if_pos same]
        rw [if_pos same, ← ih (zone + 1) (by omega) fun colors mem => small colors (.tail _ mem), FailsClean,
          FailsClean, requestSizes, bind_ok once]
      · have once := sizeUnlessSame_eq resizeZone zone colors.length c
        rw [if_neg same, requestSize_eq] at once
        rw [if_neg same]
        by_cases taken : (resizeZone zone (UInt32.ofNat colors.length) c).countAt zone = some colors.length
        · rw [if_pos taken] at once
          obtain ⟨result, d, run, kept, outcome⟩ :=
            requestSizes_run behaves (zone + 1) rest (resizeZone zone (UInt32.ofNat colors.length) c)
          -- The size that was taken is still there when a later one is refused.
          have changed : d ≠ c := by
            intro equal
            have still := kept zone (by omega)
            rw [equal, taken] at still
            exact same still
          rw [FailsClean, requestSizes, bind_ok once, run]
          rcases outcome with ⟨all, ok⟩ | ⟨refused, error⟩
          · apply iff_of_true
            · intro e t fails _
              rw [ok] at fails
              cases fails
            · exact fun _ => all
          · apply iff_of_false
            · intro clean
              exact changed (clean _ _ (Prod.ext error rfl) (by simp [IsError, notSupported]))
            · exact fun all => refused (all taken)
        · rw [if_neg taken] at once
          apply iff_of_true
          · intro e t run _
            rw [requestSizes, bind_error once] at run
            cases run
            exact refused_ignored behaves (by omega) (small colors (.head _)) taken
          · exact fun all => absurd all taken

end JsonRpc
end SyncRGB
