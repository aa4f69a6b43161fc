import SyncRGB.Cli.ApplyOptions

/-! The speed and the brightness that are stored for a percentage. The range of a mode may run either way. -/
namespace SyncRGB
namespace Cli

/-- A value from one bound of a range to the other. -/
def InRange (min max value : UInt32) : Prop := min ≤ value ∧ value ≤ max ∨ max ≤ value ∧ value ≤ min

/-- The values for the percentages run from one bound to the other. -/
structure RunsThrough (min max : UInt32) (value : UInt32 → UInt32) : Prop where
  inside (p : UInt32) : p ≤ 100 → InRange min max (value p)
  first : value 0 = min
  last : value 100 = max
  /-- A greater percentage is no further from the maximum. -/
  towards (p q : UInt32) : p ≤ q → q ≤ 100 → InRange (value p) max (value q)

/-- The range runs upwards and a hundred times its length has 32 bits; or it runs from the greatest number down to 0,
which is one step upwards in 32 bits. -/
def ScaleFits (min max : UInt32) : Prop :=
  min ≤ max ∧ (max.toNat - min.toNat) * 100 < 2 ^ 32 ∨ min = 0xFFFFFFFF ∧ max = 0

section
variable {min max : UInt32}

theorem difference_cases (min max : UInt32) :
    min.toNat ≤ max.toNat ∧ min.toNat + (max - min).toNat = max.toNat ∨
      max.toNat < min.toNat ∧ min.toNat + (max - min).toNat = max.toNat + 2 ^ 32 := by
  have below := min.toNat_lt
  have above := max.toNat_lt
  rw [UInt32.toNat_sub]
  omega

theorem scaled_toNat (min max p : UInt32) :
    (scaled min max p).toNat = (min.toNat + (max - min).toNat * p.toNat % 2 ^ 32 / 100) % 2 ^ 32 := by
  rw [scaled, UInt32.toNat_add, UInt32.toNat_div, UInt32.toNat_mul]
  rfl

theorem scaled_zero (min max : UInt32) : scaled min max 0 = min := by
  apply UInt32.toNat_inj.mp
  rw [scaled_toNat, UInt32.toNat_zero, Nat.mul_zero, Nat.zero_mod, Nat.zero_div, Nat.add_zero]
  exact Nat.mod_eq_of_lt min.toNat_lt

/-- The maximum is reached exactly if the product does not wrap. -/
theorem scaled_hundred_iff : scaled min max 100 = max ↔ (max - min).toNat * 100 < 2 ^ 32 := by
  have below := min.toNat_lt
  have above := max.toNat_lt
  have length := difference_cases min max
  have part : (max - min).toNat * 100 % 2 ^ 32 / 100 ≤ (max - min).toNat := by omega
  have whole : (max - min).toNat * 100 % 2 ^ 32 / 100 = (max - min).toNat ↔ (max - min).toNat * 100 < 2 ^ 32 := by
    omega
  rw [← UInt32.toNat_inj, scaled_toNat, show (100 : UInt32).toNat = 100 from rfl, ← whole]
  generalize (max - min).toNat * 100 % 2 ^ 32 / 100 = step at part ⊢
  omega

/-- Without a wrap of the product the values lie in an arc from the minimum on. -/
theorem scaled_of_small (small : (max - min).toNat * 100 < 2 ^ 32) {p : UInt32} (percentage : p ≤ 100) :
    (scaled min max p).toNat = (min.toNat + (max - min).toNat * p.toNat / 100) % 2 ^ 32 ∧
      (max - min).toNat * p.toNat / 100 ≤ (max - min).toNat := by
  have most : p.toNat ≤ 100 := UInt32.le_iff_toNat_le.mp percentage
  have product := Nat.mul_le_mul_left (max - min).toNat most
  have whole : (max - min).toNat * p.toNat % 2 ^ 32 = (max - min).toNat * p.toNat := Nat.mod_eq_of_lt (by omega)
  rw [scaled_toNat, whole]
  exact ⟨rfl, by omega⟩

/-- A range that runs upwards. -/
theorem scaled_of_le (upwards : min ≤ max) (small : (max - min).toNat * 100 < 2 ^ 32) {p : UInt32}
    (percentage : p ≤ 100) :
    (scaled min max p).toNat = min.toNat + (max - min).toNat * p.toNat / 100 ∧ scaled min max p ≤ max := by
  obtain ⟨value, below⟩ := scaled_of_small small percentage
  have order := UInt32.le_iff_toNat_le.mp upwards
  have above := max.toNat_lt
  have length : (max - min).toNat = max.toNat - min.toNat := UInt32.toNat_sub_of_le _ _ upwards
  rw [Nat.mod_eq_of_lt (by omega)] at value
  exact ⟨value, UInt32.le_iff_toNat_le.mpr (by omega)⟩

theorem runsThrough_of_le (upwards : min ≤ max) (small : (max - min).toNat * 100 < 2 ^ 32) :
    RunsThrough min max (scaled min max) := by
  have value (p : UInt32) (percentage : p ≤ 100) := scaled_of_le upwards small percentage
  refine ⟨?_, scaled_zero min max, scaled_hundred_iff.mpr small, ?_⟩
  · intro p percentage
    refine .inl ⟨UInt32.le_iff_toNat_le.mpr ?_, (value p percentage).2⟩
    rw [(value p percentage).1]
    exact Nat.le_add_right _ _
  · intro p q order percentage
    refine .inl ⟨UInt32.le_iff_toNat_le.mpr ?_, (value q percentage).2⟩
    rw [(value p (UInt32.le_trans order percentage)).1, (value q percentage).1]
    apply Nat.add_le_add_left
    exact Nat.div_le_div_right (Nat.mul_le_mul_left _ (UInt32.le_iff_toNat_le.mp order))

/-- From the greatest number down to 0: only the hundredth percent makes the step. -/
theorem runsThrough_last : RunsThrough 0xFFFFFFFF 0 (scaled 0xFFFFFFFF 0) := by
  have one : ((0 : UInt32) - 0xFFFFFFFF).toNat = 1 := rfl
  have before {p : UInt32} (less : p.toNat < 100) : scaled 0xFFFFFFFF 0 p = 0xFFFFFFFF := by
    apply UInt32.toNat_inj.mp
    rw [scaled_toNat, one, show (0xFFFFFFFF : UInt32).toNat = 2 ^ 32 - 1 from rfl]
    omega
  have atLast : scaled 0xFFFFFFFF 0 100 = 0 := rfl
  have inside (p : UInt32) (percentage : p ≤ 100) :
      p.toNat < 100 ∧ scaled 0xFFFFFFFF 0 p = 0xFFFFFFFF ∨ p = 100 ∧ scaled 0xFFFFFFFF 0 p = 0 := by
    rcases Nat.lt_or_eq_of_le (UInt32.le_iff_toNat_le.mp percentage) with less | same
    · exact .inl ⟨less, before less⟩
    · have last : p = 100 := UInt32.toNat_inj.mp same
      exact .inr ⟨last, last ▸ atLast⟩
  refine ⟨?_, rfl, atLast, ?_⟩
  · intro p percentage
    rcases inside p percentage with ⟨-, value⟩ | ⟨-, value⟩
    · rw [value]
      exact .inr ⟨by decide, by decide⟩
    · rw [value]
      exact .inr ⟨by decide, by decide⟩
  · intro p q order percentage
    rcases inside q percentage with ⟨less, value⟩ | ⟨-, value⟩
    · rw [value, before (Nat.lt_of_le_of_lt (UInt32.le_iff_toNat_le.mp order) less)]
      exact .inr ⟨by decide, by decide⟩
    · rw [value]
      exact .inr ⟨by decide, UInt32.zero_le⟩

theorem runsThrough_iff (min max : UInt32) : RunsThrough min max (scaled min max) ↔ ScaleFits min max := by
  constructor
  · intro runs
    have small := scaled_hundred_iff.mp runs.last
    by_cases upwards : min ≤ max
    · rw [UInt32.toNat_sub_of_le _ _ upwards] at small
      exact .inl ⟨upwards, small⟩
    · right
      have above : max.toNat < min.toNat := by
        rw [UInt32.le_iff_toNat_le] at upwards
        omega
      -- With two steps or more, 99 percent lie beyond the minimum or below the maximum.
      have value := (scaled_of_small small (show (99 : UInt32) ≤ 100 by decide)).1
      have inside := runs.inside 99 (by decide)
      rw [show (99 : UInt32).toNat = 99 from rfl] at value
      simp only [InRange, UInt32.le_iff_toNat_le, value] at inside
      have below := min.toNat_lt
      have length := difference_cases min max
      have part : (max - min).toNat * 99 / 100 ≤ (max - min).toNat := by omega
      have step : (max - min).toNat ≤ 1 := by
        by_contra more
        have some_ : 1 ≤ (max - min).toNat * 99 / 100 := by omega
        have less : (max - min).toNat * 99 / 100 < (max - min).toNat := by omega
        generalize (max - min).toNat * 99 / 100 = part at inside some_ less
        omega
      constructor
      · apply UInt32.toNat_inj.mp
        rw [show (0xFFFFFFFF : UInt32).toNat = 2 ^ 32 - 1 from rfl]
        omega
      · apply UInt32.toNat_inj.mp
        rw [UInt32.toNat_zero]
        omega
  · rintro (⟨upwards, small⟩ | ⟨rfl, rfl⟩)
    · rw [← UInt32.toNat_sub_of_le _ _ upwards] at small
      exact runsThrough_of_le upwards small
    · exact runsThrough_last

end

section
variable {options : DeviceOptions} {device d : RGBController} {m : Mode} {leds : Bool}

/-- The steps in front of the speed leave its range, and the flags. -/
theorem speed_range (options : DeviceOptions) (m : Mode) :
    let m' := setBrightness options (setRandomColors options m)
    m'.flags = m.flags ∧ m'.speedMin = m.speedMin ∧ m'.speedMax = m.speedMax := by
  unfold setBrightness setRandomColors
  dsimp only
  split <;> split <;> exact ⟨rfl, rfl, rfl⟩

theorem brightness_range (options : DeviceOptions) (m : Mode) :
    let m' := setRandomColors options m
    m'.flags = m.flags ∧ m'.brightnessMin = m.brightnessMin ∧ m'.brightnessMax = m.brightnessMax := by
  unfold setRandomColors
  dsimp only
  split <;> exact ⟨rfl, rfl, rfl⟩

theorem setSpeed_brightness (options : DeviceOptions) (m : Mode) : (setSpeed options m).brightness = m.brightness := by
  unfold setSpeed
  split <;> rfl

theorem applyMode_speed (flag : m.flags &&& modeFlagHasSpeed ≠ 0) :
    (applyMode options m).speed = scaled m.speedMin m.speedMax options.speed := by
  obtain ⟨flags, low, high⟩ := speed_range options m
  rw [← flags] at flag
  rw [applyMode, setSpeed, if_pos flag, low, high]

theorem applyMode_brightness (flag : m.flags &&& modeFlagHasBrightness ≠ 0) :
    (applyMode options m).brightness = scaled m.brightnessMin m.brightnessMax options.brightness := by
  obtain ⟨flags, low, high⟩ := brightness_range options m
  rw [← flags] at flag
  rw [applyMode, setSpeed_brightness, setBrightness, if_pos flag, low, high]

/-- The mode that is set keeps the speed and the brightness it is given in front of the colors. -/
theorem applyOptions_mode (found : device.modes[(parseMode options device).toNat]? = some m)
    (run : applyOptions options device = some (.updates d leds)) :
    ∃ m', d.modes[(parseMode options device).toNat]? = some m' ∧ m'.speed = (applyMode options m).speed ∧
      m'.brightness = (applyMode options m).brightness := by
  have inside := (List.getElem?_eq_some_iff.mp found).1
  have stored (m' : Mode) : (device.modes.set (parseMode options device).toNat m')[(parseMode options device).toNat]? =
      some m' := List.getElem?_set_self inside
  rw [applyOptions, found, Option.bind_eq_bind, Option.bind_some, applyColors] at run
  split at run
  · obtain ⟨⟨start, stores⟩, -, run⟩ := Option.bind_eq_some_iff.mp run
    obtain ⟨colors, -, run⟩ := Option.bind_eq_some_iff.mp run
    cases run
    exact ⟨_, stored _, rfl, rfl⟩
  · split at run
    · split at run
      · cases run
        exact ⟨_, stored _, rfl, rfl⟩
      · cases run
    · cases run
      exact ⟨_, stored _, rfl, rfl⟩

end

/-- The speeds and the brightnesses that `ApplyOptions` sets a mode run through its ranges exactly if these fit; the
mode of the device has them in the end. -/
theorem scaling_inRange_iff (options : DeviceOptions) (m : Mode) :
    (m.flags &&& modeFlagHasSpeed ≠ 0 →
      (RunsThrough m.speedMin m.speedMax (fun speed => (applyMode { options with speed } m).speed) ↔
        ScaleFits m.speedMin m.speedMax)) ∧
    (m.flags &&& modeFlagHasBrightness ≠ 0 →
      (RunsThrough m.brightnessMin m.brightnessMax
          (fun brightness => (applyMode { options with brightness } m).brightness) ↔
        ScaleFits m.brightnessMin m.brightnessMax)) ∧
    ∀ device d leds, device.modes[(parseMode options device).toNat]? = some m →
      applyOptions options device = some (.updates d leds) →
      ∃ m', d.modes[(parseMode options device).toNat]? = some m' ∧ m'.speed = (applyMode options m).speed ∧
        m'.brightness = (applyMode options m).brightness := by
  refine ⟨?_, ?_, fun device d leds => applyOptions_mode⟩
  · intro flag
    rw [← runsThrough_iff]
    simp only [applyMode_speed flag]
  · intro flag
    rw [← runsThrough_iff]
    simp only [applyMode_brightness flag]

/-- A delay between 10 and 0 does not become 0 at the full speed. -/
theorem inverted_speed :
    let m : Mode := { Mode.new with flags := modeFlagHasSpeed, speedMin := 10, speedMax := 0 }
    m.flags &&& modeFlagHasSpeed ≠ 0 ∧ (applyMode { DeviceOptions.new 0 with speed := 100 } m).speed = 42949672 ∧
      ¬ RunsThrough m.speedMin m.speedMax fun speed => (applyMode { DeviceOptions.new 0 with speed } m).speed := by
  intro m
  have slow : (applyMode { DeviceOptions.new 0 with speed := 100 } m).speed = 42949672 := by decide
  refine ⟨by decide, slow, ?_⟩
  intro runs
  exact absurd (slow.symm.trans runs.last) (by decide)

end Cli
end SyncRGB
