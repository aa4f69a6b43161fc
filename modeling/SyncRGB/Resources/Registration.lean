import SyncRGB.Profile.RestoredState
import SyncRGB.Resources.HotPlug
import SyncRGB.Transition.Run

/-! Registering controllers during a detection: a new controller takes over the state of an old one first,
and its zones get their sizes from the sizes profile after that. -/
namespace SyncRGB
open ByteCodec VectorEdit RGBController ProfileManager Transition

/-- What `RegisterRGBController` works on. The pending controllers come with whether one was matched, the
entries of the sizes profile with whether one was used. -/
structure Registration where
  rgbControllersHwCleanupPending : List (RGBController × Bool)
  rgbControllersHw : List RGBController
  rgbControllersSizes : List (RGBController × Bool)
  detectionPrevSize : Nat

namespace Registration

/-- At the start of a detection. -/
def started (pending sizes : List RGBController) : Registration where
  rgbControllersHwCleanupPending := pending.map fun c => (c, false)
  rgbControllersHw := []
  rgbControllersSizes := sizes.map fun c => (c, false)
  detectionPrevSize := 0

/-- Load sizes for the new controllers. -/
def loadNewSizes : List (RGBController × Bool) → List RGBController →
    List (RGBController × Bool) × List RGBController
  | sizes, [] => (sizes, [])
  | sizes, c :: cs =>
      let (_, sizes, c) := loadDeviceFromListWithOptions true false sizes c
      let (sizes, cs) := loadNewSizes sizes cs
      (sizes, c :: cs)

/-- `ResourceManager::RegisterRGBController`. -/
def registerRGBController (s : Registration) (c : RGBController) : Registration :=
  let (pending, c) := restoreDetected s.rgbControllersHwCleanupPending c
  let hw := s.rgbControllersHw ++ [c.ownedLocally]
  if hw.length ≠ s.detectionPrevSize then
    let (sizes, loaded) := loadNewSizes s.rgbControllersSizes (hw.drop s.detectionPrevSize)
    { rgbControllersHwCleanupPending := pending
      rgbControllersHw := hw.take s.detectionPrevSize ++ loaded
      rgbControllersSizes := sizes
      detectionPrevSize := hw.length }
  else
    { s with
      rgbControllersHwCleanupPending := pending
      rgbControllersHw := hw
      detectionPrevSize := hw.length }

/-- `ResourceManager::UnregisterRGBController` leaves the previous size as it is. -/
def unregisterRGBController (s : Registration) (i : Nat) : Registration :=
  { s with rgbControllersHw := s.rgbControllersHw.eraseIdx i }

inductive Action
  | registerRGBController (c : RGBController)
  | unregisterRGBController (i : Nat)

def step (s : Registration) : Action → Registration
  | .registerRGBController c => s.registerRGBController c
  | .unregisterRGBController i => s.unregisterRGBController i

def Step (s : Registration) (a : Action) (t : Registration) : Prop := t = s.step a

end Registration

/-- What a driver fixes about a mode. -/
def Mode.fixed (m : Mode) : Bytes × Int32 × List UInt32 :=
  (m.name, m.value, [m.flags, m.speedMin, m.speedMax, m.brightnessMin, m.brightnessMax, m.colorsMin,
    m.colorsMax])

namespace RGBController

/-- The same device, detected again. Sizes, settings and colors are the driver's. -/
structure Redetected (old c : RGBController) : Prop where
  identity : old.SameIdentity c
  modes : old.modes.map Mode.fixed = c.modes.map Mode.fixed
  zones : old.zones.map Zone.fixed = c.zones.map Zone.fixed

structure KeepsLighting (old c : RGBController) : Prop where
  activeMode : c.activeMode = old.activeMode
  modes : c.modes.map Mode.settings = old.modes.map Mode.settings
  zones : c.zones.map Zone.ledsCount = old.zones.map Zone.ledsCount
  colors : c.colors = old.colors

end RGBController

namespace Registration

/-- The old controller whose state is taken: the first one that is not matched yet and has the identity. -/
def source (s : Registration) (c : RGBController) : Option RGBController :=
  (s.rgbControllersHwCleanupPending.find? fun e => !e.2 && e.1.matchesExisting c).map Prod.fst

/-- The entry of the sizes profile that is used. -/
def sizeEntry (s : Registration) (c : RGBController) : Option RGBController :=
  (s.rgbControllersSizes.find? fun e => !e.2 && e.1.matchesSaved c).map Prod.fst

/-- The entry for the controller has the zones of the old one in their sizes. -/
def SizesHold (s : Registration) (old c : RGBController) : Prop :=
  ∃ saved, s.sizeEntry c = some saved ∧
    List.Forall₂ (fun saved z => saved.sameSlot z = true ∧ saved.ledsCount = z.ledsCount)
      saved.zones old.zones

/-- No controller was unregistered since the last registration, so the sizes profile is looked at. -/
def consulted (s : Registration) : Bool := s.rgbControllersHw.length = s.detectionPrevSize

end Registration

/-! ### What is carried over -/

section Carried
variable (src : Option RGBController) (old c : RGBController)

/-- The first mode of the new controller that is the one active in the source. -/
def namedMode : Option Nat :=
  (src.bind existingMode).bind fun active => c.modes.findIdx? (·.sameMode active)

/-- That mode has the old index; without it the driver selects the old index by itself. -/
def ActiveModeCarried : Prop :=
  match namedMode src c with
  | some i => old.activeMode = Int32.ofNat i
  | none => old.activeMode = c.activeMode

/-- The first mode of the source that is the same has the old settings; its colors count when they are as
many as the driver's. Without it the driver has them by itself. -/
def ModeCarried (was m : Mode) : Prop :=
  match src.bind fun o => o.modes.find? m.sameMode with
  | some first => was.settings = (first.speed, first.brightness, first.direction, first.colorMode,
      if m.colors.length = first.colors.length then first.colors else m.colors)
  | none => was.settings = m.settings

/-- The default size is the old one, or the old one is in range for the profile to set it. -/
def SizeCarried (consulted : Bool) (was : UInt32) (z : Zone) : Prop :=
  z.ledsCount = was ∨ consulted = true ∧ z.ledsMin ≤ was ∧ was ≤ z.ledsMax

/-- The LED colors before the sizes are loaded: the source's if they are as many as the driver's. -/
def takenColors : List RGBColor :=
  match src with
  | some o => if c.colors.length = o.colors.length then o.colors else c.colors
  | none => c.colors

/-- The LED totals the color vector goes through while the zones get their old sizes. -/
def sizeTotals (consulted : Bool) : List Nat :=
  if consulted then resizeTotals [] old.zones (c.zones.map Zone.unplaced) else []

/-- The colors taken over are the old ones as far as the smallest total leaves them, the old ones behind are
black, and there are as many in the end. -/
structure ColorsCarried (consulted : Bool) : Prop where
  length : old.colors.length = (sizeTotals old c consulted).getLastD (takenColors src c).length
  front : old.colors.take (lowest (takenColors src c).length (sizeTotals old c consulted)) =
    (takenColors src c).take (lowest (takenColors src c).length (sizeTotals old c consulted))
  black : ∀ x ∈ old.colors.drop (lowest (takenColors src c).length (sizeTotals old c consulted)), x = 0

structure Carried (consulted : Bool) : Prop where
  activeMode : ActiveModeCarried src old c
  modes : List.Forall₂ (ModeCarried src) old.modes c.modes
  zones : List.Forall₂ (SizeCarried consulted) (old.zones.map Zone.ledsCount) c.zones
  colors : ColorsCarried src old c consulted

end Carried

/-! ### One registration -/

/-- The pending list tells only which state is taken. -/
theorem restoreDetected_snd (pending : List (RGBController × Bool)) (c : RGBController) :
    (restoreDetected pending c).2 =
      match (pending.find? fun e => !e.2 && e.1.matchesExisting c).map Prod.fst with
      | some old => old.restoreFrom c
      | none => c := by
  induction pending with
  | nil => rfl
  | cons e rest ih =>
      obtain ⟨existing, matched⟩ := e
      rw [restoreDetected, List.find?_cons]
      cases found : !matched && existing.matchesExisting c with
      | true => rfl
      | false => exact ih

theorem loadDevice_of_find {loadSize loadSettings : Bool} {sizes : List (RGBController × Bool)}
    {c saved : RGBController}
    (found : (sizes.find? fun e => !e.2 && e.1.matchesSaved c).map Prod.fst = some saved) :
    (loadDeviceFromListWithOptions loadSize loadSettings sizes c).2.2 =
      loadFrom loadSize loadSettings saved c := by
  induction sizes with
  | nil => cases found
  | cons e rest ih =>
      obtain ⟨entry, used⟩ := e
      rw [List.find?_cons] at found
      rw [loadDeviceFromListWithOptions]
      cases first : !used && entry.matchesSaved c with
      | true =>
          rw [first] at found
          cases found
          rfl
      | false =>
          rw [first] at found
          exact ih found

namespace Registration

/-- The controller with the state it took over, before its sizes are loaded. -/
def taken (s : Registration) (c : RGBController) : RGBController :=
  (match s.source c with
    | some old => old.restoreFrom c
    | none => c).ownedLocally

theorem sameIdentity_taken (s : Registration) (c : RGBController) : c.SameIdentity (s.taken c) := by
  unfold taken
  split
  · exact ⟨rfl, rfl, rfl, rfl, rfl, rfl⟩
  · exact ⟨rfl, rfl, rfl, rfl, rfl, rfl⟩

theorem taken_zones (s : Registration) (c : RGBController) : (s.taken c).zones = c.zones := by
  unfold taken
  split <;> rfl

theorem taken_colors (s : Registration) (c : RGBController) :
    (s.taken c).colors = takenColors (s.source c) c := by
  unfold taken takenColors
  split <;> rfl

theorem registered_eq (s : Registration) (c : RGBController) :
    (restoreDetected s.rgbControllersHwCleanupPending c).2.ownedLocally = s.taken c := by
  rw [restoreDetected_snd]
  rfl

/-- What the last place of the list holds after a registration, as long as the list has not more
controllers than were counted. -/
theorem getLast?_registerRGBController {s : Registration} {c saved : RGBController}
    (counted : s.rgbControllersHw.length ≤ s.detectionPrevSize) (entry : s.sizeEntry c = some saved) :
    (s.registerRGBController c).rgbControllersHw.getLast? =
      some (if s.consulted then loadSizes saved (s.taken c) else s.taken c) := by
  have length : (s.rgbControllersHw ++ [s.taken c]).length = s.rgbControllersHw.length + 1 := by
    rw [List.length_append, List.length_singleton]
  have identity : (fun e : RGBController × Bool => !e.2 && e.1.matchesSaved (s.taken c)) =
      fun e => !e.2 && e.1.matchesSaved c := by
    funext e
    rw [matchesSaved_congr (SameIdentity.refl e.1) (s.sameIdentity_taken c)]
  simp only [registerRGBController, registered_eq]
  by_cases same : s.rgbControllersHw.length = s.detectionPrevSize
  · have last : (s.rgbControllersHw ++ [s.taken c]).drop s.detectionPrevSize = [s.taken c] := by
      rw [← same, List.drop_left]
    have front : (s.rgbControllersHw ++ [s.taken c]).take s.detectionPrevSize = s.rgbControllersHw := by
      rw [← same, List.take_left]
    have used : s.consulted = true := decide_eq_true same
    have loads : (loadDeviceFromListWithOptions true false s.rgbControllersSizes (s.taken c)).2.2 =
        loadFrom true false saved (s.taken c) := by
      apply loadDevice_of_find
      rw [identity]
      exact entry
    rw [if_pos (by omega), last, front, used]
    simp only [loadNewSizes, loads, List.getLast?_append, List.getLast?_singleton, Option.some_or]
    rfl
  · have passed : s.consulted = false := decide_eq_false same
    rw [passed, if_neg Bool.false_ne_true]
    split_ifs with grown
    · have none_ : (s.rgbControllersHw ++ [s.taken c]).drop s.detectionPrevSize = [] :=
        List.drop_of_length_le (by omega)
      have all : (s.rgbControllersHw ++ [s.taken c]).take s.detectionPrevSize =
          s.rgbControllersHw ++ [s.taken c] := List.take_of_length_le (by omega)
      simp only [none_, all, loadNewSizes, List.append_nil, List.getLast?_append,
        List.getLast?_singleton, Option.some_or]
    · simp only [List.getLast?_append, List.getLast?_singleton, Option.some_or]

/-! ### Where the lighting comes back -/

theorem activeMode_taken_iff (s : Registration) (old c : RGBController) :
    (s.taken c).activeMode = old.activeMode ↔ ActiveModeCarried (s.source c) old c := by
  unfold taken ActiveModeCarried namedMode
  cases s.source c with
  | none => exact eq_comm
  | some o =>
      simp only [Option.bind_some, ownedLocally, restoreFrom]
      cases o.existingMode.bind fun active => c.modes.findIdx? (·.sameMode active) with
      | some i => exact eq_comm
      | none => exact eq_comm

theorem settings_taken_iff (s : Registration) (old c : RGBController) :
    (s.taken c).modes.map Mode.settings = old.modes.map Mode.settings ↔
      List.Forall₂ (ModeCarried (s.source c)) old.modes c.modes := by
  have fieldwise (f : Mode → Mode) :
      (c.modes.map f).map Mode.settings = old.modes.map Mode.settings ↔
        List.Forall₂ (fun was m => was.settings = (f m).settings) old.modes c.modes := by
    rw [eq_comm, ← List.forall₂_eq_eq_eq, List.map_map, List.forall₂_map_left_iff,
      List.forall₂_map_right_iff]
    rfl
  cases from_ : s.source c with
  | none =>
      have modes : (s.taken c).modes = c.modes.map id := by
        simp only [taken, from_, List.map_id]
        rfl
      rw [modes, fieldwise]
      rfl
  | some o =>
      have modes : (s.taken c).modes = c.modes.map (Mode.restoreFrom o.modes) := by
        simp only [taken, from_]
        rfl
      have each : (fun was m : Mode => was.settings = (m.restoreFrom o.modes).settings) =
          ModeCarried (some o) := by
        funext was m
        simp only [ModeCarried, Option.bind_some, Mode.restoreFrom]
        cases o.modes.find? m.sameMode <;> rfl
      rw [modes, fieldwise, each]

theorem resizeTotals_congr {ss ss' : List Zone} (same : ss.map Zone.ledsCount = ss'.map Zone.ledsCount)
    {front front' : List Zone} (led : front.map Zone.getLEDsInZone = front'.map Zone.getLEDsInZone)
    (zs : List Zone) : resizeTotals front ss zs = resizeTotals front' ss' zs := by
  induction ss generalizing ss' front front' zs with
  | nil =>
      obtain rfl := List.map_eq_nil_iff.mp same.symm
      cases zs <;> rfl
  | cons saved ss ih =>
      cases ss' with
      | nil => cases same
      | cons saved' ss' =>
          obtain ⟨count, rest⟩ := List.cons_eq_cons.mp same
          cases zs with
          | nil => rfl
          | cons z zs =>
              have decision : resized saved z = resized saved' z := by
                rw [resized, resized, count]
              have sized : (withSizes saved z).getLEDsInZone = (withSizes saved' z).getLEDsInZone := by
                rw [getLEDsInZone_withSizes, getLEDsInZone_withSizes, withCount, withCount, decision,
                  count]
              have next : (front ++ [withSizes saved z]).map Zone.getLEDsInZone =
                  (front' ++ [withSizes saved' z]).map Zone.getLEDsInZone := by
                rw [List.map_append, List.map_append, led, List.map_singleton, List.map_singleton, sized]
              have total : totalLedCount (front ++ withSizes saved z :: zs) =
                  totalLedCount (front' ++ withSizes saved' z :: zs) :=
                totalLedCount_congr (by
                  rw [List.map_append, List.map_append, List.map_cons, List.map_cons, led, sized])
              rw [resizeTotals, resizeTotals, decision, total, ih rest next zs]

theorem counts_iff {saved old : List Zone} {zs : List Zone} (length : saved.length = zs.length)
    (counts : saved.map Zone.ledsCount = old.map Zone.ledsCount) :
    (List.zipWith withSizes saved zs).map Zone.ledsCount = old.map Zone.ledsCount ↔
      List.Forall₂ (SizeCarried true) (old.map Zone.ledsCount) zs := by
  rw [← counts, List.forall₂_map_left_iff]
  apply zipWith_map_eq_iff length
  intro s z
  have count : (withSizes s z).ledsCount = (withCount s z).ledsCount := by
    rw [withSizes, withSegments]
    split_ifs <;> rfl
  rw [count, withCount_count_iff]
  simp only [SizeCarried, true_and]

theorem colors_taken_iff (src : Option RGBController) (old c : RGBController) (consulted : Bool) :
    (sizeTotals old c consulted).foldl (resize 0) (takenColors src c) = old.colors ↔
      ColorsCarried src old c consulted := by
  constructor
  · intro same
    have length : old.colors.length =
        (sizeTotals old c consulted).getLastD (takenColors src c).length := by
      rw [← same, foldl_resize_length]
    obtain ⟨front, black⟩ := (foldl_resize_eq_iff 0 _ _ _ length.symm).mp same
    exact ⟨length, front, black⟩
  · rintro ⟨length, front, black⟩
    exact (foldl_resize_eq_iff 0 _ _ _ length.symm).mpr ⟨front, black⟩

/-- The registered controller: sizes and colors apart it is the one that took over the state. -/
theorem registered_of_sizesHold {s : Registration} {old c : RGBController}
    (counted : s.rgbControllersHw.length ≤ s.detectionPrevSize) (redetected : old.Redetected c)
    (holds : s.SizesHold old c) :
    ∃ zones, (s.registerRGBController c).rgbControllersHw.getLast? =
        some { s.taken c with
          zones
          colors := (sizeTotals old c s.consulted).foldl (resize 0) (takenColors (s.source c) c) } ∧
      (zones.map Zone.ledsCount = old.zones.map Zone.ledsCount ↔
        List.Forall₂ (SizeCarried s.consulted) (old.zones.map Zone.ledsCount) c.zones) := by
  obtain ⟨saved, entry, slots⟩ := holds
  rw [getLast?_registerRGBController counted entry]
  cases s.consulted with
  | false =>
      refine ⟨(s.taken c).zones, ?_, ?_⟩
      · rw [if_neg Bool.false_ne_true, ← s.taken_colors]
        rfl
      · have each : (fun was z => was = z.ledsCount) = SizeCarried false := by
          funext was z
          simp only [SizeCarried, Bool.false_eq_true, false_and, or_false, eq_comm]
        rw [s.taken_zones, eq_comm, ← List.forall₂_eq_eq_eq, List.forall₂_map_right_iff, each]
  | true =>
      have counts : saved.zones.map Zone.ledsCount = old.zones.map Zone.ledsCount := by
        rw [← List.forall₂_eq_eq_eq, List.forall₂_map_left_iff, List.forall₂_map_right_iff]
        exact slots.imp fun _ _ same => same.2
      have fixed : List.Forall₂ (fun z z' : Zone => z.fixed = z'.fixed) old.zones c.zones := by
        have all := redetected.zones
        rwa [← List.forall₂_eq_eq_eq, List.forall₂_map_left_iff, List.forall₂_map_right_iff] at all
      have same : List.Forall₂ (fun s z => s.sameSlot z = true) saved.zones (s.taken c).zones := by
        rw [s.taken_zones]
        apply forall₂_trans _ slots fixed
        intro a b z slot equal
        simp only [Zone.fixed, Prod.mk.injEq] at equal
        have slot := slot.1
        simp only [Zone.sameSlot, equal] at slot
        exact slot
      obtain ⟨zones, sized, shape⟩ := loadSizes_eq same
      have colors : (sizeTotals old c true).foldl (resize 0) (takenColors (s.source c) c) =
          (resizeTotals [] saved.zones (c.zones.map Zone.unplaced)).foldl (resize 0)
            (takenColors (s.source c) c) := by
        rw [sizeTotals, if_pos rfl, resizeTotals_congr counts rfl]
      refine ⟨zones, ?_, ?_⟩
      · rw [if_pos rfl, sized, s.taken_zones, s.taken_colors, colors]
      · have length : saved.zones.length = (c.zones.map Zone.unplaced).length := by
          rw [List.length_map, ← s.taken_zones c]
          exact same.length_eq
        have unplaced : (zones.map Zone.unplaced).map Zone.ledsCount = zones.map Zone.ledsCount :=
          map_unplaced (fun _ => rfl) zones
        rw [← unplaced, shape, s.taken_zones, counts_iff length counts, List.forall₂_map_right_iff]
        rfl

theorem loadNewSizes_length (cs : List RGBController) (sizes : List (RGBController × Bool)) :
    (loadNewSizes sizes cs).2.length = cs.length := by
  induction cs generalizing sizes with
  | nil => rfl
  | cons c cs ih => rw [loadNewSizes, List.length_cons, List.length_cons, ih]

/-- The list never has more controllers than were counted last. -/
theorem Step.counted {s t : Registration} {a : Action} (step : Step s a t)
    (counted : s.rgbControllersHw.length ≤ s.detectionPrevSize) :
    t.rgbControllersHw.length ≤ t.detectionPrevSize := by
  cases step
  cases a with
  | registerRGBController c =>
      simp only [Registration.step, registerRGBController]
      split
      · simp only [List.length_append, List.length_take, loadNewSizes_length, List.length_drop]
        omega
      · exact Nat.le_refl _
  | unregisterRGBController i => exact (s.rgbControllersHw.length_eraseIdx_le i).trans counted

/-- In every state of a detection the controller that is registered has the lighting of the old one exactly
when it was carried over: the state before the sizes, the sizes behind it. -/
theorem hot_plug_restore (pending sizes : List RGBController) (actions : List Action) (s : Registration)
    (run : Run Step (started pending sizes) actions s) (old c : RGBController)
    (redetected : old.Redetected c) (holds : s.SizesHold old c) :
    (∃ c', (s.registerRGBController c).rgbControllersHw.getLast? = some c' ∧ old.KeepsLighting c') ↔
      Carried (s.source c) old c s.consulted := by
  have keeps (s : Registration) (a : Action) (t : Registration)
      (counted : s.rgbControllersHw.length ≤ s.detectionPrevSize) (step : Step s a t) :
      t.rgbControllersHw.length ≤ t.detectionPrevSize := step.counted counted
  have counted : s.rgbControllersHw.length ≤ s.detectionPrevSize := run.invariant keeps (Nat.le_refl _)
  obtain ⟨zones, registered, sized⟩ := registered_of_sizesHold counted redetected holds
  rw [registered]
  constructor
  · rintro ⟨c', same, kept⟩
    cases same
    exact ⟨(s.activeMode_taken_iff old c).mp kept.activeMode, (s.settings_taken_iff old c).mp kept.modes,
      sized.mp kept.zones, (colors_taken_iff _ old c _).mp kept.colors⟩
  · intro carried
    refine ⟨_, rfl, ?_, ?_, ?_, ?_⟩
    · exact (s.activeMode_taken_iff old c).mpr carried.activeMode
    · exact (s.settings_taken_iff old c).mpr carried.modes
    · exact sized.mpr carried.zones
    · exact (colors_taken_iff _ old c _).mpr carried.colors

/-- A strip of `n` LEDs that can have one or two of them. -/
def strip (n : UInt32) (colors : List RGBColor) : RGBController :=
  { new 0 with
    zones := [{ Zone.new with ledsCount := n, ledsMin := 1, ledsMax := 2 }]
    modes := [{ Mode.new with speed := n }]
    colors }

/-- The driver starts with both LEDs. -/
theorem hot_plug_restore_strip :
    ∃ c', ((started [strip 2 [1, 2]] [strip 2 [1, 2]]).registerRGBController
      (strip 2 [0, 0])).rgbControllersHw.getLast? = some c' ∧ (strip 2 [1, 2]).KeepsLighting c' := by
  apply (hot_plug_restore [strip 2 [1, 2]] [strip 2 [1, 2]] [] _ (.nil _) (strip 2 [1, 2])
    (strip 2 [0, 0]) ⟨⟨rfl, rfl, rfl, rfl, rfl, rfl⟩, rfl, rfl⟩
    ⟨strip 2 [1, 2], rfl, .cons (by decide) .nil⟩).mpr
  exact ⟨rfl, .cons rfl .nil, .cons (.inl rfl) .nil, ⟨by decide, by decide, List.forall_mem_nil _⟩⟩

/-- The driver starts with one LED: the colors are not taken, and the second LED comes too late. -/
theorem hot_plug_restore_shorter :
    (strip 2 [1, 2]).Redetected (strip 1 [0]) ∧
      (started [strip 2 [1, 2]] [strip 2 [1, 2]]).SizesHold (strip 2 [1, 2]) (strip 1 [0]) ∧
      ¬ ∃ c', ((started [strip 2 [1, 2]] [strip 2 [1, 2]]).registerRGBController
        (strip 1 [0])).rgbControllersHw.getLast? = some c' ∧ (strip 2 [1, 2]).KeepsLighting c' := by
  refine ⟨⟨⟨rfl, rfl, rfl, rfl, rfl, rfl⟩, rfl, rfl⟩,
    ⟨strip 2 [1, 2], rfl, .cons (by decide) .nil⟩, ?_⟩
  rintro ⟨c', registered, kept⟩
  have black : (((started [strip 2 [1, 2]] [strip 2 [1, 2]]).registerRGBController
      (strip 1 [0])).rgbControllersHw.getLast?.map RGBController.colors) = some [0, 0] := by decide
  rw [registered, Option.map_some, kept.colors] at black
  exact absurd black (by decide)

end Registration
end SyncRGB
