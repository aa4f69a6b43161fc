import SyncRGB.JsonRpc.Modes
import SyncRGB.Profile.LoadDevice
import SyncRGB.Resources.HotPlug
import SyncRGB.Server.TargetSafety

/-! Every operation that writes the active mode, one controller at a time: it leaves the number of modes and
takes the active mode from among them, or it does not. -/
namespace SyncRGB
open ByteCodec Reader

theorem sizeT_lt_iff {i : Int32} {n : Nat} (few : n < 2 ^ 31) :
    sizeT i < n ↔ 0 ≤ i.toInt ∧ i.toInt < n := by
  have low := i.le_toInt
  have high := i.toInt_lt
  unfold sizeT
  omega

theorem sizeT_ofNat {k : Nat} (small : k < 2 ^ 31) : sizeT (Int32.ofNat k) = k := by
  have value := Int32.toInt_ofNat_of_lt small
  unfold sizeT
  omega

theorem sizeT_toInt32 {w : UInt32} (small : w.toNat < 2 ^ 31) : sizeT w.toInt32 = w.toNat := by
  have value := sizeT_ofNat small
  rwa [← UInt32.toInt32_ofNat', UInt32.ofNat_toNat] at value

namespace RGBController

/-- The number of modes stays, and an active mode that is written is one of them. -/
structure Selects (c c' : RGBController) : Prop where
  few : c.modes.length < 2 ^ 31
  modes : c'.modes.length = c.modes.length
  active : c'.activeMode = c.activeMode ∨ sizeT c'.activeMode < c.modes.length

namespace Selects
variable {a b c : RGBController}

theorem refl {c : RGBController} (few : c.modes.length < 2 ^ 31) : c.Selects c := ⟨few, rfl, .inl rfl⟩

theorem few_after (ab : a.Selects b) : b.modes.length < 2 ^ 31 := ab.modes ▸ ab.few

theorem trans (ab : a.Selects b) (bc : b.Selects c) : a.Selects c := by
  refine ⟨ab.few, bc.modes.trans ab.modes, ?_⟩
  obtain same | inside := bc.active
  · rw [same]
    exact ab.active
  · exact .inr (ab.modes ▸ inside)

theorem inside (ab : a.Selects b) (known : sizeT a.activeMode < a.modes.length) :
    sizeT b.activeMode < b.modes.length := by
  rw [ab.modes]
  obtain same | inside := ab.active
  · rwa [same]
  · exact inside

end Selects

theorem forall₂_selects_refl {cs : List RGBController} (few : ∀ c ∈ cs, c.modes.length < 2 ^ 31) :
    List.Forall₂ Selects cs cs := by
  rw [List.forall₂_same]
  intro c member
  exact .refl (few c member)

/-! ### Packets -/

theorem setModeDescription_selects {c : RGBController} {data : Bytes} {q v : Nat}
    {r : Option RGBController} (few : c.modes.length < 2 ^ 31) (small : data.length < 2 ^ 32)
    (run : (c.setModeDescription v).exec data 0 = some (r, q)) :
    (c.ModeTarget data → ∃ c', r = some c' ∧ c.Selects c') ∧ (¬ c.ModeTarget data → r = none) := by
  rw [setModeDescription, exec_skip_size] at run
  have rest := exec_rest (exec_i32 small) run
  unfold ModeTarget
  split_ifs at rest with beyond
  · obtain ⟨rfl, -⟩ := Prod.mk.inj (Option.some.inj rest)
    exact ⟨fun _ => ⟨c, rfl, .refl few⟩, fun off => absurd (Classical.not_not.mp off) (by omega)⟩
  · obtain ⟨newMode, q', -, last⟩ := exec_bind_eq_some.mp rest
    obtain ⟨rfl, -⟩ := Prod.mk.inj (Option.some.inj last)
    refine ⟨fun target => ?_, fun off => ?_⟩
    · have inside : sizeT (field32 data 4).toInt32 < c.modes.length := by omega
      rw [List.getElem?_eq_getElem inside]
      exact ⟨_, rfl, few, List.length_set, .inr inside⟩
    · rw [List.getElem?_eq_none (Classical.not_not.mp off).ge]
      rfl

theorem setCustomMode_selects {c : RGBController} (few : c.modes.length < 2 ^ 31) :
    c.Selects c.setCustomMode := by
  unfold setCustomMode
  cases chosen : customModeNames.findSome? fun name => c.modes.findIdx? (Mode.custom name) with
  | none => exact .refl few
  | some modeIdx =>
      obtain ⟨name, -, found⟩ := List.exists_of_findSome?_eq_some chosen
      obtain ⟨inside, -⟩ := List.findIdx?_eq_some_iff_findIdx_eq.mp found
      refine ⟨few, rfl, .inr ?_⟩
      show sizeT (Int32.ofNat modeIdx) < c.modes.length
      rwa [sizeT_ofNat (inside.trans few)]

/-! ### Loading a profile -/

def SameModes (c c' : RGBController) : Prop := c'.modes = c.modes ∧ c'.activeMode = c.activeMode

theorem SameModes.trans {a b c : RGBController} (ab : a.SameModes b) (bc : b.SameModes c) :
    a.SameModes c := ⟨bc.1.trans ab.1, bc.2.trans ab.2⟩

theorem loadZoneCount_modes (saved : Zone) (zone : Nat) (c : RGBController) :
    c.SameModes (ProfileManager.loadZoneCount saved zone c) := by
  unfold ProfileManager.loadZoneCount resizeZone
  cases c.zones[zone]? with
  | none => exact ⟨rfl, rfl⟩
  | some z =>
      dsimp only
      split_ifs <;> exact ⟨rfl, rfl⟩

theorem loadZoneSegments_modes (saved : Zone) (zone : Nat) (c : RGBController) :
    c.SameModes (ProfileManager.loadZoneSegments saved zone c) := by
  unfold ProfileManager.loadZoneSegments
  cases c.zones[zone]? with
  | none => exact ⟨rfl, rfl⟩
  | some z =>
      dsimp only
      split_ifs <;> exact ⟨rfl, rfl⟩

theorem loadZone_modes (saved : Zone) (zone : Nat) (c : RGBController) :
    c.SameModes (ProfileManager.loadZone saved zone c) := by
  unfold ProfileManager.loadZone
  cases c.zones[zone]? with
  | none => exact ⟨rfl, rfl⟩
  | some z =>
      dsimp only
      split_ifs
      · exact (loadZoneCount_modes saved zone c).trans (loadZoneSegments_modes saved zone _)
      · exact ⟨rfl, rfl⟩

theorem loadZones_modes (ss : List Zone) (zone : Nat) (c : RGBController) :
    c.SameModes (ProfileManager.loadZones ss zone c) := by
  induction ss generalizing zone c with
  | nil => exact ⟨rfl, rfl⟩
  | cons saved ss ih => exact (loadZone_modes saved zone c).trans (ih (zone + 1) _)

theorem loadSizes_modes (saved c : RGBController) : c.SameModes (ProfileManager.loadSizes saved c) := by
  unfold ProfileManager.loadSizes
  split_ifs
  · exact loadZones_modes saved.zones 0 c
  · exact ⟨rfl, rfl⟩

/-- The active mode that a saved controller brings along is one of its modes, if it is taken over. -/
def BringsMode (saved c : RGBController) : Prop :=
  saved.modes.length = c.modes.length → sizeT saved.activeMode < saved.modes.length

theorem loadModes_length (saved c : RGBController) :
    (ProfileManager.loadModes saved c).modes.length = c.modes.length := by
  unfold ProfileManager.loadModes
  split_ifs with same
  · rw [List.length_zipWith, same, Nat.min_self]
  · rfl

theorem loadModes_inside_iff (saved : RGBController) {c : RGBController}
    (inside : sizeT c.activeMode < c.modes.length) :
    sizeT (ProfileManager.loadModes saved c).activeMode < c.modes.length ↔ saved.BringsMode c := by
  unfold ProfileManager.loadModes BringsMode
  split_ifs with same
  · rw [same]
    exact ⟨fun h _ => h, fun h => h rfl⟩
  · exact iff_of_true inside fun h => absurd h same

theorem loadColors_modes (saved c : RGBController) : c.SameModes (ProfileManager.loadColors saved c) := by
  unfold ProfileManager.loadColors
  split_ifs <;> exact ⟨rfl, rfl⟩

theorem loadSizes_ite_modes (loadSize : Bool) (saved c : RGBController) :
    c.SameModes (if loadSize then ProfileManager.loadSizes saved c else c) := by
  cases loadSize with
  | true => exact loadSizes_modes saved c
  | false => exact ⟨rfl, rfl⟩

theorem loadFrom_length (loadSize loadSettings : Bool) (saved c : RGBController) :
    (ProfileManager.loadFrom loadSize loadSettings saved c).modes.length = c.modes.length := by
  have sizes := loadSizes_ite_modes loadSize saved c
  cases loadSettings with
  | true =>
      show (ProfileManager.loadColors saved (ProfileManager.loadModes saved
        (if loadSize then ProfileManager.loadSizes saved c else c))).modes.length = _
      rw [(loadColors_modes saved _).1, loadModes_length, sizes.1]
  | false => exact congrArg List.length sizes.1

/-- The active mode of a loaded controller is one of its modes unless a saved one is taken over. -/
theorem loadFrom_inside_iff {loadSize loadSettings : Bool} {saved c : RGBController}
    (inside : sizeT c.activeMode < c.modes.length) :
    sizeT (ProfileManager.loadFrom loadSize loadSettings saved c).activeMode < c.modes.length ↔
      (loadSettings = true → saved.BringsMode c) := by
  obtain ⟨modes, active⟩ := loadSizes_ite_modes loadSize saved c
  cases loadSettings with
  | false =>
      refine iff_of_true ?_ fun h => absurd h Bool.false_ne_true
      show sizeT (if loadSize then ProfileManager.loadSizes saved c else c).activeMode < _
      rwa [active]
  | true =>
      show sizeT (ProfileManager.loadColors saved (ProfileManager.loadModes saved
        (if loadSize then ProfileManager.loadSizes saved c else c))).activeMode < _ ↔ _
      have still : sizeT (if loadSize then ProfileManager.loadSizes saved c else c).activeMode <
          (if loadSize then ProfileManager.loadSizes saved c else c).modes.length := by
        rwa [active, modes]
      have brings := loadModes_inside_iff saved still
      rw [modes] at brings
      rw [(loadColors_modes saved _).2, brings, BringsMode, BringsMode, modes]
      exact ⟨fun h _ => h, fun h => h rfl⟩

/-- The first unused saved controller that matches. -/
def usedEntry (temps : List (RGBController × Bool)) (c : RGBController) : Option RGBController :=
  (temps.find? fun e => !e.2 && e.1.matchesSaved c).map Prod.fst

theorem loadDevice_eq (loadSize loadSettings : Bool) (temps : List (RGBController × Bool))
    (c : RGBController) :
    (ProfileManager.loadDeviceFromListWithOptions loadSize loadSettings temps c).2.2 =
      match usedEntry temps c with
      | some saved => ProfileManager.loadFrom loadSize loadSettings saved c
      | none => c := by
  induction temps with
  | nil => rfl
  | cons e rest ih =>
      obtain ⟨saved, used⟩ := e
      rw [ProfileManager.loadDeviceFromListWithOptions, usedEntry, List.find?_cons]
      cases fits : !used && saved.matchesSaved c with
      | true => rfl
      | false => exact ih

/-! ### Hot-plugging -/

theorem restoreFrom_selects (old : RGBController) {c : RGBController} (few : c.modes.length < 2 ^ 31) :
    c.Selects (old.restoreFrom c) := by
  have modes : (old.restoreFrom c).modes.length = c.modes.length := List.length_map _
  unfold restoreFrom at modes ⊢
  cases matched : old.existingMode.bind fun oldMode => c.modes.findIdx? (·.sameMode oldMode) with
  | none => exact ⟨few, modes, .inl rfl⟩
  | some matchedMode =>
      obtain ⟨oldMode, -, found⟩ := Option.bind_eq_some_iff.mp matched
      obtain ⟨inside, -⟩ := List.findIdx?_eq_some_iff_findIdx_eq.mp found
      refine ⟨few, modes, .inr ?_⟩
      show sizeT (Int32.ofNat matchedMode) < c.modes.length
      rwa [sizeT_ofNat (inside.trans few)]

theorem restoreDetected_selects (pending : List (RGBController × Bool)) {c : RGBController}
    (few : c.modes.length < 2 ^ 31) : c.Selects (restoreDetected pending c).2 := by
  induction pending with
  | nil => exact .refl few
  | cons e rest ih =>
      obtain ⟨existing, matched⟩ := e
      rw [restoreDetected]
      split_ifs
      · exact restoreFrom_selects existing few
      · exact ih

end RGBController
end SyncRGB
