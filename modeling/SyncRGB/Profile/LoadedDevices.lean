import SyncRGB.Profile.LoadDevice
import SyncRGB.VectorEdit.Pointwise

/-! Which saved controller each controller loads. With identities that do not match each other every
controller can only load what was saved for it, whatever order the list is walked in. -/
namespace SyncRGB
open ByteCodec
namespace RGBController

/-- The fields the match looks at. -/
structure SameIdentity (a b : RGBController) : Prop where
  type : a.type = b.type
  name : a.name = b.name
  description : a.description = b.description
  version : a.version = b.version
  serial : a.serial = b.serial
  location : a.location = b.location

theorem SameIdentity.refl (a : RGBController) : a.SameIdentity a := ⟨rfl, rfl, rfl, rfl, rfl, rfl⟩

theorem SameIdentity.trans {a b c : RGBController} (ab : a.SameIdentity b) (bc : b.SameIdentity c) :
    a.SameIdentity c :=
  ⟨ab.type.trans bc.type, ab.name.trans bc.name, ab.description.trans bc.description,
    ab.version.trans bc.version, ab.serial.trans bc.serial, ab.location.trans bc.location⟩

theorem matchesSaved_congr {a a' b b' : RGBController} (left : a.SameIdentity a')
    (right : b.SameIdentity b') : a.matchesSaved b = a'.matchesSaved b' := by
  unfold matchesSaved
  rw [left.type, left.name, left.description, left.version, left.serial, left.location, right.type,
    right.name, right.description, right.version, right.serial, right.location]

theorem matchesSaved_self (c : RGBController) :
    c.matchesSaved c = locationCheck c.location c.location := by
  simp [matchesSaved]

/-- No controller is taken for another one. -/
def Apart (cs : List RGBController) : Prop :=
  cs.Pairwise fun a b => a.matchesSaved b = false ∧ b.matchesSaved a = false

end RGBController

namespace ProfileManager
open RGBController
variable {loadSize loadSettings : Bool}

theorem loadDevice_append {front : List (RGBController × Bool)} {c : RGBController}
    (none_ : ∀ e ∈ front, e.1.matchesSaved c = false) (rest : List (RGBController × Bool)) :
    loadDeviceFromListWithOptions loadSize loadSettings (front ++ rest) c =
      let r := loadDeviceFromListWithOptions loadSize loadSettings rest c
      (r.1, front ++ r.2.1, r.2.2) := by
  induction front with
  | nil => rfl
  | cons e front ih =>
      have other : (!e.2 && e.1.matchesSaved c) = false := by
        rw [none_ e List.mem_cons_self, Bool.and_false]
      rw [List.cons_append, loadDeviceFromListWithOptions, other,
        ih fun e he => none_ e (List.mem_cons_of_mem _ he)]
      rfl

theorem loadDevice_unmatched {temps : List (RGBController × Bool)} {c : RGBController}
    (none_ : ∀ e ∈ temps, e.1.matchesSaved c = false) :
    loadDeviceFromListWithOptions loadSize loadSettings temps c = (false, temps, c) := by
  have all : loadDeviceFromListWithOptions loadSize loadSettings (temps ++ []) c =
      (false, temps ++ [], c) := loadDevice_append none_ []
  rwa [List.append_nil] at all

/-- What a controller loads when only `saved` can match it. -/
def loadOwn (loadSize loadSettings : Bool) (saved c : RGBController) : RGBController :=
  if saved.matchesSaved c then loadFrom loadSize loadSettings saved c else c

theorem loadDevice_cons {saved c : RGBController} {rest : List (RGBController × Bool)}
    (none_ : ∀ e ∈ rest, e.1.matchesSaved c = false) :
    loadDeviceFromListWithOptions loadSize loadSettings ((saved, false) :: rest) c =
      (saved.matchesSaved c, (saved, saved.matchesSaved c) :: rest,
        loadOwn loadSize loadSettings saved c) := by
  rw [loadDeviceFromListWithOptions, loadOwn, Bool.not_false, Bool.true_and]
  cases found : saved.matchesSaved c with
  | true => rfl
  | false => rw [loadDevice_unmatched none_]; rfl

/-- With identities apart every controller loads what was saved under its own. -/
theorem loadDevices_eq {saved cs : List RGBController} (own : List.Forall₂ SameIdentity saved cs)
    (apart : Apart saved) (front : List (RGBController × Bool))
    (past : ∀ e ∈ front, ∀ c ∈ cs, e.1.matchesSaved c = false) :
    (loadDevices loadSize loadSettings (front ++ saved.map fun s => (s, false)) cs).2 =
      List.zipWith (loadOwn loadSize loadSettings) saved cs := by
  induction own generalizing front with
  | nil => rfl
  | @cons s c saved cs first others ih =>
      obtain ⟨away, apart⟩ := List.pairwise_cons.mp apart
      have later : ∀ e ∈ saved.map fun s => (s, false), e.1.matchesSaved c = false := by
        intro e he
        obtain ⟨s', hs, rfl⟩ := List.mem_map.mp he
        rw [← matchesSaved_congr (SameIdentity.refl s') first]
        exact (away s' hs).2
      have passed : ∀ e ∈ front ++ [(s, s.matchesSaved c)], ∀ c' ∈ cs, e.1.matchesSaved c' = false := by
        intro e he c' hc
        obtain inFront | last := List.mem_append.mp he
        · exact past e inFront c' (List.mem_cons_of_mem _ hc)
        · obtain rfl := List.mem_singleton.mp last
          obtain ⟨s', hs, same⟩ := VectorEdit.exists_of_mem_right others hc
          rw [← matchesSaved_congr (SameIdentity.refl s) same]
          exact (away s' hs).1
      have rest := ih apart (front ++ [(s, s.matchesSaved c)]) passed
      rw [List.append_assoc, List.singleton_append] at rest
      rw [List.map_cons, loadDevices,
        loadDevice_append fun e he => past e he c List.mem_cons_self, loadDevice_cons later]
      exact congrArg (_ :: ·) rest

theorem loadProfileWithOptions_eq {saved cs : List RGBController}
    (own : List.Forall₂ SameIdentity saved cs) (apart : Apart saved) :
    (loadProfileWithOptions loadSize loadSettings saved cs).2 =
      List.zipWith (loadOwn loadSize loadSettings) saved cs :=
  loadDevices_eq own apart [] fun _ he => absurd he List.not_mem_nil

end ProfileManager
end SyncRGB
