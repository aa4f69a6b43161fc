import SyncRGB.Profile.LoadDevice

/-! Registering a detected controller: its state is taken over from an old controller that is taken for
the same device. -/
namespace SyncRGB
open ByteCodec

namespace RGBController

/-- The location test of `RegisterRGBController` has the logic of the profile manager's. -/
def existingLocationCheck (existing detected : Bytes) : Bool := locationCheck existing detected

def matchesExisting (existing detected : RGBController) : Bool :=
  existing.type = detected.type && existing.name = detected.name &&
    existing.description = detected.description && existing.version = detected.version &&
    existing.serial = detected.serial && existingLocationCheck existing.location detected.location

/-- The mode an active mode names, if it is in range. The size is compared as an `int`. -/
def existingMode (c : RGBController) : Option Mode :=
  if 0 ≤ c.activeMode ∧ c.activeMode < Int32.ofNat c.modes.length then c.modes[c.activeMode.toInt.toNat]?
  else none

end RGBController

/-- The modes are one and the same by their name and value. -/
def Mode.sameMode (a b : Mode) : Bool := a.name = b.name && a.value = b.value

/-- The settings of the first old mode that is the same; colors only in the same number. -/
def Mode.restoreFrom (olds : List Mode) (m : Mode) : Mode :=
  match olds.find? m.sameMode with
  | some old =>
      { m with
        speed := old.speed
        brightness := old.brightness
        direction := old.direction
        colorMode := old.colorMode
        colors := if m.colors.length = old.colors.length then old.colors else m.colors }
  | none => m

namespace RGBController

/-- The state of the old controller; an active mode without a counterpart stays what the driver set. -/
def restoreFrom (old c : RGBController) : RGBController :=
  { c with
    activeMode :=
      match old.existingMode.bind fun oldMode => c.modes.findIdx? (·.sameMode oldMode) with
      | some matchedMode => Int32.ofNat matchedMode
      | none => c.activeMode
    modes := c.modes.map (Mode.restoreFrom old.modes)
    colors := if c.colors.length = old.colors.length then old.colors else c.colors }

/-- `flags &= ~CONTROLLER_FLAG_REMOTE; flags |= CONTROLLER_FLAG_LOCAL`. -/
def ownedLocally (c : RGBController) : RGBController :=
  { c with flags := c.flags &&& ~~~2 ||| 1 }

end RGBController

/-- `ResourceManager::RegisterRGBController` up to the list it appends to. The pending controllers come
with whether one was matched. -/
def restoreDetected : List (RGBController × Bool) → RGBController →
    List (RGBController × Bool) × RGBController
  | [], c => ([], c)
  | (existing, matched) :: rest, c =>
      if !matched && existing.matchesExisting c then ((existing, true) :: rest, existing.restoreFrom c)
      else
        let (rest, c) := restoreDetected rest c
        ((existing, matched) :: rest, c)

end SyncRGB
