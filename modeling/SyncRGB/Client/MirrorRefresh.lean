import SyncRGB.Controller.Transmitted

/-! What a controller description makes of the mirror it is for. The refresh copies the parts that change in
ordinary use; the others have to be there already. -/
namespace SyncRGB
open ByteCodec Reader

/-! ### Processing a reply -/

/-- Processing a reply leaves the mirrors, or bytes outside of the reply were read, or a zone was indexed
that the description does not have. -/
inductive ReplyOutcome
  | done (mirrors : List RGBController)
  | badRead
  | badZone

/-- The fields of a zone that a refresh copies. -/
def Zone.refresh (z new : Zone) : Zone := { z with ledsCount := new.ledsCount, segments := new.segments }

/-- The loop over the zones of the mirror indexes those of the new controller. -/
def refreshZones : List Zone → List Zone → Option (List Zone)
  | [], _ => some []
  | _ :: _, [] => none
  | z :: zs, new :: news => (refreshZones zs news).map (z.refresh new :: ·)

namespace RGBController

def ownedRemotely (c : RGBController) : RGBController :=
  { c with flags := c.flags &&& ~~~1 ||| 2 }

/-- The branch for a mirror that exists. -/
def refresh (m new : RGBController) : Option RGBController :=
  (refreshZones m.zones new.zones).map fun zones =>
    setupColors { m with activeMode := new.activeMode, leds := new.leds, colors := new.colors, zones }

end RGBController

/-- `NetworkClient::ProcessReply_ControllerData`. The constructor leaves the type of the new controller as
it finds it. -/
def processReplyControllerData (v : Nat) (type : Int32) (dataSize : UInt32) (data : Bytes)
    (devIdx : UInt32) (mirrors : List RGBController) : ReplyOutcome :=
  match u32.exec data 0 with
  | none => .badRead
  | some (size, _) =>
      if dataSize = size then
        match (readDeviceDescription v (RGBController.new type)).exec data 0 with
        | none => .badRead
        | some (new, _) =>
            match mirrors[devIdx.toNat]? with
            | none => .done (mirrors ++ [new.ownedRemotely])
            | some m =>
                match m.refresh new.ownedRemotely with
                | none => .badZone
                | some m => .done (mirrors.set devIdx.toNat m)
      else .done mirrors

/-! ### What version `v` transmits -/

def Zone.seen (v : Nat) (z : Zone) : Zone :=
  { z.unplaced with
    segments := if 4 ≤ v then z.segments else []
    flags := if 5 ≤ v then z.flags else 0 }

/-- The transmitted fields of a zone that a refresh does not copy. -/
def Zone.standing (v : Nat) (z : Zone) : Zone := { z.seen v with ledsCount := 0, segments := [] }

namespace RGBController

/-- The transmitted fields of a controller apart from the local and remote flags, the others blank. -/
def seen (v : Nat) (c : RGBController) : RGBController :=
  { c with
    vendor := if 1 ≤ v then c.vendor else []
    modes := c.modes.map (Mode.transmitted v)
    zones := c.zones.map (Zone.seen v)
    ledAltNames := if 5 ≤ v then c.ledAltNames else []
    flags := if 5 ≤ v then c.flags &&& ~~~3 else 0 }

/-- What a refresh does not copy is as described, and the zones of the mirror have a LED for each color. -/
structure Current (v : Nat) (m described : RGBController) : Prop where
  name : m.name = described.name
  vendor : 1 ≤ v → m.vendor = described.vendor
  description : m.description = described.description
  version : m.version = described.version
  serial : m.serial = described.serial
  location : m.location = described.location
  type : m.type = described.type
  modes : m.modes.map (Mode.transmitted v) = described.modes.map (Mode.transmitted v)
  zones : m.zones.map (Zone.standing v) = described.zones.map (Zone.standing v)
  ledAltNames : 5 ≤ v → m.ledAltNames = described.ledAltNames
  flags : 5 ≤ v → m.flags &&& ~~~3 = described.flags &&& ~~~3
  leds : (totalLedCount (List.zipWith Zone.refresh m.zones described.zones)).toNat =
    described.colors.length

end RGBController

/-- A reply whose data is a description of this controller. -/
structure Describes (v : Nat) (type : Int32) (dataSize : UInt32) (data : Bytes)
    (described : RGBController) : Prop where
  sized : (u32.exec data 0).map Prod.fst = some dataSize
  decoded : ((readDeviceDescription v (RGBController.new type)).exec data 0).map Prod.fst = some described

/-! ### One refresh -/

theorem refreshZones_eq (zs news : List Zone) :
    refreshZones zs news =
      if zs.length ≤ news.length then some (List.zipWith Zone.refresh zs news) else none := by
  induction zs generalizing news with
  | nil => rfl
  | cons z zs ih =>
      cases news with
      | nil => rfl
      | cons new news =>
          rw [refreshZones, ih, List.length_cons, List.length_cons]
          by_cases room : zs.length ≤ news.length
          · rw [if_pos room, if_pos (Nat.succ_le_succ room)]
            rfl
          · rw [if_neg room, if_neg fun h => room (Nat.le_of_succ_le_succ h)]
            rfl

theorem Zone.seen_refresh_iff (v : Nat) (z new : Zone) :
    (z.refresh new).seen v = new.seen v ↔ z.standing v = new.standing v := by
  simp only [Zone.refresh, Zone.seen, Zone.standing, Zone.unplaced, Zone.mk.injEq, true_and]

theorem seen_zipWith_refresh_iff (v : Nat) {zs news : List Zone} (room : zs.length ≤ news.length) :
    (List.zipWith Zone.refresh zs news).map (Zone.seen v) = news.map (Zone.seen v) ↔
      zs.map (Zone.standing v) = news.map (Zone.standing v) := by
  induction zs generalizing news with
  | nil => cases news <;> simp
  | cons z zs ih =>
      cases news with
      | nil => cases room
      | cons new news =>
          rw [List.zipWith_cons_cons, List.map_cons, List.map_cons, List.map_cons, List.map_cons,
            List.cons_eq_cons, List.cons_eq_cons, Zone.seen_refresh_iff,
            ih (Nat.le_of_succ_le_succ room)]

namespace RGBController

theorem resizeColors_eq_iff (colors : List RGBColor) (n : Nat) :
    resizeColors colors n = colors ↔ n = colors.length := by
  constructor
  · intro same
    have length := congrArg List.length same
    rwa [resizeColors_length] at length
  · rintro rfl
    exact resizeColors_self colors

theorem ite_eq_ite_iff {α : Type} {p : Prop} [Decidable p] {a b c : α} :
    (if p then a else c) = (if p then b else c) ↔ (p → a = b) := by
  split_ifs with holds
  · exact ⟨fun same _ => same, fun same => same holds⟩
  · exact iff_of_true rfl fun h => absurd h holds

theorem Current.zones_length {v : Nat} {m described : RGBController} (current : m.Current v described) :
    m.zones.length = described.zones.length := by
  have length := congrArg List.length current.zones
  rwa [List.length_map, List.length_map] at length

/-- A refresh that goes through leaves the mirror as described just when the rest of it was current. -/
theorem seen_refreshed_iff (v : Nat) {m described : RGBController}
    (room : m.zones.length ≤ described.zones.length) :
    (setupColors { m with
        activeMode := described.activeMode
        leds := described.leds
        colors := described.colors
        zones := List.zipWith Zone.refresh m.zones described.zones }).seen v = described.seen v ↔
      m.Current v described := by
  have windows (numLeds numColors : Nat) (total : UInt32) (zs : List Zone) :
      (setupZones numLeds numColors total zs).map (Zone.seen v) = zs.map (Zone.seen v) :=
    map_setupZones (fun _ => rfl) numLeds numColors total zs
  simp only [seen, setupColors, windows, mk.injEq, ite_eq_ite_iff, true_and,
    seen_zipWith_refresh_iff v room, resizeColors_eq_iff]
  constructor
  · rintro ⟨name, vendor, description, version, serial, location, zones, modes, leds, type, altNames, flags⟩
    exact ⟨name, vendor, description, version, serial, location, type, modes, zones, altNames, flags, leds⟩
  · rintro ⟨name, vendor, description, version, serial, location, type, modes, zones, altNames, flags, leds⟩
    exact ⟨name, vendor, description, version, serial, location, zones, modes, leds, type, altNames, flags⟩

theorem refresh_seen_iff (v : Nat) (m described : RGBController) :
    (∃ m', m.refresh described = some m' ∧ m'.seen v = described.seen v) ↔ m.Current v described := by
  rw [refresh, refreshZones_eq]
  by_cases room : m.zones.length ≤ described.zones.length
  · rw [if_pos room, ← seen_refreshed_iff v room]
    constructor
    · rintro ⟨m', refreshed, same⟩
      obtain rfl := Option.some.inj refreshed
      exact same
    · intro same
      exact ⟨_, rfl, same⟩
  · rw [if_neg room]
    refine iff_of_false ?_ fun current => room current.zones_length.le
    rintro ⟨_, refreshed, -⟩
    cases refreshed

end RGBController

/-! ### One reply -/

/-- The reply was processed, and the mirror is as described in every transmitted field. -/
def Refreshes (v : Nat) (type : Int32) (dataSize : UInt32) (data : Bytes) (devIdx : UInt32)
    (mirrors : List RGBController) (described : RGBController) : Prop :=
  ∃ after m', processReplyControllerData v type dataSize data devIdx mirrors = .done after ∧
    after[devIdx.toNat]? = some m' ∧ m'.seen v = described.seen v

theorem processReplyControllerData_eq {v : Nat} {type : Int32} {dataSize devIdx : UInt32} {data : Bytes}
    {mirrors : List RGBController} {m described : RGBController}
    (reply : Describes v type dataSize data described) (there : mirrors[devIdx.toNat]? = some m) :
    processReplyControllerData v type dataSize data devIdx mirrors =
      match m.refresh described with
      | none => .badZone
      | some m' => .done (mirrors.set devIdx.toNat m') := by
  obtain ⟨⟨size, q⟩, sized, rfl⟩ := Option.map_eq_some_iff.mp reply.sized
  obtain ⟨⟨new, p⟩, decoded, rfl⟩ := Option.map_eq_some_iff.mp reply.decoded
  have owner : m.refresh new.ownedRemotely = m.refresh new := rfl
  simp only [processReplyControllerData, sized, if_true, decoded, there, owner]

theorem refreshes_iff {v : Nat} {type : Int32} {dataSize devIdx : UInt32} {data : Bytes}
    {mirrors : List RGBController} {m described : RGBController}
    (reply : Describes v type dataSize data described) (there : mirrors[devIdx.toNat]? = some m) :
    Refreshes v type dataSize data devIdx mirrors described ↔
      ∃ m', m.refresh described = some m' ∧ m'.seen v = described.seen v := by
  have inside : devIdx.toNat < mirrors.length := (List.getElem?_eq_some_iff.mp there).1
  rw [Refreshes, processReplyControllerData_eq reply there]
  constructor
  · rintro ⟨after, m', done, found, same⟩
    cases refreshed : m.refresh described with
    | none =>
        rw [refreshed] at done
        cases done
    | some m₁ =>
        rw [refreshed] at done
        obtain rfl := ReplyOutcome.done.inj done
        rw [List.getElem?_set_self inside] at found
        exact ⟨m₁, rfl, (Option.some.inj found) ▸ same⟩
  · rintro ⟨m', refreshed, same⟩
    rw [refreshed]
    exact ⟨_, m', rfl, List.getElem?_set_self inside, same⟩

/-- A reply for a mirror that exists refreshes it exactly when everything that is not copied was current. -/
theorem processReplyControllerData_refreshes_iff {v : Nat} {type : Int32} {dataSize devIdx : UInt32}
    {data : Bytes} {mirrors : List RGBController} {m described : RGBController}
    (reply : Describes v type dataSize data described) (there : mirrors[devIdx.toNat]? = some m) :
    Refreshes v type dataSize data devIdx mirrors described ↔ m.Current v described := by
  rw [refreshes_iff reply there, RGBController.refresh_seen_iff]

/-- The encoding of an ordinary controller describes the controller as transmitted. -/
theorem describes_describable {v : Nat} {c : RGBController} (h : c.Describable v) (memory : Nat → UInt8)
    (type : Int32) : ∃ data described, c.getDeviceDescription memory v = some data ∧
      Describes v type (UInt32.ofNat data.length) data described ∧
      described.unplaced = c.transmitted v (RGBController.new type) := by
  obtain ⟨data, p, encoded, decoded⟩ := h.withinLimits.read memory type
  obtain ⟨-, length⟩ := RGBController.getDeviceDescription_eq h.withinLimits.textsFit encoded
  obtain ⟨room, size⟩ := RGBController.getDeviceDescription_size h.withinLimits.textsFit encoded
  have small : data.length < 2 ^ 32 := by
    rw [length]
    exact RGBController.dataSize_lt v c
  refine ⟨data, _, encoded, ⟨?_, ?_⟩, h.back_unplaced _⟩
  · rw [exec_u32 small, Nat.zero_add, if_pos room, size]
    rfl
  · rw [decoded]
    rfl

namespace RGBController

theorem current_unplaced_iff {v : Nat} {m described : RGBController} :
    m.Current v described.unplaced ↔ m.Current v described := by
  have standing : described.unplaced.zones.map (Zone.standing v) =
      described.zones.map (Zone.standing v) := map_unplaced (fun _ => rfl) described.zones
  have refreshed : List.zipWith Zone.refresh m.zones described.unplaced.zones =
      List.zipWith Zone.refresh m.zones described.zones := List.zipWith_map_right
  constructor
  · intro h
    exact ⟨h.name, h.vendor, h.description, h.version, h.serial, h.location, h.type, h.modes,
      h.zones.trans standing, h.ledAltNames, h.flags, refreshed ▸ h.leds⟩
  · intro h
    exact ⟨h.name, h.vendor, h.description, h.version, h.serial, h.location, h.type, h.modes,
      h.zones.trans standing.symm, h.ledAltNames, h.flags, refreshed.symm ▸ h.leds⟩

/-- A mirror of the controller with two zones in other colors. -/
def recolored : RGBController := { twoZones with colors := [1, 2] }

theorem twoZones_ordinary : twoZones.Describable 5 := twoZones_describable (by decide)

end RGBController

theorem recolored_refreshed : ∃ data described,
    Describes 5 0 (UInt32.ofNat data.length) data described ∧
      Refreshes 5 0 (UInt32.ofNat data.length) data 0 [RGBController.recolored] described := by
  obtain ⟨data, described, -, reply, same⟩ :=
    describes_describable RGBController.twoZones_ordinary (fun _ => 0) 0
  refine ⟨data, described, reply, (processReplyControllerData_refreshes_iff reply rfl).mpr ?_⟩
  rw [← RGBController.current_unplaced_iff, same]
  exact ⟨rfl, fun _ => rfl, rfl, rfl, rfl, rfl, rfl, rfl, rfl, fun _ => rfl, fun _ => rfl, by decide⟩

/-- A mirror whose mode has another speed than the server's. -/
def RGBController.otherSpeed : RGBController :=
  { twoZones with modes := [{ Mode.new with name := [68], brightness := 9, speed := 3, colors := [7] }] }

/-- The mirror keeps its speed. -/
theorem otherSpeed_stale : RGBController.twoZones.Describable 5 ∧ ∃ data described,
    RGBController.twoZones.getDeviceDescription (fun _ => 0) 5 = some data ∧
      Describes 5 0 (UInt32.ofNat data.length) data described ∧
      ¬ Refreshes 5 0 (UInt32.ofNat data.length) data 0 [RGBController.otherSpeed] described := by
  have ordinary := RGBController.twoZones_ordinary
  obtain ⟨data, described, encoded, reply, same⟩ := describes_describable ordinary (fun _ => 0) 0
  refine ⟨ordinary, data, described, encoded, reply, fun refreshes => ?_⟩
  have current := (RGBController.refresh_seen_iff 5 _ _).mp ((refreshes_iff reply rfl).mp refreshes)
  rw [← RGBController.current_unplaced_iff, same] at current
  exact absurd current.modes (by decide)

end SyncRGB
