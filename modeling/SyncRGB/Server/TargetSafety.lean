import SyncRGB.Controller.Windows
import SyncRGB.Server.ReadSafety
import SyncRGB.VectorEdit.Pointwise

/-! Which packets touch only modes, zones, LEDs and colors that exist. From
controllers whose zones lie as `SetupColors` lays them, packets with valid
targets lead to such controllers again. -/
namespace SyncRGB
open ByteCodec Reader

/-! ### Stores into the colors -/

theorem storeColors_inside {colors xs : List RGBColor} {i : Nat} (h : i + xs.length ≤ colors.length) :
    ∃ out, storeColors colors i xs = some out ∧ out.length = colors.length ∧
      ∀ j, out[j]? ≠ colors[j]? → i ≤ j ∧ j < i + xs.length := by
  induction xs generalizing colors i with
  | nil => exact ⟨colors, rfl, rfl, fun j differs => absurd rfl differs⟩
  | cons x xs ih =>
      rw [List.length_cons] at h
      have room : i + 1 + xs.length ≤ (colors.set i x).length := by
        rw [List.length_set]
        omega
      obtain ⟨out, stored, length, slots⟩ := ih room
      refine ⟨out, by rw [storeColors, if_pos (by omega), stored], by simpa using length, ?_⟩
      intro j differs
      rw [List.length_cons]
      by_cases here : i = j
      · omega
      · have moved := slots j (by rwa [List.getElem?_set_ne here])
        omega

/-! ### Changes that keep the layout -/

def Zone.window (z : Zone) : UInt32 × Option Nat × Option Nat × UInt32 :=
  (z.startIdx, z.leds, z.colors, z.getLEDsInZone)

theorem ledSum_eq_windows (zs : List Zone) :
    ledSum zs = ((zs.map Zone.window).map fun w => w.2.2.2.toNat).sum := by
  rw [List.map_map]
  rfl

namespace RGBController

/-- Counted for the LEDs, and laid out as `SetupColors` does it. -/
def Placed (c : RGBController) : Prop := c.Accounted ∧ c.LaidOut

theorem LaidOut.of_windows {c c' : RGBController} (h : c.LaidOut)
    (zones : c'.zones.map Zone.window = c.zones.map Zone.window)
    (leds : c'.leds.length = c.leds.length) : c'.LaidOut := by
  intro i z' hz'
  have before : ledSum (c'.zones.take i) = ledSum (c.zones.take i) := by
    simp only [ledSum_eq_windows, List.map_take, zones]
  have found : (c.zones.map Zone.window)[i]? = some z'.window := by
    rw [← zones, List.getElem?_map, hz']
    rfl
  rw [List.getElem?_map] at found
  obtain ⟨z, hz, same⟩ := Option.map_eq_some_iff.mp found
  obtain ⟨start, zoneLeds, zoneColors, count⟩ : z.startIdx = z'.startIdx ∧ z.leds = z'.leds ∧
      z.colors = z'.colors ∧ z.getLEDsInZone = z'.getLEDsInZone := by
    simpa only [Zone.window, Prod.mk.injEq] using same
  rw [before, leds, ← start, ← zoneLeds, ← zoneColors, ← count]
  exact h i z hz

theorem Placed.of_windows {c c' : RGBController} (h : c.Placed)
    (zones : c'.zones.map Zone.window = c.zones.map Zone.window)
    (leds : c'.leds.length = c.leds.length) (colors : c'.colors.length = c.colors.length) :
    c'.Placed := by
  refine ⟨⟨?_, ?_⟩, h.2.of_windows zones leds⟩
  · rw [ledSum_eq_windows, zones, ← ledSum_eq_windows, leds]
    exact h.1.1
  · rw [leds, colors]
    exact h.1.2

/-! ### One operation -/

/-- The checks let an index of the size of the vector through. -/
def ModeTarget (data : Bytes) (c : RGBController) : Prop :=
  sizeT (field32 data 4).toInt32 ≠ c.modes.length

def LedTarget (data : Bytes) (c : RGBController) : Prop :=
  sizeT (field32 data 0).toInt32 ≠ c.leds.length

/-- Colors only for a zone that exists, and no more than it has LEDs. -/
def ZoneTarget (data : Bytes) (c : RGBController) : Prop :=
  (field32 data 4).toNat ≤ c.zones.length → 0 < field16 data 8 →
    ∃ z, c.zones[(field32 data 4).toNat]? = some z ∧ field16 data 8 ≤ z.getLEDsInZone.toNat

/-- The segment operations check nothing. -/
def SegmentTarget (zone : Int32) (c : RGBController) : Prop := sizeT zone < c.zones.length

/-- Only color slots of the zone at `zoneIdx` differ. -/
def ZoneFrame (zoneIdx : Nat) (c c' : RGBController) : Prop :=
  c' = { c with colors := c'.colors } ∧
    ∀ j, c'.colors[j]? ≠ c.colors[j]? →
      ∃ z, c.zones[zoneIdx]? = some z ∧
        z.startIdx.toNat ≤ j ∧ j < z.startIdx.toNat + z.getLEDsInZone.toNat

section Operations
variable {c : RGBController} {data : Bytes} {q v : Nat} {r : Option RGBController}
  (small : data.length < 2 ^ 32) (placed : c.Placed)
include small placed

theorem setModeDescription_kept (target : ModeTarget data c)
    (run : (c.setModeDescription v).exec data 0 = some (r, q)) : ∃ c', r = some c' ∧ c'.Placed := by
  rw [setModeDescription, exec_skip_size] at run
  have rest := exec_rest (exec_i32 small) run
  split_ifs at rest with beyond
  · obtain ⟨rfl, -⟩ := Prod.mk.inj (Option.some.inj rest)
    exact ⟨c, rfl, placed⟩
  · obtain ⟨newMode, q', -, last⟩ := exec_bind_eq_some.mp rest
    have exists_mode : sizeT (field32 data 4).toInt32 < c.modes.length := by
      unfold ModeTarget at target
      omega
    obtain ⟨rfl, -⟩ := Prod.mk.inj (Option.some.inj last)
    rw [List.getElem?_eq_getElem exists_mode]
    exact ⟨_, rfl, placed⟩

theorem setColorDescription_kept
    (run : c.setColorDescription.exec data 0 = some (r, q)) : ∃ c', r = some c' ∧ c'.Placed := by
  rw [setColorDescription, exec_skip_size] at run
  have rest := exec_rest (exec_u16 small) run
  split_ifs at rest with beyond
  · obtain ⟨rfl, -⟩ := Prod.mk.inj (Option.some.inj rest)
    exact ⟨c, rfl, placed⟩
  · obtain ⟨newColors, q', read, last⟩ := exec_bind_eq_some.mp rest
    obtain ⟨rfl, -⟩ := Prod.mk.inj (Option.some.inj last)
    have count := length_of_many read
    have room : 0 + newColors.length ≤ c.colors.length := by omega
    obtain ⟨out, stored, length, -⟩ := storeColors_inside room
    rw [stored]
    exact ⟨_, rfl, placed.of_windows rfl rfl length⟩

theorem setSingleLEDColorDescription_kept (target : LedTarget data c)
    (run : c.setSingleLEDColorDescription.exec data 0 = some (r, q)) :
    ∃ c', r = some c' ∧ c'.Placed := by
  rw [setSingleLEDColorDescription] at run
  have rest := exec_rest (exec_i32 small) run
  split_ifs at rest with beyond
  · obtain ⟨rfl, -⟩ := Prod.mk.inj (Option.some.inj rest)
    exact ⟨c, rfl, placed⟩
  · have last := exec_rest (exec_u32 small) rest
    obtain ⟨rfl, -⟩ := Prod.mk.inj (Option.some.inj last)
    have led : sizeT (field32 data 0).toInt32 < c.colors.length := by
      rw [← placed.1.2]
      unfold LedTarget at target
      omega
    have room : sizeT (field32 data 0).toInt32 + [field32 data (0 + 4)].length ≤ c.colors.length := led
    obtain ⟨out, stored, length, -⟩ := storeColors_inside room
    rw [stored]
    exact ⟨_, rfl, placed.of_windows rfl rfl length⟩

theorem setZoneColorDescription_kept (target : ZoneTarget data c)
    (run : c.setZoneColorDescription.exec data 0 = some (r, q)) :
    ∃ c', r = some c' ∧ c'.Placed ∧ c.ZoneFrame (field32 data 4).toNat c' := by
  have still : ∃ c', some c = some c' ∧ c'.Placed ∧ c.ZoneFrame (field32 data 4).toNat c' :=
    ⟨c, rfl, placed, rfl, fun j differs => absurd rfl differs⟩
  rw [setZoneColorDescription, exec_skip_size] at run
  have rest := exec_rest (exec_u32 small) run
  split_ifs at rest with beyond
  · obtain ⟨rfl, -⟩ := Prod.mk.inj (Option.some.inj rest)
    exact still
  · have colors := exec_rest (exec_u16 small) rest
    obtain ⟨newColors, q', read, last⟩ := exec_bind_eq_some.mp colors
    obtain ⟨rfl, -⟩ := Prod.mk.inj (Option.some.inj last)
    have count : newColors.length = field16 data 8 := length_of_many read
    unfold storeZoneColors
    by_cases none : newColors = []
    · rw [if_pos none]
      exact still
    · have some := List.length_pos_of_ne_nil none
      obtain ⟨z, zone, enough⟩ := target (by omega) (by omega)
      obtain ⟨start, -, pointer⟩ := placed.2 _ z zone
      have inside := windows_inside placed.1 placed.2 z (List.mem_of_getElem? zone)
      have lit : 0 < z.getLEDsInZone := UInt32.lt_iff_toNat_lt.mpr (by
        rw [UInt32.toNat_zero]
        omega)
      rw [if_pos lit] at pointer
      have room : z.startIdx.toNat + newColors.length ≤ c.colors.length := by
        have reach := inside.2
        omega
      obtain ⟨out, stored, length, slots⟩ := storeColors_inside room
      rw [if_neg none, zone, Option.bind_eq_bind, Option.bind_some, pointer, Option.bind_eq_bind,
        Option.bind_some, stored]
      refine ⟨_, rfl, placed.of_windows rfl rfl length, rfl, fun j differs => ⟨z, zone, ?_⟩⟩
      have slot := slots j differs
      omega

end Operations

theorem modifySegments_kept {c : RGBController} (placed : c.Placed) {zone : Int32}
    (target : SegmentTarget zone c) (f : List Segment → List Segment) :
    ∃ c', c.modifySegments zone f = some c' ∧ c'.Placed := by
  have found := List.getElem?_eq_getElem target
  rw [modifySegments, found]
  exact ⟨_, rfl, placed.of_windows (VectorEdit.map_set_of_eq Zone.window found rfl) rfl rfl⟩

theorem Placed.of_setCustomMode {c : RGBController} (h : c.Placed) : c.setCustomMode.Placed := by
  unfold setCustomMode
  split
  · exact h
  · exact h

theorem setSegmentDescription_kept {c : RGBController} {data : Bytes} {q : Nat}
    {r : Option RGBController} (small : data.length < 2 ^ 32) (placed : c.Placed)
    (target : SegmentTarget (field32 data 4).toInt32 c)
    (run : c.setSegmentDescription.exec data 0 = some (r, q)) : ∃ c', r = some c' ∧ c'.Placed := by
  rw [setSegmentDescription, exec_skip_size] at run
  have length := exec_rest (exec_u32 small) run
  obtain ⟨_, _, -, copied⟩ := exec_bind_eq_some.mp length
  obtain ⟨_, _, -, typed⟩ := exec_bind_eq_some.mp copied
  obtain ⟨_, _, -, started⟩ := exec_bind_eq_some.mp typed
  obtain ⟨_, _, -, counted⟩ := exec_bind_eq_some.mp started
  obtain ⟨_, _, -, named⟩ := exec_bind_eq_some.mp counted
  obtain ⟨_, _, -, last⟩ := exec_bind_eq_some.mp named
  obtain ⟨rfl, -⟩ := Prod.mk.inj (Option.some.inj last)
  exact modifySegments_kept placed target _

end RGBController

/-! ### One packet -/

/-- What the drivers, the detection and the profile manager keep. -/
structure Services.Keep (services : Services) : Prop where
  resizeZone : ∀ c zone newSize, c.Placed → (services.resizeZone c zone newSize).Placed
  rescanDevices : ∀ cs, (∀ c ∈ cs, c.Placed) → ∀ c ∈ services.rescanDevices cs, c.Placed
  loadProfile : ∀ name cs, (∀ c ∈ cs, c.Placed) → ∀ c ∈ services.loadProfile name cs, c.Placed

namespace NetworkServer

def Settled (s : NetworkServer) : Prop := ∀ c ∈ s.controllers, c.Placed

/-- The description in the packet is not refused. -/
def Accepts (s : NetworkServer) (p : NetPacket) : Prop :=
  p.data ≠ [] ∧ (p.pktSize = field32 p.data 0 ∨ s.legacyClient)

/-- The packets whose indices name slots of the addressed controller. -/
def TargetOk (s : NetworkServer) (p : NetPacket) : Prop :=
  ∀ c, s.controllers[p.pktDevIdx.toNat]? = some c →
    match p.kind with
    | some .updateMode | some .saveMode => s.Accepts p → c.ModeTarget p.data
    | some .updateZoneLeds => s.Accepts p → c.ZoneTarget p.data
    | some .updateSingleLed => p.pktSize = 8 → c.LedTarget p.data
    | some .clearSegments => p.pktSize = 4 → c.SegmentTarget (field32 p.data 0).toInt32
    | some .addSegment =>
        p.pktSize = field32 p.data 0 → c.SegmentTarget (field32 p.data 4).toInt32
    | _ => True

end NetworkServer

/-- No slot outside a vector was touched, and the controllers are settled. -/
def Outcome.Safe : Outcome → Prop
  | .done s | .closed s => s.Settled
  | .badRead => True
  | .badTarget => False

namespace NetworkServer

section Dispatch
variable {s : NetworkServer} {p : NetPacket} (settled : s.Settled)
include settled

theorem onController_safe {set : RGBController → Reader (Option RGBController)}
    (keeps : ∀ c r q, s.controllers[p.pktDevIdx.toNat]? = some c → c.Placed →
      (set c).exec p.data 0 = some (r, q) → ∃ c', r = some c' ∧ c'.Placed) :
    (s.onController p set).Safe := by
  unfold onController
  cases found : s.controllers[p.pktDevIdx.toNat]? with
  | none => exact settled
  | some c =>
      have placed := settled c (List.mem_of_getElem? found)
      cases run : (set c).exec p.data 0 with
      | none => simp only [run, Outcome.Safe]
      | some result =>
          obtain ⟨r, q⟩ := result
          obtain ⟨c', rfl, kept⟩ := keeps c r q found placed run
          simp only [run]
          intro d hd
          rcases List.mem_or_eq_of_mem_set hd with old | rfl
          · exact settled d old
          · exact kept

omit settled in
theorem sized_safe {accepted : Bool} {mismatch : Outcome} (other : mismatch.Safe)
    {set : RGBController → Reader (Option RGBController)}
    (keeps : p.pktSize = field32 p.data 0 ∨ accepted → (s.onController p set).Safe) :
    (s.sized p accepted mismatch set).Safe := by
  unfold sized
  rw [embeddedSize_eq]
  by_cases room : 4 ≤ p.data.length
  · simp only [room, if_true, Bool.or_eq_true, beq_iff_eq]
    by_cases pass : p.pktSize = field32 p.data 0 ∨ accepted = true
    · rw [if_pos pass]
      exact keeps pass
    · rw [if_neg pass]
      exact other
  · simp only [room, if_false, Outcome.Safe]

theorem described_safe {mismatch : Outcome} (other : mismatch.Safe)
    {set : RGBController → Reader (Option RGBController)}
    (keeps : s.Accepts p → (s.onController p set).Safe) : (s.described p mismatch set).Safe := by
  unfold described
  split_ifs with null
  · exact settled
  · exact sized_safe other fun pass => keeps ⟨null, pass⟩

theorem fixedSize_safe {size : UInt32} {set : RGBController → Reader (Option RGBController)}
    (keeps : p.pktSize = size → (s.onController p set).Safe) : (s.fixedSize p size set).Safe := by
  unfold fixedSize
  split_ifs with null fixed
  · exact settled
  · exact keeps fixed
  · exact settled

end Dispatch

theorem processClientProtocolVersion_safe {s : NetworkServer} {p : NetPacket}
    (settled : s.Settled) : (s.processClientProtocolVersion p).Safe := by
  unfold processClientProtocolVersion
  split_ifs
  · cases u32.exec p.data 0 with
    | none => trivial
    | some _ => exact settled
  · exact settled

theorem dispatch_safe {services : Services} (keep : services.Keep) {s : NetworkServer}
    {p : NetPacket} (settled : s.Settled) (target : s.TargetOk p) :
    (s.dispatch services p).Safe := by
  have ignored : (Outcome.done s).Safe := settled
  have closing : (Outcome.closed s).Safe := settled
  unfold TargetOk at target
  unfold dispatch
  cases kind : p.kind with
  | none => exact settled
  | some id =>
    simp only [kind] at target
    cases id with
    | requestControllerData =>
        show (s.controllerData p).Safe
        unfold controllerData
        split_ifs
        · trivial
        · exact settled
    | requestProtocolVersion => exact processClientProtocolVersion_safe settled
    | requestRescanDevices => exact keep.rescanDevices s.controllers settled
    | requestLoadProfile =>
        show (s.loadProfile services p).Safe
        unfold loadProfile
        split_ifs
        · exact settled
        · exact keep.loadProfile p.data s.controllers settled
    | pluginSpecific =>
        show (s.pluginSpecific p).Safe
        unfold pluginSpecific
        cases embeddedSize p with
        | none => trivial
        | some _ => exact settled
    | resizeZone =>
        refine fixedSize_safe settled fun _ => onController_safe settled fun c r q _ placed run => ?_
        have size := exec_rest (exec_i32 p.sized) run
        have last := exec_rest (exec_i32 p.sized) size
        obtain ⟨rfl, -⟩ := Prod.mk.inj (Option.some.inj last)
        exact ⟨_, rfl, keep.resizeZone _ _ _ placed⟩
    | clearSegments =>
        refine fixedSize_safe settled fun size => onController_safe settled
          fun c r q found placed run => ?_
        have last := exec_rest (exec_i32 p.sized) run
        obtain ⟨rfl, -⟩ := Prod.mk.inj (Option.some.inj last)
        exact RGBController.modifySegments_kept placed (target c found size) _
    | addSegment =>
        refine sized_safe ignored fun size => onController_safe settled
          fun c r q found placed run => ?_
        exact RGBController.setSegmentDescription_kept p.sized placed
          (target c found (size.resolve_right Bool.false_ne_true)) run
    | updateLeds =>
        exact described_safe settled closing fun _ => onController_safe settled
          fun c r q _ placed run => RGBController.setColorDescription_kept p.sized placed run
    | updateZoneLeds =>
        refine described_safe settled closing fun accepts => onController_safe settled
          fun c r q found placed run => ?_
        obtain ⟨c', rfl, kept, -⟩ := RGBController.setZoneColorDescription_kept p.sized placed
          (target c found accepts) (exec_peeked run)
        exact ⟨c', rfl, kept⟩
    | updateSingleLed =>
        show (s.updateSingleLed p).Safe
        unfold updateSingleLed
        split_ifs with null size
        · exact settled
        · exact onController_safe settled fun c r q found placed run =>
            RGBController.setSingleLEDColorDescription_kept p.sized placed (target c found size)
              (exec_peeked run)
        · exact settled
    | setCustomMode =>
        refine onController_safe settled fun c r q _ placed run => ?_
        obtain ⟨rfl, -⟩ := Prod.mk.inj (Option.some.inj run)
        exact ⟨_, rfl, placed.of_setCustomMode⟩
    | updateMode =>
        exact described_safe settled closing fun accepts => onController_safe settled
          fun c r q found placed run =>
            RGBController.setModeDescription_kept p.sized placed (target c found accepts) run
    | saveMode =>
        exact described_safe settled ignored fun accepts => onController_safe settled
          fun c r q found placed run =>
            RGBController.setModeDescription_kept p.sized placed (target c found accepts) run
    | _ => exact settled

/-! ### What a zone packet changes -/

/-- At most the addressed controller changes, and of it only color slots of the named zone. -/
def ZoneWrite (s : NetworkServer) (p : NetPacket) (s' : NetworkServer) : Prop :=
  ∀ i, s'.controllers[i]? = s.controllers[i]? ∨
    i = p.pktDevIdx.toNat ∧ ∃ c c', s.controllers[i]? = some c ∧ s'.controllers[i]? = some c' ∧
      c.ZoneFrame (field32 p.data 4).toNat c'

variable {s s' : NetworkServer} {p : NetPacket}

theorem onController_done {set : RGBController → Reader (Option RGBController)}
    (run : s.onController p set = .done s') :
    s' = s ∨ ∃ c c' q, s.controllers[p.pktDevIdx.toNat]? = some c ∧
      (set c).exec p.data 0 = some (some c', q) ∧
      s'.controllers = s.controllers.set p.pktDevIdx.toNat c' := by
  unfold onController at run
  cases found : s.controllers[p.pktDevIdx.toNat]? with
  | none =>
      simp only [found, Outcome.done.injEq] at run
      exact Or.inl run.symm
  | some c =>
      rcases read : (set c).exec p.data 0 with _ | ⟨_ | c', q⟩
      · simp only [found, read, reduceCtorEq] at run
      · simp only [found, read, reduceCtorEq] at run
      · simp only [found, read, Outcome.done.injEq] at run
        exact Or.inr ⟨c, c', q, rfl, read, by rw [← run]⟩

theorem described_done {set : RGBController → Reader (Option RGBController)}
    (run : s.described p (.closed s) set = .done s') :
    s' = s ∨ s.Accepts p ∧ s.onController p set = .done s' := by
  unfold described sized at run
  rw [embeddedSize_eq] at run
  split_ifs at run with null room
  · exact Or.inl (Outcome.done.inj run).symm
  · simp only [Bool.or_eq_true, beq_iff_eq] at run
    split_ifs at run with pass
    exact Or.inr ⟨⟨null, pass⟩, run⟩

theorem updateZoneLeds_write (services : Services) (settled : s.Settled) (target : s.TargetOk p)
    (kind : p.kind = some .updateZoneLeds) (run : s.dispatch services p = .done s') :
    s.ZoneWrite p s' := by
  unfold TargetOk at target
  unfold dispatch at run
  simp only [kind] at run target
  intro i
  rcases described_done run with rfl | ⟨accepts, reached⟩
  · exact Or.inl rfl
  rcases onController_done reached with rfl | ⟨c, c', q, found, read, stored⟩
  · exact Or.inl rfl
  obtain ⟨d, same, -, frame⟩ := RGBController.setZoneColorDescription_kept p.sized
    (settled c (List.mem_of_getElem? found)) (target c found accepts) (exec_peeked read)
  obtain rfl := Option.some.inj same
  by_cases here : p.pktDevIdx.toNat = i
  · subst here
    have inside := (List.getElem?_eq_some_iff.mp found).1
    refine Or.inr ⟨rfl, c, c', found, ?_, frame⟩
    rw [stored, List.getElem?_set_self inside]
  · rw [stored, List.getElem?_set_ne here]
    exact Or.inl rfl

end NetworkServer
end SyncRGB
