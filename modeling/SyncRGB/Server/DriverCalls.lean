import SyncRGB.Server.TargetSafety
import SyncRGB.Transition.Run

/-! The calls of drivers behind the descriptions, and whole runs of packets in which neither the descriptions nor these
calls leave the vectors of a controller. -/
namespace SyncRGB
open ByteCodec Reader Transition

namespace NetworkServer

/-- What the argument of a call has to name, told from the controller before the packet. -/
def CallTarget (data : Bytes) (c : RGBController) : DriverCall → Prop
  | .updateZoneLEDs zone => sizeT zone < c.zones.length
  | .updateSingleLED led => sizeT led < c.leds.length
  | .deviceSaveMode => c.modes.length < sizeT (field32 data 4).toInt32 → sizeT c.activeMode < c.modes.length

/-- The drivers that index their vectors with what they are called with are called with an index that exists. -/
def CallOk (drivers : Drivers) (s : NetworkServer) (p : NetPacket) : Prop :=
  ∀ c call, s.controllers[p.pktDevIdx.toNat]? = some c → s.driverCall p = some call →
    drivers.indexes c call = true → CallTarget p.data c call

variable {s s' : NetworkServer} {p : NetPacket}

theorem described_of_accepts {mismatch : Outcome} {set : RGBController → Reader (Option RGBController)}
    (accepts : s.accepts p = true) : s.described p mismatch set = s.onController p set ∧ s.Accepts p := by
  unfold NetworkServer.accepts at accepts
  cases size : embeddedSize p with
  | none =>
      rw [size] at accepts
      cases accepts
  | some size_ =>
      simp only [size, Bool.and_eq_true, decide_eq_true_eq, Bool.or_eq_true, beq_iff_eq] at accepts
      obtain ⟨some_, pass⟩ := accepts
      have field : field32 p.data 0 = size_ := by
        rw [embeddedSize_eq] at size
        split_ifs at size
        exact Option.some.inj size
      constructor
      · rw [described, if_neg some_, sized, size]
        exact if_pos (by simpa only [Bool.or_eq_true, beq_iff_eq] using pass)
      · exact ⟨some_, field ▸ pass⟩

/-- A single color is stored, and nothing else. -/
theorem setSingleLEDColorDescription_frame {c c' : RGBController} {data : Bytes} {q : Nat}
    (small : data.length < 2 ^ 32) (run : c.setSingleLEDColorDescription.exec data 0 = some (some c', q)) :
    c' = { c with colors := c'.colors } := by
  rw [RGBController.setSingleLEDColorDescription] at run
  have rest := exec_rest (exec_i32 small) run
  split_ifs at rest with beyond
  · obtain ⟨same, -⟩ := Prod.mk.inj (Option.some.inj rest)
    cases same
    rfl
  · have last := exec_rest (exec_u32 small) rest
    obtain ⟨stored, -⟩ := Prod.mk.inj (Option.some.inj last)
    obtain ⟨colors, -, rfl⟩ := Option.map_eq_some_iff.mp stored
    rfl

/-- The mode description is refused, or its mode is the active one. -/
theorem setModeDescription_active {c c' : RGBController} {data : Bytes} {q v : Nat} (small : data.length < 2 ^ 32)
    (run : (c.setModeDescription v).exec data 0 = some (some c', q)) :
    (c.modes.length < sizeT (field32 data 4).toInt32 ∧ c' = c) ∨
      (sizeT (field32 data 4).toInt32 < c'.modes.length ∧ c'.activeMode = (field32 data 4).toInt32) := by
  rw [RGBController.setModeDescription, exec_skip_size] at run
  have rest := exec_rest (exec_i32 small) run
  split_ifs at rest with beyond
  · obtain ⟨same, -⟩ := Prod.mk.inj (Option.some.inj rest)
    cases same
    exact .inl ⟨beyond, rfl⟩
  · obtain ⟨newMode, _, -, last⟩ := exec_bind_eq_some.mp rest
    obtain ⟨stored, -⟩ := Prod.mk.inj (Option.some.inj last)
    obtain ⟨old, found, rfl⟩ := Option.map_eq_some_iff.mp stored
    refine .inr ⟨?_, rfl⟩
    rw [List.length_set]
    exact (List.getElem?_eq_some_iff.mp found).1

/-- What a call finds behind the description is what its target names. -/
theorem call_inside {services : Services} (settled : s.Settled) (target : s.TargetOk p) {call : DriverCall}
    {c c' : RGBController} (calls : s.driverCall p = some call)
    (found : s.controllers[p.pktDevIdx.toNat]? = some c) (inside : CallTarget p.data c call)
    (done : s.dispatch services p = .done s') (now : s'.controllers[p.pktDevIdx.toNat]? = some c') :
    call.Inside c' := by
  have placed := settled c (List.mem_of_getElem? found)
  have there := (List.getElem?_eq_some_iff.mp found).1
  -- the description that has led to the controller behind it
  have reached {set : RGBController → Reader (Option RGBController)} (run : s.onController p set = .done s') :
      ∃ q, (set c).exec p.data 0 = some (some c', q) := by
    rcases onController_done run with rfl | ⟨d, d', q, at_, read, stored⟩
    · unfold onController at run
      rw [found] at now run
      cases now
      rcases read : (set c).exec p.data 0 with _ | ⟨_ | d, q⟩
      · simp only [read, reduceCtorEq] at run
      · simp only [read, reduceCtorEq] at run
      · simp only [read, Outcome.done.injEq] at run
        have same := congrArg (fun t : NetworkServer => t.controllers[p.pktDevIdx.toNat]?) run
        simp only [List.getElem?_set_self there, found, Option.some.injEq] at same
        exact ⟨q, same ▸ rfl⟩
    · rw [stored, List.getElem?_set_self there] at now
      rw [found] at at_
      cases at_
      cases now
      exact ⟨q, read⟩
  unfold TargetOk at target
  unfold dispatch at done
  unfold driverCall at calls
  split at calls
  · rename_i kind
    simp only [kind] at done target
    split_ifs at calls with accepts
    obtain ⟨⟨zone, _⟩, read, rfl⟩ := Option.map_eq_some_iff.mp calls
    obtain ⟨on, passes⟩ := described_of_accepts accepts
    rw [on] at done
    obtain ⟨q, run⟩ := reached done
    obtain ⟨d, same, -, frame⟩ := RGBController.setZoneColorDescription_kept p.sized placed (target c found passes)
      (exec_peeked run)
    cases same
    rw [DriverCall.Inside, frame.1]
    exact inside
  · rename_i kind
    simp only [kind] at done
    split_ifs at calls with size
    obtain ⟨⟨led, _⟩, read, rfl⟩ := Option.map_eq_some_iff.mp calls
    have some_ : p.data ≠ [] := fun empty => by
      have length := length_of_pktSize (congrArg UInt32.toNat size)
      rw [empty] at length
      cases length
    rw [updateSingleLed, if_neg some_, if_pos size] at done
    obtain ⟨q, run⟩ := reached done
    have frame := setSingleLEDColorDescription_frame p.sized (exec_peeked run)
    rw [DriverCall.Inside, frame]
    exact inside
  · rename_i kind
    simp only [kind] at done
    split_ifs at calls with accepts
    cases calls
    obtain ⟨on, _⟩ := described_of_accepts accepts
    rw [on] at done
    obtain ⟨q, run⟩ := reached done
    rcases setModeDescription_active p.sized run with ⟨refused, rfl⟩ | ⟨small, active⟩
    · exact inside refused
    · rw [DriverCall.Inside, active]
      exact small
  · cases calls

theorem handle_safe {services : Services} (keep : services.Keep) {drivers : Drivers} (settled : s.Settled)
    (target : s.TargetOk p) (called : s.CallOk drivers p) : (s.handle services drivers p).Safe := by
  have safe := dispatch_safe keep settled target
  unfold handle
  cases done : s.dispatch services p with
  | done s' =>
      rw [done] at safe
      dsimp only
      split
      · rename_i call c c' calls found now
        rw [if_neg]
        · exact safe
        · rintro ⟨indexes, outside⟩
          exact outside (call_inside settled target calls found (called c call found calls indexes) done now)
      · exact safe
  | closed s' | badRead => rwa [done] at safe
  | badTarget =>
      rw [done] at safe
      exact safe

theorem dispatch_of_handle {services : Services} {drivers : Drivers} (run : s.handle services drivers p = .done s') :
    s.dispatch services p = .done s' := by
  unfold handle at run
  cases done : s.dispatch services p with
  | done t =>
      rw [done] at run
      dsimp only at run
      split at run
      · split_ifs at run
        exact run
      · exact run
  | closed t | badRead | badTarget =>
      rw [done] at run
      cases run

/-! ### Runs -/

/-- The target of a packet and of the call behind it are there. -/
def Aimed (drivers : Drivers) (s : NetworkServer) (p : NetPacket) : Prop := s.TargetOk p ∧ s.CallOk drivers p

/-- A packet is handled, whether its client stays connected or not. -/
def Serves (services : Services) (drivers : Drivers) (s : NetworkServer) (p : NetPacket) (s' : NetworkServer) : Prop :=
  s.handle services drivers p = .done s' ∨ s.handle services drivers p = .closed s'

theorem settled_of_serves {services : Services} {drivers : Drivers} (keep : services.Keep) (settled : s.Settled)
    (step : Guarded (Aimed drivers) (Serves services drivers) s p s') : s'.Settled := by
  obtain ⟨⟨target, called⟩, handled⟩ := step
  have safe := handle_safe keep settled target called
  rcases handled with run | run <;> rwa [run] at safe

def oneLed : RGBController :=
  RGBController.setupColors
    { RGBController.new 0 with leds := [⟨[76], 0⟩], zones := [{ Zone.new with ledsCount := 1 }] }

def oneLedServer : NetworkServer := ⟨[oneLed], false, 5⟩

/-- Drivers that index their vectors in every call. -/
def indexing : Drivers := ⟨fun _ _ => true⟩

theorem idleServices_keep : idleServices.Keep :=
  ⟨fun _ _ _ h => h, fun _ h => h, fun _ _ h => h⟩

theorem oneLedServer_settled : oneLedServer.Settled := by
  intro c hc
  obtain rfl := List.mem_singleton.mp hc
  exact ⟨⟨by decide, by decide⟩, RGBController.laidOut_setupColors (by decide)⟩

def ledPacket (led : Nat) : NetPacket :=
  ⟨0, 1052, le 4 led ++ le 4 255, by rw [List.length_append, le_length, le_length]; decide⟩

/-- An index two past the LEDs is refused by the description, and the driver is called with it all the same. -/
example : oneLedServer.handle idleServices ⟨fun _ _ => false⟩ (ledPacket 2) = .done oneLedServer ∧
    oneLedServer.handle idleServices indexing (ledPacket 2) = .badTarget := ⟨rfl, rfl⟩

/-- One color for the first zone. -/
def zonePacket : NetPacket :=
  ⟨0, 1051, le 4 14 ++ le 4 0 ++ le 2 1 ++ le 4 65280, by simp [le_length]⟩

end NetworkServer
end SyncRGB
