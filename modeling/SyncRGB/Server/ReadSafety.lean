import SyncRGB.Server.Dispatch

/-! Which packets the dispatch handles without reading outside their data. The
decoders follow counts and texts the client chose and never see the packet size. -/
namespace SyncRGB
open ByteCodec Reader
namespace NetworkServer

/-- The leading size is there, and if it is accepted the addressed controller's decoder fits. -/
def DescriptionFits (s : NetworkServer) (p : NetPacket) (accepted : Bool)
    (fits : RGBController → Prop) : Prop :=
  4 ≤ p.data.length ∧
    (p.pktSize = field32 p.data 0 ∨ accepted →
      ∀ c, s.controllers[p.pktDevIdx.toNat]? = some c → fits c)

def ModePacketFits (v : Nat) (data : Bytes) (c : RGBController) : Prop :=
  8 ≤ data.length ∧ (sizeT (field32 data 4).toInt32 ≤ c.modes.length → ModeFits v data 8)

def ColorsFit (data : Bytes) (c : RGBController) : Prop :=
  6 ≤ data.length ∧ (field16 data 4 ≤ c.colors.length → 6 + 4 * field16 data 4 ≤ data.length)

def ZoneColorsFit (data : Bytes) (c : RGBController) : Prop :=
  8 ≤ data.length ∧
    ((field32 data 4).toNat ≤ c.zones.length → 10 + 4 * field16 data 8 ≤ data.length)

/-- The segment name ends inside its announced length. -/
def SegmentFits (data : Bytes) : Prop :=
  10 + field16 data 8 + 12 ≤ data.length ∧ 0 ∈ (data.drop 10).take (field16 data 8)

/-- The packets whose data holds every byte that the dispatch reads. -/
def PacketFits (s : NetworkServer) (p : NetPacket) : Prop :=
  match p.kind with
  | some .pluginSpecific => 4 ≤ p.data.length
  | some .addSegment => s.DescriptionFits p false fun _ => SegmentFits p.data
  | some .updateLeds => p.data = [] ∨ s.DescriptionFits p s.legacyClient (ColorsFit p.data)
  | some .updateZoneLeds => p.data = [] ∨ s.DescriptionFits p s.legacyClient (ZoneColorsFit p.data)
  | some .updateMode | some .saveMode =>
      p.data = [] ∨ s.DescriptionFits p s.legacyClient (ModePacketFits s.clientProtocolVersion p.data)
  | _ => True

variable {s : NetworkServer} {p : NetPacket}

theorem pktSize_toNat (p : NetPacket) : p.pktSize.toNat = p.data.length :=
  UInt32.toNat_ofNat_of_lt' p.sized

theorem onController_reads_iff (set : RGBController → Reader (Option RGBController)) :
    s.onController p set ≠ .badRead ↔
      ∀ c, s.controllers[p.pktDevIdx.toNat]? = some c → ((set c).exec p.data 0).isSome := by
  unfold onController
  cases s.controllers[p.pktDevIdx.toNat]? with
  | none => simp
  | some c =>
      simp only [Option.some.injEq, forall_eq']
      rcases (set c).exec p.data 0 with _ | ⟨_ | c', q⟩ <;> simp

theorem embeddedSize_eq (p : NetPacket) :
    embeddedSize p = if 4 ≤ p.data.length then some (field32 p.data 0) else none := by
  rw [embeddedSize, exec_u32 p.sized, Nat.zero_add]
  split_ifs <;> rfl

theorem sized_reads_iff {accepted : Bool} {mismatch : Outcome} (other : mismatch ≠ .badRead)
    {set : RGBController → Reader (Option RGBController)} {fits : RGBController → Prop}
    (needs : ∀ c, ((set c).exec p.data 0).isSome ↔ fits c) :
    s.sized p accepted mismatch set ≠ .badRead ↔ s.DescriptionFits p accepted fits := by
  unfold sized DescriptionFits
  rw [embeddedSize_eq]
  by_cases size : 4 ≤ p.data.length
  · simp only [size, if_true, true_and, Bool.or_eq_true, beq_iff_eq]
    by_cases pass : p.pktSize = field32 p.data 0 ∨ accepted = true
    · rw [if_pos pass, onController_reads_iff]
      simp only [needs, pass, true_imp_iff]
    · rw [if_neg pass]
      exact iff_of_true other fun h => absurd h pass
  · simp only [size, if_false, false_and, ne_eq, not_true_eq_false]

theorem described_reads_iff {mismatch : Outcome} (other : mismatch ≠ .badRead)
    {set : RGBController → Reader (Option RGBController)} {fits : RGBController → Prop}
    (needs : ∀ c, ((set c).exec p.data 0).isSome ↔ fits c) :
    s.described p mismatch set ≠ .badRead ↔
      p.data = [] ∨ s.DescriptionFits p s.legacyClient fits := by
  unfold described
  by_cases null : p.data = []
  · simp [null]
  · rw [if_neg null, or_iff_right null, sized_reads_iff other needs]

theorem fixedSize_reads {size : UInt32} {set : RGBController → Reader (Option RGBController)}
    (needs : ∀ c, p.pktSize = size → ((set c).exec p.data 0).isSome) :
    s.fixedSize p size set ≠ .badRead := by
  unfold fixedSize
  split_ifs with null fixed
  · exact Outcome.noConfusion
  · exact (onController_reads_iff set).mpr fun c _ => needs c fixed
  · exact Outcome.noConfusion

theorem processClientProtocolVersion_reads : s.processClientProtocolVersion p ≠ .badRead := by
  unfold processClientProtocolVersion
  split_ifs with four
  · have size : 4 ≤ p.data.length := by
      rw [← pktSize_toNat, four]
      decide
    rw [exec_u32 p.sized, if_pos (by omega)]
    exact Outcome.noConfusion
  · exact Outcome.noConfusion

theorem length_of_pktSize {n : Nat} (h : p.pktSize.toNat = n) : p.data.length = n := by
  rw [← h, pktSize_toNat]

theorem updateZoneLeds_reads (c : RGBController) :
    ((do let _zone ← peek (do skip 4; i32)
         c.setZoneColorDescription : Reader _).exec p.data 0).isSome ↔ ZoneColorsFit p.data c := by
  have zone : ((do skip 4; i32 : Reader Int32).exec p.data 0).isSome ↔ 8 ≤ p.data.length := by
    rw [exec_skip_size, exec_i32 p.sized, Option.isSome_ite]
  rw [exec_peek_bind]
  by_cases room : 8 ≤ p.data.length
  · rw [if_pos (zone.mpr room), c.isSome_setZoneColorDescription p.sized, ZoneColorsFit]
  · rw [if_neg fun h => room (zone.mp h), ZoneColorsFit]
    exact iff_of_false Bool.noConfusion fun h => room h.1

theorem updateSingleLed_reads : s.updateSingleLed p ≠ .badRead := by
  unfold updateSingleLed
  split_ifs with null size
  · exact Outcome.noConfusion
  · have length := length_of_pktSize (congrArg UInt32.toNat size)
    rw [onController_reads_iff]
    intro c _
    have led : (i32.exec p.data 0).isSome := by
      rw [exec_i32 p.sized, if_pos (by rw [length]; decide)]
      rfl
    rw [exec_peek_bind, if_pos led, c.isSome_setSingleLEDColorDescription p.sized, length]
    exact ⟨by decide, fun _ => by decide⟩
  · exact Outcome.noConfusion

theorem controllerData_reads : s.controllerData p ≠ .badRead := by
  unfold controllerData
  split_ifs with bad
  · have length := length_of_pktSize (congrArg UInt32.toNat bad.1)
    rw [exec_u32 p.sized, if_pos (by rw [length]; decide)] at bad
    exact absurd bad.2 (Option.some_ne_none _)
  · exact Outcome.noConfusion

theorem loadProfile_reads (services : Services) : s.loadProfile services p ≠ .badRead := by
  unfold loadProfile
  split_ifs <;> exact Outcome.noConfusion

theorem pluginSpecific_reads_iff : s.pluginSpecific p ≠ .badRead ↔ 4 ≤ p.data.length := by
  unfold pluginSpecific
  rw [embeddedSize_eq]
  by_cases room : 4 ≤ p.data.length
  · simp only [room, if_true, ne_eq, reduceCtorEq, not_false_eq_true]
  · simp only [room, if_false, ne_eq, not_true_eq_false]

theorem resizeZone_reads (services : Services) (c : RGBController) (size : p.data.length = 8) :
    ((do let zone ← i32
         let newSize ← i32
         return some (services.resizeZone c zone newSize) : Reader _).exec p.data 0).isSome := by
  rw [isSome_bind_of (exec_i32 p.sized), isSome_bind_of (exec_i32 p.sized)]
  exact ⟨by omega, by omega, rfl⟩

theorem clearSegments_reads (c : RGBController) (size : p.data.length = 4) :
    ((do let zone ← i32
         return c.clearSegments zone : Reader _).exec p.data 0).isSome := by
  rw [isSome_bind_of (exec_i32 p.sized)]
  exact ⟨by omega, rfl⟩

theorem dispatch_reads_iff (services : Services) (s : NetworkServer) (p : NetPacket) :
    s.dispatch services p ≠ .badRead ↔ s.PacketFits p := by
  have ignored : Outcome.done s ≠ .badRead := Outcome.noConfusion
  have closing : Outcome.closed s ≠ .badRead := Outcome.noConfusion
  unfold dispatch PacketFits
  cases p.kind with
  | none => exact iff_of_true ignored trivial
  | some kind =>
    cases kind with
    | requestControllerData => exact iff_of_true controllerData_reads trivial
    | requestProtocolVersion => exact iff_of_true processClientProtocolVersion_reads trivial
    | requestRescanDevices => exact iff_of_true Outcome.noConfusion trivial
    | requestLoadProfile => exact iff_of_true (loadProfile_reads services) trivial
    | pluginSpecific => exact pluginSpecific_reads_iff
    | resizeZone =>
        exact iff_of_true (fixedSize_reads fun c size => resizeZone_reads services c
          (length_of_pktSize (congrArg UInt32.toNat size))) trivial
    | clearSegments =>
        exact iff_of_true (fixedSize_reads fun c size => clearSegments_reads c
          (length_of_pktSize (congrArg UInt32.toNat size))) trivial
    | addSegment => exact sized_reads_iff ignored fun c => c.isSome_setSegmentDescription p.sized
    | updateLeds => exact described_reads_iff closing fun c => c.isSome_setColorDescription p.sized
    | updateZoneLeds => exact described_reads_iff closing updateZoneLeds_reads
    | updateSingleLed => exact iff_of_true updateSingleLed_reads trivial
    | setCustomMode => exact iff_of_true ((onController_reads_iff _).mpr fun c _ => rfl) trivial
    | updateMode =>
        exact described_reads_iff closing fun c => c.isSome_setModeDescription p.sized _
    | saveMode =>
        exact described_reads_iff ignored fun c => c.isSome_setModeDescription p.sized _
    | _ => exact iff_of_true ignored trivial

/-- A plugin packet without data, whose type is read through the NULL pointer. -/
def emptyPluginPacket : NetPacket := ⟨0, 201, [], by decide⟩

theorem emptyPluginPacket_badRead :
    dispatch idleServices ⟨[], false, 5⟩ emptyPluginPacket = .badRead := rfl

end NetworkServer
end SyncRGB
