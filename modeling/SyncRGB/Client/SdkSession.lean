import SyncRGB.Client.Commands
import SyncRGB.Server.PartialStream

/-! A whole session of an SDK client: what a program does with its mirrors, the packets that go out, and the
controllers of the server behind them. -/
namespace SyncRGB
open ByteCodec VectorEdit

namespace RGBControllerNetwork
variable (memory : Nat → UInt8) (devIdx : UInt32) (v : Nat)

/-- `RGBController_Network::DeviceUpdateMode`. -/
def deviceUpdateMode (m : RGBController) : Option NetPacket := do
  describedRequest devIdx 1101 (← m.getModeDescription memory v m.activeMode)

/-- `RGBController_Network::DeviceSaveMode`. -/
def deviceSaveMode (m : RGBController) : Option NetPacket := do
  describedRequest devIdx 1102 (← m.getModeDescription memory v m.activeMode)

end RGBControllerNetwork

/-- What a program does with the mirrors: it edits one, or has one update its device. -/
inductive MirrorAction
  | setColors (dev : Nat) (colors : List RGBColor)
  | setMode (dev : Nat) (mode : Int32) (m : Mode)
  | updateLEDs (dev : Nat)
  | updateZoneLEDs (dev : Nat) (zone : Int32)
  | updateSingleLED (dev : Nat) (led : Int32)
  | updateMode (dev : Nat)
  | saveMode (dev : Nat)

def MirrorAction.dev : MirrorAction → Nat
  | setColors dev _ | setMode dev _ _ | updateLEDs dev | updateZoneLEDs dev _ | updateSingleLED dev _
  | updateMode dev | saveMode dev => dev

/-- The mirrors of a client and the controllers of its server. -/
structure SdkSession where
  mirrors : List RGBController
  controllers : List RGBController

/-- `new` inside a window and `old` elsewhere. -/
def mergeColors (inside : Nat → Bool) (new old : List RGBColor) : List RGBColor :=
  old.mapIdx fun i x => if inside i then new[i]?.getD x else x

namespace SdkSession

/-- An edit of a mirror. -/
def edit (s : SdkSession) (dev : Nat) (f : RGBController → RGBController) : SdkSession :=
  { s with mirrors := s.mirrors.modify dev f }

/-- The controller takes something over from its mirror. -/
def take (s : SdkSession) (dev : Nat) (f : RGBController → RGBController → RGBController) : SdkSession :=
  match s.mirrors[dev]? with
  | none => s
  | some m => { s with controllers := s.controllers.modify dev (f m) }

def takeColors (m c : RGBController) : RGBController := { c with colors := m.colors }

def takeLED (led : Int32) (m c : RGBController) : RGBController :=
  { c with colors := mergeColors (· == sizeT led) m.colors c.colors }

def holds (z : Zone) (slot : Nat) : Bool :=
  z.startIdx.toNat ≤ slot && slot < z.startIdx.toNat + z.getLEDsInZone.toNat

def takeZone (zone : Int32) (m c : RGBController) : RGBController :=
  match m.zones[sizeT zone]? with
  | none => c
  | some z => { c with colors := mergeColors (holds z) m.colors c.colors }

def takeMode (v : Nat) (m c : RGBController) : RGBController :=
  match m.modes[sizeT m.activeMode]?, c.modes[sizeT m.activeMode]? with
  | some new, some old =>
      { c with activeMode := m.activeMode, modes := c.modes.set (sizeT m.activeMode) (new.over v old) }
  | _, _ => c

/-- What the action means where mirror and controller are next to each other. -/
def perform (v : Nat) (s : SdkSession) : MirrorAction → SdkSession
  | .setColors dev colors => s.edit dev fun m => { m with colors }
  | .setMode dev mode new => s.edit dev fun m =>
      { m with activeMode := mode, modes := m.modes.set (sizeT mode) new }
  | .updateLEDs dev => s.take dev takeColors
  | .updateZoneLEDs dev zone => s.take dev (takeZone zone)
  | .updateSingleLED dev led => s.take dev (takeLED led)
  | .updateMode dev | .saveMode dev => s.take dev (takeMode v)

/-- The command of a mirror. -/
def command (memory : Nat → UInt8) (v : Nat) : MirrorAction → Option (RGBController → Option NetPacket)
  | .setColors _ _ | .setMode _ _ _ => none
  | .updateLEDs dev => some (RGBControllerNetwork.deviceUpdateLEDs memory (.ofNat dev))
  | .updateZoneLEDs dev zone => some (RGBControllerNetwork.updateZoneLEDs memory (.ofNat dev) zone)
  | .updateSingleLED dev led => some (RGBControllerNetwork.updateSingleLED memory (.ofNat dev) led)
  | .updateMode dev => some (RGBControllerNetwork.deviceUpdateMode memory (.ofNat dev) v)
  | .saveMode dev => some (RGBControllerNetwork.deviceSaveMode memory (.ofNat dev) v)

/-- The packets that an action sends; `none` where it goes outside a vector. -/
def packets (memory : Nat → UInt8) (v : Nat) (s : SdkSession) (a : MirrorAction) : Option (List NetPacket) :=
  match command memory v a with
  | none => some []
  | some build => ((s.mirrors[a.dev]?).bind build).map fun p => [p]

/-- The packets of a session, one action after the other. -/
def sent (memory : Nat → UInt8) (v : Nat) : SdkSession → List MirrorAction → Option (List NetPacket)
  | _, [] => some []
  | s, a :: as => do
      let front ← s.packets memory v a
      let rest ← (s.perform v a).sent memory v as
      return front ++ rest

def run (v : Nat) (s : SdkSession) (as : List MirrorAction) : SdkSession := as.foldl (perform v) s

/-- A mirror and its controller have the same zones, LEDs and number of modes. -/
structure Alike (m c : RGBController) : Prop where
  zones : m.zones = c.zones
  leds : m.leds = c.leds
  modes : m.modes.length = c.modes.length
  mirrorWindowed : m.Windowed
  serverWindowed : c.Windowed
  few : m.colors.length ≤ 65535

structure Linked (s : SdkSession) : Prop where
  length : s.mirrors.length = s.controllers.length
  few : s.mirrors.length < 2 ^ 32
  alike : ∀ (i : Nat) (m c : RGBController), s.mirrors[i]? = some m → s.controllers[i]? = some c → Alike m c

/-- What a program has to observe: colors are replaced by as many, indices are in range, a zone sent alone has all its
LEDs in its window, and the mode that is sent has a name and colors that a description can hold. -/
def Allowed (m : RGBController) : MirrorAction → Prop
  | .setColors _ colors => colors.length = m.colors.length
  | .setMode _ mode _ => sizeT mode < m.modes.length
  | .updateLEDs _ => True
  | .updateZoneLEDs _ zone => 0 ≤ zone.toInt ∧
      ∃ z, m.zones[sizeT zone]? = some z ∧ z.getLEDsInZone.toNat = count16 z.ledsCount.toNat ∧
        z.startIdx.toNat + z.getLEDsInZone.toNat ≤ m.colors.length
  | .updateSingleLED _ led => sizeT led < m.colors.length ∧ sizeT led ≤ m.leds.length
  | .updateMode _ | .saveMode _ =>
      ∃ mode, m.modes[sizeT m.activeMode]? = some mode ∧ (0 : UInt8) ∉ mode.name ∧ mode.name.length ≤ 65534 ∧
        mode.colors.length ≤ 65535

def AllAllowed (v : Nat) : SdkSession → List MirrorAction → Prop
  | _, [] => True
  | s, a :: as => (∃ m, s.mirrors[a.dev]? = some m ∧ Allowed m a) ∧ (s.perform v a).AllAllowed v as

end SdkSession

/-! ### Packets -/

section
variable {memory : Nat → UInt8} {devIdx pktId : UInt32} {data : Bytes} {size : UInt32} {p : NetPacket}

theorem request_some (sent : RGBControllerNetwork.request devIdx pktId data size = some p) :
    p.pktDevIdx = devIdx ∧ p.data.length ≤ data.length := by
  rw [RGBControllerNetwork.request] at sent
  split_ifs at sent
  cases sent
  exact ⟨rfl, List.length_take_le' _ _⟩

theorem describedRequest_some (sent : RGBControllerNetwork.describedRequest devIdx pktId data = some p) :
    p.pktDevIdx = devIdx ∧ p.data.length ≤ data.length := by
  obtain ⟨_, _, sent⟩ := Option.bind_eq_some_iff.mp sent
  exact request_some sent

theorem fill_length {qs : List Put} {buf filled : Bytes} {at_ end_ : Nat}
    (done : fill qs buf at_ = some (filled, end_)) : filled.length = buf.length := by
  induction qs generalizing buf at_ with
  | nil =>
      cases done
      rfl
  | cons q qs ih =>
      rw [fill] at done
      split_ifs at done with room
      rw [ih done, ByteCodec.overwrite_length room]

theorem filled_length {qs : List Put} {n : Nat} (done : filled memory n qs = some data) : data.length = n := by
  obtain ⟨⟨_, _⟩, filled, rfl⟩ := Option.map_eq_some_iff.mp done
  rw [fill_length filled, RGBController.alloc_length]

theorem getColorDescription_length {m : RGBController} (built : m.getColorDescription memory = some data) :
    data.length < 2 ^ 31 := by
  have bound := count16_lt m.colors.length
  rw [filled_length built]
  omega

theorem getZoneColorDescription_length {m : RGBController} {zone : Int32}
    (built : m.getZoneColorDescription memory zone = some data) : data.length < 2 ^ 31 := by
  obtain ⟨z, _, built⟩ := Option.bind_eq_some_iff.mp built
  obtain ⟨colors, _, built⟩ := Option.bind_eq_some_iff.mp built
  have bound := count16_lt z.ledsCount.toNat
  rw [filled_length built]
  omega

theorem getSingleLEDColorDescription_length {m : RGBController} {led : Int32}
    (built : m.getSingleLEDColorDescription memory led = some data) : data.length < 2 ^ 31 := by
  obtain ⟨color, _, built⟩ := Option.bind_eq_some_iff.mp built
  rw [filled_length built]
  decide

theorem Mode.size_small (v : Nat) (m : Mode) : 4 + 4 + m.size v < 2 ^ 31 := by
  have name : len16 m.name < 2 ^ 16 := Nat.mod_lt _ (by decide)
  have colors := count16_lt m.colors.length
  unfold Mode.size
  split_ifs <;> omega

end

/-! ### Deliveries -/

/-- The packet goes out, and every server of version `v` that has `c` at the index puts `c'` in its place. -/
def Delivers (packet : Option NetPacket) (dev : UInt32) (v : Nat) (c c' : RGBController) : Prop :=
  ∃ p, packet = some p ∧ p.data.length < 2 ^ 31 ∧ ∀ (services : Services) (server : NetworkServer),
    server.clientProtocolVersion = v → server.controllers[dev.toNat]? = some c →
      server.dispatch services p = .done { server with controllers := server.controllers.set dev.toNat c' }

section
variable {memory : Nat → UInt8} {devIdx : UInt32} {v : Nat} {m c : RGBController}

theorem delivers_of_performs {packet : Option NetPacket} {outcome : RGBController → Prop} {c' : RGBController}
    (performs : Performs packet c outcome) (only : ∀ d, outcome d → d = c')
    (headed : ∀ p, packet = some p → p.pktDevIdx = devIdx ∧ p.data.length < 2 ^ 31) :
    Delivers packet devIdx v c c' := by
  obtain ⟨p, sent, d, holds, done⟩ := performs
  obtain ⟨rfl, small⟩ := headed p sent
  obtain rfl := only d holds
  exact ⟨p, sent, small, fun services server _ found => done services server found⟩

/-- A description is delivered where the server dispatches it to `set`. -/
theorem delivers_description {pktId : UInt32} {qs : List Put} {n r : Nat} {c' : RGBController}
    {set : RGBController → Reader (Option RGBController)} (total : 4 + stored qs = n) (small : n < 2 ^ 31)
    (run : (set c).exec (contents (Put.u32 (.ofNat n) :: qs)) 0 = some (some c', r))
    (dispatched : ∀ (services : Services) (server : NetworkServer) (p : NetPacket), p.pktId = pktId →
      server.clientProtocolVersion = v → ∃ mismatch, server.dispatch services p = server.described p mismatch set) :
    Delivers (RGBControllerNetwork.describedRequest devIdx pktId (contents (Put.u32 (.ofNat n) :: qs))) devIdx v
      c c' := by
  have sized : n < 2 ^ 32 := by omega
  refine ⟨_, describedRequest_eq total sized, ?_, fun services server version found => ?_⟩
  · rw [describedPacket_length]
    exact small
  · obtain ⟨mismatch, dispatches⟩ :=
      dispatched services server (describedPacket devIdx pktId qs n total sized) rfl version
    rw [dispatches, described_describedPacket]
    exact onController_eq found run

theorem mergeColors_length {inside : Nat → Bool} {new old : List RGBColor} :
    (mergeColors inside new old).length = old.length :=
  List.length_mapIdx

theorem recolored_merge {inside : Nat → Bool} {window : Set Nat} {d : RGBController}
    (same : ∀ slot, inside slot = true ↔ slot ∈ window) (length : m.colors.length = c.colors.length)
    (recolored : Recolored m c window d) : d = { c with colors := mergeColors inside m.colors c.colors } := by
  obtain ⟨colors, rfl, count, new, old⟩ := recolored
  refine congrArg (fun colors => { c with colors }) ?_
  ext slot color
  rw [mergeColors, List.getElem?_mapIdx]
  by_cases in_ : inside slot = true
  · rw [new slot ((same slot).mp in_)]
    by_cases below : slot < c.colors.length
    · rw [List.getElem?_eq_getElem below, List.getElem?_eq_getElem (length ▸ below)]
      simp [in_]
    · rw [List.getElem?_eq_none (Nat.not_lt.mp below), List.getElem?_eq_none (length ▸ Nat.not_lt.mp below)]
      rfl
  · rw [old slot fun member => in_ ((same slot).mpr member)]
    cases c.colors[slot]? <;> simp [in_]

namespace SdkSession

theorem Alike.length (alike : Alike m c) : m.colors.length = c.colors.length := by
  rw [alike.mirrorWindowed.length, alike.serverWindowed.length, alike.zones]

theorem windowed_of_modes {modes : List Mode} {activeMode : Int32} (windowed : m.Windowed) :
    RGBController.Windowed { m with modes, activeMode } := by
  unfold RGBController.Windowed at windowed ⊢
  exact congrArg (fun d : RGBController => { d with modes, activeMode }) windowed

/-- With the modes of the controller the mirror differs in its colors only. -/
theorem Alike.mirrorOf (alike : Alike m c) : MirrorOf { m with modes := c.modes } c where
  zones := alike.zones
  leds := alike.leds
  modes := rfl
  mirrorWindowed := windowed_of_modes alike.mirrorWindowed
  serverWindowed := alike.serverWindowed
  few := alike.few

theorem delivers_updateLEDs (alike : Alike m c) :
    Delivers (RGBControllerNetwork.deviceUpdateLEDs memory devIdx m) devIdx v c (takeColors m c) := by
  have performs := RGBControllerNetwork.deviceUpdateLEDs_performs memory devIdx alike.mirrorOf
  refine delivers_of_performs performs (fun _ => id) fun p sent => ?_
  obtain ⟨data, built, sent⟩ := Option.bind_eq_some_iff.mp sent
  obtain ⟨dev, short⟩ := describedRequest_some sent
  exact ⟨dev, short.trans_lt (getColorDescription_length built)⟩

theorem delivers_updateZoneLEDs (alike : Alike m c) {zone : Int32} {z : Zone} (nonneg : 0 ≤ zone.toInt)
    (found : m.zones[sizeT zone]? = some z) (counted : z.getLEDsInZone.toNat = count16 z.ledsCount.toNat)
    (inside : z.startIdx.toNat + z.getLEDsInZone.toNat ≤ m.colors.length) :
    Delivers (RGBControllerNetwork.updateZoneLEDs memory devIdx zone m) devIdx v c (takeZone zone m c) := by
  have own : c.zones[sizeT zone]? = some z := by rw [← alike.zones, found]
  have all : ZoneCounted { m with modes := c.modes } c z := by
    refine ⟨.inr (counted ▸ inside), fun slot lower upper => ?_⟩
    omega
  have performs := (RGBControllerNetwork.updateZoneLEDs_performs_iff memory devIdx nonneg alike.mirrorOf own).mpr all
  have taken : takeZone zone m c = { c with colors := mergeColors (holds z) m.colors c.colors } := by
    rw [takeZone, found]
  rw [taken]
  refine delivers_of_performs performs (fun d => recolored_merge ?_ alike.length) fun p sent => ?_
  · intro slot
    rw [holds, Bool.and_eq_true, decide_eq_true_iff, decide_eq_true_iff]
    rfl
  · obtain ⟨data, built, sent⟩ := Option.bind_eq_some_iff.mp sent
    obtain ⟨dev, short⟩ := describedRequest_some sent
    exact ⟨dev, short.trans_lt (getZoneColorDescription_length built)⟩

theorem delivers_updateSingleLED (alike : Alike m c) {led : Int32} (slot : sizeT led < m.colors.length)
    (known : sizeT led ≤ m.leds.length) :
    Delivers (RGBControllerNetwork.updateSingleLED memory devIdx led m) devIdx v c (takeLED led m c) := by
  have performs := (RGBControllerNetwork.updateSingleLED_performs_iff memory devIdx alike.mirrorOf led).mpr
    ⟨slot, .inl (alike.leds ▸ known)⟩
  refine delivers_of_performs performs (fun d => recolored_merge ?_ alike.length) fun p sent => ?_
  · exact fun i => beq_iff_eq
  · obtain ⟨data, built, sent⟩ := Option.bind_eq_some_iff.mp sent
    obtain ⟨dev, short⟩ := request_some sent
    exact ⟨dev, short.trans_lt (getSingleLEDColorDescription_length built)⟩

/-- Both mode commands send the active mode, and the server stores it at its index. -/
theorem delivers_mode (alike : Alike m c) {mode : Mode} (found : m.modes[sizeT m.activeMode]? = some mode)
    (plain : (0 : UInt8) ∉ mode.name) (fits : mode.name.length ≤ 65534) (colors : mode.colors.length ≤ 65535) :
    Delivers (RGBControllerNetwork.deviceUpdateMode memory devIdx v m) devIdx v c (takeMode v m c) ∧
      Delivers (RGBControllerNetwork.deviceSaveMode memory devIdx v m) devIdx v c (takeMode v m c) := by
  have text : strlen mode.name ≤ 65534 := by rwa [strlen, cstr_of_no_nul plain]
  have inside : sizeT m.activeMode < c.modes.length := alike.modes ▸ (List.getElem?_eq_some_iff.mp found).1
  obtain ⟨old, target⟩ : ∃ old, c.modes[sizeT m.activeMode]? = some old := ⟨_, List.getElem?_eq_getElem inside⟩
  have total : 4 + stored (Put.i32 m.activeMode :: mode.puts v) = 4 + 4 + mode.size v := by
    have whole : stored ([Put.u32 (.ofNat (4 + 4 + mode.size v)), Put.i32 m.activeMode] ++ mode.puts v) = _ :=
      RGBController.modePuts_stored text _
    simp only [List.cons_append, List.nil_append, stored_cons, Put.u32_length, Put.i32_length] at whole ⊢
    omega
  have described : m.getModeDescription memory v m.activeMode = _ :=
    RGBController.getModeDescription_eq memory found text
  have run := (RGBController.reads_setModeDescription text (.ofNat (4 + 4 + mode.size v)) target).whole
    ((description_length total).trans_lt (mode.size_lt v))
  rw [Mode.sentOver_eq plain colors] at run
  have taken : takeMode v m c =
      { c with activeMode := m.activeMode, modes := c.modes.set (sizeT m.activeMode) (mode.over v old) } := by
    rw [takeMode, found, target]
  rw [taken]
  constructor
  · rw [RGBControllerNetwork.deviceUpdateMode, described]
    refine delivers_description total (mode.size_small v) run ?_
    rintro services server ⟨_, _, data, _⟩ rfl rfl
    exact ⟨_, rfl⟩
  · rw [RGBControllerNetwork.deviceSaveMode, described]
    refine delivers_description total (mode.size_small v) run ?_
    rintro services server ⟨_, _, data, _⟩ rfl rfl
    exact ⟨_, rfl⟩

/-- The packet of a command and what it makes of the controller are those of the action. -/
theorem delivers_command (alike : Alike m c) {a : MirrorAction} (allowed : Allowed m a)
    {build : RGBController → Option NetPacket} (commands : command memory v a = some build) {s : SdkSession}
    (mirror : s.mirrors[a.dev]? = some m) :
    ∃ f : RGBController → RGBController → RGBController,
      s.perform v a = { s with controllers := s.controllers.modify a.dev (f m) } ∧
        Delivers (build m) (.ofNat a.dev) v c (f m c) := by
  have taken (f : RGBController → RGBController → RGBController) :
      s.take a.dev f = { s with controllers := s.controllers.modify a.dev (f m) } := by
    rw [take, mirror]
  cases a with
  | setColors | setMode => cases commands
  | updateLEDs dev =>
      cases commands
      exact ⟨_, taken _, delivers_updateLEDs alike⟩
  | updateZoneLEDs dev zone =>
      cases commands
      obtain ⟨nonneg, z, found, counted, inside⟩ := allowed
      exact ⟨_, taken _, delivers_updateZoneLEDs alike nonneg found counted inside⟩
  | updateSingleLED dev led =>
      cases commands
      exact ⟨_, taken _, delivers_updateSingleLED alike allowed.1 allowed.2⟩
  | updateMode dev =>
      cases commands
      obtain ⟨mode, found, plain, fits, colors⟩ := allowed
      exact ⟨_, taken _, (delivers_mode alike found plain fits colors).1⟩
  | saveMode dev =>
      cases commands
      obtain ⟨mode, found, plain, fits, colors⟩ := allowed
      exact ⟨_, taken _, (delivers_mode alike found plain fits colors).2⟩

/-! ### What stays alike -/

theorem Alike.edited (alike : Alike m c) {colors : List RGBColor} (length : colors.length = m.colors.length) :
    Alike { m with colors } c where
  zones := alike.zones
  leds := alike.leds
  modes := alike.modes
  mirrorWindowed := alike.mirrorWindowed.recolored length
  serverWindowed := alike.serverWindowed
  few := length.trans_le alike.few

theorem Alike.recolored (alike : Alike m c) {colors : List RGBColor} (length : colors.length = c.colors.length) :
    Alike m { c with colors } where
  zones := alike.zones
  leds := alike.leds
  modes := alike.modes
  mirrorWindowed := alike.mirrorWindowed
  serverWindowed := alike.serverWindowed.recolored length
  few := alike.few

theorem Alike.modeEdited (alike : Alike m c) {mode : Int32} {new : Mode} :
    Alike { m with activeMode := mode, modes := m.modes.set (sizeT mode) new } c where
  zones := alike.zones
  leds := alike.leds
  modes := List.length_set.trans alike.modes
  mirrorWindowed := windowed_of_modes alike.mirrorWindowed
  serverWindowed := alike.serverWindowed
  few := alike.few

theorem Alike.takeMode (alike : Alike m c) : Alike m (takeMode v m c) := by
  unfold SdkSession.takeMode
  split
  · exact {
      zones := alike.zones
      leds := alike.leds
      modes := alike.modes.trans List.length_set.symm
      mirrorWindowed := alike.mirrorWindowed
      serverWindowed := windowed_of_modes alike.serverWindowed
      few := alike.few }
  · exact alike

theorem Alike.takeZone (alike : Alike m c) (zone : Int32) : Alike m (takeZone zone m c) := by
  unfold SdkSession.takeZone
  split
  · exact alike
  · exact alike.recolored mergeColors_length

variable {s : SdkSession}

theorem Linked.edit (linked : s.Linked) {dev : Nat} {f : RGBController → RGBController}
    (keeps : ∀ m c, s.mirrors[dev]? = some m → Alike m c → Alike (f m) c) : (s.edit dev f).Linked where
  length := (List.length_modify _ _ _).trans linked.length
  few := (List.length_modify _ _ _).trans_lt linked.few
  alike i m c mirror own := by
    rw [SdkSession.edit, List.getElem?_modify] at mirror
    obtain ⟨old, found, rfl⟩ := Option.map_eq_some_iff.mp mirror
    have before := linked.alike i old c found own
    split_ifs with same
    · exact keeps old c (same ▸ found) before
    · exact before

theorem Linked.take (linked : s.Linked) {dev : Nat} {f : RGBController → RGBController → RGBController}
    (keeps : ∀ m c, Alike m c → Alike m (f m c)) : (s.take dev f).Linked := by
  unfold SdkSession.take
  cases mirror : s.mirrors[dev]? with
  | none => exact linked
  | some own =>
      exact {
        length := linked.length.trans (List.length_modify _ _ _).symm
        few := linked.few
        alike := by
          intro i m c found stored
          rw [List.getElem?_modify] at stored
          obtain ⟨old, at_, rfl⟩ := Option.map_eq_some_iff.mp stored
          have before := linked.alike i m old found at_
          split_ifs with same
          · subst same
            cases Option.some.inj (mirror.symm.trans found)
            exact keeps _ _ before
          · exact before }

theorem Linked.perform (linked : s.Linked) {a : MirrorAction}
    (allowed : ∀ m, s.mirrors[a.dev]? = some m → Allowed m a) : (s.perform v a).Linked := by
  cases a with
  | setColors dev colors => exact linked.edit fun m c found alike => alike.edited (allowed m found)
  | setMode dev mode new => exact linked.edit fun m c _ alike => alike.modeEdited
  | updateLEDs dev => exact linked.take fun m c alike => alike.recolored alike.length
  | updateZoneLEDs dev zone => exact linked.take fun m c alike => alike.takeZone zone
  | updateSingleLED dev led => exact linked.take fun m c alike => alike.recolored mergeColors_length
  | updateMode dev | saveMode dev => exact linked.take fun m c alike => alike.takeMode

/-! ### Sessions -/

/-- The packets of one action bring the server to the controllers of the action. -/
theorem packets_handled (linked : s.Linked) {a : MirrorAction} (mirror : s.mirrors[a.dev]? = some m)
    (allowed : Allowed m a) (services : Services) (legacy : Bool) :
    ∃ ps, s.packets memory v a = some ps ∧ (∀ p ∈ ps, p.data.length < 2 ^ 31) ∧
      HandlesAll (NetworkServer.listener services) ⟨s.controllers, legacy, v⟩ ps
        ⟨(s.perform v a).controllers, legacy, v⟩ := by
  unfold packets
  cases commands : command memory v a with
  | none =>
      refine ⟨[], rfl, fun _ none_ => (nomatch none_), congrArg some ?_⟩
      cases a <;> first | rfl | cases commands
  | some build =>
      have dev : a.dev < s.mirrors.length := (List.getElem?_eq_some_iff.mp mirror).1
      obtain ⟨c, own⟩ : ∃ c, s.controllers[a.dev]? = some c := ⟨_, List.getElem?_eq_getElem (linked.length ▸ dev)⟩
      obtain ⟨f, performed, p, built, small, done⟩ :=
        delivers_command (linked.alike _ _ _ mirror own) allowed commands mirror
      have index : (UInt32.ofNat a.dev).toNat = a.dev := UInt32.toNat_ofNat_of_lt' (dev.trans linked.few)
      have stored : s.controllers.modify a.dev (f m) = s.controllers.set a.dev (f m c) := by
        have some_ : Inhabited RGBController := ⟨c⟩
        rw [List.modify_eq_set, own]
        rfl
      rw [index] at done
      refine ⟨[p], ?_, List.forall_mem_singleton.mpr small, ?_⟩
      · change ((s.mirrors[a.dev]?).bind build).map _ = _
        rw [mirror, Option.bind_some, built]
        rfl
      · rw [HandlesAll, List.foldlM_cons, NetworkServer.listener, done services ⟨s.controllers, legacy, v⟩ rfl own,
          performed, stored]
        rfl

theorem sent_cons {a : MirrorAction} {as : List MirrorAction} {own others : List NetPacket}
    (here : s.packets memory v a = some own) (later : (s.perform v a).sent memory v as = some others) :
    s.sent memory v (a :: as) = some (own ++ others) := by
  rw [SdkSession.sent, here, Option.bind_eq_bind, Option.bind_some, later]
  rfl

variable (memory) in
/-- All packets are sent, and a server that handles them ends with the controllers of the session. -/
theorem sent_handled (linked : s.Linked) {as : List MirrorAction} (allowed : s.AllAllowed v as) (services : Services)
    (legacy : Bool) :
    ∃ ps, s.sent memory v as = some ps ∧ (∀ p ∈ ps, p.data.length < 2 ^ 31) ∧
      HandlesAll (NetworkServer.listener services) ⟨s.controllers, legacy, v⟩ ps
        ⟨(s.run v as).controllers, legacy, v⟩ := by
  induction as generalizing s with
  | nil => exact ⟨[], rfl, fun _ none_ => (nomatch none_), rfl⟩
  | cons a as ih =>
      obtain ⟨⟨m, mirror, here⟩, later⟩ := allowed
      obtain ⟨front, sent, small, handled⟩ := packets_handled linked mirror here services legacy
      have kept : (s.perform v a).Linked := linked.perform fun m' again => by
        cases Option.some.inj (mirror.symm.trans again)
        exact here
      obtain ⟨back, rest, others, ends⟩ := ih kept later
      exact ⟨front ++ back, sent_cons sent rest, List.forall_mem_append.mpr ⟨small, others⟩, handled.append ends⟩

theorem packets_few {a : MirrorAction} {ps : List NetPacket} (sent : s.packets memory v a = some ps) :
    ps = [] ∨ ∃ p, ps = [p] := by
  unfold packets at sent
  split at sent
  · exact .inl (Option.some.inj sent).symm
  · obtain ⟨p, _, rfl⟩ := Option.map_eq_some_iff.mp sent
    exact .inr ⟨p, rfl⟩

/-- The first packets of a session are the packets of its first actions. -/
theorem sent_split {as : List MirrorAction} {front back : List NetPacket}
    (sent : s.sent memory v as = some (front ++ back)) :
    ∃ done rest, as = done ++ rest ∧ s.sent memory v done = some front ∧ (back = [] → rest = []) := by
  induction as generalizing s front with
  | nil =>
      obtain ⟨rfl, rfl⟩ := List.append_eq_nil_iff.mp (Option.some.inj sent).symm
      exact ⟨[], [], rfl, rfl, fun _ => rfl⟩
  | cons a as ih =>
      rw [SdkSession.sent] at sent
      obtain ⟨own, first, sent⟩ := Option.bind_eq_some_iff.mp sent
      obtain ⟨others, later, joined⟩ := Option.bind_eq_some_iff.mp sent
      have joined : own ++ others = front ++ back := Option.some.inj joined
      -- an action that sends something may have its packet behind the front
      rcases packets_few first with rfl | ⟨p, rfl⟩
      · rw [List.nil_append] at joined
        obtain ⟨done, rest, split, sent, whole⟩ := ih (joined ▸ later)
        exact ⟨a :: done, rest, congrArg (a :: ·) split, sent_cons first sent, whole⟩
      · cases front with
        | nil =>
            refine ⟨[], a :: as, rfl, rfl, fun none_ => ?_⟩
            rw [none_] at joined
            cases joined
        | cons q front =>
            obtain ⟨rfl, rfl⟩ : p = q ∧ others = front ++ back := List.cons.inj joined
            obtain ⟨done, rest, split, sent, whole⟩ := ih later
            exact ⟨a :: done, rest, congrArg (a :: ·) split, sent_cons first sent, whole⟩

theorem AllAllowed.front {as bs : List MirrorAction} (allowed : s.AllAllowed v (as ++ bs)) : s.AllAllowed v as := by
  induction as generalizing s with
  | nil => trivial
  | cons a as ih => exact ⟨allowed.1, ih allowed.2⟩

/-! ### What the server ends with -/

theorem perform_other {a : MirrorAction} {dev : Nat} (other : a.dev ≠ dev) :
    (s.perform v a).mirrors[dev]? = s.mirrors[dev]? ∧ (s.perform v a).controllers[dev]? = s.controllers[dev]? := by
  have edits (f : RGBController → RGBController) (cs : List RGBController) : (cs.modify a.dev f)[dev]? = cs[dev]? := by
    rw [List.getElem?_modify_ne _ _ other]
  have takes (f : RGBController → RGBController → RGBController) : (s.take a.dev f).mirrors[dev]? = s.mirrors[dev]? ∧
      (s.take a.dev f).controllers[dev]? = s.controllers[dev]? := by
    unfold take
    split
    · exact ⟨rfl, rfl⟩
    · exact ⟨rfl, edits _ _⟩
  cases a with
  | setColors | setMode => exact ⟨edits _ _, rfl⟩
  | updateLEDs | updateZoneLEDs | updateSingleLED | updateMode | saveMode => exact takes _

theorem run_other {as : List MirrorAction} {dev : Nat} (others : ∀ a ∈ as, a.dev ≠ dev) :
    (s.run v as).mirrors[dev]? = s.mirrors[dev]? ∧ (s.run v as).controllers[dev]? = s.controllers[dev]? := by
  induction as generalizing s with
  | nil => exact ⟨rfl, rfl⟩
  | cons a as ih =>
      obtain ⟨here, later⟩ := List.forall_mem_cons.mp others
      obtain ⟨mirrors, controllers⟩ := ih (s := s.perform v a) later
      exact ⟨mirrors.trans (perform_other here).1, controllers.trans (perform_other here).2⟩

theorem take_current {dev : Nat} (mirror : (s.take dev takeColors).mirrors[dev]? = some m)
    (own : (s.take dev takeColors).controllers[dev]? = some c) : c.colors = m.colors := by
  unfold take at mirror own
  split at mirror
  · rename_i none_
    cases none_.symm.trans mirror
  · rename_i before found
    rw [found] at own
    cases Option.some.inj (found.symm.trans mirror)
    rw [List.getElem?_modify_eq] at own
    obtain ⟨old, _, rfl⟩ := Option.map_eq_some_iff.mp own
    rfl

/-- Behind the last colors that it is sent, a device has those of its mirror. -/
theorem run_current {before after : List MirrorAction} {dev : Nat} (others : ∀ a ∈ after, a.dev ≠ dev)
    (mirror : (s.run v (before ++ .updateLEDs dev :: after)).mirrors[dev]? = some m)
    (own : (s.run v (before ++ .updateLEDs dev :: after)).controllers[dev]? = some c) : c.colors = m.colors := by
  have runs : s.run v (before ++ .updateLEDs dev :: after) =
      ((s.run v before).perform v (.updateLEDs dev)).run v after := by
    rw [run, List.foldl_append]
    rfl
  rw [runs, (run_other others).1] at mirror
  rw [runs, (run_other others).2] at own
  exact take_current mirror own

/-- However the bytes that have arrived so far are cut, the server has handled the commands of the first actions, and
its controllers are those that direct calls would leave; when all bytes are there, these are all actions, and a device
has the colors of its mirror behind the last update of them. -/
theorem session_delivers (memory : Nat → UInt8) (linked : s.Linked) {as : List MirrorAction}
    (allowed : s.AllAllowed v as) (services : Services) (legacy : Bool) (sched : Nat → Nat) :
    ∃ ps, s.sent memory v as = some ps ∧
      (∀ front, front <+: ps.flatMap NetPacket.raw → ∃ done rest, as = done ++ rest ∧
        HandlesAll (NetworkServer.listener services) ⟨s.controllers, legacy, v⟩
          ((listen (NetworkServer.listener services) sched ⟨s.controllers, legacy, v⟩ (.start front)).map
            Received.packet) ⟨(s.run v done).controllers, legacy, v⟩ ∧
        (front = ps.flatMap NetPacket.raw → rest = [])) ∧
      ∀ before dev after, as = before ++ .updateLEDs dev :: after → (∀ a ∈ after, a.dev ≠ dev) →
        ∀ m c, (s.run v as).mirrors[dev]? = some m → (s.run v as).controllers[dev]? = some c →
          c.colors = m.colors := by
  obtain ⟨ps, sent, small, handled⟩ := sent_handled memory linked allowed services legacy
  refine ⟨ps, sent, fun front part => ?_, ?_⟩
  · obtain ⟨arrived, missing, rfl, dispatched, whole⟩ := listen_part sched handled small part [] 0
    obtain ⟨done, rest, rfl, first, all⟩ := sent_split sent
    obtain ⟨qs, again, _, ends⟩ := sent_handled memory linked allowed.front services legacy
    obtain rfl : qs = arrived := Option.some.inj (again.symm.trans first)
    refine ⟨done, rest, rfl, ?_, fun here => all (whole here)⟩
    rw [Wire.start, dispatched]
    exact ends
  · rintro before dev after rfl others m c mirror own
    exact run_current others mirror own

end SdkSession
end

namespace SdkSession

/-- Two zones and their mirror. -/
def mirrored : SdkSession := ⟨[RGBControllerNetwork.capped [1, 2]], [RGBControllerNetwork.capped [3, 4]]⟩

theorem mirrored_linked : mirrored.Linked where
  length := rfl
  few := by decide
  alike i m c mirror own := by
    cases i with
    | zero =>
        cases mirror
        cases own
        have alike := RGBControllerNetwork.capped_mirror
        exact ⟨alike.zones, alike.leds, rfl, alike.mirrorWindowed, alike.serverWindowed, alike.few⟩
    | succ i => cases mirror

theorem session_delivers_mirrored :
    ∃ ps, mirrored.sent (fun _ => 0) 5 [.setColors 0 [5, 6], .updateLEDs 0, .updateSingleLED 0 0] = some ps ∧
      HandlesAll (NetworkServer.listener idleServices) ⟨mirrored.controllers, false, 5⟩
        ((listen (NetworkServer.listener idleServices) (fun _ => 3) ⟨mirrored.controllers, false, 5⟩
          (.start (ps.flatMap NetPacket.raw))).map Received.packet)
        ⟨(mirrored.run 5 [.setColors 0 [5, 6], .updateLEDs 0, .updateSingleLED 0 0]).controllers, false, 5⟩ := by
  have allowed : mirrored.AllAllowed 5 [.setColors 0 [5, 6], .updateLEDs 0, .updateSingleLED 0 0] :=
    ⟨⟨_, rfl, rfl⟩, ⟨_, rfl, trivial⟩, ⟨_, rfl, by decide, by decide⟩, trivial⟩
  obtain ⟨ps, sent, parts, _⟩ := session_delivers (fun _ => 0) mirrored_linked allowed idleServices false fun _ => 3
  obtain ⟨done, rest, split, handled, whole⟩ := parts _ List.prefix_rfl
  obtain rfl := whole rfl
  rw [List.append_nil] at split
  exact ⟨ps, sent, split ▸ handled⟩

end SdkSession
end SyncRGB
