import SyncRGB.Controller.ZoneStores
import SyncRGB.JsonRpc.SizeRequests

/-! Which color slots the zone methods write. The window of an effects-only zone has one slot at most, but
the methods take as many colors for it as it has LEDs. -/
namespace SyncRGB
open ByteCodec VectorEdit Effect RGBController
namespace JsonRpc

/-- What a zone method stores: one color for a zone, the colors of a zone, or those of all zones. -/
inductive ZoneWrite where
  | color (zoneIdx : UInt32) (color : RGBColor)
  | one (request : ZoneRequest)
  | all (request : ZonesRequest)

namespace ZoneWrite

/-- The request is made without force. -/
def Unforced : ZoneWrite → Prop
  | .color _ _ => True
  | .one request => request.force = false
  | .all request => request.force = false

/-- The part of the method behind its parameters, on the device they name. -/
def perform (resizeZone : Nat → UInt32 → RGBController → RGBController) :
    ZoneWrite → Control RGBController Unit
  | .color zoneIdx value => colorZone zoneIdx value
  | .one request => setZone resizeZone request
  | .all request => setZones resizeZone request

def Names : ZoneWrite → Nat → Prop
  | .color zoneIdx _, zone => zone = zoneIdx.toNat
  | .one request, zone => zone = request.zoneIdx.toNat
  | .all request, zone => zone < request.zoneColors.length

/-- The color given for a position in a zone that is named. -/
def given : ZoneWrite → Nat → Nat → Option RGBColor
  | .color _ value, _, _ => some value
  | .one request, _, p => request.colors[p]?
  | .all request, zone, p => request.zoneColors[zone]?.bind fun colors => colors[p]?

end ZoneWrite

def InWindow (c : RGBController) (zone p slot : Nat) : Prop :=
  ∃ z, c.zones[zone]? = some z ∧ p < z.getLEDsInZone.toNat ∧ slot = z.startIdx.toNat + p

/-- The windows of the named zones hold the given colors, and the other slots what they held before. -/
structure Framed (write : ZoneWrite) (c d : RGBController) : Prop where
  inside (slot zone p : Nat) : write.Names zone → InWindow d zone p slot →
    ∃ color, write.given zone p = some color ∧ d.colors[slot]? = some color
  others (slot : Nat) : (∀ zone p, write.Names zone → ¬ InWindow d zone p slot) →
    d.colors[slot]? = (resizeColors c.colors d.colors.length)[slot]?

/-- Work that is answered with an error, or stays inside the vectors and leaves what it should. -/
def EndsWith (post : RGBController → Prop) (work : Control RGBController Unit) (c : RGBController) : Prop :=
  ∀ result d, work c = (result, d) → (∃ e, IsError e ∧ result = .error e) ∨ result = .ok () ∧ post d

/-- The method fails, or stores inside the vectors and in its own windows only. -/
def StaysInWindows (resizeZone : Nat → UInt32 → RGBController → RGBController) (write : ZoneWrite)
    (c : RGBController) : Prop := EndsWith (Framed write c) (write.perform resizeZone) c

/-- What work without an error leaves; `none` when it leaves the vectors. -/
def Leaves (work : Control RGBController Unit) (c : RGBController) : Option RGBController → Prop
  | some d => work c = (.ok (), d)
  | none => ∃ d, work c = (.error .outside, d)

section
variable (resizeZone : Nat → UInt32 → RGBController → RGBController)

/-- The zone has that size, or is given it by its device. -/
def TakesSize (zone n : Nat) (c : RGBController) : Prop :=
  ∃ z, c.zones[zone]? = some z ∧
    (n = z.ledsCount.toNat ∨ ¬ (n < z.ledsMin.toNat ∨ z.ledsMax.toNat < n) ∧
      (resizeZone zone (UInt32.ofNat n) c).countAt zone = some n)

/-- Every zone has its size, or is given it by the device. -/
def TakesSizes (given : List (List RGBColor)) (c : RGBController) : Prop :=
  checkZoneNumber false given.length c.zones.length = .ok () ∧ checkCounts given c.zones = .ok () ∧
    TakesAll resizeZone 0 given c

/-- The colors of a zone end inside the vector. Those behind its window are there already, and the device
has kept those of the other slots; all of this counts from the sizes that the device has taken. -/
def StoresFit (c : RGBController) : ZoneWrite → Prop
  | .color zoneIdx _ => ∀ z, c.zones[zoneIdx.toNat]? = some z →
      z.getLEDsInZone = 0 ∨ z.startIdx.toNat + z.getLEDsInZone.toNat ≤ c.colors.length
  | .one request =>
      let zone := request.zoneIdx.toNat
      let colors := request.colors
      let b := askSize resizeZone zone colors.length c
      TakesSize resizeZone zone colors.length c → ∀ z, b.zones[zone]? = some z →
        (colors = [] ∨ z.startIdx.toNat + colors.length ≤ b.colors.length) ∧
        (∀ p, z.getLEDsInZone.toNat ≤ p → p < colors.length →
          (resizeColors c.colors b.colors.length)[z.startIdx.toNat + p]? = colors[p]?) ∧
        ∀ slot, slot < z.startIdx.toNat ∨ z.startIdx.toNat + colors.length ≤ slot →
          b.colors[slot]? = (resizeColors c.colors b.colors.length)[slot]?
  | .all request =>
      let b := askSizes resizeZone 0 request.zoneColors c
      TakesSizes resizeZone request.zoneColors c →
        ∀ (zone : Nat) (z : Zone) (colors : List RGBColor), b.zones[zone]? = some z →
          request.zoneColors[zone]? = some colors →
          colors = [] ∨ z.startIdx.toNat + colors.length ≤ b.colors.length

end

/-- A device leaves the windows as `SetupColors` sets them. -/
def SetsUpColors (resizeZone : Nat → UInt32 → RGBController → RGBController) : Prop :=
  ∀ zone n c, c.Windowed → (resizeZone zone n c).Windowed

/-! ### Sizes -/

section
variable {resizeZone : Nat → UInt32 → RGBController → RGBController}

theorem sizeZone_run (zone n : Nat) (c : RGBController) :
    TakesSize resizeZone zone n c ∧
        sizeZone resizeZone false zone n c = (.ok (), askSize resizeZone zone n c) ∨
      ¬ TakesSize resizeZone zone n c ∧
        ∃ e t, IsError e ∧ sizeZone resizeZone false zone n c = (.error e, t) := by
  have read : (get : Control RGBController RGBController) c = (.ok c, c) := rfl
  rw [sizeZone, bind_ok read]
  cases found : c.zones[zone]? with
  | none =>
      right
      constructor
      · rintro ⟨z, found', _⟩
        rw [found] at found'
        cases found'
      · exact ⟨_, c, Stop.noConfusion, rfl⟩
  | some z =>
      have count : c.countAt zone = some z.ledsCount.toNat := by rw [countAt, found]; rfl
      dsimp only
      by_cases same : n = z.ledsCount.toNat
      · left
        rw [if_pos same, askSize, count, if_pos (congrArg some same.symm)]
        exact ⟨⟨z, found, .inl same⟩, rfl⟩
      · have differs : ¬ c.countAt zone = some n := by
          rw [count]
          exact fun equal => same (Option.some.inj equal).symm
        rw [if_neg same, askSize, if_neg differs]
        simp only [Bool.false_eq_true, if_false]
        by_cases range : n < z.ledsMin.toNat ∨ z.ledsMax.toNat < n
        · right
          rw [if_pos range]
          constructor
          · rintro ⟨z', found', same' | ⟨within, _⟩⟩
            · rw [found] at found'
              cases found'
              exact same same'
            · rw [found] at found'
              cases found'
              exact within range
          · exact ⟨_, c, Stop.noConfusion, rfl⟩
        · rw [if_neg range, requestSize_eq]
          by_cases taken : (resizeZone zone (UInt32.ofNat n) c).countAt zone = some n
          · left
            rw [if_pos taken]
            exact ⟨⟨z, found, .inr ⟨range, taken⟩⟩, rfl⟩
          · right
            rw [if_neg taken]
            constructor
            · rintro ⟨z', found', same' | ⟨_, taken'⟩⟩
              · rw [found] at found'
                cases found'
                exact same same'
              · exact taken taken'
            · exact ⟨_, _, Stop.noConfusion, rfl⟩

theorem countAt_askSize {zone n : Nat} {c : RGBController} (taken : TakesSize resizeZone zone n c) :
    (askSize resizeZone zone n c).countAt zone = some n := by
  obtain ⟨z, found, taken⟩ := taken
  rw [askSize]
  split
  · assumption
  · rename_i differs
    rcases taken with same | ⟨_, taken⟩
    · rw [countAt, found, same] at differs
      exact absurd rfl differs
    · exact taken

theorem sizeZones_run (behaves : AppliesOrIgnores resizeZone) (given : List (List RGBColor))
    (c : RGBController) :
    TakesSizes resizeZone given c ∧
        sizeZones resizeZone false given c = (.ok (), askSizes resizeZone 0 given c) ∨
      ¬ TakesSizes resizeZone given c ∧
        ∃ e t, IsError e ∧ sizeZones resizeZone false given c = (.error e, t) := by
  have read : (get : Control RGBController RGBController) c = (.ok c, c) := rfl
  rw [sizeZones, bind_ok read]
  cases number : checkZoneNumber false given.length c.zones.length with
  | error e =>
      right
      constructor
      · intro taken
        rw [TakesSizes, number] at taken
        cases taken.1
      · exact ⟨_, c, Stop.noConfusion, rfl⟩
  | ok _ =>
      cases counts : checkCounts given c.zones with
      | error e =>
          right
          constructor
          · intro taken
            rw [TakesSizes, counts] at taken
            cases taken.2.1
          · exact ⟨_, c, Stop.noConfusion, rfl⟩
      | ok _ =>
          obtain ⟨result, d, run, -, ⟨all, ok⟩ | ⟨refused, error⟩⟩ :=
            requestSizes_run behaves 0 given c
          · left
            exact ⟨⟨number, counts, all⟩, requestSizes_ok all⟩
          · right
            subst error
            exact ⟨fun taken => refused taken.2.2, _, d, Stop.noConfusion, run⟩

/-! ### Stores -/

variable {write : ZoneWrite} {c : RGBController}

theorem endsWith_of_error {post : RGBController → Prop} {work : Control RGBController Unit} {e : Stop}
    {t : RGBController} (counts : IsError e) (run : work c = (.error e, t)) : EndsWith post work c := by
  intro result d run'
  rw [run] at run'
  cases run'
  exact .inl ⟨e, counts, rfl⟩

theorem endsWith_iff {post : RGBController → Prop} {work : Control RGBController Unit}
    {left : Option RGBController} (leaves : Leaves work c left) :
    EndsWith post work c ↔ ∃ d, left = some d ∧ post d := by
  cases left with
  | none =>
      obtain ⟨t, run⟩ := leaves
      apply iff_of_false
      · intro ends
        rcases ends _ t run with ⟨e, counts, same⟩ | ⟨ok, _⟩
        · cases same
          exact absurd rfl counts
        · cases ok
      · rintro ⟨d, some_, _⟩
        cases some_
  | some d =>
      have run : work c = (.ok (), d) := leaves
      constructor
      · intro ends
        rcases ends _ d run with ⟨e, counts, same⟩ | ⟨_, holds⟩
        · cases same
        · exact ⟨d, rfl, holds⟩
      · rintro ⟨d', some_, holds⟩ result t run'
        cases some_
        rw [run] at run'
        cases run'
        exact .inr ⟨rfl, holds⟩

theorem leaves_storing {work : Control RGBController Unit} {f : RGBController → Option RGBController}
    {b : RGBController} (run : work c = storing f b) : Leaves work c (f b) := by
  rw [storing] at run
  cases stored : f b with
  | none =>
      rw [stored] at run
      exact ⟨b, run⟩
  | some d =>
      rw [stored] at run
      exact run

theorem storeZoneColors_some {b : RGBController} (windowed : b.Windowed) {zone : Nat} {z : Zone}
    {colors : List RGBColor} (found : b.zones[zone]? = some z) (pointer : colors ≠ [] → 0 < z.getLEDsInZone)
    (room : colors = [] ∨ z.startIdx.toNat + colors.length ≤ b.colors.length) :
    b.storeZoneColors zone colors =
      some { b with colors := overwrite z.startIdx.toNat colors b.colors } := by
  rw [storeZoneColors_eq windowed found]
  split
  · rename_i empty
    rw [empty, overwrite_nil]
  · rename_i full
    rw [if_pos ⟨pointer full, room.resolve_left full⟩]

theorem storeZoneColors_none {b : RGBController} (windowed : b.Windowed) {zone : Nat} {z : Zone}
    {colors : List RGBColor} (found : b.zones[zone]? = some z)
    (outside : ¬ (colors = [] ∨ z.startIdx.toNat + colors.length ≤ b.colors.length)) :
    b.storeZoneColors zone colors = none := by
  rw [storeZoneColors_eq windowed found, if_neg fun empty => outside (.inl empty),
    if_neg fun fits => outside (.inr fits.2)]

/-- Colors for a zone that is named alone are framed, exactly when they end inside the vector, those behind
the window were there before and so were those of the other slots. -/
theorem storeZoneColors_framed {b : RGBController} (windowed : b.Windowed) {zone : Nat} {z : Zone}
    {colors : List RGBColor} (found : b.zones[zone]? = some z) (names : ∀ k, write.Names k ↔ k = zone)
    (given : ∀ p < z.getLEDsInZone.toNat, write.given zone p = colors[p]?)
    (enough : z.getLEDsInZone.toNat ≤ colors.length) (pointer : colors ≠ [] → 0 < z.getLEDsInZone) :
    (∃ d, b.storeZoneColors zone colors = some d ∧ Framed write c d) ↔
      (colors = [] ∨ z.startIdx.toNat + colors.length ≤ b.colors.length) ∧
      (∀ p, z.getLEDsInZone.toNat ≤ p → p < colors.length →
        (resizeColors c.colors b.colors.length)[z.startIdx.toNat + p]? = colors[p]?) ∧
      ∀ slot, slot < z.startIdx.toNat ∨ z.startIdx.toNat + colors.length ≤ slot →
        b.colors[slot]? = (resizeColors c.colors b.colors.length)[slot]? := by
  by_cases room : colors = [] ∨ z.startIdx.toNat + colors.length ≤ b.colors.length
  · have stored := storeZoneColors_some windowed found pointer room
    have length : (overwrite z.startIdx.toNat colors b.colors).length = b.colors.length :=
      overwrite_block_length room
    have covered (p : Nat) (inside : p < colors.length) :
        (overwrite z.startIdx.toNat colors b.colors)[z.startIdx.toNat + p]? = colors[p]? := by
      rcases room with empty | room
      · rw [empty] at inside
        cases inside
      · exact getElem?_overwrite_inside (by omega) inside
    have away (slot : Nat) (outside : slot < z.startIdx.toNat ∨ z.startIdx.toNat + colors.length ≤ slot) :
        (overwrite z.startIdx.toNat colors b.colors)[slot]? = b.colors[slot]? := by
      rcases room with empty | room
      · rw [empty, overwrite_nil]
      · rcases outside with before | behind
        · exact getElem?_overwrite_of_lt (by omega) before
        · exact getElem?_overwrite_of_le (by omega) behind
    have windows (k p slot : Nat) (named : write.Names k)
        (window : InWindow { b with colors := overwrite z.startIdx.toNat colors b.colors } k p slot) :
        k = zone ∧ p < z.getLEDsInZone.toNat ∧ slot = z.startIdx.toNat + p := by
      obtain ⟨z', found', inside, at_⟩ := window
      have here := (names k).mp named
      subst here
      have same : some z = some z' := found.symm.trans found'
      cases same
      exact ⟨rfl, inside, at_⟩
    constructor
    · rintro ⟨d, some_, framed⟩
      rw [stored] at some_
      cases some_
      have others := framed.others
      simp only [length] at others
      refine ⟨room, ?_, ?_⟩
      · intro p beyond inside
        rw [← others (z.startIdx.toNat + p), covered p inside]
        intro k p' named window
        obtain ⟨-, inside', at_⟩ := windows k p' _ named window
        omega
      · intro slot outside
        rw [← others slot, away slot outside]
        intro k p' named window
        obtain ⟨-, inside', at_⟩ := windows k p' _ named window
        omega
    · rintro ⟨-, overhang, kept⟩
      refine ⟨_, stored, ?_, ?_⟩
      · intro slot k p named window
        obtain ⟨rfl, inside, rfl⟩ := windows k p slot named window
        refine ⟨colors[p], ?_, ?_⟩
        · rw [given p inside, List.getElem?_eq_getElem (by omega)]
        · rw [covered p (by omega), List.getElem?_eq_getElem (by omega)]
      · intro slot unnamed
        simp only [length]
        by_cases outside : slot < z.startIdx.toNat ∨ z.startIdx.toNat + colors.length ≤ slot
        · rw [away slot outside, kept slot outside]
        · obtain ⟨p, rfl⟩ : ∃ p, slot = z.startIdx.toNat + p := ⟨slot - z.startIdx.toNat, by omega⟩
          have beyond : z.getLEDsInZone.toNat ≤ p := by
            by_contra inside
            exact unnamed zone p ((names zone).mpr rfl) ⟨z, found, by omega, rfl⟩
          rw [covered p (by omega), overhang p beyond (by omega)]
  · rw [storeZoneColors_none windowed found room]
    apply iff_of_false
    · rintro ⟨d, some_, _⟩
      cases some_
    · exact fun all => room all.1

/-! ### Methods -/

theorem colorZone_stays (windowed : c.Windowed) (zoneIdx : UInt32) (value : RGBColor) :
    StaysInWindows resizeZone (.color zoneIdx value) c ↔
      StoresFit resizeZone c (.color zoneIdx value) := by
  cases found : c.zones[zoneIdx.toNat]? with
  | none =>
      have outside : ¬ zoneIdx.toNat < c.zones.length := by simpa using found
      have run : (ZoneWrite.color zoneIdx value).perform resizeZone c =
          (.error (.failure (.error errZoneIndexOutOfRange (ascii "Zone index out of range"))), c) := by
        have read : (get : Control RGBController RGBController) c = (.ok c, c) := rfl
        rw [ZoneWrite.perform, colorZone, bind_ok read, checkZone, if_neg outside]
        rfl
      apply iff_of_true
      · exact endsWith_of_error Stop.noConfusion run
      · intro z found'
        rw [found] at found'
        cases found'
  | some z =>
      have inside := List.getElem?_eq_some_iff.mp found |>.1
      have run : (ZoneWrite.color zoneIdx value).perform resizeZone c =
          storing (fun c => c.storeZoneColors zoneIdx.toNat
            (List.replicate z.getLEDsInZone.toNat value)) c := by
        have read : (get : Control RGBController RGBController) c = (.ok c, c) := rfl
        rw [ZoneWrite.perform, colorZone, bind_ok read, checkZone, if_pos inside]
        show storing (setAllZoneLEDs zoneIdx.toNat value) c = _
        unfold storing setAllZoneLEDs
        rw [found]
      have pointer : List.replicate z.getLEDsInZone.toNat value ≠ [] → 0 < z.getLEDsInZone := by
        intro full
        have used : z.getLEDsInZone.toNat ≠ 0 := fun zero => full (by rw [zero]; rfl)
        exact UInt32.lt_iff_toNat_lt.mpr (Nat.pos_of_ne_zero used)
      have names (k : Nat) : (ZoneWrite.color zoneIdx value).Names k ↔ k = zoneIdx.toNat := Iff.rfl
      have given (p : Nat) (inside : p < z.getLEDsInZone.toNat) :
          (ZoneWrite.color zoneIdx value).given zoneIdx.toNat p =
            (List.replicate z.getLEDsInZone.toNat value)[p]? :=
        (List.getElem?_replicate_of_lt inside).symm
      rw [StaysInWindows, endsWith_iff (leaves_storing run),
        storeZoneColors_framed windowed found names given List.length_replicate.ge pointer,
        StoresFit, List.length_replicate, List.replicate_eq_nil_iff]
      constructor
      · rintro ⟨fits, -, -⟩ z' found'
        rw [found] at found'
        cases found'
        exact fits.imp_left UInt32.toNat_inj.mp
      · intro fits
        refine ⟨(fits z found).imp_left (congrArg UInt32.toNat), ?_, ?_⟩
        · intro p beyond inside
          omega
        · intro slot _
          rw [resizeColors_self]

theorem setZone_stays (sets : SetsUpColors resizeZone) (windowed : c.Windowed) {request : ZoneRequest}
    (unforced : request.force = false) :
    StaysInWindows resizeZone (.one request) c ↔ StoresFit resizeZone c (.one request) := by
  have sized : (askSize resizeZone request.zoneIdx.toNat request.colors.length c).Windowed := by
    rw [askSize]
    split
    · exact windowed
    · exact sets _ _ _ windowed
  rcases @sizeZone_run resizeZone request.zoneIdx.toNat request.colors.length c with
    ⟨taken, run⟩ | ⟨refused, e, t, counts, run⟩
  · have stored : (ZoneWrite.one request).perform resizeZone c =
        storing (fun c => c.storeZoneColors request.zoneIdx.toNat request.colors)
          (askSize resizeZone request.zoneIdx.toNat request.colors.length c) := by
      rw [ZoneWrite.perform, setZone, unforced]
      exact bind_ok run
    have count := countAt_askSize taken
    obtain ⟨z, found, length⟩ := Option.map_eq_some_iff.mp count
    have names (k : Nat) : (ZoneWrite.one request).Names k ↔ k = request.zoneIdx.toNat := Iff.rfl
    have enough : z.getLEDsInZone.toNat ≤ request.colors.length := length ▸ z.getLEDsInZone_le
    have pointer (full : request.colors ≠ []) : 0 < z.getLEDsInZone := by
      apply Zone.getLEDsInZone_pos
      rw [length]
      exact List.length_pos_iff.mpr full
    rw [StaysInWindows, endsWith_iff (leaves_storing stored),
      storeZoneColors_framed sized found names (fun _ _ => rfl) enough pointer]
    constructor
    · intro fits _ z' found'
      rw [found] at found'
      cases found'
      exact fits
    · exact fun fits => fits taken z found
  · apply iff_of_true
    · have failed : (ZoneWrite.one request).perform resizeZone c = (.error e, t) := by
        rw [ZoneWrite.perform, setZone, unforced]
        exact bind_error run
      exact endsWith_of_error counts failed
    · exact fun taken => absurd taken refused

/-- Colors for every zone are framed when they end inside the vector: what lies behind a window is stored
over by the zones behind. -/
theorem storeZones_framed {b : RGBController} (windowed : b.Windowed) {request : ZonesRequest}
    (length : request.zoneColors.length = b.zones.length)
    (counts : ∀ (k : Nat) (colors : List RGBColor), request.zoneColors[k]? = some colors →
      b.countAt k = some colors.length) :
    (∃ d, storeZones 0 request.zoneColors b = some d ∧ Framed (.all request) c d) ↔
      ∀ (zone : Nat) (z : Zone) (colors : List RGBColor), b.zones[zone]? = some z →
        request.zoneColors[zone]? = some colors →
        colors = [] ∨ z.startIdx.toNat + colors.length ≤ b.colors.length := by
  have count (k : Nat) (z : Zone) (colors : List RGBColor) (found : b.zones[k]? = some z)
      (gives : request.zoneColors[k]? = some colors) : z.ledsCount.toNat = colors.length := by
    have count := counts k colors gives
    rw [countAt, found] at count
    exact Option.some.inj count
  have pointed : Pointed b.zones request.zoneColors := by
    intro k z colors found gives full
    apply Zone.getLEDsInZone_pos
    rw [count k z colors found gives]
    exact List.length_pos_iff.mpr full
  have isSome := storeZones_isSome windowed length.le pointed
  constructor
  · rintro ⟨d, run, _⟩
    exact isSome.mp (by rw [run]; rfl)
  · intro fits
    obtain ⟨d, run⟩ := Option.isSome_iff_exists.mp (isSome.mpr fits)
    obtain ⟨blocks, same⟩ := storeZones_some windowed length.le pointed run
    have zones : d.zones = b.zones := by rw [same]
    have gives (k : Nat) (z : Zone) (found : b.zones[k]? = some z) :
        ∃ colors, request.zoneColors[k]? = some colors := by
      have inside := List.getElem?_eq_some_iff.mp found |>.1
      exact ⟨_, List.getElem?_eq_getElem (by omega)⟩
    have small : ledSum b.zones < 2 ^ 32 := by
      apply windowed.small
      intro k z found used
      obtain ⟨colors, gives⟩ := gives k z found
      have enough := count k z colors found gives ▸ z.getLEDsInZone_le
      have used : 0 < z.getLEDsInZone.toNat := UInt32.lt_iff_toNat_lt.mp used
      rcases fits k z colors found gives with empty | room
      · rw [empty, List.length_nil] at enough
        omega
      · omega
    have tiled := windowed.tiled small
    refine ⟨d, run, ?_, ?_⟩
    · rintro slot k p - ⟨z, found, window, rfl⟩
      rw [zones] at found
      obtain ⟨colors, gives⟩ := gives k z found
      have enough := count k z colors found gives ▸ z.getLEDsInZone_le
      have inside : p < colors.length := by omega
      refine ⟨colors[p], ?_, ?_⟩
      · show (request.zoneColors[k]?.bind fun colors => colors[p]?) = _
        rw [gives, Option.bind_some, List.getElem?_eq_getElem inside]
      · rw [window_storeZones windowed tiled length.le pointed run found gives window inside,
          List.getElem?_eq_getElem inside]
    · intro slot unnamed
      by_cases inside : slot < b.colors.length
      · obtain ⟨k, z, p, found, window, at_⟩ := tiled.covered inside
        have named : k < request.zoneColors.length := by
          rw [length]
          exact List.getElem?_eq_some_iff.mp found |>.1
        exact absurd ⟨z, by rwa [zones], window, at_⟩ (unnamed k p named)
      · rw [List.getElem?_eq_none (by rw [writeBlocks_length blocks]; omega),
          List.getElem?_eq_none (by rw [resizeColors_length, writeBlocks_length blocks]; omega)]

theorem setZones_stays (behaves : AppliesOrIgnores resizeZone) (sets : SetsUpColors resizeZone)
    (windowed : c.Windowed) {request : ZonesRequest} (unforced : request.force = false) :
    StaysInWindows resizeZone (.all request) c ↔ StoresFit resizeZone c (.all request) := by
  rcases sizeZones_run behaves request.zoneColors c with ⟨taken, run⟩ | ⟨refused, e, t, counts, run⟩
  · have stored : (ZoneWrite.all request).perform resizeZone c =
        storing (storeZones 0 request.zoneColors) (askSizes resizeZone 0 request.zoneColors c) := by
      rw [ZoneWrite.perform, setZones, unforced]
      exact bind_ok run
    have length : request.zoneColors.length = (askSizes resizeZone 0 request.zoneColors c).zones.length := by
      rw [zones_length_askSizes behaves]
      by_contra other
      have number := taken.1
      rw [checkZoneNumber, if_pos (.inr ⟨rfl, other⟩)] at number
      cases number
    have counts (k : Nat) (colors : List RGBColor) (gives : request.zoneColors[k]? = some colors) :
        (askSizes resizeZone 0 request.zoneColors c).countAt k = some colors.length := by
      have count := countAt_askSizes behaves taken.2.2 gives
      rwa [Nat.zero_add] at count
    rw [StaysInWindows, endsWith_iff (leaves_storing stored),
      storeZones_framed (askSizes_induction sets 0 _ windowed) length counts]
    exact ⟨fun fits _ => fits, fun fits => fits taken⟩
  · apply iff_of_true
    · have failed : (ZoneWrite.all request).perform resizeZone c = (.error e, t) := by
        rw [ZoneWrite.perform, setZones, unforced]
        exact bind_error run
      exact endsWith_of_error counts failed
    · exact fun taken => absurd taken refused

end

/-- A zone method that does not fail stores inside the vectors and in its own windows, exactly when what it
stores behind a window is there already. -/
theorem zone_write_frame {resizeZone : Nat → UInt32 → RGBController → RGBController}
    (behaves : AppliesOrIgnores resizeZone) (sets : SetsUpColors resizeZone) {c : RGBController}
    (windowed : c.Windowed) (write : ZoneWrite) (unforced : write.Unforced) :
    StaysInWindows resizeZone write c ↔ StoresFit resizeZone c write := by
  cases write with
  | color zoneIdx value => exact colorZone_stays windowed zoneIdx value
  | one request => exact setZone_stays sets windowed unforced
  | all request => exact setZones_stays behaves sets windowed unforced

/-- An effects-only zone of two LEDs with one slot, and a lamp behind it. -/
def stripAndLamp : RGBController := setupColors
  { RGBController.new 0 with
    leds := [⟨[], 0⟩, ⟨[], 1⟩]
    zones := [{ Zone.new with ledsCount := 2, flags := 1 }, { Zone.new with ledsCount := 1 }] }

def zoneRequest (zoneIdx : UInt32) (colors : List RGBColor) : ZoneRequest :=
  { force := false, colors, deviceIdx := 0, zoneIdx }

def sameSize (_ : Nat) (_ : UInt32) (c : RGBController) : RGBController := c

theorem sameSize_ignores : AppliesOrIgnores sameSize := fun _ _ _ => .inl rfl

theorem sameSize_setsUp : SetsUpColors sameSize := fun _ _ _ windowed => windowed

theorem stripAndLamp_windowed : stripAndLamp.Windowed := windowed_setupColors _

theorem zone_write_frame_lamp :
    StaysInWindows sameSize (.one (zoneRequest 1 [7])) stripAndLamp := by
  apply (zone_write_frame sameSize_ignores sameSize_setsUp stripAndLamp_windowed
    (.one (zoneRequest 1 [7])) rfl).mpr
  intro taken z found
  cases found
  refine ⟨.inr (by decide), ?_, ?_⟩
  · intro p beyond inside
    exact absurd (beyond.trans_lt inside) (by decide)
  · intro slot _
    rfl

/-- The second color of the strip is stored into the slot of the lamp. -/
theorem zone_write_frame_strip : stripAndLamp.Windowed ∧
    ¬ StaysInWindows sameSize (.one (zoneRequest 0 [1, 2])) stripAndLamp := by
  refine ⟨stripAndLamp_windowed, ?_⟩
  intro stays
  have fits := (setZone_stays sameSize_setsUp stripAndLamp_windowed rfl).mp stays
  have overhang := (fits ⟨_, rfl, .inl rfl⟩ _ rfl).2.1 1 (by decide) (by decide)
  exact absurd overhang (by decide)

end JsonRpc
end SyncRGB
