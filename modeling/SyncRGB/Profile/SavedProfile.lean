import SyncRGB.Controller.Transmitted
import SyncRGB.Profile.ProfileFile

/-! Saving the controllers and loading the file back. Every record carries its own length, so the
loaded list is that of the records; which controllers got a record is up to the save. -/
namespace SyncRGB
open ByteCodec Reader RGBController

/-! ### The description at version 5 -/

theorem Zone.transmitted_five (z : Zone) : z.transmitted 5 = z.unplaced := by
  simp [Zone.transmitted, Zone.unplaced]

namespace RGBController

theorem transmitted_five (c fresh : RGBController) : c.transmitted 5 fresh = c.unplaced := by
  have modes : c.modes.map (Mode.transmitted 5) = c.modes := List.map_id _
  have zones : c.zones.map (Zone.transmitted 5) = c.zones.map Zone.unplaced :=
    List.map_congr_left fun z _ => z.transmitted_five
  simp [transmitted, unplaced, modes, zones]

/-- One color for every LED of the zones, as `SetupColors` leaves it. -/
def Colored (c : RGBController) : Prop := c.colors.length = (totalLedCount c.zones).toNat

instance (c : RGBController) : Decidable c.Colored := inferInstanceAs (Decidable (_ = _))

theorem totalLedCount_unplaced (zs : List Zone) :
    totalLedCount (zs.map Zone.unplaced) = totalLedCount zs := by
  rw [totalLedCount, List.foldl_map]
  rfl

theorem setupColors_eq_iff (c : RGBController) :
    c.unplaced.setupColors.unplaced = c.unplaced ↔ c.Colored := by
  have total : totalLedCount c.unplaced.zones = totalLedCount c.zones :=
    totalLedCount_unplaced c.zones
  have zones : c.unplaced.setupColors.unplaced.zones = c.unplaced.zones := by
    show (setupZones _ _ 0 (c.zones.map Zone.unplaced)).map Zone.unplaced = _
    rw [unplaced_setupZones]
    exact map_unplaced (fun _ => rfl) c.zones
  have colors : c.unplaced.setupColors.unplaced.colors =
      resizeColors c.colors (totalLedCount c.zones).toNat := by
    rw [← total]
    rfl
  constructor
  · intro same
    have length := congrArg (fun c => c.colors.length) same
    simp only [colors, resizeColors_length] at length
    exact length.symm
  · intro colored
    have kept : resizeColors c.colors (totalLedCount c.zones).toNat = c.colors := by
      rw [← colored]
      exact resizeColors_self c.colors
    rw [kept] at colors
    exact congrArg₂ (fun zones colors => { c.unplaced with zones, colors }) zones colors

def reloaded (type : Int32) (c : RGBController) : RGBController :=
  (c.sent 5 (new type)).setupColors

theorem reloaded_unplaced_iff {type : Int32} {c : RGBController} (limits : c.WithinLimits 5) :
    (c.reloaded type).unplaced = c.unplaced ↔ c.Colored := by
  rw [reloaded, limits.sent_eq, transmitted_five, setupColors_eq_iff]

end RGBController

/-! ### Records -/

namespace ProfileManager

theorem field32_append {pre data post : Bytes} (room : 4 ≤ data.length) :
    field32 (pre ++ (data ++ post)) pre.length = field32 data 0 := by
  rw [field32, List.drop_left, List.take_append_of_le_length room]
  rfl

theorem toNat_ofNat {n : Nat} (small : n < 2 ^ 32) : (UInt32.ofNat n).toNat = n :=
  UInt32.toNat_ofNat_of_lt' small

/-- Bytes that begin with their own number and decode to a controller. -/
structure Record (type : Int32) (c : RGBController) (data : Bytes) : Prop where
  room : 4 ≤ data.length
  size : (field32 data 0).toNat = data.length
  read : readRecord type profileVersion data = some c

theorem writeController_record {c : RGBController} (limits : c.WithinLimits 5)
    (memory : Nat → UInt8) (type : Int32) :
    ∃ data, writeController memory c = some data ∧ data.length = c.sizeSum 5 ∧
      Record type (c.reloaded type) data := by
  obtain ⟨data, p, encoded, decoded⟩ := limits.read memory type
  obtain ⟨-, length⟩ := getDeviceDescription_eq limits.textsFit encoded
  obtain ⟨room, front⟩ := getDeviceDescription_size limits.textsFit encoded
  have counted : c.dataSize 5 = c.sizeSum 5 := Nat.mod_eq_of_lt limits.size
  have size : (field32 data 0).toNat = data.length := by
    rw [front, length, toNat_ofNat (dataSize_lt 5 c)]
  have read : readRecord type profileVersion data = some (c.reloaded type) :=
    congrArg (Option.map Prod.fst) decoded
  refine ⟨data, ?_, length.trans counted, ⟨room, size, read⟩⟩
  have whole : data.take (field32 data 0).toNat = data := by rw [size, List.take_length]
  show Option.bind (c.getDeviceDescription memory 5) _ = _
  rw [encoded, Option.bind_some, if_pos size.le, whole]

def keepsSizes (c : RGBController) : Bool := !(c.remote || c.virtual)

/-- The controllers that get a record: with `sizes` those in front of the first remote or virtual one. -/
def written (sizes : Bool) (cs : List RGBController) : List RGBController :=
  if sizes then cs.takeWhile keepsSizes else cs

theorem writeControllers_eq {cs : List RGBController} (limits : ∀ c ∈ cs, c.WithinLimits 5)
    (memory : Nat → Nat → UInt8) (sizes : Bool) (type : Int32) (i : Nat) :
    ∃ records, writeControllers memory sizes i cs = some records.flatten ∧
      records.flatten.length ≤ (cs.map (sizeSum 5)).sum ∧
      List.Forall₂ (Record type) ((written sizes cs).map (reloaded type)) records := by
  induction cs generalizing i with
  | nil =>
      refine ⟨[], rfl, Nat.zero_le _, ?_⟩
      cases sizes <;> exact .nil
  | cons c cs ih =>
      by_cases stops : (sizes && (c.remote || c.virtual)) = true
      · obtain ⟨rfl, apart⟩ := Bool.and_eq_true_iff.mp stops
        refine ⟨[], if_pos stops, Nat.zero_le _, ?_⟩
        have kept : keepsSizes c = false := by rw [keepsSizes, apart, Bool.not_true]
        simp only [written, if_true, List.takeWhile_cons, kept, Bool.false_eq_true, if_false,
          List.map_nil]
        exact .nil
      · obtain ⟨data, encoded, length, record⟩ :=
          writeController_record (limits c List.mem_cons_self) (memory i) type
        obtain ⟨records, rest, size, each⟩ :=
          ih (fun c hc => limits c (List.mem_cons_of_mem _ hc)) (i + 1)
        have kept : written sizes (c :: cs) = c :: written sizes cs := by
          cases sizes with
          | false => rfl
          | true =>
              have keeps : keepsSizes c = true := by simpa [keepsSizes] using stops
              simp only [written, if_true, List.takeWhile_cons, keeps]
        refine ⟨data :: records, ?_, ?_, ?_⟩
        · rw [writeControllers, if_neg stops, encoded, rest]
          rfl
        · rw [List.flatten_cons, List.length_append, List.map_cons, List.sum_cons, length]
          omega
        · rw [kept]
          exact .cons record each

/-- The loop over records that stand one behind the other yields their controllers. -/
theorem loadRecords_records {type : Int32} {cs : List RGBController} {records : List Bytes}
    (each : List.Forall₂ (Record type) cs records) (turns : Nat) (pre old : Bytes)
    (sized : old.length = 4) (small : (pre ++ records.flatten).length < 2 ^ 32) :
    loadRecords type profileVersion turns (.placed (pre ++ records.flatten) pre.length) old
        (UInt32.ofNat pre.length) =
      if records.length < turns then .done cs else .running := by
  induction each generalizing turns pre old with
  | nil =>
      cases turns with
      | zero => rfl
      | succ turns =>
          rw [loadRecords_ended (loadTurn_end (by simp))]
          exact (if_pos (Nat.succ_pos turns)).symm
  | @cons c data cs records record each ih =>
      cases turns with
      | zero => rfl
      | succ turns =>
          rw [List.flatten_cons] at small ⊢
          have room := record.room
          have announced : field32 (pre ++ (data ++ records.flatten)) pre.length = field32 data 0 :=
            field32_append room
          have whole : (pre ++ (data ++ records.flatten)).length =
              pre.length + data.length + records.flatten.length := by
            simp only [List.length_append, Nat.add_assoc]
          have here : (UInt32.ofNat pre.length).toNat = pre.length := toNat_ofNat (by omega)
          have bytes : ((pre ++ (data ++ records.flatten)).drop pre.length).take
              (field32 (pre ++ (data ++ records.flatten)) pre.length).toNat = data := by
            rw [announced, record.size, List.drop_left, List.take_left]
          have next : UInt32.ofNat pre.length + field32 (pre ++ (data ++ records.flatten)) pre.length =
              UInt32.ofNat (pre ++ data).length := by
            rw [List.length_append, UInt32.ofNat_add, announced, ← record.size, UInt32.ofNat_toNat]
          have there : (UInt32.ofNat (pre ++ data).length).toNat = (pre ++ data).length := by
            apply toNat_ofNat
            rw [List.length_append]
            omega
          have field : ((pre ++ (data ++ records.flatten)).drop pre.length).take 4 = data.take 4 := by
            rw [List.drop_left, List.take_append_of_le_length room]
          have sizeRoom : pre.length + 4 ≤ (pre ++ (data ++ records.flatten)).length := by omega
          have dataRoom : pre.length + (field32 (pre ++ (data ++ records.flatten)) pre.length).toNat ≤
              (pre ++ (data ++ records.flatten)).length := by
            rw [announced, record.size]
            omega
          have turn := loadTurn_whole sized here sizeRoom dataRoom (by rw [bytes]; exact record.read)
          rw [next, there, field, ← List.append_assoc] at turn
          rw [← List.append_assoc] at small ⊢
          have rest := ih turns (pre ++ data) (data.take 4)
            (List.length_take_of_le room) small
          rw [loadRecords_next turn, rest]
          simp only [List.length_cons, Nat.succ_lt_succ_iff]
          split_ifs <;> rfl

/-! ### The file as a whole -/

/-- The controllers a save is meant to contain: the sizes of local controllers only. -/
def meant (sizes : Bool) (cs : List RGBController) : List RGBController :=
  if sizes then cs.filter keepsSizes else cs

/-- The file is written, and loading it yields the meant controllers in order, up to the window fields,
which are never transmitted. -/
def Restores (memory : Nat → Nat → UInt8) (type : Int32) (size : UInt32) (sizes : Bool)
    (cs : List RGBController) : Prop :=
  ∃ file turns loaded, profileFile memory sizes cs = some file ∧
    loadProfileToList type size turns (some file) = .done loaded ∧
    loaded.map unplaced = (meant sizes cs).map unplaced

/-- Controllers within the length limits, in a file below 2^32 bytes. -/
structure Savable (cs : List RGBController) : Prop where
  limits : ∀ c ∈ cs, c.WithinLimits 5
  file : 20 + (cs.map (sizeSum 5)).sum < 2 ^ 32

/-- No controller that gets its sizes saved stands behind one that does not. -/
def LocalsFirst (cs : List RGBController) : Prop :=
  cs.Pairwise fun a b => keepsSizes a = false → keepsSizes b = false

/-- Whatever stands behind the header that a save writes, its version is the current one. -/
theorem headed_append (records : Bytes) :
    Headed (profileHeader ++ le 4 profileVersion ++ records) ∧
      fileVersion (profileHeader ++ le 4 profileVersion ++ records) = profileVersion := by
  have header : profileHeader.length = 16 := by decide
  have front : (profileHeader ++ le 4 profileVersion).length = 20 := by decide
  have version : fileVersion (profileHeader ++ le 4 profileVersion ++ records) = profileVersion := by
    have field : ((profileHeader ++ le 4 profileVersion ++ records).drop 16).take 4 =
        le 4 profileVersion := by
      rw [List.append_assoc, ← header, List.drop_left]
      exact List.take_left' (le_length 4 _)
    rw [fileVersion, field]
    decide
  refine ⟨⟨?_, ?_, ?_⟩, version⟩
  · rw [List.length_append, front]
    exact Nat.le_add_right 20 _
  · rw [List.append_assoc]
    exact List.take_left' header
  · exact version.le

/-- A saved file is loaded as the controllers that got a record, within as many turns and one more. -/
theorem loadProfileToList_profileFile {cs : List RGBController} (savable : Savable cs)
    (memory : Nat → Nat → UInt8) (type : Int32) (size : UInt32) (sizes : Bool) :
    ∃ file, profileFile memory sizes cs = some file ∧ ∀ turns,
      loadProfileToList type size turns (some file) =
        if (written sizes cs).length < turns then .done ((written sizes cs).map (reloaded type))
        else .running := by
  obtain ⟨records, encoded, length, each⟩ := writeControllers_eq savable.limits memory sizes type 0
  have total := savable.file
  have count : (written sizes cs).length = records.length := by
    rw [← each.length_eq, List.length_map]
  refine ⟨profileHeader ++ le 4 profileVersion ++ records.flatten, ?_, fun turns => ?_⟩
  · rw [profileFile, encoded]
    rfl
  · have front : (profileHeader ++ le 4 profileVersion).length = 20 := by decide
    obtain ⟨headed, version⟩ := headed_append records.flatten
    rw [loadProfileToList_headed headed, version, count]
    have small : (profileHeader ++ le 4 profileVersion ++ records.flatten).length < 2 ^ 32 := by
      rw [List.length_append, front]
      omega
    exact loadRecords_records each turns _ _ (ByteCodec.u32_length size) small

/-- Both filters pass the same controllers just when the local ones come first. -/
theorem takeWhile_eq_filter_iff (cs : List RGBController) :
    cs.takeWhile keepsSizes = cs.filter keepsSizes ↔
      LocalsFirst cs := by
  induction cs with
  | nil => exact iff_of_true rfl .nil
  | cons c cs ih =>
      rw [LocalsFirst, List.pairwise_cons]
      cases kept : keepsSizes c with
      | true =>
          simp only [List.takeWhile_cons, List.filter_cons, kept, if_true, List.cons.injEq, true_and,
            Bool.true_eq_false, false_implies, implies_true]
          exact ih
      | false =>
          simp only [List.takeWhile_cons, List.filter_cons, kept, Bool.false_eq_true, if_false,
            true_implies]
          rw [eq_comm, List.filter_eq_nil_iff]
          simp only [Bool.not_eq_true]
          refine ⟨fun all => ⟨all, ?_⟩, fun h => h.1⟩
          exact List.pairwise_iff_getElem.mpr fun i j _ hj _ _ => all _ (List.getElem_mem hj)

theorem written_initial (sizes : Bool) (cs : List RGBController) :
    written sizes cs <+: meant sizes cs := by
  cases sizes with
  | false => exact List.prefix_rfl
  | true =>
      have all : (cs.takeWhile keepsSizes).filter keepsSizes = cs.takeWhile keepsSizes :=
        List.filter_eq_self.mpr fun c => List.mem_takeWhile_imp
      have inside := (List.takeWhile_prefix (l := cs) keepsSizes).filter keepsSizes
      rwa [all] at inside

theorem written_subset (sizes : Bool) (cs : List RGBController) : written sizes cs ⊆ cs := by
  cases sizes with
  | false => exact List.Subset.refl cs
  | true => exact (List.takeWhile_prefix _).subset

theorem restores_one_iff {cs : List RGBController} (savable : Savable cs)
    (memory : Nat → Nat → UInt8) (type : Int32) (size : UInt32) (sizes : Bool) :
    Restores memory type size sizes cs ↔
      written sizes cs = meant sizes cs ∧ ∀ c ∈ written sizes cs, c.Colored := by
  obtain ⟨file, saved, loads⟩ := loadProfileToList_profileFile savable memory type size sizes
  have limits (c : RGBController) (hc : c ∈ written sizes cs) : c.WithinLimits 5 :=
    savable.limits c (written_subset sizes cs hc)
  have back : Restores memory type size sizes cs ↔
      (written sizes cs).map (fun c => (c.reloaded type).unplaced) = (meant sizes cs).map unplaced := by
    constructor
    · rintro ⟨file', turns, loaded, saved', done, same⟩
      obtain rfl := Option.some.inj (saved.symm.trans saved')
      rw [loads] at done
      split_ifs at done
      obtain rfl := Loaded.done.inj done
      rwa [List.map_map] at same
    · intro same
      have done := loads ((written sizes cs).length + 1)
      rw [if_pos (Nat.lt_succ_self _)] at done
      refine ⟨file, _, _, saved, done, ?_⟩
      rw [List.map_map]
      exact same
  rw [back]
  constructor
  · intro same
    have length := congrArg List.length same
    rw [List.length_map, List.length_map] at length
    have equal := (written_initial sizes cs).eq_of_length length
    rw [← equal] at same
    refine ⟨equal, fun c hc => ?_⟩
    exact (reloaded_unplaced_iff (limits c hc)).mp (List.map_inj_left.mp same c hc)
  · rintro ⟨equal, colored⟩
    rw [← equal]
    exact List.map_congr_left fun c hc => (reloaded_unplaced_iff (limits c hc)).mpr (colored c hc)

/-- Saving and loading restores the controllers of both kinds of files exactly when every controller
has a color for each LED and no local controller stands behind a remote or virtual one. -/
theorem restores_iff {cs : List RGBController} (savable : Savable cs)
    (memory : Nat → Nat → UInt8) (type : Int32) (size : UInt32) :
    (∀ sizes, Restores memory type size sizes cs) ↔ LocalsFirst cs ∧ ∀ c ∈ cs, c.Colored := by
  rw [Bool.forall_bool, restores_one_iff savable, restores_one_iff savable]
  constructor
  · rintro ⟨⟨-, colored⟩, first, -⟩
    exact ⟨(takeWhile_eq_filter_iff cs).mp first, colored⟩
  · rintro ⟨first, colored⟩
    exact ⟨⟨rfl, colored⟩, (takeWhile_eq_filter_iff cs).mpr first,
      fun c hc => colored c (written_subset true cs hc)⟩

/-- A remote controller in front of a local one. -/
def remoteFirst : List RGBController := [{ new 0 with flags := 2 }, { new 0 with flags := 1 }]

theorem blank_withinLimits (flags : UInt32) : ({ new 0 with flags } : RGBController).WithinLimits 5 where
  plain := by simp [strings, new]
  modes := Nat.zero_le _
  modeColors := fun _ hm => absurd hm List.not_mem_nil
  zones := Nat.zero_le _
  segments := fun _ hz => absurd hz List.not_mem_nil
  matrix := fun _ hz => absurd hz List.not_mem_nil
  leds := Nat.zero_le _
  colors := Nat.zero_le _
  altNames := Nat.zero_le _
  size := by
    show sizeSum 5 { new 0 with flags := 0 } < 2 ^ 32
    decide

theorem remoteFirst_savable : Savable remoteFirst where
  limits := by
    intro c hc
    simp only [remoteFirst, List.mem_cons, List.not_mem_nil, or_false] at hc
    obtain rfl | rfl := hc <;> exact blank_withinLimits _
  file := by decide

/-- The sizes of the local controller are not in the file. -/
theorem remoteFirst_lost : Savable remoteFirst ∧
    ¬ ∀ sizes, Restores (fun _ _ => 0) 0 0 sizes remoteFirst := by
  refine ⟨remoteFirst_savable, fun all => ?_⟩
  have equal := ((restores_one_iff remoteFirst_savable _ _ _ true).mp (all true)).1
  exact absurd (congrArg List.length equal) (by decide)

theorem localFirst_restored : Restores (fun _ _ => 0) 0 0 true remoteFirst.reverse ∧
    Restores (fun _ _ => 0) 0 0 false remoteFirst.reverse := by
  have savable : Savable remoteFirst.reverse :=
    ⟨fun c hc => remoteFirst_savable.limits c (List.mem_reverse.mp hc), by decide⟩
  have ordered : LocalsFirst remoteFirst.reverse := by
    unfold LocalsFirst
    decide
  have all := (restores_iff savable (fun _ _ => 0) 0 0).mpr ⟨ordered, by decide⟩
  exact ⟨all true, all false⟩

end ProfileManager
end SyncRGB
