import SyncRGB.Controller.DescriptionLayout
import SyncRGB.Profile.ProfileFile

/-! Loading a profile file of any content: when the load ends without a read of bytes that did not
come from the record it decodes. -/
namespace SyncRGB
open ByteCodec Reader
namespace ProfileManager

/-- The bytes that are read for the record at an offset. -/
def recordBytes (file : Bytes) (offset : UInt32) : Bytes :=
  (file.drop offset.toNat).take (field32 file offset.toNat).toNat

/-- From an offset on the file holds records, each with a whole size field and the fields of a
description inside of the bytes it has; the sizes lead to the end, or to a record that is cut off behind
its last field. -/
inductive RecordsFit (version : Nat) (file : Bytes) : UInt32 → Prop
  | ended {offset : UInt32} : file.length ≤ offset.toNat → RecordsFit version file offset
  | cut {offset : UInt32} :
      offset.toNat + 4 ≤ file.length →
      (Layouts.description version).fits (recordBytes file offset) 0 = true →
      file.length < offset.toNat + (field32 file offset.toNat).toNat →
      RecordsFit version file offset
  | next {offset : UInt32} :
      offset.toNat + 4 ≤ file.length →
      (Layouts.description version).fits (recordBytes file offset) 0 = true →
      offset.toNat + (field32 file offset.toNat).toNat ≤ file.length →
      RecordsFit version file (offset + field32 file offset.toNat) →
      RecordsFit version file offset

theorem readRecord_isSome_iff (type : Int32) (version : Nat) (data : Bytes) :
    (readRecord type version data).isSome ↔ (Layouts.description version).fits data 0 = true := by
  rw [readRecord, Option.isSome_map]
  exact (follows_description version _).isSome_iff data 0

variable {type : Int32} {version : Nat} {file : Bytes}

theorem exists_readRecord {data : Bytes} (fits : (Layouts.description version).fits data 0 = true) :
    ∃ c, readRecord type version data = some c := by
  rw [← Option.isSome_iff_exists, readRecord_isSome_iff]
  exact fits

theorem Loaded.cons_eq_done {c : RGBController} {l : Loaded} {cs : List RGBController}
    (done : l.cons c = .done cs) : ∃ more, l = .done more := by
  cases l with
  | done more => exact ⟨more, rfl⟩
  | badRead => cases done
  | running => cases done

/-- A derivation is a bound for the turns. -/
theorem RecordsFit.loads {offset : UInt32} (fit : RecordsFit version file offset) (old : Bytes)
    (sized : old.length = 4) : ∃ turns cs,
    loadRecords type version turns (.placed file offset.toNat) old offset = .done cs := by
  induction fit generalizing old with
  | ended ended => exact ⟨1, [], loadRecords_ended (loadTurn_end ended)⟩
  | cut room fits cut =>
      obtain ⟨c, read⟩ := @exists_readRecord type version _ fits
      obtain ⟨s, old', offset', failed, turn⟩ := loadTurn_cut sized rfl room cut read
      refine ⟨2, [c], ?_⟩
      rw [loadRecords_next turn, loadRecords_ended (loadTurn_of_fail failed)]
      rfl
  | @next offset room fits whole _ ih =>
      obtain ⟨c, read⟩ := @exists_readRecord type version _ fits
      have field : ((file.drop offset.toNat).take 4).length = 4 := by
        rw [List.length_take, List.length_drop]
        omega
      obtain ⟨turns, cs, done⟩ := ih _ field
      refine ⟨turns + 1, c :: cs, ?_⟩
      rw [loadRecords_next (loadTurn_whole sized rfl room whole read), done]
      rfl

/-- A load that ends well has found fitting records. -/
theorem recordsFit_of_loads {turns : Nat} {offset : UInt32} {old : Bytes} {cs : List RGBController}
    (sized : old.length = 4)
    (done : loadRecords type version turns (.placed file offset.toNat) old offset = .done cs) :
    RecordsFit version file offset := by
  induction turns generalizing offset old cs with
  | zero => cases done
  | succ turns ih =>
      by_cases ended : file.length ≤ offset.toNat
      · exact .ended ended
      by_cases room : offset.toNat + 4 ≤ file.length
      · cases read : readRecord type version (recordBytes file offset) with
        | none =>
            rw [loadRecords_badRead (loadTurn_undecoded sized rfl room read)] at done
            cases done
        | some c =>
            have fits := (readRecord_isSome_iff type version _).mp (by rw [read]; rfl)
            by_cases whole : offset.toNat + (field32 file offset.toNat).toNat ≤ file.length
            · rw [loadRecords_next (loadTurn_whole sized rfl room whole read)] at done
              obtain ⟨more, rest⟩ := Loaded.cons_eq_done done
              refine .next room fits whole (ih ?_ rest)
              rw [List.length_take, List.length_drop]
              omega
            · exact .cut room fits (by omega)
      · rw [loadRecords_badRead (loadTurn_short (by omega) (by omega))] at done
        cases done

theorem loadRecords_done_iff (offset : UInt32) (size : UInt32) :
    (∃ turns cs, loadRecords type version turns (.placed file offset.toNat) (ByteCodec.u32 size) offset =
        .done cs) ↔ RecordsFit version file offset :=
  ⟨fun ⟨_, _, done⟩ => recordsFit_of_loads (u32_length size) done,
    fun fit => fit.loads _ (u32_length size)⟩

/-- Loading ends, and every record is decoded from its own bytes, exactly when a file with a valid header
and version holds fitting records from offset 20 on. -/
theorem loadProfileToList_done_iff (type : Int32) (size : UInt32) (file : Bytes) :
    (∃ turns cs, loadProfileToList type size turns (some file) = .done cs) ↔
      (Headed file → RecordsFit (fileVersion file) file 20) := by
  by_cases headed : Headed file
  · simp only [loadProfileToList_headed headed]
    rw [imp_iff_right headed]
    exact loadRecords_done_iff 20 size
  · exact iff_of_true ⟨1, [], loadProfileToList_unheaded headed 0⟩ fun h => absurd h headed

def zeroSized : Bytes := profileHeader ++ le 4 profileVersion ++ le 4 0

/-- The record of size 0 is decoded all the same. -/
theorem zeroSized_bad : ¬ ∃ turns cs, loadProfileToList 0 0 turns (some zeroSized) = .done cs := by
  have headed : Headed zeroSized := by decide
  have version : fileVersion zeroSized = 5 := by decide
  simp only [loadProfileToList_headed headed, version]
  intro done
  have fit : RecordsFit 5 zeroSized 20 := (loadRecords_done_iff 20 0).mp done
  have empty : (Layouts.description 5).fits (recordBytes zeroSized 20) 0 = false := by decide
  cases fit with
  | ended ended => exact absurd ended (by decide)
  | cut _ fits _ | next _ fits _ _ => exact absurd fits (Bool.eq_false_iff.mp empty)

end ProfileManager
end SyncRGB
