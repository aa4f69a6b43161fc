import SyncRGB.ByteCodec.InputStream
import SyncRGB.ByteCodec.Bounds
import SyncRGB.Controller.Description

/-! Profile files: a header with a version, then one device description behind the other.
`SaveProfile` writes one from the controllers, `LoadProfileToList` reads one back. -/
namespace SyncRGB
open ByteCodec Reader

namespace RGBController

/-- `CONTROLLER_FLAG_REMOTE`. -/
def remote (c : RGBController) : Bool := c.flags &&& 2 != 0

def virtual (c : RGBController) : Bool := c.flags &&& 4 != 0

end RGBController

namespace ProfileManager

/-- `OPENRGB_PROFILE_HEADER` with its terminator. -/
def profileHeader : Bytes := ("RGBSRV_PROFILE1".toList.map fun ch => UInt8.ofNat ch.toNat) ++ [0]

/-- `OPENRGB_PROFILE_VERSION`. -/
def profileVersion : Nat := 5

/-- The description of a controller, written for as many bytes as its first field says. -/
def writeController (memory : Nat → UInt8) (c : RGBController) : Option Bytes := do
  let data ← c.getDeviceDescription memory profileVersion
  let size := (field32 data 0).toNat
  if size ≤ data.length then some (data.take size) else none

/-- The loop over the controllers. With `sizes` it ends at a remote or virtual one. -/
def writeControllers (memory : Nat → Nat → UInt8) (sizes : Bool) :
    Nat → List RGBController → Option Bytes
  | _, [] => some []
  | i, c :: cs =>
      if sizes && (c.remote || c.virtual) then some []
      else do
        let data ← writeController (memory i) c
        let rest ← writeControllers memory sizes (i + 1) cs
        return data ++ rest

/-- What `ProfileManager::SaveProfile` writes; `none` when it leaves a buffer. The memory of every new
buffer is arbitrary. -/
def profileFile (memory : Nat → Nat → UInt8) (sizes : Bool) (controllers : List RGBController) :
    Option Bytes := do
  let records ← writeControllers memory sizes 0 controllers
  return profileHeader ++ le 4 profileVersion ++ records

/-- How a load ends: with the controllers of the records, with a read of bytes that did not come from
the record, or not within the turns allowed. -/
inductive Loaded where
  | done (controllers : List RGBController)
  | badRead
  | running
  deriving DecidableEq

def Loaded.cons (c : RGBController) : Loaded → Loaded
  | done controllers => done (c :: controllers)
  | badRead => badRead
  | running => running

/-- `read` into a variable or an array that holds `old`. -/
def readOver (old : Bytes) (s : InputStream) : Bytes × InputStream :=
  let (got, s) := s.read old.length
  (got ++ old.drop got.length, s)

/-- `ReadDeviceDescription` on a new dummy controller. Only the bytes that were read for the record
count as its buffer. -/
def readRecord (type : Int32) (version : Nat) (data : Bytes) : Option RGBController :=
  ((readDeviceDescription version (RGBController.new type)).exec data 0).map Prod.fst

inductive Turn where
  | ended
  | badRead
  | next (c : RGBController) (s : InputStream) (controllerSize : Bytes) (controllerOffset : UInt32)

/-- One turn. The size variable keeps its bytes when the file has no more. -/
def loadTurn (type : Int32) (version : Nat) (s : InputStream) (controllerSize : Bytes)
    (controllerOffset : UInt32) : Turn :=
  let (ended, s) := s.peekEof
  if ended then .ended
  else
    let (controllerSize, s) := readOver controllerSize s
    let s := s.seekg controllerOffset.toNat
    let (data, s) := s.read (u32Value controllerSize).toNat
    match readRecord type version data with
    | none => .badRead
    | some c =>
        let controllerOffset := controllerOffset + u32Value controllerSize
        .next c (s.seekg controllerOffset.toNat) controllerSize controllerOffset

/-- The loop of `LoadProfileToList`. -/
def loadRecords (type : Int32) (version : Nat) : Nat → InputStream → Bytes → UInt32 → Loaded
  | 0, _, _, _ => .running
  | turns + 1, s, controllerSize, controllerOffset =>
      match loadTurn type version s controllerSize controllerOffset with
      | .ended => .done []
      | .badRead => .badRead
      | .next c s controllerSize controllerOffset =>
          (loadRecords type version turns s controllerSize controllerOffset).cons c

/-- `ProfileManager::LoadProfileToList` behind the choice of the file name. The size variable and the
type of each new controller start with any value. -/
def loadProfileToList (type : Int32) (size : UInt32) (turns : Nat) (file : Option Bytes) : Loaded :=
  let s := InputStream.ofFile file
  let (profileString, s) := readOver (List.replicate 16 0) s
  let (version, s) := readOver (List.replicate 4 0) s
  let version := if leValue version = 1 then 0 else leValue version
  let s := s.seekg 20
  if profileString = profileHeader ∧ version ≤ profileVersion then
    loadRecords type version turns s (ByteCodec.u32 size) 20
  else .done []

theorem readOver_placed {old file : Bytes} {p : Nat} (room : p + old.length ≤ file.length) :
    readOver old (.placed file p) =
      ((file.drop p).take old.length, .placed file (p + old.length)) := by
  have got : ((file.drop p).take old.length).length = old.length := by
    rw [List.length_take, List.length_drop]
    omega
  refine Prod.ext ?_ (InputStream.read_placed_of_le room)
  show (file.drop p).take old.length ++ old.drop ((file.drop p).take old.length).length = _
  rw [got, List.drop_length, List.append_nil]

/-! ### One turn of the loop -/

theorem readRecord_nil (type : Int32) (version : Nat) : readRecord type version [] = none := rfl

section Turn
variable {type : Int32} {version p : Nat} {file old : Bytes} {offset : UInt32}

theorem loadTurn_of_fail {s : InputStream} (failed : s.fail = true) :
    loadTurn type version s old offset = .ended := by
  simp only [loadTurn, InputStream.peekEof_of_fail failed, if_true]

theorem loadTurn_end (ended : file.length ≤ p) :
    loadTurn type version (.placed file p) old offset = .ended := by
  simp only [loadTurn, InputStream.peekEof_placed, if_pos ended, if_true]

/-- Behind a size field that is cut off nothing is read, and the decoder needs bytes. -/
theorem loadTurn_short (inside : p < file.length) (short : file.length < p + old.length) :
    loadTurn type version (.placed file p) old offset = .badRead := by
  have more : ¬ file.length ≤ p := by omega
  have failed := InputStream.read_placed_of_lt short inside.le
  have stays := InputStream.seekg_of_fail failed offset.toNat
  simp only [loadTurn, InputStream.peekEof_placed, if_neg more, readOver,
    (InputStream.read_of_fail stays _).1, readRecord_nil, Bool.false_eq_true, if_false]

/-- A whole size field, and the record it announces as far as the file goes. -/
theorem loadTurn_record (sized : old.length = 4) (here : offset.toNat = p)
    (room : p + 4 ≤ file.length) :
    loadTurn type version (.placed file p) old offset =
      match readRecord type version ((file.drop p).take (field32 file p).toNat) with
      | none => .badRead
      | some c =>
          .next c (((InputStream.placed file p).read (field32 file p).toNat).2.seekg
              (offset + field32 file p).toNat)
            ((file.drop p).take 4) (offset + field32 file p) := by
  have more : ¬ file.length ≤ p := by omega
  have size : readOver old (.placed file p) =
      ((file.drop p).take old.length, .placed file (p + old.length)) := readOver_placed (by omega)
  rw [sized] at size
  simp only [loadTurn, InputStream.peekEof_placed, if_neg more, size, InputStream.seekg_placed,
    here, Bool.false_eq_true, if_false]
  rfl

theorem loadTurn_undecoded (sized : old.length = 4) (here : offset.toNat = p)
    (room : p + 4 ≤ file.length)
    (bad : readRecord type version ((file.drop p).take (field32 file p).toNat) = none) :
    loadTurn type version (.placed file p) old offset = .badRead := by
  rw [loadTurn_record sized here room, bad]

/-- A record that lies in the file is followed by whatever stands behind it. -/
theorem loadTurn_whole (sized : old.length = 4) (here : offset.toNat = p)
    (room : p + 4 ≤ file.length) (whole : p + (field32 file p).toNat ≤ file.length) {c : RGBController}
    (read : readRecord type version ((file.drop p).take (field32 file p).toNat) = some c) :
    loadTurn type version (.placed file p) old offset =
      .next c (.placed file (offset + field32 file p).toNat) ((file.drop p).take 4)
        (offset + field32 file p) := by
  rw [loadTurn_record sized here room, read, InputStream.read_placed_of_le whole]
  rfl

theorem loadTurn_cut (sized : old.length = 4) (here : offset.toNat = p)
    (room : p + 4 ≤ file.length) (cut : file.length < p + (field32 file p).toNat) {c : RGBController}
    (read : readRecord type version ((file.drop p).take (field32 file p).toNat) = some c) :
    ∃ s old' offset', s.fail = true ∧
      loadTurn type version (.placed file p) old offset = .next c s old' offset' := by
  have failed := InputStream.read_placed_of_lt cut (by omega)
  rw [loadTurn_record sized here room, read]
  exact ⟨_, _, _, InputStream.seekg_of_fail failed _, rfl⟩

end Turn

section Turns
variable {type : Int32} {version turns : Nat} {s : InputStream} {size : Bytes} {offset : UInt32}

theorem loadRecords_ended (turn : loadTurn type version s size offset = .ended) :
    loadRecords type version (turns + 1) s size offset = .done [] := by
  rw [loadRecords, turn]

theorem loadRecords_badRead (turn : loadTurn type version s size offset = .badRead) :
    loadRecords type version (turns + 1) s size offset = .badRead := by
  rw [loadRecords, turn]

theorem loadRecords_next {c : RGBController} {s' : InputStream} {size' : Bytes} {offset' : UInt32}
    (turn : loadTurn type version s size offset = .next c s' size' offset') :
    loadRecords type version (turns + 1) s size offset =
      (loadRecords type version turns s' size' offset').cons c := by
  rw [loadRecords, turn]

end Turns

/-! ### The header -/

/-- The version of a file of at least 20 bytes; the first profile version used protocol 0. -/
def fileVersion (file : Bytes) : Nat :=
  let version := leValue ((file.drop 16).take 4)
  if version = 1 then 0 else version

def Headed (file : Bytes) : Prop :=
  20 ≤ file.length ∧ file.take 16 = profileHeader ∧ fileVersion file ≤ profileVersion

instance (file : Bytes) : Decidable (Headed file) := inferInstanceAs (Decidable (_ ∧ _ ∧ _))

section File
variable {type : Int32} {size : UInt32} {file : Bytes}

/-- A long enough file is read from offset 20 on, if its header is valid. -/
theorem loadProfileToList_of_length (long : 20 ≤ file.length) (turns : Nat) :
    loadProfileToList type size turns (some file) =
      if file.take 16 = profileHeader ∧ fileVersion file ≤ profileVersion then
        loadRecords type (fileVersion file) turns (.placed file 20) (ByteCodec.u32 size) 20
      else .done [] := by
  have first : readOver (List.replicate 16 0) (.placed file 0) = (file.take 16, .placed file 16) :=
    readOver_placed (by rw [List.length_replicate]; omega)
  have second : readOver (List.replicate 4 0) (.placed file 16) =
      ((file.drop 16).take 4, .placed file 20) :=
    readOver_placed (by rw [List.length_replicate]; omega)
  simp only [loadProfileToList, InputStream.ofFile_some, first, second, InputStream.seekg_placed]
  rfl

/-- The stream of a shorter file has failed before the loop. -/
theorem loadProfileToList_of_short (short : file.length < 20) (turns : Nat) :
    loadProfileToList type size (turns + 1) (some file) = .done [] := by
  have failed : (readOver (List.replicate 4 0)
      (readOver (List.replicate 16 0) (.placed file 0)).2).2.fail = true := by
    by_cases header : 16 ≤ file.length
    · have first : (readOver (List.replicate 16 0) (.placed file 0)).2 = .placed file 16 :=
        congrArg Prod.snd (readOver_placed (by rw [List.length_replicate]; omega))
      rw [first]
      exact InputStream.read_placed_of_lt (by rw [List.length_replicate]; omega) header
    · refine (InputStream.read_of_fail ?_ _).2
      exact InputStream.read_placed_of_lt (by rw [List.length_replicate]; omega) (Nat.zero_le _)
  have stays := InputStream.seekg_of_fail failed 20
  simp only [loadProfileToList, InputStream.ofFile_some]
  exact ite_eq_right_iff.mpr fun _ => loadRecords_ended (loadTurn_of_fail stays)

theorem loadProfileToList_headed (headed : Headed file) (turns : Nat) :
    loadProfileToList type size turns (some file) =
      loadRecords type (fileVersion file) turns (.placed file 20) (ByteCodec.u32 size) 20 := by
  rw [loadProfileToList_of_length headed.1, if_pos headed.2]

theorem loadProfileToList_unheaded (headed : ¬ Headed file) (turns : Nat) :
    loadProfileToList type size (turns + 1) (some file) = .done [] := by
  by_cases long : 20 ≤ file.length
  · rw [loadProfileToList_of_length long, if_neg fun valid => headed ⟨long, valid⟩]
  · exact loadProfileToList_of_short (by omega) turns

end File

end ProfileManager
end SyncRGB
