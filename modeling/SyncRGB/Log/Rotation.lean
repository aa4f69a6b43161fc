import Mathlib.Data.List.Lex
import Mathlib.Data.List.Sort
import SyncRGB.JsonRpc.Json

/-! How `rotate_logs` makes room for the log file that is about to be created. The order of the paths and the engine
for regular expressions are the platform's. -/
namespace SyncRGB
open ByteCodec

structure DirectoryEntry (Path : Type) where
  path : Path
  filename : Bytes
  isRegularFile : Bool

/-- What the iterator finds in a folder; a vector of the paths has a `size_t` for its size. -/
structure Folder (Path : Type) where
  entries : List (DirectoryEntry Path)
  short : entries.length < 2 ^ 64

/-- `std::regex` of a text, unless it throws, and `std::regex_match`. -/
abbrev RegexEngine := Bytes → Option (Bytes → Bool)

namespace LogManager

def timestampRegex : Bytes := ascii "[0-9]\x7b8\x7d_[0-9]\x7b6\x7d"

/-- The symbols that the template escapes. -/
def escapedSymbols : Bytes := ascii ".^$()\x7b\x7d+[]*-\\"

/-- The regular expression for a template, with one for the timestamp at each `#`. -/
def regexTempl (timestampRegex templ : Bytes) : Bytes :=
  ascii "^" ++
    (templ.flatMap fun c =>
      if c ∈ escapedSymbols then ascii "\\" ++ [c] else if c = 35 then timestampRegex else [c]) ++
    ascii "$"

variable {Path : Type} [LinearOrder Path] (engine : RegexEngine)

/-- The regular files that match. -/
def matchingPaths (regexMatch : Bytes → Bool) (folder : Folder Path) : List Path :=
  (folder.entries.filter fun e => e.isRegularFile && regexMatch e.filename).map DirectoryEntry.path

/-- How many paths are removed, of so many and with such a limit. -/
def removeCount (size : UInt64) (maxCount : Int32) : UInt64 :=
  let removeCount := size - maxCount.toInt64.toUInt64 + 1
  if size < removeCount then size else removeCount

/-- The paths that `LogManager::rotate_logs` removes, in turn; `none` when the engine throws. -/
def rotateLogs (folder : Folder Path) (templ : Bytes) (maxCount : Int32) (timestampRegex : Bytes) :
    Option (List Path) :=
  if maxCount < 1 then some []
  else do
    let regexMatch ← engine (regexTempl timestampRegex templ)
    let validPaths := (matchingPaths regexMatch folder).insertionSort (· ≤ ·)
    return validPaths.take (removeCount (UInt64.ofNat validPaths.length) maxCount).toNat

/-- As many of the paths are removed as makes room for one more below the limit, and none of those that stay comes
before one of them. -/
def MakesRoom (maxCount : Nat) (paths removed : List Path) : Prop :=
  removed.length = paths.length + 1 - maxCount ∧
    ∃ kept, (removed ++ kept).Perm paths ∧ ∀ a ∈ removed, ∀ b ∈ kept, a ≤ b

theorem toNat_maxCount {maxCount : Int32} (positive : 1 ≤ maxCount) :
    maxCount.toInt64.toUInt64.toNat = maxCount.toNatClampNeg ∧ 1 ≤ maxCount.toNatClampNeg := by
  have one : (1 : Int) ≤ maxCount.toInt := Int32.le_iff_toInt_le.mp positive
  constructor
  · rw [Int64.toNat_toUInt64_of_le, Int32.toNatClampNeg_toInt64]
    rw [Int64.le_iff_toInt_le, Int32.toInt_toInt64]
    exact Int.le_of_lt one
  · rw [← Int32.toNat_toInt]
    omega

/-- The difference wraps where there are fewer files than one less than the limit, and the clamp makes it all. -/
theorem removeCount_toNat (size : UInt64) {maxCount : Int32} (positive : 1 ≤ maxCount) :
    (removeCount size maxCount).toNat =
      if maxCount.toNatClampNeg ≤ size.toNat + 1 then size.toNat + 1 - maxCount.toNatClampNeg else size.toNat := by
  obtain ⟨same, one⟩ := toNat_maxCount positive
  have small : maxCount.toNatClampNeg < 2 ^ 64 := same ▸ UInt64.toNat_lt _
  have bound := size.toNat_lt
  have difference : (size - maxCount.toInt64.toUInt64 + 1).toNat =
      (2 ^ 64 - maxCount.toNatClampNeg + size.toNat + 1) % 2 ^ 64 := by
    rw [UInt64.toNat_add, UInt64.toNat_sub, same, UInt64.toNat_one]
    omega
  rw [removeCount]
  by_cases enough : maxCount.toNatClampNeg ≤ size.toNat + 1
  · rw [if_pos enough, if_neg, difference]
    · omega
    · rw [UInt64.lt_iff_toNat_lt, difference]
      omega
  · rw [if_neg enough, if_pos]
    rw [UInt64.lt_iff_toNat_lt, difference]
    omega

/-- The first paths in order are the right ones if their number is. -/
theorem makesRoom_take_iff {maxCount k : Nat} {paths : List Path} (within : k ≤ paths.length) :
    MakesRoom maxCount paths ((paths.insertionSort (· ≤ ·)).take k) ↔ k = paths.length + 1 - maxCount := by
  have length : ((paths.insertionSort (· ≤ ·)).take k).length = k := by
    rw [List.length_take, List.length_insertionSort, Nat.min_eq_left within]
  have sorted := List.pairwise_insertionSort (· ≤ ·) paths
  rw [← List.take_append_drop k (paths.insertionSort (· ≤ ·))] at sorted
  rw [MakesRoom, length, and_iff_left]
  refine ⟨(paths.insertionSort (· ≤ ·)).drop k, ?_, (List.pairwise_append.mp sorted).2.2⟩
  rw [List.take_append_drop]
  exact List.perm_insertionSort (· ≤ ·) paths

variable {engine}

theorem rotateLogs_eq {folder : Folder Path} {templ timestampRegex : Bytes} {maxCount : Int32}
    {regexMatch : Bytes → Bool} (compiled : engine (regexTempl timestampRegex templ) = some regexMatch)
    (positive : 1 ≤ maxCount) :
    rotateLogs engine folder templ maxCount timestampRegex =
      some (((matchingPaths regexMatch folder).insertionSort (· ≤ ·)).take
        (if maxCount.toNatClampNeg ≤ (matchingPaths regexMatch folder).length + 1 then
          (matchingPaths regexMatch folder).length + 1 - maxCount.toNatClampNeg
        else (matchingPaths regexMatch folder).length)) := by
  have few : (matchingPaths regexMatch folder).length ≤ folder.entries.length := by
    rw [matchingPaths, List.length_map]
    exact List.length_filter_le _ _
  have size : (UInt64.ofNat (matchingPaths regexMatch folder).length).toNat =
      (matchingPaths regexMatch folder).length := UInt64.toNat_ofNat_of_lt' (few.trans_lt folder.short)
  rw [rotateLogs, if_neg (Int32.not_lt.mpr positive), compiled, Option.bind_eq_bind, Option.bind_some]
  dsimp only
  rw [List.length_insertionSort, removeCount_toNat _ positive, size]
  rfl

/-- The rotation removes the files that it should exactly if there is none, or if there are as many as the limit less
one: with fewer it removes all of them. -/
theorem rotateLogs_makesRoom_iff (folder : Folder Path) (templ timestampRegex : Bytes) {maxCount : Int32}
    (positive : 1 ≤ maxCount) {regexMatch : Bytes → Bool}
    (compiled : engine (regexTempl timestampRegex templ) = some regexMatch) :
    (∃ removed, rotateLogs engine folder templ maxCount timestampRegex = some removed ∧
        MakesRoom maxCount.toNatClampNeg (matchingPaths regexMatch folder) removed) ↔
      matchingPaths regexMatch folder = [] ∨
        maxCount.toNatClampNeg ≤ (matchingPaths regexMatch folder).length + 1 := by
  have one := (toNat_maxCount positive).2
  rw [rotateLogs_eq compiled positive]
  simp only [Option.some.injEq, exists_eq_left']
  by_cases enough : maxCount.toNatClampNeg ≤ (matchingPaths regexMatch folder).length + 1
  · rw [if_pos enough, makesRoom_take_iff (by omega)]
    exact iff_of_true rfl (.inr enough)
  · rw [if_neg enough, makesRoom_take_iff (Nat.le_refl _), or_iff_left enough, ← List.length_eq_zero_iff]
    omega

/-- What matches the default template. -/
def isStamped (filename : Bytes) : Bool :=
  filename.take 10 = ascii "RGBServer_" ∧ (filename.drop 10).take 8 ⊆ ascii "0123456789" ∧
    filename[18]? = some 95 ∧ (filename.drop 19).take 6 ⊆ ascii "0123456789" ∧ filename.drop 25 = ascii ".log"

/-- An engine for the default template and for texts without symbols. -/
def stampEngine : RegexEngine := fun text =>
  some fun filename =>
    if text = regexTempl timestampRegex (ascii "RGBServer_#.log") then isStamped filename
    else text = ascii "^" ++ filename ++ ascii "$"

/-- A file by its name, in the order of the bytes. -/
def logFile (filename : Bytes) : DirectoryEntry (List Nat) := ⟨filename.map UInt8.toNat, filename, true⟩

def logFolder : Folder (List Nat) :=
  ⟨[logFile (ascii "RGBServer_20240102_000000.log"), logFile (ascii "RGBServer_20240101_000000.log"),
    logFile (ascii "RGBServer.log")], by decide⟩

/-- With a limit of two the older one of two files makes room, with one of three none has to. -/
theorem rotateLogs_makesRoom_two :
    (∃ removed, rotateLogs stampEngine logFolder (ascii "RGBServer_#.log") 2 timestampRegex = some removed ∧
      MakesRoom 2 (matchingPaths isStamped logFolder) removed) ∧
    ∃ removed, rotateLogs stampEngine logFolder (ascii "RGBServer_#.log") 3 timestampRegex = some removed ∧
      MakesRoom 3 (matchingPaths isStamped logFolder) removed :=
  have compiled : stampEngine (regexTempl timestampRegex (ascii "RGBServer_#.log")) = some isStamped := by
    rw [stampEngine]
    simp
  ⟨(rotateLogs_makesRoom_iff logFolder _ _ (by decide) compiled).mpr (.inr (by decide)),
    (rotateLogs_makesRoom_iff logFolder _ _ (by decide) compiled).mpr (.inr (by decide))⟩

/-- With a limit of five both files are removed. -/
theorem rotateLogs_removes_all :
    ∃ removed, rotateLogs stampEngine logFolder (ascii "RGBServer_#.log") 5 timestampRegex = some removed ∧
      removed.length = 2 ∧ ¬ MakesRoom 5 (matchingPaths isStamped logFolder) removed := by
  refine ⟨_, rfl, by decide, ?_⟩
  rintro ⟨length, -⟩
  revert length
  decide

end LogManager
end SyncRGB
