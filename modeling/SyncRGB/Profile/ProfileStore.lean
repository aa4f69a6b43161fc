import Mathlib.Data.List.DropRight
import Mathlib.Data.List.Infix
import SyncRGB.JsonRpc.Json
import SyncRGB.Profile.ProfileFile

/-! The profile files by their names: what a save stores under which name, what a load opens, what a
delete removes, and what the scan of the directory lists. -/
namespace SyncRGB
open ByteCodec

/-- What the file system makes of a name behind the configuration directory: the file that is opened or
created there, if any, and the name of a file that lies in the directory itself. -/
structure FileSystem (File : Type) where
  resolve : Bytes → Option File
  entry : File → Option Bytes

/-- The files with their content, in the order in which the directory is iterated. -/
abbrev Files (File : Type) := List (File × Bytes)

namespace Files
variable {File : Type} [DecidableEq File]

def content (files : Files File) (f : File) : Option Bytes :=
  (files.find? fun e => e.1 = f).map Prod.snd

/-- Truncated or created, then written. -/
def write (files : Files File) (f : File) (bytes : Bytes) : Files File :=
  if (files.content f).isSome then files.map fun e => if e.1 = f then (f, bytes) else e
  else files ++ [(f, bytes)]

def remove (files : Files File) (f : File) : Files File := files.filter fun e => e.1 ≠ f

theorem content_write (files : Files File) (f : File) (bytes : Bytes) :
    (files.write f bytes).content f = some bytes := by
  cases known : files.content f with
  | none =>
      have missing : files.find? (fun e => e.1 = f) = none := Option.map_eq_none_iff.mp known
      simp [write, content, List.find?_append, missing]
  | some old =>
      obtain ⟨e, found, -⟩ := Option.map_eq_some_iff.mp known
      have there : e.1 = f := by simpa using List.find?_some found
      have kept : ((fun e : File × Bytes => decide (e.1 = f)) ∘
          fun e => if e.1 = f then (f, bytes) else e) = fun e => decide (e.1 = f) := by
        funext e
        by_cases same : e.1 = f <;> simp [same]
      rw [write, known, if_pos Option.isSome_some, content, List.find?_map, kept, found]
      exact congrArg some (congrArg Prod.snd (if_pos there))

theorem content_write_of_ne (files : Files File) {f g : File} (other : g ≠ f) (bytes : Bytes) :
    (files.write f bytes).content g = files.content g := by
  have passed : ((fun e : File × Bytes => decide (e.1 = g)) ∘
      fun e => if e.1 = f then (f, bytes) else e) = fun e => decide (e.1 = g) := by
    funext e
    by_cases same : e.1 = f
    · simp [same, other.symm]
    · simp [same]
  rw [write]
  split
  · rw [content, List.find?_map, passed, Option.map_map, content]
    apply Option.map_congr
    intro e found
    have there : e.1 = g := by simpa using List.find?_some found
    exact congrArg Prod.snd (if_neg (there ▸ other))
  · simp [content, List.find?_append, other.symm]

theorem content_remove_of_ne (files : Files File) {f g : File} (other : g ≠ f) :
    (files.remove f).content g = files.content g := by
  have passed (e : File × Bytes) (found : (decide (e.1 = g)) = true) : decide (e.1 ≠ f) = true := by
    have there : e.1 = g := of_decide_eq_true found
    exact decide_eq_true (there ▸ other)
  rw [content, content, remove, List.find?_filter]
  congr 2
  funext e
  by_cases same : e.1 = g
  · simp [same, other]
  · simp [same]

end Files

/-- `StringUtils::remove_null_terminating_chars`. -/
def removeNullTerminatingChars (s : Bytes) : Bytes := s.rdropWhile (· == 0)

/-- `path::extension`: from the last dot of the file name on, unless that is its first character. -/
def extension (path : Bytes) : Bytes :=
  let filename := path.rtakeWhile (· != 47)
  let suffix := filename.rtakeWhile (· != 46)
  if suffix.length + 1 < filename.length ∧ filename ≠ [46, 46] then 46 :: suffix else []

namespace ProfileManager

def orp : Bytes := ascii ".orp"
def ors : Bytes := ascii ".ors"

/-- The file name `SaveProfile` chooses. -/
def savedName (name : Bytes) (sizes : Bool) : Bytes := name ++ if sizes then ors else orp

/-- The file name `LoadProfileToList` chooses. -/
def loadedName (name : Bytes) (sizes : Bool) : Bytes :=
  if sizes then name ++ ors else if extension name = orp then name else name ++ orp

/-- The file name `DeleteProfile` chooses. -/
def deletedName (name : Bytes) : Bytes := name ++ orp

/-- The manager's own list next to the one of `ProfileManagerInterface`, a member of the same name that
the manager's methods do not see, and the files. -/
structure Store (File : Type) where
  interfaceProfileList : List Bytes
  profileList : List Bytes
  files : Files File
  deriving DecidableEq

variable {File : Type} [DecidableEq File] (fs : FileSystem File)

/-- A name with the extension in it and a content with the header and a known version are listed without
the last four characters of the name. -/
def listing (e : File × Bytes) : Option Bytes := do
  let filename ← fs.entry e.1
  if orp <:+: filename ∧ e.2.take 16 = profileHeader ∧
      leValue ((e.2.drop 16).take 4) ≤ profileVersion then
    some (filename.take (filename.length - 4))
  else none

namespace Store

/-- `ProfileManager::UpdateProfileList`. -/
def updateProfileList (s : Store File) : Store File :=
  { s with profileList := s.files.filterMap (listing fs) }

/-- A new manager over an empty directory. -/
def new : Store File := ⟨[], [], []⟩

/-- `ProfileManager::SaveProfile` of the current controllers; `none` when the encoder leaves a buffer.
A file that cannot be created is not reported. -/
def saveProfile (memory : Nat → Nat → UInt8) (controllers : List RGBController) (profileName : Bytes)
    (sizes : Bool) (s : Store File) : Option (Bool × Store File) :=
  let profileName := removeNullTerminatingChars profileName
  if profileName = [] then some (false, s)
  else do
    let bytes ← profileFile memory sizes controllers
    let files := match fs.resolve (savedName profileName sizes) with
      | some f => s.files.write f bytes
      | none => s.files
    return (true, updateProfileList fs { s with files })

/-- The file that `LoadProfile` and `LoadSizeFromProfile` hand to `LoadProfileToList`. -/
def openProfile (profileName : Bytes) (s : Store File) : Option Bytes :=
  (fs.resolve (loadedName (removeNullTerminatingChars profileName) false)).bind s.files.content

/-- `ProfileManager::DeleteProfile`. -/
def deleteProfile (profileName : Bytes) (s : Store File) : Store File :=
  let files := match fs.resolve (deletedName (removeNullTerminatingChars profileName)) with
    | some f => s.files.remove f
    | none => s.files
  updateProfileList fs { s with files }

end Store
end ProfileManager
end SyncRGB
