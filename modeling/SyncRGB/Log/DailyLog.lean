import SyncRGB.Log.Rotation
import SyncRGB.VectorEdit.Oldest

/-! The log of a service: one file a day, rotated when it is opened. In one folder the paths have the order of the bytes
in their names. -/
namespace SyncRGB
open ByteCodec VectorEdit

structure LogFile where
  filename : Bytes
  isRegularFile : Bool
  content : Bytes

/-- A name in the order of its bytes. -/
def nameOrder (filename : Bytes) : List Nat := filename.map UInt8.toNat

theorem nameOrder_injective : Function.Injective nameOrder :=
  List.map_injective_iff.mpr fun _ _ => UInt8.toNat_inj.mp

def LogFile.entry (file : LogFile) : DirectoryEntry (List Nat) :=
  ⟨nameOrder file.filename, file.filename, file.isRegularFile⟩

/-- A folder has one file of a name, and fewer than a vector can hold. -/
structure LogFolder where
  files : List LogFile
  distinct : (files.map LogFile.filename).Nodup
  short : files.length < 2 ^ 64

namespace LogFolder

def listing (folder : LogFolder) : Folder (List Nat) :=
  ⟨folder.files.map LogFile.entry, by rw [List.length_map]; exact folder.short⟩

def names (folder : LogFolder) : List Bytes := folder.files.map LogFile.filename

def has (folder : LogFolder) (name : Bytes) : Prop := name ∈ folder.names

instance (folder : LogFolder) (name : Bytes) : Decidable (folder.has name) :=
  inferInstanceAs (Decidable (name ∈ folder.names))

def empty : LogFolder := ⟨[], List.nodup_nil, by decide⟩

/-- `filesystem::remove` of some paths. -/
def remove (paths : List (List Nat)) (folder : LogFolder) : LogFolder where
  files := folder.files.filter fun file => nameOrder file.filename ∉ paths
  distinct := folder.distinct.sublist (List.filter_sublist.map _)
  short := (List.length_filter_le _ _).trans_lt folder.short

/-- What opening a file to append to it leaves: a new one if there is none and there is room. -/
def touch (name : Bytes) (folder : LogFolder) : LogFolder :=
  if new : ¬ folder.has name ∧ folder.files.length + 1 < 2 ^ 64 then
    { files := folder.files ++ [⟨name, true, []⟩]
      distinct := by
        rw [List.map_append, List.nodup_append]
        refine ⟨folder.distinct, List.nodup_singleton _, ?_⟩
        rintro a member b single rfl
        have same : a = name := List.mem_singleton.mp single
        rw [same] at member
        exact new.1 member
      short := by
        rw [List.length_append]
        exact new.2 }
  else folder

/-- What is appended to a file. -/
def appendTo (name text : Bytes) (folder : LogFolder) : LogFolder where
  files := folder.files.map fun file =>
    if file.filename = name then { file with content := file.content ++ text } else file
  distinct := by
    have same : LogFile.filename ∘ (fun file : LogFile =>
        if file.filename = name then { file with content := file.content ++ text } else file) = LogFile.filename := by
      funext file
      rw [Function.comp_apply]
      split <;> rfl
    rw [List.map_map, same]
    exact folder.distinct
  short := by
    rw [List.length_map]
    exact folder.short

end LogFolder

/-- What `configure` sets for the log of a service. -/
structure DailySettings where
  engine : RegexEngine
  dailyBasename : Bytes
  dailyLogLimit : Int32

def appName : Bytes := ascii "RGB Server"

namespace DailySettings

def dailyDateRegex : Bytes := ascii "[0-9]\x7b8\x7d"

variable (settings : DailySettings)

def basename : Bytes := if settings.dailyBasename = [] then appName else settings.dailyBasename

/-- The name of the file for a day. -/
def logname (yyyymmdd : Bytes) : Bytes := settings.basename ++ ascii "_" ++ yyyymmdd ++ ascii ".log"

/-- What the rotation removes before the file for a day opens; `none` when the engine throws. -/
def rotated (folder : LogFolder) : Option (List (List Nat)) :=
  LogManager.rotateLogs settings.engine folder.listing (settings.basename ++ ascii "_#.log") settings.dailyLogLimit
    dailyDateRegex

end DailySettings

/-- The folders, and the service that runs: the folder and the date of the log file that is open. -/
structure DailyLog (Dir : Type) where
  folders : Dir → LogFolder
  dailyRollover : Bool
  stream : Option (Dir × Bytes)

/-- How the log file for a day opens: what is printed into a new one, and whether it does open. -/
structure DailyOpening where
  yyyymmdd : Bytes
  header : Bytes
  opens : Bool

namespace DailyLog

variable {Dir : Type} [DecidableEq Dir] (settings : DailySettings)

/-- A file with something in it. -/
def fileExisted (folder : LogFolder) (name : Bytes) : Bool :=
  folder.files.any fun file => file.filename = name && !file.content.isEmpty

/-- The folder of `_open_daily_log` when the rotation has removed some paths. -/
def openedFolder (opening : DailyOpening) (removed : List (List Nat)) (folder : LogFolder) : LogFolder :=
  let name := settings.logname opening.yyyymmdd
  let rotated := folder.remove removed
  if opening.opens then
    (rotated.touch name).appendTo name (if fileExisted rotated name then [] else opening.header)
  else rotated

/-- `_open_daily_log`, with the stream closed before. -/
def openDailyLog (s : DailyLog Dir) (dir : Dir) (opening : DailyOpening) : DailyLog Dir :=
  match settings.rotated (s.folders dir) with
  | none => { s with stream := none }
  | some removed =>
      let folder := openedFolder settings opening removed (s.folders dir)
      { s with
        folders := Function.update s.folders dir folder
        stream := if opening.opens ∧ folder.has (settings.logname opening.yyyymmdd) then
            some (dir, opening.yyyymmdd) else none }

/-- What `_flush` writes on the stream. -/
def write (text : Bytes) (s : DailyLog Dir) : DailyLog Dir :=
  match s.stream with
  | none => s
  | some (dir, yyyymmdd) =>
      { s with folders :=
          Function.update s.folders dir ((s.folders dir).appendTo (settings.logname yyyymmdd) text) }

/-- What happens to the log of a service: it starts again, is told its folder, or logs. All write what is queued. -/
inductive DailyEvent (Dir : Type) where
  | start (dir : Dir) (opening : DailyOpening) (queued : Bytes)
  | setServiceLogDirectory (dir : Dir) (opening : DailyOpening) (queued : Bytes)
  | reconfigureDailyLog (dir : Dir) (opening : DailyOpening) (queued : Bytes)
  | append (today : DailyOpening) (queued : Bytes)

/-- The first message of a day closes the file of the day before. -/
def rolledOver (s : DailyLog Dir) (today : DailyOpening) : DailyLog Dir :=
  match s.stream with
  | none => s
  | some (dir, currentLogDate) =>
      if s.dailyRollover ∧ currentLogDate ≠ today.yyyymmdd then s.openDailyLog settings dir today else s

def step (s : DailyLog Dir) : DailyEvent Dir → DailyLog Dir
  | .start dir opening queued =>
      ({ s with dailyRollover := true }.openDailyLog settings dir opening).write settings queued
  | .setServiceLogDirectory dir opening queued =>
      ({ s with dailyRollover := true }.openDailyLog settings dir opening).write settings queued
  | .reconfigureDailyLog dir opening queued =>
      if s.dailyRollover then (s.openDailyLog settings dir opening).write settings queued else s
  | .append today queued => (s.rolledOver settings today).write settings queued

def run (s : DailyLog Dir) (events : List (DailyEvent Dir)) : DailyLog Dir := events.foldl (step settings) s

end DailyLog
end SyncRGB
