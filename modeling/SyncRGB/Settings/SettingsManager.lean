import SyncRGB.Settings.JsonFile
import SyncRGB.Transition.Run

/-! The settings store, its mutex, and the calls on it. -/
namespace SyncRGB
open ByteCodec Transition

structure SettingsManager where
  settingsData : Json
  settingsFilename : Bytes
  configFound : Bool
  /-- The mutex is held. -/
  locked : Bool

/-- `SettingsManager::SettingsManager`. -/
def SettingsManager.new : SettingsManager where
  settingsData := .null
  settingsFilename := []
  configFound := false
  locked := false

namespace SettingsManager

/-- A call, with what it finds at the path; `save` is told whether the file opens. -/
inductive Call where
  | get (settingsKey : Bytes)
  | set (settingsKey : Bytes) (newSettings : Json)
  | load (filename : Bytes) (file : SettingsFile)
  | save (opens : Bool)

/-- How a call ends; `written` has what stands in the file then, if it was opened. -/
inductive Reply where
  | settings (result : Json)
  | done
  | written (content : Option Bytes)
  | thrown

/-- `LoadSettings` up to the last unlock. An exception of `filesystem::exists` passes it by. -/
def loadSettings (parse : JsonParser) (filename : Bytes) (file : SettingsFile) (s : SettingsManager) :
    SettingsManager × Reply :=
  let data := s.settingsData.cleared
  match file with
  | .unknown => ({ s with settingsData := data, settingsFilename := filename, locked := true }, .thrown)
  | .missing =>
      ({ s with settingsData := data, settingsFilename := filename, configFound := false, locked := false }, .done)
  | .closed =>
      ({ s with settingsData := data, settingsFilename := filename, configFound := true, locked := false }, .done)
  | .holds content =>
      let parsed := match parse content data with
        | .ok j => j
        | .error left => left.cleared
      ({ s with settingsData := parsed, settingsFilename := filename, configFound := true, locked := false }, .done)

/-- A call by a thread that may have to wait for the mutex: `none` when it is held, as no one is left to unlock it.
`dumpText` is what `dump` makes of a value that it writes. -/
def call (parse : JsonParser) (dumpText : Json → Bytes) (s : SettingsManager) (c : Call) :
    Option (SettingsManager × Reply) :=
  if s.locked then none
  else match c with
    | .get settingsKey => some (s, .settings ((s.settingsData.findKey settingsKey).getD .null))
    | .set settingsKey newSettings =>
        match s.settingsData.setKey settingsKey newSettings with
        | .ok data => some ({ s with settingsData := data }, .done)
        | .error _ => some ({ s with locked := true }, .thrown)
    | .load filename file => some (loadSettings parse filename file s)
    | .save opens =>
        let content := if s.settingsData.dumps then dumpText s.settingsData else []
        some (s, .written (if opens then some content else none))

end SettingsManager
end SyncRGB
