import SyncRGB.Startup.ServiceSettings

/-! For which settings files the service reads its port and its directory, and what a saved port leaves of a file. -/
namespace SyncRGB
open ByteCodec
namespace Startup

/-- The keys that are written with a port. -/
def writtenKeys : List Bytes :=
  [ascii "name", ascii "host", ascii "port", ascii "websocket_port", ascii "configuration_directory"]

/-- A value under "Service", if that is an object. -/
def serviceKey (key : Bytes) (data : Json) : Option Json := (data.findKey (ascii "Service")).bind (Json.findKey key)

section
variable (parse : JsonParser) (dumpText : Json → Bytes) (outside : Rat → Int32) (paths : ServicePaths)

/-- The document that the readers find. -/
def readDocument (s : ServiceState) : Json := loadJsonFile parse (s.files (s.located paths).settingsPath)

/-- The document at the path of the settings. -/
def document (s : ServiceState) : Json := loadJsonFile parse (s.files paths.settings)

/-- The readers return, and a port that is saved into the file is read back, next to the keys that are not written. -/
structure ReadersRight (s : ServiceState) (port : UInt16) : Prop where
  reads : ∃ p, (getConfiguredServicePort parse outside paths s).2 = .ok p ∧ 1024 ≤ p
  directory : ∃ d, (getConfiguredServiceDirectory parse paths s).2 = .ok d
  saved (after : ServiceState) :
    1024 ≤ port → saveConfiguredServicePort parse paths dumpText .opens port s = (after, some ()) →
    (getConfiguredServicePort parse outside paths after).2 = .ok port
  outer (after : ServiceState) (key : Bytes) :
    saveConfiguredServicePort parse paths dumpText .opens port s = (after, some ()) → key ≠ ascii "Service" →
    (document parse paths after).findKey key = (document parse paths s).findKey key
  inner (after : ServiceState) (key : Bytes) :
    saveConfiguredServicePort parse paths dumpText .opens port s = (after, some ()) → key ∉ writtenKeys →
    serviceKey key (document parse paths after) = serviceKey key (document parse paths s)

end

/-- A number, or a boolean. -/
def Numeric : Json → Prop
  | .unsigned _ | .integer _ | .float _ | .boolean _ => True
  | _ => False

/-- What stands under the keys of "Service" has the type that is read. -/
structure ServiceFits (data : Json) : Prop where
  port (value : Json) : serviceKey (ascii "port") data = some value → Numeric value
  websocketPort (value : Json) : serviceKey (ascii "websocket_port") data = some value → Numeric value
  directory (value : Json) :
    serviceKey (ascii "configuration_directory") data = some value → ∃ text, value = .string text

section
variable {parse : JsonParser} {dumpText : Json → Bytes} {outside : Rat → Int32} {paths : ServicePaths}

/-! ### Typed accesses -/

theorem loadJsonFile_isObject (parse : JsonParser) (file : SettingsFile) :
    (loadJsonFile parse file).isObject = true := by
  unfold loadJsonFile
  by_cases object : (parsedFile parse file).isObject = true
  · rwa [if_pos object]
  · rw [if_neg object]
    rfl

theorem toInt_ok_iff {value : Json} : (∃ i, toInt outside value = .ok i) ↔ Numeric value := by
  cases value with
  | unsigned | integer | float | boolean => exact iff_of_true ⟨_, rfl⟩ trivial
  | _ => exact iff_of_false (by rintro ⟨_, ⟨⟩⟩) not_false

theorem toBytes_ok_iff {value : Json} : (∃ t, value.toBytes = .ok t) ↔ ∃ text, value = .string text := by
  cases value with
  | string text => exact iff_of_true ⟨text, rfl⟩ ⟨text, rfl⟩
  | _ => exact iff_of_false (by rintro ⟨_, ⟨⟩⟩) (by rintro ⟨_, ⟨⟩⟩)

section
variable {α : Type} {key : String} {convert : Json → Handled α} {default : α} {j value : Json}

theorem valueOf_found (found : j.findKey (ascii key) = some value) :
    Json.valueOf key convert default j = convert value := by
  cases j with
  | object fields =>
      have same : (Json.object fields).find key = some value := found
      rw [Json.valueOf, same]
  | _ => cases found

theorem valueOf_missing (object : j.isObject = true) (missing : j.findKey (ascii key) = none) :
    Json.valueOf key convert default j = .ok default := by
  cases j with
  | object fields =>
      have same : (Json.object fields).find key = none := missing
      rw [Json.valueOf, same]
  | _ => cases object

theorem valueOf_ok_iff (key : String) (convert : Json → Handled α) (default : α) (object : j.isObject = true) :
    (∃ a, Json.valueOf key convert default j = .ok a) ↔
      ∀ value, j.findKey (ascii key) = some value → ∃ a, convert value = .ok a := by
  cases found : j.findKey (ascii key) with
  | none => exact iff_of_true ⟨_, valueOf_missing object found⟩ nofun
  | some value =>
      rw [valueOf_found found]
      constructor
      · rintro converts _ ⟨⟩
        exact converts
      · exact fun all => all value rfl

end

/-! ### The readers -/

/-- The value under "Service", or an empty object. -/
def serviceOf (data : Json) : Json := (data.findKey (ascii "Service")).getD (.object [])

theorem serviceSettings_eq {data : Json} (object : data.isObject = true) :
    serviceSettings data = .ok (serviceOf data) := by
  unfold serviceSettings serviceOf
  cases found : data.findKey (ascii "Service") with
  | none => exact valueOf_missing object found
  | some service => exact valueOf_found found

theorem serviceKey_eq (key : Bytes) (data : Json) : serviceKey key data = (serviceOf data).findKey key := by
  unfold serviceKey serviceOf
  cases data.findKey (ascii "Service") with
  | none => rfl
  | some service => rfl

theorem findKey_of_not_object {j : Json} (other : ¬ j.isObject = true) (key : Bytes) : j.findKey key = none := by
  cases j with
  | object fields => exact absurd rfl other
  | _ => rfl

theorem files_located (paths : ServicePaths) (s : ServiceState) : (s.located paths).files = s.files := by
  unfold ServiceState.located
  split <;> rfl

theorem getConfiguredServicePort_eq (s : ServiceState) :
    (getConfiguredServicePort parse outside paths s).2 = portOf outside (readDocument parse paths s) := by
  rw [readDocument, ← files_located paths s]
  rfl

theorem getConfiguredServiceDirectory_eq (s : ServiceState) :
    (getConfiguredServiceDirectory parse paths s).2 = directoryOf paths (readDocument parse paths s) := by
  rw [readDocument, ← files_located paths s]
  rfl

/-- What is done with the port of an object. -/
theorem portOf_eq {data : Json} (object : data.isObject = true) :
    portOf outside data = if (serviceOf data).isObject then (do
      let port ← Json.valueOf "port" (toInt outside) 6743 (serviceOf data)
      let port ← Json.valueOf "websocket_port" (toInt outside) port (serviceOf data)
      return if 1024 ≤ port.toInt ∧ port.toInt ≤ 65535 then UInt16.ofNat port.toInt.toNat else 6743)
    else .ok 6743 := by
  rw [portOf, serviceSettings_eq object]
  rfl

theorem portOf_ok_iff (outside : Rat → Int32) {data : Json} (object : data.isObject = true) :
    (∃ p, portOf outside data = .ok p) ↔
      (∀ value, serviceKey (ascii "port") data = some value → Numeric value) ∧
      ∀ value, serviceKey (ascii "websocket_port") data = some value → Numeric value := by
  rw [portOf_eq object, serviceKey_eq, serviceKey_eq]
  by_cases service : (serviceOf data).isObject = true
  · have converts (key : String) (default : Int32) :
        (∃ i, Json.valueOf key (toInt outside) default (serviceOf data) = .ok i) ↔
          ∀ value, (serviceOf data).findKey (ascii key) = some value → Numeric value := by
      simp only [valueOf_ok_iff _ _ _ service, toInt_ok_iff]
    rw [if_pos service, ← converts "port" 6743, ← converts "websocket_port" 6743]
    constructor
    · rintro ⟨p, run⟩
      obtain ⟨port, first, run⟩ := Handled.bind_eq_ok.mp run
      obtain ⟨port', second, -⟩ := Handled.bind_eq_ok.mp run
      exact ⟨⟨port, first⟩, (converts "websocket_port" 6743).mpr ((converts "websocket_port" port).mp ⟨port', second⟩)⟩
    · rintro ⟨⟨port, first⟩, second⟩
      obtain ⟨port', second⟩ := (converts "websocket_port" port).mpr ((converts "websocket_port" 6743).mp second)
      exact ⟨_, Handled.bind_eq_ok.mpr ⟨port, first, Handled.bind_eq_ok.mpr ⟨port', second, rfl⟩⟩⟩
  · rw [if_neg service, findKey_of_not_object service, findKey_of_not_object service]
    exact iff_of_true ⟨_, rfl⟩ ⟨nofun, nofun⟩

theorem inRange_of_toInt {i : Int} (low : 1024 ≤ i) (high : i ≤ 65535) :
    (1024 : UInt16) ≤ UInt16.ofNat i.toNat := by
  rw [UInt16.le_iff_toNat_le, UInt16.toNat_ofNat_of_lt' (by simp only [UInt16.size]; omega)]
  show 1024 ≤ i.toNat
  omega

/-- A port that is returned is in the range. -/
theorem portOf_range {data : Json} (object : data.isObject = true) {p : UInt16} (read : portOf outside data = .ok p) :
    1024 ≤ p := by
  rw [portOf_eq object] at read
  split at read
  · obtain ⟨_, -, read⟩ := Handled.bind_eq_ok.mp read
    obtain ⟨_, -, read⟩ := Handled.bind_eq_ok.mp read
    cases read
    split
    · rename_i range
      exact inRange_of_toInt range.1 range.2
    · decide
  · cases read
    decide

theorem directoryOf_eq {data : Json} (object : data.isObject = true) :
    directoryOf paths data = if (serviceOf data).isObject then (do
      let configDir ← Json.valueOf "configuration_directory" Json.toBytes [] (serviceOf data)
      return if configDir ≠ [] then configDir else paths.userDirectory)
    else .ok paths.userDirectory := by
  rw [directoryOf, serviceSettings_eq object]
  rfl

theorem directoryOf_ok_iff (paths : ServicePaths) {data : Json} (object : data.isObject = true) :
    (∃ d, directoryOf paths data = .ok d) ↔
      ∀ value, serviceKey (ascii "configuration_directory") data = some value → ∃ text, value = .string text := by
  rw [directoryOf_eq object, serviceKey_eq]
  by_cases service : (serviceOf data).isObject = true
  · simp only [if_pos service, ← toBytes_ok_iff]
    rw [← valueOf_ok_iff "configuration_directory" Json.toBytes [] service]
    constructor
    · rintro ⟨d, run⟩
      obtain ⟨text, first, -⟩ := Handled.bind_eq_ok.mp run
      exact ⟨text, first⟩
    · rintro ⟨text, first⟩
      exact ⟨_, Handled.bind_eq_ok.mpr ⟨text, first, rfl⟩⟩
  · rw [if_neg service, findKey_of_not_object service]
    exact iff_of_true ⟨_, rfl⟩ nofun

/-! ### Saving a port -/

/-- What the document with a port holds. -/
structure HoldsPort (port : UInt16) (data doc : Json) : Prop where
  object : doc.isObject = true
  outer (key : Bytes) : key ≠ ascii "Service" → doc.findKey key = data.findKey key
  service : (serviceOf doc).isObject = true
  savedPort : (serviceOf doc).findKey (ascii "port") = some (.unsigned port.toUInt64)
  savedWebsocketPort : (serviceOf doc).findKey (ascii "websocket_port") = some (.unsigned port.toUInt64)
  inner (key : Bytes) : key ∉ writtenKeys → (serviceOf doc).findKey key = (serviceOf data).findKey key

theorem withPort_holds (paths : ServicePaths) {data : Json} (object : data.isObject = true) (port : UInt16) :
    ∃ doc, withPort paths port data = .ok doc ∧ HoldsPort port data doc := by
  obtain ⟨base, rfl, baseObject, same⟩ : ∃ base,
      base = (if (serviceOf data).isObject then serviceOf data else .object []) ∧ base.isObject = true ∧
        ∀ key, base.findKey key = (serviceOf data).findKey key := by
    refine ⟨_, rfl, ?_⟩
    by_cases service : (serviceOf data).isObject = true
    · rw [if_pos service]
      exact ⟨service, fun _ => rfl⟩
    · rw [if_neg service]
      exact ⟨rfl, fun key => (findKey_of_not_object service key).symm⟩
  obtain ⟨j1, set1, object1, find1⟩ := Json.setKey_object baseObject (ascii "name") (.string (ascii "RGB Server"))
  obtain ⟨j2, set2, object2, find2⟩ := Json.setKey_object object1 (ascii "host") (.string (ascii "127.0.0.1"))
  obtain ⟨j3, set3, object3, find3⟩ := Json.setKey_object object2 (ascii "port") (.unsigned port.toUInt64)
  obtain ⟨j4, set4, object4, find4⟩ := Json.setKey_object object3 (ascii "websocket_port") (.unsigned port.toUInt64)
  obtain ⟨j5, set5, object5, find5⟩ :=
    Json.setKey_object object4 (ascii "configuration_directory") (.string paths.userDirectory)
  obtain ⟨doc, set6, object6, find6⟩ := Json.setKey_object object (ascii "Service") j5
  have service : serviceOf doc = j5 := by rw [serviceOf, find6, if_pos rfl, Option.getD_some]
  refine ⟨doc, ?_, object6, ?_, ?_, ?_, ?_, ?_⟩
  · refine Handled.bind_eq_ok.mpr ⟨_, serviceSettings_eq object, Handled.bind_eq_ok.mpr ⟨j1, set1, ?_⟩⟩
    refine Handled.bind_eq_ok.mpr ⟨j2, set2, Handled.bind_eq_ok.mpr ⟨j3, set3, ?_⟩⟩
    exact Handled.bind_eq_ok.mpr ⟨j4, set4, Handled.bind_eq_ok.mpr ⟨j5, set5, set6⟩⟩
  · exact fun key other => by rw [find6, if_neg other]
  · rwa [service]
  · rw [service, find5, if_neg (by decide +kernel), find4, if_neg (by decide +kernel), find3, if_pos rfl]
  · rw [service, find5, if_neg (by decide +kernel), find4, if_pos rfl]
  · intro key other
    simp only [writtenKeys, List.mem_cons, List.not_mem_nil, or_false, not_or] at other
    rw [service, find5, if_neg other.2.2.2.2, find4, if_neg other.2.2.2.1, find3, if_neg other.2.2.1, find2,
      if_neg other.2.1, find1, if_neg other.1, same]

theorem toInt_port (port : UInt16) : (port.toUInt64.toUInt32.toInt32).toInt = port.toNat := by
  have small := port.toNat_lt
  show (port.toUInt64.toUInt32).toBitVec.toInt = _
  rw [BitVec.toInt_eq_toNat_of_lt]
  · simp
  · simp
    omega

/-- A saved port in the range is read from the document. -/
theorem portOf_holds {port : UInt16} {data doc : Json} (holds : HoldsPort port data doc) (range : 1024 ≤ port) :
    portOf outside doc = .ok port := by
  have value : toInt outside (.unsigned port.toUInt64) = .ok port.toUInt64.toUInt32.toInt32 := rfl
  rw [portOf_eq holds.object, if_pos holds.service, valueOf_found holds.savedPort, value]
  show (do
    let port' ← Json.valueOf "websocket_port" (toInt outside) port.toUInt64.toUInt32.toInt32 (serviceOf doc)
    return if 1024 ≤ port'.toInt ∧ port'.toInt ≤ 65535 then UInt16.ofNat port'.toInt.toNat else 6743 :
      Handled UInt16) = _
  rw [valueOf_found holds.savedWebsocketPort, value]
  have small := port.toNat_lt
  have low : 1024 ≤ port.toNat := UInt16.le_iff_toNat_le.mp range
  have inside : 1024 ≤ port.toUInt64.toUInt32.toInt32.toInt ∧ port.toUInt64.toUInt32.toInt32.toInt ≤ 65535 := by
    rw [toInt_port]
    omega
  show Except.ok (if _ then _ else _) = _
  rw [if_pos inside, toInt_port, Int.toNat_natCast, UInt16.ofNat_toNat]

theorem readDocument_of_path {s : ServiceState} (at_ : s.settingsPath = paths.settings) :
    readDocument parse paths s = document parse paths s := by
  have located : (s.located paths).settingsPath = paths.settings := by
    unfold ServiceState.located
    split
    · rfl
    · exact at_
  rw [readDocument, located, document]

theorem loadJsonFile_of_parsed {content : Bytes} {doc : Json} (object : doc.isObject = true)
    (back : parse content (.object []) = .ok doc) : loadJsonFile parse (.holds content) = doc := by
  have parsed : parsedFile parse (.holds content) = doc := by rw [parsedFile, back]
  rw [loadJsonFile, parsed, if_pos object]

/-- What a save that returns leaves in the file. -/
theorem save_holds {s after : ServiceState} {port : UInt16}
    (rereads : ∀ doc, withPort paths port (document parse paths s) = .ok doc →
      parse (dumpText doc) (.object []) = .ok doc)
    (saved : saveConfiguredServicePort parse paths dumpText .opens port s = (after, some ())) :
    HoldsPort port (document parse paths s) (readDocument parse paths after) ∧
      readDocument parse paths after = document parse paths after := by
  obtain ⟨doc, written, holds⟩ := withPort_holds paths (loadJsonFile_isObject parse (s.files paths.settings)) port
  have back := loadJsonFile_of_parsed holds.object (rereads doc written)
  unfold saveConfiguredServicePort at saved
  dsimp only at saved
  rw [written] at saved
  dsimp only [saveJsonFile] at saved
  by_cases dumps : doc.dumps = true
  · rw [if_pos dumps] at saved
    have path : after.settingsPath = paths.settings := (congrArg (fun r => r.1.settingsPath) saved).symm
    have file : after.files paths.settings = .holds (dumpText doc) :=
      (congrArg (fun r => r.1.files paths.settings) saved).symm.trans (if_pos rfl)
    have now : document parse paths after = doc := by rw [document, file, back]
    rw [readDocument_of_path path, now]
    exact ⟨holds, rfl⟩
  · rw [if_neg dumps] at saved
    cases saved

/-- The readers return and find what is saved, exactly when the values that they read have their types. -/
theorem readersRight_iff (s : ServiceState) (port : UInt16)
    (rereads : ∀ doc, withPort paths port (document parse paths s) = .ok doc →
      parse (dumpText doc) (.object []) = .ok doc) :
    ReadersRight parse dumpText outside paths s port ↔ ServiceFits (readDocument parse paths s) := by
  have object : (readDocument parse paths s).isObject = true := loadJsonFile_isObject parse _
  have ports : (∃ p, (getConfiguredServicePort parse outside paths s).2 = .ok p ∧ 1024 ≤ p) ↔
      (∀ value, serviceKey (ascii "port") (readDocument parse paths s) = some value → Numeric value) ∧
      ∀ value, serviceKey (ascii "websocket_port") (readDocument parse paths s) = some value → Numeric value := by
    rw [getConfiguredServicePort_eq, ← portOf_ok_iff outside object]
    constructor
    · rintro ⟨p, read, -⟩
      exact ⟨p, read⟩
    · rintro ⟨p, read⟩
      exact ⟨p, read, portOf_range object read⟩
  have directory := directoryOf_ok_iff paths object
  rw [← getConfiguredServiceDirectory_eq] at directory
  constructor
  · intro right
    exact ⟨(ports.mp right.reads).1, (ports.mp right.reads).2, directory.mp right.directory⟩
  · intro fits
    refine ⟨ports.mpr ⟨fits.port, fits.websocketPort⟩, directory.mpr fits.directory, ?_, ?_, ?_⟩
    · intro after range saved
      rw [getConfiguredServicePort_eq]
      exact portOf_holds (save_holds rereads saved).1 range
    · intro after key saved other
      obtain ⟨holds, here⟩ := save_holds rereads saved
      rw [← here, holds.outer key other]
    · intro after key saved other
      obtain ⟨holds, here⟩ := save_holds rereads saved
      rw [← here, serviceKey_eq, serviceKey_eq, holds.inner key other]

end

def servicePaths : ServicePaths := ⟨ascii "service_config/OpenRGB.json", ascii "./"⟩

/-- Settings of an older version, with keys of other parts of the program. -/
def olderSettings : Json :=
  .object [(ascii "Detectors", .object [(ascii "hid_safe_mode", .boolean true)]),
    (ascii "Service", .object [(ascii "port", .unsigned 6743), (ascii "remote", .boolean false)])]

/-- The same after the port 7000 is saved. -/
def savedSettings : Json :=
  .object [(ascii "Detectors", .object [(ascii "hid_safe_mode", .boolean true)]),
    (ascii "Service", .object [(ascii "configuration_directory", .string (ascii "./")),
      (ascii "host", .string (ascii "127.0.0.1")), (ascii "name", .string (ascii "RGB Server")),
      (ascii "port", .unsigned 7000), (ascii "remote", .boolean false), (ascii "websocket_port", .unsigned 7000)])]

def olderText : Bytes :=
  ascii "\x7b\"Detectors\":\x7b\"hid_safe_mode\":true\x7d,\"Service\":\x7b\"port\":6743,\"remote\":false\x7d\x7d"

def savedText : Bytes :=
  ascii "\x7b\n    \"Detectors\": \x7b\n        \"hid_safe_mode\": true\n    \x7d,\n" ++
    ascii "    \"Service\": \x7b\n        \"configuration_directory\": \"./\",\n" ++
    ascii "        \"host\": \"127.0.0.1\",\n        \"name\": \"RGB Server\",\n" ++
    ascii "        \"port\": 7000,\n        \"remote\": false,\n        \"websocket_port\": 7000\n    \x7d\n\x7d"

/-- The parser on these texts. -/
def parseThese : JsonParser := fun content before =>
  if content = olderText then .ok olderSettings
  else if content = savedText then .ok savedSettings else .error before

theorem readersRight_older :
    ReadersRight parseThese (fun _ => savedText) (fun _ => 0) servicePaths ⟨[], fun _ => .holds olderText⟩ 7000 := by
  have read : readDocument parseThese servicePaths ⟨[], fun _ => .holds olderText⟩ = olderSettings := rfl
  apply (readersRight_iff ⟨[], fun _ => .holds olderText⟩ 7000 ?_).mpr
  · rw [read]
    refine ⟨fun value found => ?_, fun value found => ?_, fun value found => ?_⟩
    · cases found
      trivial
    · cases found
    · cases found
  · intro doc written
    have older : document parseThese servicePaths ⟨[], fun _ => .holds olderText⟩ = olderSettings := rfl
    have saved : withPort servicePaths 7000 olderSettings = .ok savedSettings := rfl
    rw [older] at written
    have same : savedSettings = doc := Except.ok.inj (saved.symm.trans written)
    rw [← same]
    have other : savedText ≠ olderText := by decide
    exact (if_neg other).trans (if_pos rfl)

/-- The parser on one text. -/
def parseOnly (text : Bytes) (j : Json) : JsonParser := fun content before =>
  if content = text then .ok j else .error before

/-- A port in quotes makes the reader throw. -/
theorem quoted_port_throws :
    let text := ascii "\x7b\"Service\": \x7b\"port\": \"6743\"\x7d\x7d"
    let quoted : Json := .object [(ascii "Service", .object [(ascii "port", .string (ascii "6743"))])]
    (getConfiguredServicePort (parseOnly text quoted) (fun _ => 0) servicePaths ⟨[], fun _ => .holds text⟩).2 =
      .error (.typeError 302) := by
  intro text quoted
  rw [getConfiguredServicePort_eq]
  rfl

end Startup
end SyncRGB
