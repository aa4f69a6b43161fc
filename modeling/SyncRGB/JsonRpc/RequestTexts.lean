import SyncRGB.JsonRpc.ReportTexts

/-! Requests and batches: exactly when their replies are in UTF-8. -/
namespace SyncRGB
open ByteCodec Effect JsonRpc

/-- The texts that the build and the libraries give are in UTF-8. -/
structure Environment.TextsInUtf8 {ω : Type} (env : Environment ω) : Prop where
  version : isUtf8 env.versionString = true
  jsonWhat : ∀ id name params devices, isUtf8 (env.jsonWhat id name params devices) = true
  vectorTooLong : isUtf8 env.vectorTooLong = true

/-- An exception of the profile manager has a `what()` in UTF-8. -/
def SpeaksUtf8 (result : Except (Option Bytes) Unit) : Prop :=
  ∀ what, result = .error (some what) → isUtf8 what = true

namespace JSONRPCHandler
variable {ω : Type} (env : Environment ω)

/-- The texts that the reply of a method takes from the devices, the profiles and the profile manager are in
UTF-8. A device without an active mode has no report. -/
def Reportable (params : Json) (h : JSONRPCHandler ω) : Method → Prop
  | .getControllers => (∃ c ∈ h.devices.controllers, c.activeMode < 0) ∨
      ∀ c ∈ h.devices.controllers, c.textsInUtf8 = true
  | .getControllerData => ∀ i c, (device params h.devices.controllers).1 = .ok (i, c) →
      c.activeMode < 0 ∨ c.textsInUtf8 = true
  | .getControllerInfo => ∀ i c, (device params h.devices.controllers).1 = .ok (i, c) →
      c.identityInUtf8 = true
  | .control .getZones => ∀ i c, (device params h.devices.controllers).1 = .ok (i, c) →
      ∀ z ∈ c.zones, z.textsInUtf8 = true
  | .getProfiles => ∀ manager, env.profileManager = some manager →
      ∀ name ∈ manager.profileList h.devices.world, isUtf8 name = true
  | .saveProfile => ∀ manager name includeSizes, env.profileManager = some manager →
      saveParams params = .ok (name, includeSizes) →
        SpeaksUtf8 (manager.saveProfile name includeSizes h.devices).1
  | .loadProfile => ∀ manager name, findProfile env params h = .ok (manager, name) →
      SpeaksUtf8 (manager.loadPasses name h.devices).1
  | .deleteProfile => ∀ manager name, findProfile env params h = .ok (manager, name) →
      SpeaksUtf8 (manager.deleteProfile name h.devices).1
  | _ => True

/-! ### Methods -/

theorem messageResult_dumps {success : Bool} {message : String} (legible : isUtf8 (ascii message) = true) :
    (messageResult success message).dumps = true := by
  rw [messageResult, Json.dumps_object_of_ascii rfl]
  simpa using legible

theorem messageResult_written {success : Bool} {message : String}
    (legible : isUtf8 (ascii message) = true) : Written (.ok (messageResult success message)) :=
  written_of_dumps (messageResult_dumps legible)

theorem success_written : Written (.ok success) := written_of_dumps success_dumps

theorem refused_written {σ : Type} (code : Int) {message : String} (legible : isUtf8 (ascii message) = true)
    (s : σ) : Written ((handled (refuse code message) : Control σ Json) s).1 := legible

theorem written_managed {m : Managed ω} {rest : Control (JSONRPCHandler ω) Json} {h : JSONRPCHandler ω}
    (fine : ∀ t, Written (rest t).1) :
    Written ((do managed m; rest) h).1 ↔ SpeaksUtf8 (m h.devices).1 := by
  rcases run_cases m h.devices with ⟨_, devices, ran⟩ | ⟨e, devices, ran⟩
  · have run : managed m h = ((.ok (), { h with devices }) : Except Stop Unit × JSONRPCHandler ω) := by
      rw [managed, ran]
      rfl
    rw [bind_ok run, ran]
    apply iff_of_true (fine _)
    intro what other
    cases other
  · cases e with
    | none =>
        have run : managed m h =
            ((.error .outside, { h with devices }) : Except Stop Unit × JSONRPCHandler ω) := by
          rw [managed, ran]
          rfl
        rw [bind_error run, ran]
        apply iff_of_true trivial
        intro what other
        cases other
    | some what =>
        have run : managed m h =
            ((.error (.exception what), { h with devices }) : Except Stop Unit × JSONRPCHandler ω) := by
          rw [managed, ran]
          rfl
        rw [bind_error run, ran]
        constructor
        · intro legible other same
          cases same
          exact legible
        · intro speaks
          exact speaks what rfl

theorem rescanDevices_written (h : JSONRPCHandler ω) : Written (rescanDevices env h).1 := by
  have read : (get : Control (JSONRPCHandler ω) (JSONRPCHandler ω)) h = (.ok h, h) := rfl
  rw [rescanDevices, bind_ok read]
  cases env.resourceManager with
  | none => exact messageResult_written (isUtf8_ofList (by decide))
  | some resources =>
      dsimp only
      split
      · exact messageResult_written (isUtf8_ofList (by decide))
      · exact messageResult_written (isUtf8_ofList (by decide))

theorem getProfiles_written (params : Json) (h : JSONRPCHandler ω) :
    Written (getProfiles env h).1 ↔ Reportable env params h .getProfiles := by
  have names (profiles : List Bytes) :
      (Json.object [(ascii "profiles", .array (profiles.map Json.string))]).dumps = profiles.all isUtf8 := by
    rw [Json.dumps_object_of_ascii rfl]
    simp only [List.all_cons, List.all_nil, Json.dumps_array, List.all_map, Bool.and_true]
    rfl
  apply (written_iff rfl).trans
  rw [names, Reportable]
  cases env.profileManager with
  | none => simp
  | some manager => simp

theorem checked_notifyProfile (event : String) (name : Bytes) : Checked (notifyProfile env event name) := by
  unfold notifyProfile
  split
  · split
    · unfold broadcastNotification
      dsimp only
      split
      · exact Checked.pure _
      · exact Checked.typeError _
    · exact Checked.pure _
  · exact Checked.pure _

theorem notified_written (event : String) (name : Bytes) (t : JSONRPCHandler ω) :
    Written ((do handled (notifyProfile env event name); return success :
      Control (JSONRPCHandler ω) Json) t).1 := by
  apply (written_handled (checked_notifyProfile env event name)).mpr
  intro _ _
  exact success_written

theorem saveProfile_written (params : Json) (h : JSONRPCHandler ω) :
    Written (saveProfile env params h).1 ↔ Reportable env params h .saveProfile := by
  apply (written_handled (Checked.saveParams params)).trans
  rw [Reportable]
  cases env.profileManager with
  | none =>
      apply iff_of_true
      · intro _ _
        exact refused_written _ (isUtf8_ofList (by decide)) _
      · intro manager name includeSizes none_
        cases none_
  | some manager =>
      constructor
      · intro all manager' name includeSizes same parsed
        cases same
        exact (written_managed (notified_written env _ name)).mp (all (name, includeSizes) parsed)
      · rintro all ⟨name, includeSizes⟩ parsed
        exact (written_managed (notified_written env _ name)).mpr (all manager name includeSizes rfl parsed)

theorem checked_findProfile {params : Json} (dumped : params.dumps = true) (h : JSONRPCHandler ω) :
    Checked (findProfile env params h) := by
  apply Checked.bind (Checked.profileName params)
  intro name parsed
  split
  · split
    · exact Checked.pure _
    · apply Checked.error
      rw [isUtf8_append (isUtf8_ofList (by decide))]
      exact profileName_isUtf8 dumped parsed
  · exact Checked.refuse _ (isUtf8_ofList (by decide))

theorem loadProfile_written {params : Json} (dumped : params.dumps = true) (h : JSONRPCHandler ω) :
    Written (loadProfile env params h).1 ↔ Reportable env params h .loadProfile := by
  have read : (get : Control (JSONRPCHandler ω) (JSONRPCHandler ω)) h = (.ok h, h) := rfl
  rw [loadProfile, bind_ok read, Reportable]
  apply (written_handled (checked_findProfile env dumped h)).trans
  constructor
  · intro all manager name found
    exact (written_managed (notified_written env _ name)).mp (all (manager, name) found)
  · rintro all ⟨manager, name⟩ found
    exact (written_managed (notified_written env _ name)).mpr (all manager name found)

theorem deleteProfile_written {params : Json} (dumped : params.dumps = true) (h : JSONRPCHandler ω) :
    Written (deleteProfile env params h).1 ↔ Reportable env params h .deleteProfile := by
  have read : (get : Control (JSONRPCHandler ω) (JSONRPCHandler ω)) h = (.ok h, h) := rfl
  have done (t : JSONRPCHandler ω) : Written ((return success : Control (JSONRPCHandler ω) Json) t).1 :=
    success_written
  rw [deleteProfile, bind_ok read, Reportable]
  apply (written_handled (checked_findProfile env dumped h)).trans
  constructor
  · intro all manager name found
    exact (written_managed done).mp (all (manager, name) found)
  · rintro all ⟨manager, name⟩ found
    exact (written_managed done).mpr (all manager name found)

theorem getProtocolVersion_written : Written (.ok getProtocolVersion) := by
  have one : isUtf8 (ascii "1.0") = true := isUtf8_ofList (by decide)
  have two : isUtf8 (ascii "2.0") = true := isUtf8_ofList (by decide)
  apply written_of_dumps
  rw [getProtocolVersion, Json.dumps_object_of_ascii rfl]
  simp [one, two]

theorem getServerInfo_written (texts : env.TextsInUtf8) : Written (.ok (getServerInfo env)) := by
  have one : isUtf8 (ascii "1.0") = true := isUtf8_ofList (by decide)
  have capabilities : (Json.array (["deviceManagement", "colorControl", "modeControl", "zoneManagement",
      "profileManagement", "eventNotifications"].map fun capability => Json.string (ascii capability))).dumps =
        true := by
    simp only [Json.dumps_array, List.all_map, List.all_cons, List.all_nil, Function.comp_apply,
      Json.dumps_string, Bool.and_true, Bool.and_eq_true]
    refine ⟨?_, ?_, ?_, ?_, ?_, ?_⟩
    all_goals
      apply isUtf8_ofList
      decide
  apply written_of_dumps
  rw [getServerInfo, Json.dumps_object_of_ascii rfl]
  simp only [List.all_cons, List.all_nil, Bool.and_true, Json.dumps_string, texts.version, one, capabilities]

theorem shutdownServer_written (clientIsLoopback : Bool) (h : JSONRPCHandler ω) :
    Written (shutdownServer clientIsLoopback h).1 := by
  cases clientIsLoopback with
  | true => exact messageResult_written (isUtf8_ofList (by decide))
  | false => exact refused_written _ (isUtf8_ofList (by decide)) _

theorem emptyList_written {key : Bytes} (plain : key.all (· < 128) = true) :
    Written (.ok (.object [(key, .array [])])) := by
  have keys : ([(key, Json.array [])].all fun field => field.1.all (· < 128)) = true := by simpa using plain
  apply written_of_dumps
  rw [Json.dumps_object_of_ascii keys]
  rfl

theorem callPlugin_written (params : Json) (h : JSONRPCHandler ω) :
    Written ((handled (callPlugin params) : Control (JSONRPCHandler ω) Json) h).1 := by
  rw [callPlugin, handled_bind]
  apply (written_handled (Checked.require _ (isUtf8_ofList (by decide)) params)).mpr
  intro _ _
  exact refused_written _ (isUtf8_ofList (by decide)) h

/-- The reply of a method is in UTF-8, exactly when what it reports is. -/
theorem call_written (texts : env.TextsInUtf8) {params : Json} (dumped : params.dumps = true)
    (clientIsLoopback : Bool) (method : Method) (h : JSONRPCHandler ω) :
    Written (call env params clientIsLoopback method h).1 ↔ Reportable env params h method := by
  cases method with
  | getControllers => exact getControllers_written h.devices.controllers texts.vectorTooLong
  | getControllerCount => exact iff_of_true (getControllerCount_written h.devices.controllers) trivial
  | getControllerData => exact getControllerData_written params h.devices.controllers texts.vectorTooLong
  | getControllerInfo => exact getControllerInfo_written params h.devices.controllers
  | rescanDevices => exact iff_of_true (rescanDevices_written env h) trivial
  | control method =>
      by_cases zones : method = .getZones
      · rw [zones]
        exact getZones_written params h.devices.controllers
      · apply iff_of_true
        · exact written_of_yields (callControl_answers env.toPlatform params dumped method zones) _
        · cases method with
          | getZones => exact absurd rfl zones
          | _ => trivial
  | getProfiles => exact getProfiles_written env params h
  | saveProfile => exact saveProfile_written env params h
  | loadProfile => exact loadProfile_written env dumped h
  | deleteProfile => exact deleteProfile_written env dumped h
  | getProtocolVersion => exact iff_of_true getProtocolVersion_written trivial
  | getServerInfo => exact iff_of_true (getServerInfo_written env texts) trivial
  | getClients => exact iff_of_true (emptyList_written rfl) trivial
  | shutdownServer => exact iff_of_true (shutdownServer_written clientIsLoopback h) trivial
  | getPlugins => exact iff_of_true (emptyList_written rfl) trivial
  | callPlugin => exact iff_of_true (callPlugin_written params h) trivial

/-! ### Requests -/

/-- What a request asks to be reported is in UTF-8. -/
def HarmlessRequest (request : Json) (h : JSONRPCHandler ω) : Prop :=
  hasVersion request = true → ∀ name params id, requestFields request = .ok (name, params, id) →
    ∀ method, findMethod name = some method → Reportable env params h method

/-- The request is served inside the vectors, and what it asks to be reported is in UTF-8. -/
def ServedRequest (request : Json) (clientIsLoopback : Bool) (h t : JSONRPCHandler ω) : Prop :=
  (handleRequest (answering env) request clientIsLoopback (some h)).2 = some t ∧
    HarmlessRequest env request h

/-- Each request in the state that the ones in front of it leave. -/
def ServedRequests (clientIsLoopback : Bool) : List Json → JSONRPCHandler ω → JSONRPCHandler ω → Prop
  | [], h, t => h = t
  | request :: rest, h, t => ∃ u, ServedRequest env request clientIsLoopback h u ∧
      ServedRequests clientIsLoopback rest u t

variable {env}

theorem params_dump {request : Json} (dumped : request.dumps = true) :
    ((request.find "params").getD (.object [])).dumps = true := by
  cases found : request.find "params" with
  | none => rfl
  | some params => exact Json.dumps_of_find dumped found

theorem typeErrorText_isUtf8 {expected : String} (legible : isUtf8 (ascii expected) = true) (j : Json) :
    isUtf8 (j.typeErrorText expected) = true := by
  have name : isUtf8 (ascii j.typeName) = true := by
    cases j with
    | _ => exact isUtf8_ofList (by decide)
  rw [Json.typeErrorText, ascii_append, ascii_append, ascii_append, List.append_assoc, List.append_assoc,
    isUtf8_append (isUtf8_ofList (by decide)), isUtf8_append legible,
    isUtf8_append (isUtf8_ofList (by decide)), name]

theorem requestId_error {request : Json} {what : Bytes} (failed : requestId request = .error what) :
    isUtf8 what = true := by
  unfold requestId at failed
  split at failed
  · split at failed
    · cases failed
    · cases failed
      exact typeErrorText_isUtf8 (isUtf8_ofList (by decide)) _
  · cases failed

theorem requestFields_error {request : Json} {what : Bytes} (failed : requestFields request = .error what) :
    isUtf8 what = true := by
  rw [requestFields] at failed
  cases named : methodName ((request.find "method").getD .null) with
  | error what' =>
      rw [named] at failed
      cases failed
      unfold methodName at named
      split at named
      · cases named
      · cases named
        exact typeErrorText_isUtf8 (isUtf8_ofList (by decide)) _
  | ok name =>
      cases identified : requestId request with
      | error what' =>
          rw [named, identified] at failed
          cases failed
          exact requestId_error identified
      | ok id =>
          rw [named, identified] at failed
          cases failed

theorem requestFields_ok {request params : Json} {name : Bytes} {id : Int32} (dumped : request.dumps = true)
    (parsed : requestFields request = .ok (name, params, id)) :
    isUtf8 name = true ∧ params.dumps = true := by
  rw [requestFields] at parsed
  cases found : request.find "method" with
  | none =>
      rw [found] at parsed
      cases parsed
  | some method =>
      rw [found] at parsed
      cases method with
      | string text =>
          cases identified : requestId request with
          | error what =>
              rw [identified] at parsed
              cases parsed
          | ok id' =>
              rw [identified] at parsed
              cases parsed
              exact ⟨Json.dumps_of_find dumped found, params_dump dumped⟩
      | _ => cases parsed

theorem exceptionReply_dumps (what : Bytes) : (exceptionReply what).dumps = isUtf8 what := by
  rw [exceptionReply, dumps_createError, isUtf8_append (isUtf8_ofList (by decide))]

theorem createError_written (code : Int) (message : Bytes) :
    Written (.ok (createError code message)) ↔ isUtf8 message = true := by
  have same : (createError code message).find "error" =
      some (.object [(ascii "code", .integer (.ofInt code)), (ascii "message", .string message)]) := rfl
  rw [Written, same, Option.getD_some, Json.dumps_object_of_ascii rfl]
  simp

/-- The reply of a method in its envelope, when there is a state behind it. -/
theorem answer_dumps (texts : env.TextsInUtf8) (name : Bytes) (params : Json) (h : JSONRPCHandler ω) (id : Int32)
    {result : Except Stop Json × JSONRPCHandler ω} {t : JSONRPCHandler ω}
    (inside : (answer env name params h result).2 = some t) :
    (match (answer env name params h result).1 with
      | .error what => exceptionReply what
      | .ok reply => methodReply reply id).dumps = true ↔ Written result.1 := by
  obtain ⟨e | reply, u⟩ := result
  · cases e with
    | failure f =>
        cases f with
        | error code message => exact (methodReply_dumps _ id).trans (createError_written code message)
        | typeError n =>
            apply iff_of_true _ trivial
            exact (exceptionReply_dumps _).trans (texts.jsonWhat n name params h.devices)
    | exception what => exact Bool.eq_iff_iff.mp (exceptionReply_dumps what)
    | outside => cases inside
  · exact methodReply_dumps reply id

/-- The method of a request, when there is one. -/
theorem callMethod_written (texts : env.TextsInUtf8) {name : Bytes} {params : Json} (legible : isUtf8 name = true)
    (dumped : params.dumps = true) (clientIsLoopback : Bool) (h : JSONRPCHandler ω) :
    Written (callMethod env name params clientIsLoopback h).1 ↔
      ∀ method, findMethod name = some method → Reportable env params h method := by
  unfold callMethod
  cases found : findMethod name with
  | none =>
      apply iff_of_true
      · have text : isUtf8 (ascii "Method not found: " ++ name) = true := by
          rw [isUtf8_append (isUtf8_ofList (by decide)), legible]
        exact text
      · intro method other
        cases other
  | some method =>
      apply (call_written env texts dumped clientIsLoopback method h).trans
      constructor
      · intro reportable method' same
        cases same
        exact reportable
      · intro all
        exact all method rfl

theorem requestFields_missing {request : Json} (missing : request.contains "method" = false) (name : Bytes)
    (params : Json) (id : Int32) : requestFields request ≠ .ok (name, params, id) := by
  have none_ : request.find "method" = none := by simpa [Json.contains] using missing
  intro parsed
  rw [requestFields, none_] at parsed
  cases parsed

theorem harmless_of_fields {request params : Json} {h : JSONRPCHandler ω} {name : Bytes} {id : Int32}
    (version : hasVersion request = true) (parsed : requestFields request = .ok (name, params, id)) :
    HarmlessRequest env request h ↔ ∀ method, findMethod name = some method → Reportable env params h method := by
  constructor
  · intro harmless
    exact harmless version name params id parsed
  · intro all _ name' params' id' same
    rw [parsed] at same
    cases same
    exact all

/-- The reply to a request is in UTF-8, exactly when what the request asks to be reported is. -/
theorem handleRequest_dumps (texts : env.TextsInUtf8) {request : Json} (dumped : request.dumps = true)
    {clientIsLoopback : Bool} {h t : JSONRPCHandler ω}
    (inside : (handleRequest (answering env) request clientIsLoopback (some h)).2 = some t) :
    (handleRequest (answering env) request clientIsLoopback (some h)).1.dumps = true ↔
      HarmlessRequest env request h := by
  unfold handleRequest at inside ⊢
  cases version : hasVersion request with
  | false =>
      apply iff_of_true
      · exact (dumps_createError _ _).trans (isUtf8_ofList (by decide))
      · intro other
        rw [version] at other
        cases other
  | true =>
      cases given : request.contains "method" with
      | false =>
          apply iff_of_true
          · exact (dumps_createError _ _).trans (isUtf8_ofList (by decide))
          · intro _ name params id parsed
            exact absurd parsed (requestFields_missing given name params id)
      | true =>
          rw [version, given] at inside
          cases parsed : requestFields request with
          | error what =>
              apply iff_of_true
              · exact (exceptionReply_dumps what).trans (requestFields_error parsed)
              · intro _ name params id other
                rw [parsed] at other
                cases other
          | ok fields =>
              obtain ⟨name, params, id⟩ := fields
              obtain ⟨legible, readable⟩ := requestFields_ok dumped parsed
              have called : answering env name params clientIsLoopback (some h) =
                  answer env name params h (callMethod env name params clientIsLoopback h) := rfl
              have written := @answer_dumps ω env texts name params h id
                (callMethod env name params clientIsLoopback h) t
              rw [harmless_of_fields version parsed,
                ← callMethod_written texts legible readable clientIsLoopback h]
              simp only [Bool.not_true, Bool.false_eq_true, if_false, parsed, called] at inside ⊢
              cases answered : answer env name params h (callMethod env name params clientIsLoopback h) with
              | mk result state =>
                  rw [answered] at written inside
                  cases result with
                  | error what => exact written inside
                  | ok reply => exact written inside

/-- There is no state behind an access outside a vector. -/
theorem handleRequest_none (request : Json) (clientIsLoopback : Bool) :
    (handleRequest (answering env) request clientIsLoopback none).2 = none := by
  unfold handleRequest
  split
  · rfl
  · split
    · rfl
    · cases requestFields request with
      | error what => rfl
      | ok fields => rfl

theorem handleRequests_none (requests : List Json) (clientIsLoopback : Bool) :
    (handleRequests (answering env) clientIsLoopback requests none).2 = none := by
  induction requests with
  | nil => rfl
  | cons request rest ih =>
      rw [handleRequests]
      dsimp only
      rw [handleRequest_none, ih]

/-- A batch stays inside the vectors and its replies are in UTF-8, exactly when this is so for each request
in the state that the ones in front of it leave. -/
theorem handleRequests_dumps (texts : env.TextsInUtf8) {clientIsLoopback : Bool} {requests : List Json}
    (dumped : ∀ request ∈ requests, request.dumps = true) {h t : JSONRPCHandler ω} :
    (handleRequests (answering env) clientIsLoopback requests (some h)).2 = some t ∧
      (handleRequests (answering env) clientIsLoopback requests (some h)).1.all Json.dumps = true ↔
        ServedRequests env clientIsLoopback requests h t := by
  induction requests generalizing h with
  | nil =>
      constructor
      · rintro ⟨same, -⟩
        cases same
        rfl
      · intro same
        cases same
        exact ⟨rfl, rfl⟩
  | cons request rest ih =>
      have first := dumped request (.head _)
      have rest_ := fun request mem => dumped request (.tail _ mem)
      rw [handleRequests, ServedRequests]
      dsimp only
      rw [List.all_cons, Bool.and_eq_true]
      cases next : (handleRequest (answering env) request clientIsLoopback (some h)).2 with
      | none =>
          rw [handleRequests_none]
          apply iff_of_false
          · rintro ⟨other, -⟩
            cases other
          · rintro ⟨u, ⟨other, -⟩, -⟩
            rw [next] at other
            cases other
      | some u =>
          rw [handleRequest_dumps texts first next]
          constructor
          · rintro ⟨state, harmless, replies⟩
            exact ⟨u, ⟨next, harmless⟩, (ih rest_).mp ⟨state, replies⟩⟩
          · rintro ⟨u', ⟨same, harmless⟩, served⟩
            rw [next] at same
            cases same
            obtain ⟨state, replies⟩ := (ih rest_).mpr served
            exact ⟨state, harmless, replies⟩

end JSONRPCHandler
end SyncRGB
