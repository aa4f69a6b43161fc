import SyncRGB.JsonRpc.RequestTexts

/-! Which requests latch a shutdown. -/
namespace SyncRGB
open ByteCodec Effect JsonRpc

namespace JsonRpc

/-- A request object for the shutdown, whatever its id. -/
def IsShutdownRequest (request : Json) : Prop :=
  hasVersion request = true ∧ request.find "method" = some (.string (ascii "server.shutdown"))

/-- The id is missing, or an `int` can be made of it. -/
def HasIntId (request : Json) : Prop := ∃ id, requestId request = .ok id

end JsonRpc

namespace JSONRPCHandler
variable {ω α : Type} {env : Environment ω}

/-- The latch stands at `b`. -/
def Latched (b : Bool) (h : JSONRPCHandler ω) : Prop := h.shutdownRequested = b

/-! ### Methods -/

section Methods
variable {b : Bool}

theorem latched_onControllers (m : Control (List RGBController) α) :
    Preserves (Latched b) (onControllers m : Control (JSONRPCHandler ω) α) := by
  unfold onControllers
  apply Preserves.within
  intro controllers h latched
  exact latched

theorem latched_managed (m : Managed ω) : Preserves (Latched b) (managed m) := by
  intro h latched
  rcases run : m h.devices with ⟨e | a, devices⟩
  · simp only [managed, run]
    exact latched
  · simp only [managed, run]
    exact latched

theorem latched_handled (x : Handled α) : Preserves (Latched b) (handled x : Control (JSONRPCHandler ω) α) :=
  Preserves.lift _

theorem latched_rescanDevices : Preserves (Latched b) (rescanDevices env) := by
  intro h latched
  have read : (get : Control (JSONRPCHandler ω) (JSONRPCHandler ω)) h = (.ok h, h) := rfl
  rw [rescanDevices, bind_ok read]
  cases env.resourceManager with
  | none => exact latched
  | some resources =>
      dsimp only
      cases h.rescanInProgress && resources.rescanRunning h.devices.world with
      | true => exact latched
      | false => exact latched

theorem latched_saveProfile (params : Json) : Preserves (Latched b) (saveProfile env params) := by
  apply (latched_handled _).bind
  rintro ⟨name, includeSizes⟩
  dsimp only
  split
  · apply (latched_managed _).bind
    intro _
    exact (latched_handled _).bind fun _ => Preserves.pure _
  · exact latched_handled _

theorem latched_loadProfile (params : Json) : Preserves (Latched b) (loadProfile env params) := by
  apply Preserves.get.bind
  intro h
  apply (latched_handled _).bind
  rintro ⟨manager, name⟩
  apply (latched_managed _).bind
  intro _
  exact (latched_handled _).bind fun _ => Preserves.pure _

theorem latched_deleteProfile (params : Json) : Preserves (Latched b) (deleteProfile env params) := by
  apply Preserves.get.bind
  intro h
  apply (latched_handled _).bind
  rintro ⟨manager, name⟩
  exact (latched_managed _).bind fun _ => Preserves.pure _

theorem latched_getProfiles : Preserves (Latched b) (getProfiles env) :=
  Preserves.get.bind fun _ => Preserves.pure _

/-- No other method touches the latch. -/
theorem latched_call (params : Json) (clientIsLoopback : Bool) {method : Method} (other : method ≠ .shutdownServer) :
    Preserves (Latched b) (call env params clientIsLoopback method) := by
  cases method with
  | shutdownServer => exact absurd rfl other
  | getControllers => exact latched_onControllers _
  | getControllerCount => exact latched_onControllers _
  | getControllerData => exact latched_onControllers _
  | getControllerInfo => exact latched_onControllers _
  | rescanDevices => exact latched_rescanDevices
  | control method => exact latched_onControllers _
  | getProfiles => exact latched_getProfiles
  | saveProfile => exact latched_saveProfile params
  | loadProfile => exact latched_loadProfile params
  | deleteProfile => exact latched_deleteProfile params
  | getProtocolVersion => exact Preserves.pure _
  | getServerInfo => exact Preserves.pure _
  | getClients => exact Preserves.pure _
  | getPlugins => exact Preserves.pure _
  | callPlugin => exact latched_handled _

end Methods

theorem shutdownServer_latches (h : JSONRPCHandler ω) (clientIsLoopback : Bool) :
    (shutdownServer clientIsLoopback h).2.shutdownRequested = true ↔
      h.shutdownRequested = true ∨ clientIsLoopback = true := by
  cases clientIsLoopback with
  | true => exact iff_of_true rfl (.inr rfl)
  | false =>
      constructor
      · exact .inl
      · rintro (latched | other)
        · exact latched
        · cases other

theorem findMethod_shutdown : findMethod (ascii "server.shutdown") = some .shutdownServer := by decide +kernel

theorem findMethod_eq_shutdown {name : Bytes} (found : findMethod name = some .shutdownServer) :
    name = ascii "server.shutdown" := by
  obtain ⟨⟨key, method⟩, first, same⟩ := Option.map_eq_some_iff.mp found
  have member := List.mem_of_find?_eq_some first
  have named := List.find?_some first
  have only : ∀ entry ∈ methods, entry.2 = .shutdownServer → entry.1 = "server.shutdown" := by decide
  rw [← of_decide_eq_true named, only _ member same]

theorem callMethod_latches (name : Bytes) (params : Json) (clientIsLoopback : Bool) (h : JSONRPCHandler ω) :
    (callMethod env name params clientIsLoopback h).2.shutdownRequested = true ↔
      h.shutdownRequested = true ∨ clientIsLoopback = true ∧ name = ascii "server.shutdown" := by
  unfold callMethod
  cases found : findMethod name with
  | none =>
      have other : name ≠ ascii "server.shutdown" := by
        rintro rfl
        rw [findMethod_shutdown] at found
        cases found
      have kept : ((handled (throw (.error methodNotFound (ascii "Method not found: " ++ name))) :
          Control (JSONRPCHandler ω) Json) h).2.shutdownRequested = h.shutdownRequested :=
        (latched_handled _).left rfl
      simp only [kept, other, and_false, or_false]
  | some method =>
      by_cases shutdown : method = .shutdownServer
      · cases shutdown
        have named := findMethod_eq_shutdown found
        simp only [named, and_true]
        exact shutdownServer_latches h clientIsLoopback
      · have other : name ≠ ascii "server.shutdown" := by
          rintro rfl
          rw [findMethod_shutdown] at found
          cases found
          exact shutdown rfl
        have kept : (call env params clientIsLoopback method h).2.shutdownRequested = h.shutdownRequested :=
          (latched_call params clientIsLoopback shutdown).left rfl
        simp only [kept, other, and_false, or_false]

/-! ### Requests -/

theorem answer_latches {name : Bytes} {params : Json} {h t : JSONRPCHandler ω}
    {called : Except Stop Json × JSONRPCHandler ω} (inside : (answer env name params h called).2 = some t) :
    t = called.2 := by
  obtain ⟨result, h'⟩ := called
  cases result with
  | ok reply => exact (Option.some.inj inside).symm
  | error stop =>
      cases stop with
      | failure f =>
          cases f with
          | error code message => exact (Option.some.inj inside).symm
          | typeError id => exact (Option.some.inj inside).symm
      | exception what => exact (Option.some.inj inside).symm
      | outside => cases inside

theorem methodName_ok {j : Json} {name : Bytes} : methodName j = .ok name ↔ j = .string name := by
  cases j with
  | string s =>
      constructor
      · intro same
        cases same
        rfl
      · intro same
        cases same
        rfl
  | _ =>
      apply iff_of_false
      · intro other
        cases other
      · intro other
        cases other

theorem requestFields_eq {request : Json} {name : Bytes} {params : Json} {id : Int32} :
    requestFields request = .ok (name, params, id) ↔
      (request.find "method").getD .null = .string name ∧
        (request.find "params").getD (.object []) = params ∧ requestId request = .ok id := by
  unfold requestFields
  rw [← methodName_ok]
  cases methodName ((request.find "method").getD .null) with
  | error what =>
      apply iff_of_false
      · intro other
        cases other
      · rintro ⟨other, -⟩
        cases other
  | ok method =>
      cases requestId request with
      | error what =>
          apply iff_of_false
          · intro other
            cases other
          · rintro ⟨-, -, other⟩
            cases other
      | ok id' =>
          constructor
          · intro same
            cases same
            exact ⟨rfl, rfl, rfl⟩
          · rintro ⟨first, second, third⟩
            cases first
            cases second
            cases third
            rfl

/-- A request that leaves a state has latched the shutdown, or it was latched before. -/
theorem handleRequest_latches {request : Json} {clientIsLoopback : Bool} {h t : JSONRPCHandler ω}
    (inside : (handleRequest (answering env) request clientIsLoopback (some h)).2 = some t) :
    t.shutdownRequested = true ↔ h.shutdownRequested = true ∨
      clientIsLoopback = true ∧ IsShutdownRequest request ∧ HasIntId request := by
  have idle (unasked : ¬ (IsShutdownRequest request ∧ HasIntId request)) : h.shutdownRequested = true ↔
      h.shutdownRequested = true ∨ clientIsLoopback = true ∧ IsShutdownRequest request ∧ HasIntId request :=
    (or_iff_left fun asked => unasked asked.2).symm
  unfold handleRequest at inside
  cases version : hasVersion request with
  | false =>
      rw [version] at inside
      cases inside
      apply idle
      rintro ⟨⟨other, -⟩, -⟩
      rw [version] at other
      cases other
  | true =>
      rw [version] at inside
      cases given : request.contains "method" with
      | false =>
          rw [given] at inside
          cases inside
          apply idle
          rintro ⟨⟨-, other⟩, -⟩
          rw [Json.contains, other] at given
          cases given
      | true =>
          obtain ⟨method, found⟩ := Option.isSome_iff_exists.mp given
          rw [given] at inside
          cases parsed : requestFields request with
          | error what =>
              rw [parsed] at inside
              cases inside
              apply idle
              rintro ⟨⟨-, shutdown⟩, id, read⟩
              have fields := @requestFields_eq request _ _ id |>.mpr ⟨by rw [shutdown]; rfl, rfl, read⟩
              rw [parsed] at fields
              cases fields
          | ok fields =>
              obtain ⟨name, params, id⟩ := fields
              obtain ⟨named, -, read⟩ := requestFields_eq.mp parsed
              have called : answering env name params clientIsLoopback (some h) =
                  answer env name params h (callMethod env name params clientIsLoopback h) := rfl
              have left : (answer env name params h (callMethod env name params clientIsLoopback h)).2 = some t := by
                simp only [Bool.not_true, Bool.false_eq_true, if_false, parsed, called] at inside
                rcases answered : answer env name params h (callMethod env name params clientIsLoopback h) with
                  ⟨what | reply, state⟩
                · rwa [answered] at inside
                · rwa [answered] at inside
              rw [answer_latches left, callMethod_latches]
              apply or_congr_right
              apply and_congr_right
              intro _
              rw [found, Option.getD_some] at named
              rw [IsShutdownRequest, found, named]
              constructor
              · rintro rfl
                exact ⟨⟨version, rfl⟩, id, read⟩
              · rintro ⟨⟨-, same⟩, -⟩
                cases same
                rfl

/-- A batch that leaves a state has latched the shutdown when one of its requests asks for it. -/
theorem handleRequests_latches {requests : List Json} {clientIsLoopback : Bool} {h t : JSONRPCHandler ω}
    (inside : (handleRequests (answering env) clientIsLoopback requests (some h)).2 = some t) :
    t.shutdownRequested = true ↔ h.shutdownRequested = true ∨
      clientIsLoopback = true ∧ ∃ request ∈ requests, IsShutdownRequest request ∧ HasIntId request := by
  induction requests generalizing h with
  | nil =>
      cases inside
      simp
  | cons request rest ih =>
      rw [handleRequests] at inside
      dsimp only at inside
      cases next : (handleRequest (answering env) request clientIsLoopback (some h)).2 with
      | none =>
          rw [next, handleRequests_none] at inside
          cases inside
      | some u =>
          rw [next] at inside
          rw [ih inside, handleRequest_latches next, List.exists_mem_cons_iff, and_or_left, or_assoc]

end JSONRPCHandler
end SyncRGB
