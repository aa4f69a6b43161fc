import SyncRGB.Server.Connections

/-! The authentication gate. A connection is refused by closing it, so the gate holds as long as the closing
comes about. -/
namespace SyncRGB
open ByteCodec JsonRpc JSONRPCHandler Transition WebSocketServer

namespace WebSocketServer
variable {tokens : List Bytes} {uri : Bytes}

/-- One of the tokens stands behind a `token=`, up to the next `&` or the end. -/
def Carries (tokens : List Bytes) (uri : Bytes) : Prop :=
  ∃ token ∈ tokens, token ≠ [] ∧ ∃ front rest, uri = front ++ ascii "token=" ++ token ++ rest ∧
    (rest = [] ∨ ∃ more, rest = 38 :: more)

theorem behind_split {key text rest : Bytes} (found : behind key text = some rest) :
    ∃ front, text = front ++ key ++ rest := by
  induction text with
  | nil => cases found
  | cons x xs ih =>
      rw [behind] at found
      split at found
      · next starts =>
          obtain ⟨tail, split⟩ := starts
          cases found
          refine ⟨[], ?_⟩
          rw [← split, List.drop_left, List.nil_append]
      · obtain ⟨front, split⟩ := ih found
        refine ⟨x :: front, ?_⟩
        rw [split]
        rfl

theorem extractTokenFromUri_split (carried : extractTokenFromUri uri ≠ []) :
    ∃ front rest, uri = front ++ ascii "token=" ++ extractTokenFromUri uri ++ rest ∧
      (rest = [] ∨ ∃ more, rest = 38 :: more) := by
  unfold extractTokenFromUri at carried ⊢
  cases found : behind (ascii "token=") uri with
  | none =>
      rw [found] at carried
      exact absurd rfl carried
  | some text =>
      obtain ⟨front, split⟩ := behind_split found
      refine ⟨front, text.dropWhile (· != 38), ?_, ?_⟩
      · rw [List.append_assoc _ (text.takeWhile _), List.takeWhile_append_dropWhile]
        exact split
      · cases rest : text.dropWhile (· != 38) with
        | nil => exact .inl rfl
        | cons x more =>
            have stops := List.head?_dropWhile_not (· != 38) text
            rw [rest] at stops
            have delimiter : x = 38 := by simpa using stops
            exact .inr ⟨more, by rw [delimiter]⟩

/-- Where tokens are demanded, the ones that are accepted are carried by the address. -/
theorem carries_of_authenticated (accepted : authenticateClient true tokens (extractTokenFromUri uri) = true) :
    Carries tokens uri := by
  obtain ⟨given, member⟩ := of_decide_eq_true accepted
  exact ⟨_, member, given, extractTokenFromUri_split given⟩

end WebSocketServer

namespace Connections
variable {Conn ω : Type} [DecidableEq Conn] {v : SocketService Conn ω} {s t : Connections Conn ω} {e : Event Conn}

/-! ### What the handlers do to the phases and the requests -/

/-- A refused connection is closed when neither call throws, and left open otherwise. -/
theorem refuse_eq (c : Conn) (sending closing : Sending) : s.refuse c sending closing =
    { s.setPhase c (if sending = .sent ∧ closing = .sent then .closing else .opened) with
      server := { s.server with
        sent := s.server.sent ++ if sending = .sent then [authenticationFailedResponse] else [] } } := by
  cases sending with
  | sent =>
      cases closing with
      | sent => rfl
      | failed => rfl
  | failed => simp [refuse, setPhase]

theorem refuse_phase (c : Conn) (sending closing : Sending) :
    (s.refuse c sending closing).phase =
      Function.update s.phase c (if sending = .sent ∧ closing = .sent then .closing else .opened) := by
  rw [refuse_eq]
  rfl

/-- The look into the info of the sender. -/
theorem updateActivityTime_eq (c : Conn) : ∃ misused, s.updateActivityTime c = { s with misused } := by
  unfold updateActivityTime
  cases s.clients.lookup c with
  | none => exact ⟨s.misused, rfl⟩
  | some info => exact ⟨_, rfl⟩

section Message
variable {c : Conn} {found isText : Bool} {payload : Bytes} {sending closing : Sending}

/-- What a message does: beside the server and the requests it may change the phase of its sender, and end the
loop. -/
theorem onMessage_eq : ∃ phase io, s.onMessage v c found isText payload sending closing =
      { s.updateActivityTime c with
        server := (WebSocketServer.onMessage v.env v.parse isText payload
          (getRemoteIP (if found then some (v.peers c).endpoint else none)) sending s.server).2
        passed := s.passed ++ ((passes v.parse isText payload
          (getRemoteIP (if found then some (v.peers c).endpoint else none))).map fun request => (c, request)).toList
        phase, io } ∧
    (phase = s.phase ∨ phase = Function.update s.phase c .closing) ∧ (io = s.io ∨ io = .ended) := by
  obtain ⟨misused, looked⟩ := @updateActivityTime_eq _ _ _ s c
  unfold onMessage
  cases isText with
  | true =>
      simp only [looked, if_true]
      split
      · next run =>
        rw [run]
        exact ⟨_, _, rfl, .inl rfl, .inl rfl⟩
      · next run =>
        rw [run]
        exact ⟨_, _, rfl, .inl rfl, .inr rfl⟩
  | false =>
      have nothing (ip : Bytes) : passes v.parse false payload ip = none := rfl
      simp only [looked, nothing, Bool.false_eq_true, if_false, Option.map_none, Option.toList_none, List.append_nil]
      cases closing with
      | sent => exact ⟨_, _, rfl, .inr rfl, .inl rfl⟩
      | failed => exact ⟨_, _, rfl, .inl rfl, .inl rfl⟩

theorem onMessage_passed : (s.onMessage v c found isText payload sending closing).passed =
    s.passed ++ ((passes v.parse isText payload
      (getRemoteIP (if found then some (v.peers c).endpoint else none))).map fun request => (c, request)).toList := by
  obtain ⟨phase, io, same, -⟩ := @onMessage_eq _ _ _ v s c found isText payload sending closing
  rw [same]

theorem onMessage_server : (s.onMessage v c found isText payload sending closing).server =
    (WebSocketServer.onMessage v.env v.parse isText payload
      (getRemoteIP (if found then some (v.peers c).endpoint else none)) sending s.server).2 := by
  obtain ⟨phase, io, same, -⟩ := @onMessage_eq _ _ _ v s c found isText payload sending closing
  rw [same]

/-- A message opens nothing. -/
theorem onMessage_phase {d : Conn}
    (opened : (s.onMessage v c found isText payload sending closing).phase d = .opened) :
    s.phase d = .opened := by
  obtain ⟨phase, io, same, kept | closed, -⟩ :=
    @onMessage_eq _ _ _ v s c found isText payload sending closing
  · rw [same] at opened
    rw [← kept]
    exact opened
  · have updated : Function.update s.phase c .closing d = .opened := by
      rw [← closed, ← opened, same]
    by_cases own : d = c
    · rw [own, Function.update_self] at updated
      cases updated
    · rwa [Function.update_of_ne own] at updated

end Message

omit [DecidableEq Conn] in
theorem releaseAll_keeps (infos : List ClientInfo) :
    (s.releaseAll infos).phase = s.phase ∧ (s.releaseAll infos).passed = s.passed ∧
      (s.releaseAll infos).server = s.server ∧ (s.releaseAll infos).notified = s.notified := by
  induction infos generalizing s with
  | nil => exact ⟨rfl, rfl, rfl, rfl⟩
  | cons info rest ih => exact @ih (s.release info)

/-! ### What is passed on -/

omit [DecidableEq Conn] in
/-- A message that is not passed on leaves the request handler as it is and schedules nothing. -/
theorem onMessage_unpassed {isText : Bool} {payload ip : Bytes} {sending : Sending} {server : WebSocketServer ω}
    (unpassed : passes v.parse isText payload ip = none) :
    (WebSocketServer.onMessage v.env v.parse isText payload ip sending server).2.handler = server.handler ∧
      (WebSocketServer.onMessage v.env v.parse isText payload ip sending server).2.shutdownScheduled =
        server.shutdownScheduled := by
  unfold passes at unpassed
  unfold WebSocketServer.onMessage
  cases isText with
  | false => exact ⟨rfl, rfl⟩
  | true =>
      rw [if_pos rfl] at unpassed ⊢
      cases read : v.parse payload with
      | none => exact sendToClient_keeps parseErrorResponse
      | some request =>
          rw [read] at unpassed
          by_cases shut : isShutdown request = true
          · simp only [if_pos shut] at unpassed ⊢
            rw [shutdown]
            cases number : requestId request with
            | error what => exact ⟨rfl, rfl⟩
            | ok id =>
                rw [number] at unpassed
                cases near : isLoopbackAddress ip with
                | true => simp [near] at unpassed
                | false =>
                    refine ⟨sendToClient_handler (shutdownResponse false id) false, ?_⟩
                    rw [Bool.eq_iff_iff]
                    apply (sendToClient_scheduled (shutdownResponse false id) false).trans
                    exact or_iff_left fun wanted => Bool.false_ne_true wanted.2
          · simp only [if_neg shut] at unpassed
            cases unpassed

/-- Only a request that is passed on reaches the request handler or schedules a shutdown. -/
theorem passed_of_served (step : Step v s e t) (served : t.server.handler ≠ s.server.handler ∨
    t.server.shutdownScheduled ≠ s.server.shutdownScheduled) :
    ∃ c request, t.passed = s.passed ++ [(c, request)] := by
  have idle (handler : t.server.handler = s.server.handler)
      (scheduled : t.server.shutdownScheduled = s.server.shutdownScheduled) :
      ∃ c request, t.passed = s.passed ++ [(c, request)] := by
    rcases served with changed | changed
    · exact absurd handler changed
    · exact absurd scheduled changed
  cases step.move with
  | message c found isText payload sending closing io opened =>
      cases passing : passes v.parse isText payload
          (getRemoteIP (if found then some (v.peers c).endpoint else none)) with
      | some request => exact ⟨c, request, by rw [onMessage_passed, passing]; rfl⟩
      | none =>
          have kept := @onMessage_unpassed _ _ v _ _ _ sending s.server passing
          rw [← onMessage_server] at kept
          exact idle kept.1 kept.2
  | refused c found sending closing io fresh refuses =>
      have same := @refuse_eq _ _ _ s c sending closing
      exact idle (congrArg (fun u => u.server.handler) same)
        (congrArg (fun u => u.server.shutdownScheduled) same)
  | joined stopping left =>
      obtain ⟨-, -, same, -⟩ := @releaseAll_keeps _ _ s (s.clients.entries.map Sigma.snd)
      exact idle (congrArg WebSocketServer.handler same) (congrArg WebSocketServer.shutdownScheduled same)
  | _ => exact idle rfl rfl

/-! ### The gate -/

/-- The connections that can still send messages, and those whose requests were passed on, carry a token. -/
structure Gated (v : SocketService Conn ω) (s : Connections Conn ω) : Prop where
  opened : ∀ c, s.phase c = .opened → Carries v.authTokens (v.peers c).uri
  passed : ∀ c request, (c, request) ∈ s.passed → Carries v.authTokens (v.peers c).uri

/-- A connection without a token is told so and closed: neither call throws. -/
def ClosesRefused (v : SocketService Conn ω) (_ : Connections Conn ω) (e : Event Conn) : Prop :=
  ∀ c found sending closing, e = .opened c found sending closing → ¬ Carries v.authTokens (v.peers c).uri →
    sending = .sent ∧ closing = .sent

omit [DecidableEq Conn] in
theorem Started.gated (started : s.Started) : Gated v s where
  opened c opened := by
    rw [started.phase c] at opened
    cases opened
  passed c request member := by
    rw [started.passed] at member
    cases member

omit [DecidableEq Conn] in
theorem refuses_of_not_carries (auth : v.requireAuth = true) {c : Conn} {found : Bool}
    (uncarried : ¬ Carries v.authTokens (v.peers c).uri) : Refuses v c found := by
  refine ⟨auth, ?_⟩
  rw [auth]
  cases found with
  | false => rfl
  | true =>
      rw [Bool.eq_false_iff]
      exact fun accepted => uncarried (carries_of_authenticated accepted)

namespace Gated

omit [DecidableEq Conn] in
theorem of_phases (gated : Gated v s) (phase : ∀ d, t.phase d = .opened → s.phase d = .opened)
    (passed : t.passed = s.passed) : Gated v t where
  opened d opened := gated.opened d (phase d opened)
  passed d request member := gated.passed d request (passed ▸ member)

theorem setPhase_over {c : Conn} {t : Connections Conn ω} (gated : Gated v s)
    (phase : t.phase = Function.update s.phase c .over) (passed : t.passed = s.passed) : Gated v t := by
  apply gated.of_phases _ passed
  intro d opened
  rw [phase] at opened
  by_cases same : d = c
  · rw [same, Function.update_self] at opened
    cases opened
  · rwa [Function.update_of_ne same] at opened

theorem step (auth : v.requireAuth = true) (gated : Gated v s) (closes : ClosesRefused v s e)
    (step : Step v s e t) : Gated v t := by
  cases step.move with
  | refused c found sending closing idle fresh refuses =>
      refine ⟨?_, by rw [refuse_eq]; exact gated.passed⟩
      intro d opened
      rw [refuse_phase] at opened
      by_cases same : d = c
      · by_contra uncarried
        rw [same, Function.update_self, if_pos (closes c found sending closing rfl (same ▸ uncarried))] at opened
        cases opened
      · rw [Function.update_of_ne same] at opened
        exact gated.opened d opened
  | welcomed c found sending closing ip idle fresh allowed =>
      refine ⟨?_, gated.passed⟩
      intro d opened
      by_cases same : d = c
      · by_contra uncarried
        rw [same] at uncarried
        exact allowed (refuses_of_not_carries auth uncarried)
      · have before : Function.update s.phase c .opened d = .opened := opened
        rw [Function.update_of_ne same] at before
        exact gated.opened d before
  | message c found isText payload sending closing idle opened =>
      refine ⟨fun d opened => gated.opened d (onMessage_phase opened), ?_⟩
      intro d request member
      rw [onMessage_passed] at member
      rcases List.mem_append.mp member with old | new
      · exact gated.passed d request old
      · obtain ⟨request', -, same⟩ := Option.map_eq_some_iff.mp (Option.mem_toList.mp new)
        cases same
        exact gated.opened c opened
  | closed c info idle live known => exact gated.setPhase_over rfl rfl
  | closedUnknown c idle live unknown => exact gated.setPhase_over rfl rfl
  | failed c info idle live known => exact gated.setPhase_over rfl rfl
  | failedUnknown c idle live unknown => exact gated.setPhase_over rfl rfl
  | notify throws event c ip io => exact gated.of_phases (fun _ => id) rfl
  | broadcast throws => exact gated.of_phases (fun _ => id) rfl
  | stop throws online =>
      refine gated.of_phases ?_ rfl
      intro d opened
      have before : (if d ∈ s.clients ∧ s.phase d = .opened ∧ throws d = false then Phase.closing
          else s.phase d) = .opened := opened
      split at before
      · cases before
      · exact before
  | joined stopping left =>
      obtain ⟨phase, passed, -⟩ := @releaseAll_keeps _ _ s (s.clients.entries.map Sigma.snd)
      exact gated.of_phases (fun d opened => phase ▸ opened) passed

end Gated

/-- With tokens demanded, a request that was passed on came from a connection with a token, in every run in which
the refused connections are told so and closed. A connection whose refusal fails stays open, and its next message
is passed on like any other. -/
theorem passed_carries (v : SocketService Conn ω) (auth : v.requireAuth = true) {s : Connections Conn ω}
    (started : s.Started) :
    (∀ es t, Run (Guarded (ClosesRefused v) (Step v)) s es t →
      ∀ c request, (c, request) ∈ t.passed → Carries v.authTokens (v.peers c).uri) ∧
    ∀ t e u, Step v t e u → ¬ ClosesRefused v t e →
      ∃ c, ¬ Carries v.authTokens (v.peers c).uri ∧ ∀ payload request sending closing,
        passes v.parse true payload (getRemoteIP (some (v.peers c).endpoint)) = some request →
          ∃ w, Step v u (.message c true true payload sending closing) w ∧ (c, request) ∈ w.passed := by
  constructor
  · intro es t run
    have keeps (s : Connections Conn ω) (e : Event Conn) (t : Connections Conn ω) (gated : Gated v s)
        (step : Guarded (ClosesRefused v) (Step v) s e t) : Gated v t := gated.step auth step.1 step.2
    exact (run.invariant keeps started.gated).passed
  · intro t e u step fails
    simp only [ClosesRefused, not_forall] at fails
    obtain ⟨c, found, sending, closing, rfl, uncarried, unclosed⟩ := fails
    refine ⟨c, uncarried, ?_⟩
    intro payload request sending' closing' passing
    have refused : u = t.refuse c sending closing ∧ t.io = .idle := by
      cases step.move with
      | refused _ _ _ _ idle fresh refuses => exact ⟨rfl, idle⟩
      | welcomed _ _ _ _ ip idle fresh allowed =>
          exact absurd (refuses_of_not_carries auth uncarried) allowed
    obtain ⟨rfl, idle⟩ := refused
    have opened : (t.refuse c sending closing).phase c = .opened := by
      rw [refuse_phase, Function.update_self, if_neg unclosed]
    have waiting : (t.refuse c sending closing).io = .idle := by
      rw [refuse_eq]
      exact idle
    refine ⟨_, if_pos ⟨waiting, opened⟩, ?_⟩
    rw [onMessage_passed, if_pos rfl, passing]
    exact List.mem_append_right _ (List.mem_singleton.mpr rfl)

/-- The server as it is started, with a lamp. -/
def fresh (Conn : Type) : Connections Conn Unit where
  server := serverOf (ascii "Lamp")
  clients := ∅
  phase _ := .fresh
  io := .idle
  stage := .online
  allocated := []
  freed := []
  misused := false
  notified := []
  passed := []

theorem started_fresh (Conn : Type) : (fresh Conn).Started := ⟨rfl, fun _ => rfl, rfl, rfl, rfl, rfl, rfl, rfl, rfl⟩

/-- One remote peer without a token. -/
def guardedService : SocketService Unit Unit where
  env := plainEnvironment
  parse := parseRequest "device.getControllers" "1" (.unsigned 1)
  requireAuth := true
  authTokens := [ascii "secret"]
  peers _ := ⟨ascii "10.0.0.7:50000", ascii "ws://10.0.0.1:6743/"⟩

/-- Two remote peers, one of them with the token. -/
def pairedService : SocketService Bool Unit where
  env := plainEnvironment
  parse := parseRequest "device.getControllers" "1" (.unsigned 1)
  requireAuth := true
  authTokens := [ascii "secret"]
  peers c :=
    ⟨ascii "10.0.0.7:50000", if c then ascii "ws://10.0.0.1:6743/?token=secret" else ascii "ws://10.0.0.1:6743/"⟩

/-- The one without it is refused and closed, and the request of the other one is passed on. -/
theorem passed_carries_fresh :
    ∃ t request, Run (Guarded (ClosesRefused pairedService) (Step pairedService)) (fresh Bool)
        [.opened false true .sent .sent, .opened true true .sent .sent, .notify fun _ => false,
          .message true true true (requestText "device.getControllers" "1") .sent .sent] t ∧
      (true, request) ∈ t.passed ∧ t.phase false = .closing ∧
      Carries pairedService.authTokens (pairedService.peers true).uri := by
  have opened {s : Connections Bool Unit} {c : Bool} : ClosesRefused pairedService s (.opened c true .sent .sent) := by
    intro _ _ _ _ same _
    cases same
    exact ⟨rfl, rfl⟩
  obtain ⟨t, request, run, passed, phase⟩ : ∃ t request,
      Run (Guarded (ClosesRefused pairedService) (Step pairedService)) (fresh Bool)
        [.opened false true .sent .sent, .opened true true .sent .sent, .notify fun _ => false,
          .message true true true (requestText "device.getControllers" "1") .sent .sent] t ∧
      (true, request) ∈ t.passed ∧ t.phase false = .closing := by
    refine ⟨_, .object [(ascii "id", .unsigned 1), (ascii "jsonrpc", .string (ascii "2.0")),
      (ascii "method", .string (ascii "device.getControllers"))],
      .cons ⟨opened, rfl⟩ (.cons ⟨opened, rfl⟩ (.cons ⟨nofun, rfl⟩ (.cons ⟨nofun, rfl⟩ (.nil _)))), ?_, rfl⟩
    rw [onMessage_passed]
    exact List.mem_append_right _ (List.mem_singleton.mpr rfl)
  exact ⟨t, request, run, passed, phase,
    (passed_carries pairedService rfl (started_fresh Bool)).1 _ t run true request passed⟩

/-- The `send` of the refusal throws, and the request that follows is served. -/
theorem unauthenticated_request_passed :
    ∃ t request, Run (Step guardedService) (fresh Unit)
        [.opened () true .failed .sent,
          .message () true true (requestText "device.getControllers" "1") .sent .sent] t ∧
      ((), request) ∈ t.passed ∧ ¬ Carries guardedService.authTokens (guardedService.peers ()).uri := by
  refine ⟨_, .object [(ascii "id", .unsigned 1), (ascii "jsonrpc", .string (ascii "2.0")),
    (ascii "method", .string (ascii "device.getControllers"))], .cons rfl (.cons rfl (.nil _)), ?_, ?_⟩
  · rw [onMessage_passed]
    exact List.mem_append_right _ (List.mem_singleton.mpr rfl)
  · rintro ⟨token, -, -, front, rest, split, -⟩
    have inside : ascii "token=" <:+: ascii "ws://10.0.0.1:6743/" := ⟨front, token ++ rest, by
      rw [← List.append_assoc]
      exact split.symm⟩
    revert inside
    decide +kernel

end Connections
end SyncRGB
