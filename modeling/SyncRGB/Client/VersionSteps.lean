import SyncRGB.Client.Versions

/-! Each step but the statements of the listener keeps the agreement about the version. -/
namespace SyncRGB
open Transition

namespace Session
variable {s t : Session}

theorem VersionInv.connection (inv : s.VersionInv) (kept : s.VersionKept .connection)
    (taken : s.Step .connection t) : t.VersionInv := by
  obtain ⟨next, moved, rfl⟩ := Option.map_eq_some_iff.mp taken
  cases pc : s.client.pc <;> simp only [NetworkClient.connectionStep, pc, Option.some.injEq] at moved
  case connecting => cases moved
  case versionRequest =>
    cases moved
    have running := inv.negotiates (by rw [pc]; rfl)
    have asked : (s.send (.protocolVersion sdkProtocolVersion)).VersionInv := by
      refine inv.sent ?_ ?_ ?_ ?_ <;> simp [Request.mark, Request.versionAfter]
    change (send { s with client := _ } _).VersionInv
    rw [send_with]
    refine asked.moved (by rw [send_client]; exact .of_eq rfl) (fun _ => ?_) (fun _ => ⟨?_, ?_⟩)
      (fun _ at_ => by cases at_) (fun at_ => by cases at_) (fun at_ => by cases at_) ?_
    · rw [send_listening, running]
    · rw [send_client, send_serverVersion, send_link]
      by_cases up : s.link = true
      · rw [send, if_pos up, marks_concat]
        exact .inr (.inr (by simp [Request.mark]))
      · exact .inr (.inl (by simpa using up))
    · rw [send_link, send_serverVersion]
      intro up
      rw [send, if_pos up, effectiveVersion_concat]
      rfl
    · rw [send_client, send_listening]
      intro shown
      refine ⟨rfl, by simp, (inv.once shown).2.2.imp (fun ready => ⟨ready.1, rfl⟩) ?_⟩
      exact fun other => other.imp_left fun at_ => absurd (at_.symm.trans pc) (by decide)
  case versionLoop =>
    cases moved
    refine inv.waiting (.of_eq rfl) rfl (by rw [pc]; rfl) ?_
    dsimp only
    split <;> rfl
  case versionWait =>
    cases moved
    exact inv.waiting (.of_eq rfl) rfl (by rw [pc]; rfl) rfl
  case versionTimedOut =>
    cases moved
    exact inv.waiting ⟨rfl, rfl, rfl, rfl, fun _ => rfl, rfl, rfl⟩ rfl (by rw [pc]; rfl) rfl
  case versionDone =>
    cases moved
    have running := inv.negotiates (by rw [pc]; rfl)
    obtain ⟨waiting, told⟩ := inv.negotiation (by rw [pc]; rfl)
    have once := inv.once
    rw [pc] at once
    exact { inv with
      current := inv.current.imp_right fun behind => { behind with early := rfl }
      awaited := waiting.imp_right fun waiting => waiting.imp_right .inr
      told := fun up _ => told up
      connecting := fun at_ => by cases at_
      initialized := fun _ _ => rfl
      closing := fun ending => absurd running (ne_true_of_eq_false ending)
      clearing := fun on => (inv.clearing on).imp_left fun reached => reached.imp fun k held =>
        ⟨held.1, held.2.rest, held.2.cleared⟩
      once := fun shown => ⟨rfl, by simp, (once shown).2.2.imp (fun ready => ⟨ready.1, rfl⟩)
        fun other => other.imp_left fun at_ => by cases at_⟩ }
  case publish =>
    cases moved
    have empty : s.client.controllers = [] := by
      by_contra shown
      exact absurd (inv.once shown).1 (by rw [pc]; decide)
    have known := inv.known (by rw [pc]; rfl)
    have nothing : s.client.controllers = [] ∧ s.client.serverControllers = [] →
        s.client.controllers ++ s.client.serverControllers = [] ∧ s.client.serverControllers = [] := by
      intro both
      rw [both.1, both.2]
      exact ⟨rfl, rfl⟩
    exact { inv with
      current := .inl known
      awaited := .inl known
      told := fun up _ => inv.told up (.inl (inv.initialized (inv.online up) (by rw [pc]; rfl)))
      connecting := fun at_ => by cases at_
      initialized := fun on _ => inv.initialized on (by rw [pc]; rfl)
      closing := fun ending => by
        obtain ⟨_, k, le, closing⟩ := inv.closing ending
        exact ⟨rfl, k, le, { closing with cleared := fun done => nothing (closing.cleared done) }⟩
      clearing := fun on => (inv.clearing on).imp_left fun reached => reached.imp fun k held =>
        ⟨held.1, held.2.rest, fun done => nothing (held.2.cleared done)⟩
      published := by simp [empty]
      once := fun _ => ⟨rfl, by simp, .inr (.inl rfl)⟩ }
  case published =>
    cases moved
    refine inv.moved (.of_eq rfl) (fun at_ => by cases at_) (fun at_ => by cases at_)
      (fun _ at_ => by cases at_) (fun at_ => by cases at_)
      (fun at_ => by cases at_) (fun _ => ⟨rfl, by simp, .inl ⟨rfl, rfl⟩⟩)
  case started =>
    cases moved
    refine inv.moved (.of_eq rfl) (fun at_ => by cases at_) (fun at_ => by cases at_)
      (fun _ at_ => by cases at_) (fun at_ => by cases at_)
      (fun at_ => by cases at_) (fun shown => absurd pc (inv.once shown).2.1)
  case top =>
    split at moved <;> cases moved
    case isTrue => exact inv.walked (.of_eq rfl) rfl (by rw [pc]; rfl)
    case isFalse off =>
      obtain ⟨ended, uncounted⟩ := inv.disconnected (by simpa using off)
      exact inv.moved (.of_eq rfl) (fun at_ => by cases at_) (fun at_ => by cases at_)
        (fun _ at_ => by cases at_) (fun _ => ended)
        (fun at_ => by cases at_) (fun _ => ⟨rfl, by simp, .inr (.inr ⟨uncounted, ended⟩)⟩)
  case check =>
    have once : s.client.controllers ≠ [] → s.client.serverInitialized = true ∨
        (s.client.serverControllerCountReceived = false ∧ s.listening = false) := by
      intro shown
      rcases (inv.once shown).2.2 with ready | at_ | ended
      · exact .inl ready.1
      · exact absurd (at_.symm.trans pc) (by decide)
      · exact .inr ended
    split at moved <;> cases moved
    case isFalse => exact inv.walked (.of_eq rfl) rfl (by rw [pc]; rfl)
    case isTrue start =>
      have on : s.client.serverConnected = true := by
        rw [Bool.and_eq_true] at start
        exact start.2
      by_cases done : s.client.protocolInitialized = true
      · rw [if_pos done]
        exact inv.moved (.of_eq rfl) (fun at_ => by cases at_) (fun at_ => by cases at_)
          (fun _ _ => done) (fun at_ => by cases at_) (fun at_ => by cases at_)
          (fun shown => ⟨rfl, by simp, (once shown).imp (fun ready => ⟨ready, rfl⟩) .inr⟩)
      · rw [if_neg done]
        exact inv.moved (.of_eq rfl) (fun _ => kept pc on (by simpa using done)) (fun at_ => by cases at_)
          (fun _ at_ => by cases at_) (fun at_ => by cases at_) (fun at_ => by cases at_)
          (fun shown => ⟨rfl, by simp, (once shown).imp (fun ready => ⟨ready, rfl⟩) .inr⟩)
  case listTest =>
    cases moved
    by_cases ready : s.client.serverInitialized = true
    · rw [if_pos ready]
      exact inv.walked (.of_eq rfl) rfl (by rw [pc]; rfl)
    · rw [if_neg ready]
      refine inv.moved (.of_eq rfl) (fun at_ => by cases at_) (fun at_ => by cases at_)
        (fun on _ => inv.initialized on (by rw [pc]; rfl)) (fun at_ => by cases at_)
        (fun at_ => by cases at_) (fun shown => ⟨rfl, by simp, ?_⟩)
      rcases (inv.once shown).2.2 with now | at_ | ended
      · exact absurd now.1 ready
      · exact absurd (at_.symm.trans pc) (by decide)
      · exact .inr (.inr ended)
  case countReceivedTest =>
    cases moved
    by_cases received : s.client.serverControllerCountReceived = true
    · rw [if_pos received]
      refine inv.moved (.of_eq rfl) (fun at_ => by cases at_) (fun at_ => by cases at_)
        (fun on _ => inv.initialized on (by rw [pc]; rfl)) (fun at_ => by cases at_)
        (fun _ => .inr received) (fun shown => ?_)
      rcases (inv.once shown).2.2 with now | at_ | ended
      · exact absurd now.2 (by rw [pc]; decide)
      · exact absurd (at_.symm.trans pc) (by decide)
      · exact absurd received (ne_true_of_eq_false ended.1)
    · rw [if_neg received]
      exact inv.walked (.of_eq rfl) rfl (by rw [pc]; rfl)
  case stringTest =>
    split at moved <;> cases moved
    case isTrue => exact inv.walked (.of_eq rfl) rfl (by rw [pc]; rfl)
    case isFalse =>
      have told : (s.send .clientString).VersionInv := by
        refine inv.sent ?_ ?_ ?_ ?_ <;> simp [Request.mark, Request.versionAfter]
      change (send { s with client := _ } _).VersionInv
      rw [send_with]
      exact told.walked (by rw [send_client]; exact .of_eq rfl)
        (by rw [send_client]) (by rw [send_client, pc]; rfl)
  case countTest =>
    split at moved <;> cases moved
    case isTrue => exact inv.walked (.of_eq rfl) rfl (by rw [pc]; rfl)
    case isFalse =>
      have asked : (s.send .controllerCount).VersionInv := by
        refine inv.sent (fun up _ => inv.initialized (inv.online up) (by rw [pc]; rfl)) ?_ ?_ ?_ <;>
          simp [Request.versionAfter]
      change (send { s with client := _ } _).VersionInv
      rw [send_with]
      exact asked.walked (by rw [send_client]; exact .of_eq rfl)
        (by rw [send_client]) (by rw [send_client, pc]; rfl)
  case dataSend =>
    cases moved
    have known := inv.known (by rw [pc]; rfl)
    have asked := inv.asked known s.client.requestedControllers
    change (send { s with client := _ } _).VersionInv
    rw [send_with]
    exact asked.walked (by rw [send_client]; exact .of_eq rfl)
      (by rw [send_client]; rfl) (by rw [send_client, pc]; rfl)
  case dataTest =>
    cases moved
    refine inv.walked (.of_eq rfl) rfl ?_
    rw [pc]
    dsimp only
    split <;> rfl
  case dataReceivedTest =>
    cases moved
    refine inv.walked (.of_eq rfl) rfl ?_
    rw [pc]
    dsimp only
    split <;> rfl
  case dataRequestTest =>
    split at moved <;> cases moved <;>
      exact inv.walked (.of_eq rfl) rfl (by rw [pc]; rfl)
  case stringSent | countSent | dataSent | advance | advanced | shortWait | longWait =>
    cases moved
    exact inv.walked (.of_eq rfl) rfl (by rw [pc]; rfl)

theorem VersionInv.connectFailed (inv : s.VersionInv) (taken : s.Step .connectFailed t) :
    t.VersionInv := by
  simp only [Step, step, Session.connectFailed] at taken
  split at taken <;> cases taken
  case isTrue pc => exact inv.walked (.of_eq rfl) rfl (by rw [pc]; rfl)

/-- The assumed version 0 is the one the client has anyway as long as no reply is handled. -/
theorem VersionInv.timeout (inv : s.VersionInv) (kept : s.VersionKept .timeout)
    (taken : s.Step .timeout t) : t.VersionInv := by
  simp only [Step, step, Session.timeout] at taken
  split at taken <;> cases taken
  case isTrue pc =>
    have zero : s.client.serverProtocolVersion = 0 := by
      by_contra some_
      rcases inv.assumed some_ with received | handled
      · exact absurd received (ne_true_of_eq_false kept.1)
      · exact kept.2 handled
    exact inv.waiting ⟨rfl, rfl, rfl, zero.symm, id, rfl, rfl⟩ rfl (by rw [pc]; rfl) rfl

/-- A connection is made from a client whose last listener has left nothing behind. -/
theorem VersionInv.connect (inv : s.VersionInv) {serverVersion devices : Nat}
    (kept : s.VersionKept (.connect serverVersion devices))
    (taken : s.Step (.connect serverVersion devices) t) : t.VersionInv := by
  simp only [Step, step, Session.connect] at taken
  split at taken <;> cases taken
  case isTrue pc =>
    obtain ⟨rested, version⟩ := kept
    obtain ⟨_, k, le, closing⟩ := inv.closing (inv.connecting pc)
    have last : k = 11 := by
      have rest := congrArg List.length (closing.rest.symm.trans rested)
      simp [listenDone] at rest
      omega
    subst last
    obtain ⟨noControllers, noMirrors⟩ := closing.cleared (by decide)
    have fresh := closing.uninitialized (by decide)
    refine {
      single := ?_
      offline := fun down => by cases down
      silent := fun ended => by cases ended
      assumed := fun some_ => (inv.assumed some_).imp_right fun handled => ?_
      received := fun _ member => by cases member
      handled := fun _ member => by cases member
      replied := fun _ member => by cases member
      unversioned := version
      current := .inr ⟨by simp [marks], closing.uncounted (by decide), noControllers, rfl⟩
      awaited := .inr (.inr (.inl ⟨fresh, rfl⟩))
      requested := fun _ _ member => by cases member
      encoded := fun _ _ member => by cases member
      decoding := fun _ member => by cases member
      told := fun _ reached => ?_
      modes := trivial
      listener := fun _ => ⟨rfl, fun _ member => (by cases member), fun _ member => by cases member⟩
      connecting := fun at_ => by cases at_
      initialized := fun _ at_ => by cases at_
      closing := fun ended => by cases ended
      clearing := fun _ => .inr fun _ member => by cases member
      published := inv.published
      once := fun shown => absurd noControllers shown }
    · rw [rested, if_pos rfl]
      exact inv.single
    · rw [rested] at handled
      cases handled
    · rcases reached with done | at_ | shown
      · exact absurd done (ne_true_of_eq_false fresh)
      · cases at_
      · exact absurd noControllers shown

theorem VersionInv.linkDown (inv : s.VersionInv) (taken : s.Step .linkDown t) : t.VersionInv := by
  cases taken
  exact { inv with
    offline := fun _ => rfl
    silent := fun _ => rfl
    current := inv.current.imp_right fun behind => { behind with
      first := fun first => behind.first (by
        simp only [marks, List.filterMap_nil, List.append_nil] at first ⊢
        rw [← List.append_assoc, List.head?_append, first]
        rfl) }
    awaited := .inr (.inl rfl)
    requested := fun _ _ member => by cases member
    told := fun up => by cases up
    modes := trivial }

theorem listenDone_marks : listenDone.filterMap Statement.mark = [] := rfl

theorem VersionInv.hangup (inv : s.VersionInv) (kept : s.VersionKept .hangup)
    (taken : s.Step .hangup t) : t.VersionInv := by
  simp only [Step, step, Session.hangup] at taken
  split at taken <;> cases taken
  case isTrue ready =>
    obtain ⟨running, rested, down⟩ := ready
    have none_ := inv.offline down
    refine { inv with
      silent := fun _ => down
      assumed := fun some_ => (inv.assumed some_).imp_right fun handled => by
        rw [rested] at handled
        cases handled
      received := fun _ member => by simp [listenDone] at member
      handled := fun _ member => by simp [listenDone] at member
      replied := fun _ member => by cases member
      current := inv.current.imp_right fun behind => { behind with
        first := by simp [marks, none_, listenDone_marks] }
      awaited := .inr (.inl down)
      encoded := fun _ _ member => by cases member
      decoding := fun _ member => by simp [listenDone] at member
      listener := fun on => by cases on
      connecting := fun _ => rfl
      initialized := fun on => by cases on
      closing := fun _ => ⟨kept, 0, by decide, rfl, fun _ => (inv.listener running).1,
        fun late => absurd late (by decide), fun late => absurd late (by decide),
        fun late => absurd late (by decide)⟩
      clearing := fun on => by cases on
      once := fun shown => ?_ }
    obtain ⟨early, started, ready⟩ := inv.once shown
    refine ⟨early, started, ready.imp_right fun other => other.imp_right fun ended => ?_⟩
    exact absurd running (ne_true_of_eq_false ended.2)

theorem handler_marks (reply : Reply) :
    reply.handler.filterMap Statement.mark = reply.mark.toList := by
  cases reply <;> rfl

theorem filterMap_mark_cons {α : Type} (f : α → Option Mark) (x : α) (xs : List α) :
    (x :: xs).filterMap f = (f x).toList ++ xs.filterMap f := by
  cases mark : f x <;> simp [mark]

theorem VersionInv.receive (inv : s.VersionInv) (taken : s.Step .receive t) : t.VersionInv := by
  simp only [Step, step, Session.receive] at taken
  split at taken
  case h_2 => cases taken
  case h_1 reply replies more =>
    split at taken <;> cases taken
    case isTrue ready =>
      obtain ⟨running, rested⟩ := ready
      have marked : marks { s with todo := reply.handler, replies := replies } = s.marks := by
        simp [marks, rested, more, handler_marks, filterMap_mark_cons]
      refine { inv with
        assumed := fun some_ => (inv.assumed some_).imp_right fun handled => ?_
        received := fun b member => ?_
        handled := fun v member => ?_
        replied := fun v member => inv.replied v (by rw [more]; exact List.mem_cons_of_mem _ member)
        current := inv.current.imp_right fun behind => { behind with
          first := by rw [marked]; exact behind.first }
        awaited := by rw [marked]; exact inv.awaited
        encoded := fun i v member => inv.encoded i v (by rw [more]; exact List.mem_cons_of_mem _ member)
        decoding := fun v member => ?_
        listener := fun on => ⟨(inv.listener on).1, ?_, ?_⟩
        closing := fun ended => absurd running (ne_true_of_eq_false ended)
        clearing := fun _ => ?_ }
      · rw [rested] at handled
        cases handled
      · cases reply <;> simp [Reply.handler] at member
        exact member
      · cases reply <;> simp [Reply.handler] at member
        subst member
        exact ⟨inv.replied v (by rw [more]; exact List.mem_cons_self), rfl⟩
      · cases reply <;> simp [Reply.handler] at member
        subst member
        exact inv.encoded _ v (by rw [more]; exact List.mem_cons_self)
      · cases reply <;> simp [Reply.handler]
      · cases reply <;> simp [Reply.handler]
      · cases reply
        case deviceListUpdated => exact .inl ⟨0, by decide, rfl, fun late => absurd late (by decide)⟩
        all_goals exact .inr (by simp [Reply.handler])

theorem VersionInv.deviceListChanged (inv : s.VersionInv) {devices : Nat}
    (taken : s.Step (.deviceListChanged devices) t) : t.VersionInv := by
  simp only [Step, step, Session.deviceListChanged] at taken
  split at taken <;> cases taken
  case isTrue =>
    have marked : marks { s with devices := devices, replies := s.replies ++ [.deviceListUpdated] } =
        s.marks := by
      simp [marks, Reply.mark]
    exact { inv with
      replied := fun v member => inv.replied v (by simpa using member)
      current := inv.current.imp_right fun behind => { behind with
        first := by rw [marked]; exact behind.first }
      awaited := by rw [marked]; exact inv.awaited
      encoded := fun i v member => inv.encoded i v (by simpa using member) }

theorem versionAfter_reply {S devices : Nat} (versions : S ≠ 0) (q : Request) :
    (q.reply S devices).toList.filterMap Reply.mark = q.mark.toList := by
  cases q with
  | protocolVersion => simp [Request.reply, Request.mark, Reply.mark, versions]
  | controllerCount => rfl
  | controllerData devIdx version =>
      simp only [Request.reply, Request.mark]
      split <;> rfl
  | _ => rfl

theorem VersionInv.serve (inv : s.VersionInv) (taken : s.Step .serve t) : t.VersionInv := by
  simp only [Step, step, Session.serve] at taken
  split at taken <;> cases taken
  case h_1 q requests more =>
    have marked : s.serverVersion ≠ 0 → marks { s with
        requests := requests
        clientProtocolVersion := q.versionAfter s.serverVersion s.clientProtocolVersion
        replies := s.replies ++ (q.reply s.serverVersion s.devices).toList } = s.marks := by
      intro versions
      simp [marks, more, versionAfter_reply versions, filterMap_mark_cons]
    have versions : s.client.serverProtocolVersion ≠ s.serverVersion → s.serverVersion ≠ 0 :=
      fun unknown zero => unknown ((inv.unversioned zero).trans zero.symm)
    have modes := inv.modes
    rw [more] at modes
    refine { inv with
      offline := fun down => absurd (inv.offline down) (by rw [more]; simp)
      replied := fun v member => ?_
      current := ?_
      awaited := ?_
      requested := fun i v member =>
        inv.requested i v (by rw [more]; exact List.mem_cons_of_mem _ member)
      encoded := fun i v member => ?_
      told := fun up reached => ?_
      modes := modes.2 }
    · rcases List.mem_append.mp member with before | new
      · exact inv.replied v before
      · cases q <;> simp [Request.reply] at new
        exact new.2.symm
    · by_cases known : s.client.serverProtocolVersion = s.serverVersion
      · exact .inl known
      · have behind := inv.current.resolve_left known
        exact .inr { behind with first := by rw [marked (versions known)]; exact behind.first }
    · by_cases known : s.client.serverProtocolVersion = s.serverVersion
      · exact .inl known
      · rw [marked (versions known)]
        exact inv.awaited
    · rcases List.mem_append.mp member with before | new
      · exact inv.encoded i v before
      · cases q <;> simp [Request.reply] at new
        obtain ⟨_, rfl, rfl⟩ := new
        obtain ⟨rfl, known⟩ := inv.requested _ _ (by rw [more]; exact List.mem_cons_self)
        refine ⟨?_, known⟩
        change min (min s.serverVersion _) s.serverVersion = min s.serverVersion _
        rw [Nat.min_comm, ← Nat.min_assoc, Nat.min_self]
    · have told := inv.told up reached
      simpa [effectiveVersion, more] using told

/-- Changes of the client that the invariant does not look at. -/
theorem VersionInv.untouched (inv : s.VersionInv) {c : NetworkClient} (same : SameVersions c s.client)
    (list : c.serverInitialized = s.client.serverInitialized) (pc : c.pc = s.client.pc) :
    VersionInv { s with client := c } := by
  refine inv.moved same ?_ ?_ ?_ ?_ ?_ ?_ <;> rw [pc]
  · exact inv.negotiates
  · exact inv.negotiation
  · exact inv.initialized
  · exact inv.connecting
  · exact .inl
  · rw [list]
    exact inv.once

theorem VersionInv.shown (inv : s.VersionInv) {position : Nat} {m : Mirror}
    (found : s.client.controllers[position]? = some m) :
    s.client.controllers ≠ [] ∧ s.client.serverProtocolVersion = s.serverVersion := by
  have shown : s.client.controllers ≠ [] := fun none_ => by simp [none_] at found
  exact ⟨shown, inv.current.resolve_right fun behind => shown behind.unpublished⟩

theorem VersionInv.call (inv : s.VersionInv) {position : Nat} {method : Method}
    (taken : s.Step (.call position method) t) : t.VersionInv := by
  obtain ⟨m, found, rfl⟩ := Option.map_eq_some_iff.mp taken
  obtain ⟨shown, known⟩ := inv.shown found
  split
  case isTrue => exact inv
  case isFalse =>
    refine inv.sent ?_ (fun _ => .inl rfl) ?_ ?_
    · exact fun _ counted => by simp [callRequest, Request.mark] at counted
    · exact fun _ _ same => by cases same
    · intro _ i v up same _
      cases same
      rw [inv.told up (.inr (.inr shown)), NetworkClient.getProtocolVersion_eq, known, Nat.min_comm]

theorem VersionInv.refresh (inv : s.VersionInv) {position : Nat}
    (taken : s.Step (.refresh position) t) : t.VersionInv := by
  obtain ⟨m, found, rfl⟩ := Option.map_eq_some_iff.mp taken
  have asked := inv.asked (inv.shown found).2 m.devIdx
  dsimp only
  rw [send_with]
  exact asked.untouched (by rw [send_client]; exact .of_eq rfl) (by rw [send_client]; rfl)
    (by rw [send_client]; rfl)

end Session
end SyncRGB
