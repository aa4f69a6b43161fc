import Mathlib.Tactic.IntervalCases
import SyncRGB.Client.Mirrors

/-! The protocol versions that client and server use on one connection. -/
namespace SyncRGB
open Transition

/-- The lines between the decision to send a version request and the end of the version wait. -/
def ConnectionPc.negotiating : ConnectionPc → Bool
  | .versionRequest | .versionLoop | .versionWait | .versionTimedOut | .versionDone => true
  | _ => false

/-- The lines of the version wait, behind the request. -/
def ConnectionPc.waits : ConnectionPc → Bool
  | .versionLoop | .versionWait | .versionTimedOut | .versionDone => true
  | _ => false

/-- The lines behind the negotiation in an iteration that initializes something. -/
def ConnectionPc.negotiated : ConnectionPc → Bool
  | .stringTest | .stringSent | .listTest | .countTest | .countSent | .countReceivedTest
  | .dataTest | .dataRequestTest | .dataSend | .dataSent | .dataReceivedTest | .advance | .advanced
  | .publish | .published => true
  | _ => false

/-- The lines that look at the list before the count is known to have been received. -/
def ConnectionPc.counting : ConnectionPc → Bool
  | .countTest | .countSent | .countReceivedTest => true
  | _ => false

/-- The lines reached only when the count has been received. -/
def ConnectionPc.counted : ConnectionPc → Bool
  | .dataTest | .dataRequestTest | .dataSend | .dataSent | .dataReceivedTest | .advance | .advanced
  | .publish => true
  | _ => false

/-- The lines between which the connection thread goes without a bearing on the invariant. -/
def ConnectionPc.plainly (p q : ConnectionPc) : Bool :=
  !q.negotiating && (p.negotiated || !q.negotiated) && (p.counted || !q.counted) &&
    (p.counting || !q.counting) && p != .published && q != .published && q != .connecting &&
    q != .started

theorem ConnectionPc.waits_elsewhere {pc : ConnectionPc} (at_ : pc.waits = true) :
    pc.negotiating = true ∧ pc.negotiated = false ∧ pc.counting = false ∧ pc.counted = false ∧
      pc ≠ .connecting ∧ pc ≠ .started ∧ pc ≠ .published := by
  cases pc <;> first | decide | cases at_

theorem NetworkClient.getProtocolVersion_eq (c : NetworkClient) :
    c.getProtocolVersion = min c.serverProtocolVersion sdkProtocolVersion := by
  unfold getProtocolVersion
  split <;> omega

/-- Each mode packet of the queue has the version that the server will hold when it comes to it. -/
def ModesAgree (serverVersion : Nat) : Nat → List Request → Prop
  | _, [] => True
  | current, q :: qs =>
      (∀ method devIdx version, q = .rgbController method devIdx version → method.sendsMode = true →
        version = current) ∧
      ModesAgree serverVersion (q.versionAfter serverVersion current) qs

theorem modesAgree_concat (S current : Nat) (qs : List Request) (q : Request) :
    ModesAgree S current (qs ++ [q]) ↔ ModesAgree S current qs ∧
      ∀ method devIdx version, q = .rgbController method devIdx version → method.sendsMode = true →
        version = qs.foldl (Request.versionAfter S) current := by
  induction qs generalizing current with
  | nil => simp [ModesAgree]
  | cons first rest ih =>
      simp only [List.cons_append, ModesAgree, List.foldl_cons, ih, and_assoc]

/-- What a packet on its way means to the two counters it can change at the client. -/
inductive Mark
  | version | count
deriving DecidableEq

def Statement.mark : Statement → Option Mark
  | .setVersion _ => some .version
  | .setCountReceived true => some .count
  | _ => none

def Reply.mark : Reply → Option Mark
  | .protocolVersion _ => some .version
  | .controllerCount _ => some .count
  | _ => none

def Request.mark : Request → Option Mark
  | .protocolVersion _ => some .version
  | .controllerCount => some .count
  | _ => none

namespace Session

/-- The version that the server will hold for the client when it has worked off the packets on
their way. -/
def effectiveVersion (s : Session) : Nat :=
  s.requests.foldl (Request.versionAfter s.serverVersion) s.clientProtocolVersion

/-- The version and count packets between the client's request and its last assignment, in order. -/
def marks (s : Session) : List Mark :=
  s.todo.filterMap Statement.mark ++
    (s.replies.filterMap Reply.mark ++ s.requests.filterMap Request.mark)

structure VersionsAgree (s : Session) : Prop where
  decoded : ∀ version rest, s.todo = .decode version :: rest →
    s.client.getProtocolVersion = version
  modes : ModesAgree s.serverVersion s.clientProtocolVersion s.requests

/-- The version wait times out only while no version reply has been or is being handled. A connection
is made only when the listener of the one before has returned, and to a server without versions only
by a client that holds version 0. The listener does not end while the connection thread negotiates,
and the thread does not begin to while the listener ends. -/
def VersionKept (s : Session) : Action → Prop
  | .timeout => s.client.serverProtocolVersionReceived = false ∧
      Statement.setVersionReceived true ∉ s.todo
  | .connect serverVersion _ => s.todo = [] ∧
      (serverVersion = 0 → s.client.serverProtocolVersion = 0)
  | .hangup => s.client.pc.negotiating = false
  | .connection => s.client.pc = .check → s.client.serverConnected = true →
      s.client.protocolInitialized = false → s.listening = true
  | _ => True

instance (s : Session) : (a : Action) → Decidable (s.VersionKept a)
  | .timeout | .connect .. => inferInstanceAs (Decidable (_ ∧ _))
  | .hangup => inferInstanceAs (Decidable (_ = _))
  | .connection => inferInstanceAs (Decidable (_ = _ → _ = _ → _ = _ → _ = _))
  | .connectFailed | .receive | .statement | .endingStatement | .linkDown | .serve
  | .deviceListChanged _ | .call .. | .refresh _ => inferInstanceAs (Decidable True)

/-- While the client does not know the server's version, no count is ahead of the version reply, and
nothing has been loaded. -/
structure Behind (s : Session) : Prop where
  first : s.marks.head? ≠ some .count
  uncounted : s.client.serverControllerCountReceived = false
  unpublished : s.client.controllers = []
  early : s.client.pc.counted = false

/-- How far the end of the listener has come. -/
structure Closing (c : NetworkClient) (todo : List Statement) (k : Nat) : Prop where
  rest : todo = listenDone.drop k
  connected : k ≤ 9 → c.serverConnected = true
  uninitialized : 4 ≤ k → c.protocolInitialized = false
  uncounted : 8 ≤ k → c.serverControllerCountReceived = false
  cleared : 11 ≤ k → c.controllers = [] ∧ c.serverControllers = []

/-- How far the handling of a notification has come. -/
structure Clearing (c : NetworkClient) (todo : List Statement) (k : Nat) : Prop where
  rest : todo = Reply.deviceListUpdated.handler.drop k
  cleared : 2 ≤ k → c.controllers = [] ∧ c.serverControllers = []

structure VersionInv (s : Session) : Prop where
  single : s.ending = []
  offline : s.link = false → s.requests = []
  silent : s.listening = false → s.link = false
  assumed : s.client.serverProtocolVersion ≠ 0 → s.client.serverProtocolVersionReceived = true ∨
    Statement.setVersionReceived true ∈ s.todo
  received : ∀ b, Statement.setVersionReceived b ∈ s.todo → b = true
  handled : ∀ v, Statement.setVersion v ∈ s.todo →
    v = s.serverVersion ∧ s.todo = [.setVersion v, .setVersionReceived true]
  replied : ∀ v, Reply.protocolVersion v ∈ s.replies → v = s.serverVersion
  unversioned : s.serverVersion = 0 → s.client.serverProtocolVersion = 0
  current : s.client.serverProtocolVersion = s.serverVersion ∨ s.Behind
  awaited : s.client.serverProtocolVersion = s.serverVersion ∨ s.link = false ∨
    (s.client.protocolInitialized = false ∧ s.client.pc.waits = false) ∨ s.marks ≠ []
  requested : ∀ i v, Request.controllerData i v ∈ s.requests →
    v = min s.serverVersion sdkProtocolVersion ∧ s.client.serverProtocolVersion = s.serverVersion
  encoded : ∀ i v, Reply.controllerData i v ∈ s.replies →
    v = min s.serverVersion sdkProtocolVersion ∧ s.client.serverProtocolVersion = s.serverVersion
  decoding : ∀ v, Statement.decode v ∈ s.todo →
    v = min s.serverVersion sdkProtocolVersion ∧ s.client.serverProtocolVersion = s.serverVersion
  told : s.link = true → s.client.protocolInitialized = true ∨
    s.client.pc.waits = true ∨ s.client.controllers ≠ [] →
    s.effectiveVersion = min sdkProtocolVersion s.serverVersion
  modes : ModesAgree s.serverVersion s.clientProtocolVersion s.requests
  listener : s.listening = true → s.client.serverConnected = true ∧
    (∀ b, Statement.setConnected b ∉ s.todo) ∧ ∀ b, Statement.setProtocolInitialized b ∉ s.todo
  connecting : s.client.pc = .connecting → s.listening = false
  initialized : s.listening = true → s.client.pc.negotiated = true →
    s.client.protocolInitialized = true
  closing : s.listening = false → s.client.pc.negotiating = false ∧ ∃ k ≤ 11, Closing s.client s.todo k
  clearing : s.listening = true → (∃ k ≤ 11, Clearing s.client s.todo k) ∨
    ∀ b, Statement.setInitialized b ∉ s.todo
  published : s.client.controllers <+: s.client.serverControllers
  once : s.client.controllers ≠ [] → s.client.pc.counted = false ∧ s.client.pc ≠ .started ∧
    ((s.client.serverInitialized = true ∧ s.client.pc.counting = false) ∨ s.client.pc = .published ∨
      (s.client.serverControllerCountReceived = false ∧ s.listening = false))

variable {s t : Session}

theorem VersionInv.agree (inv : s.VersionInv) : s.VersionsAgree := by
  refine ⟨fun version rest next => ?_, inv.modes⟩
  obtain ⟨encoded, current⟩ := inv.decoding version (by rw [next]; exact List.mem_cons_self)
  rw [NetworkClient.getProtocolVersion_eq, current, encoded]

theorem versionInv_initial (dataReceived dataRequested initialized versionReceived : Bool) (n : Nat) :
    (initial (.constructed dataReceived dataRequested initialized versionReceived n)).VersionInv := by
  constructor <;> simp [initial, NetworkClient.constructed, ModesAgree, ConnectionPc.negotiating,
    ConnectionPc.negotiated]
  exact ⟨11, le_rfl, by constructor <;> simp [listenDone]⟩

structure SameVersions (c d : NetworkClient) : Prop where
  initialized : c.protocolInitialized = d.protocolInitialized
  connected : c.serverConnected = d.serverConnected
  countReceived : c.serverControllerCountReceived = d.serverControllerCountReceived
  version : c.serverProtocolVersion = d.serverProtocolVersion
  received : d.serverProtocolVersionReceived = true → c.serverProtocolVersionReceived = true
  mirrors : c.serverControllers = d.serverControllers
  controllers : c.controllers = d.controllers

/-- What the version negotiation depends on, as one value. -/
def versionView (c : NetworkClient) :=
  (c.protocolInitialized, c.serverConnected, c.serverControllerCountReceived, c.serverProtocolVersion,
    c.serverProtocolVersionReceived, c.serverControllers, c.controllers)

theorem SameVersions.of_eq {c d : NetworkClient} (same : versionView c = versionView d) : SameVersions c d := by
  simp only [versionView, Prod.mk.injEq] at same
  obtain ⟨initialized, connected, count, version, received, mirrors, controllers⟩ := same
  exact ⟨initialized, connected, count, version, fun told => received.trans told, mirrors, controllers⟩

/-- A step of the connection thread that changes nothing of the version negotiation but its line. -/
theorem VersionInv.moved (inv : s.VersionInv) {c : NetworkClient} (same : SameVersions c s.client)
    (negotiating : c.pc.negotiating = true → s.listening = true)
    (waits : c.pc.waits = true →
      (s.client.serverProtocolVersion = s.serverVersion ∨ s.link = false ∨ s.marks ≠ []) ∧
      (s.link = true → s.effectiveVersion = min sdkProtocolVersion s.serverVersion))
    (negotiated : s.listening = true → c.pc.negotiated = true → s.client.protocolInitialized = true)
    (connecting : c.pc = .connecting → s.listening = false)
    (counted : c.pc.counted = true → s.client.pc.counted = true ∨
      s.client.serverControllerCountReceived = true)
    (once : s.client.controllers ≠ [] → c.pc.counted = false ∧ c.pc ≠ .started ∧
      ((c.serverInitialized = true ∧ c.pc.counting = false) ∨ c.pc = .published ∨
        (s.client.serverControllerCountReceived = false ∧ s.listening = false))) :
    VersionInv { s with client := c } := by
  obtain ⟨pi, sc, cr, sv, vr, ms, cs⟩ := same
  refine { inv with
    assumed := by rw [sv]; exact fun some_ => (inv.assumed some_).imp_left vr
    unversioned := by rw [sv]; exact inv.unversioned
    current := ?_
    awaited := ?_
    requested := by rw [sv]; exact inv.requested
    encoded := by rw [sv]; exact inv.encoded
    decoding := by rw [sv]; exact inv.decoding
    told := ?_
    listener := by rw [sc]; exact inv.listener
    connecting := connecting
    initialized := by rw [pi]; exact negotiated
    closing := ?_
    clearing := ?_
    published := by rw [ms, cs]; exact inv.published
    once := by rw [cs, cr]; exact once }
  · rcases inv.current with current | behind
    · exact .inl (sv.trans current)
    · refine .inr ⟨behind.first, cr.trans behind.uncounted, cs.trans behind.unpublished, ?_⟩
      by_contra later
      rcases counted (by simpa using later) with before | received
      · exact absurd before (by simp [behind.early])
      · exact absurd received (by simp [behind.uncounted])
  · rw [sv, pi]
    cases at_ : c.pc.waits with
    | true =>
        rcases (waits at_).1 with known | down | more
        · exact .inl known
        · exact .inr (.inl down)
        · exact .inr (.inr (.inr more))
    | false =>
        rcases inv.awaited with known | down | ⟨fresh, _⟩ | more
        · exact .inl known
        · exact .inr (.inl down)
        · exact .inr (.inr (.inl ⟨fresh, rfl⟩))
        · exact .inr (.inr (.inr more))
  · rw [pi, cs]
    rintro up (done | at_ | shown)
    · exact inv.told up (.inl done)
    · exact (waits at_).2 up
    · exact inv.told up (.inr (.inr shown))
  · intro ending
    obtain ⟨_, k, le, closing⟩ := inv.closing ending
    refine ⟨?_, k, le, ⟨closing.rest, sc ▸ closing.connected, pi ▸ closing.uninitialized,
      cr ▸ closing.uncounted, by rw [cs, ms]; exact closing.cleared⟩⟩
    by_contra asked
    have running := negotiating (by simpa using asked)
    exact absurd running (ne_true_of_eq_false ending)
  · intro running
    rcases inv.clearing running with ⟨k, le, clearing⟩ | other
    · exact .inl ⟨k, le, clearing.rest, by rw [cs, ms]; exact clearing.cleared⟩
    · exact .inr other

theorem marks_concat (s : Session) (q : Request) :
    marks { s with requests := s.requests ++ [q] } = s.marks ++ q.mark.toList := by
  cases mark : q.mark <;> simp [marks, mark]

theorem effectiveVersion_concat (s : Session) (q : Request) :
    effectiveVersion { s with requests := s.requests ++ [q] } =
      q.versionAfter s.serverVersion s.effectiveVersion := by
  simp [effectiveVersion]

/-- A packet that the client sends keeps the invariant when it is encoded for the version the server
will then hold, and when a count is asked for only behind the version. -/
theorem VersionInv.sent (inv : s.VersionInv) {q : Request}
    (count : s.link = true → q.mark = some .count → s.client.protocolInitialized = true)
    (version : s.link = true → q.versionAfter s.serverVersion s.effectiveVersion = s.effectiveVersion ∨
      q.versionAfter s.serverVersion s.effectiveVersion = min sdkProtocolVersion s.serverVersion)
    (data : ∀ i v, q = .controllerData i v → v = min s.serverVersion sdkProtocolVersion ∧
      s.client.serverProtocolVersion = s.serverVersion)
    (mode : ∀ method i v, s.link = true → q = .rgbController method i v → method.sendsMode = true →
      v = s.effectiveVersion) :
    (s.send q).VersionInv := by
  unfold send
  split
  case isFalse => exact inv
  case isTrue up =>
    refine { inv with
      offline := fun down => absurd up (by rw [down]; decide)
      current := ?_
      awaited := ?_
      requested := ?_
      told := ?_
      modes := ?_ }
    · by_cases current : s.client.serverProtocolVersion = s.serverVersion
      · exact .inl current
      · have behind := inv.current.resolve_left current
        refine .inr ⟨?_, behind.uncounted, behind.unpublished, behind.early⟩
        rw [marks_concat]
        cases marks : s.marks with
        | cons first rest => simpa [marks] using behind.first
        | nil =>
            intro counted
            rcases inv.awaited.resolve_left current with down | ⟨fresh, _⟩ | more
            · exact absurd up (ne_true_of_eq_false down)
            · have known := count up (by simpa using counted)
              exact absurd known (ne_true_of_eq_false fresh)
            · exact more marks
    · rw [marks_concat]
      rcases inv.awaited with current | down | fresh | more
      · exact .inl current
      · exact .inr (.inl down)
      · exact .inr (.inr (.inl fresh))
      · exact .inr (.inr (.inr (by simp [more])))
    · intro i v sent
      rcases List.mem_append.mp sent with before | new
      · exact inv.requested i v before
      · exact data i v (List.mem_singleton.mp new).symm
    · intro _ reached
      rw [effectiveVersion_concat]
      have told := inv.told up reached
      rcases version up with same | new
      · exact same.trans told
      · exact new
    · refine (modesAgree_concat _ _ _ _).mpr ⟨inv.modes, ?_⟩
      intro method i v same holds
      exact mode method i v up same holds

theorem VersionInv.online (inv : s.VersionInv) (up : s.link = true) : s.listening = true := by
  by_contra ending
  exact absurd up (ne_true_of_eq_false (inv.silent (by simpa using ending)))

theorem VersionInv.negotiates (inv : s.VersionInv) (asked : s.client.pc.negotiating = true) :
    s.listening = true := by
  by_contra ending
  exact absurd asked (ne_true_of_eq_false (inv.closing (by simpa using ending)).1)

theorem VersionInv.known (inv : s.VersionInv) (counted : s.client.pc.counted = true) :
    s.client.serverProtocolVersion = s.serverVersion :=
  inv.current.resolve_right fun behind => absurd counted (ne_true_of_eq_false behind.early)

/-- Controller data is asked for in the version that server and client agree on. -/
theorem VersionInv.asked (inv : s.VersionInv)
    (known : s.client.serverProtocolVersion = s.serverVersion) (devIdx : Nat) :
    (s.send (s.client.sendRequestControllerData devIdx).2).VersionInv := by
  refine inv.sent ?_ ?_ ?_ ?_
  · exact fun _ counted => by simp [NetworkClient.sendRequestControllerData, Request.mark] at counted
  · exact fun _ => .inl rfl
  · intro i v same
    cases same
    exact ⟨by rw [NetworkClient.getProtocolVersion_eq, known], known⟩
  · exact fun _ _ _ _ same => by cases same

theorem VersionInv.disconnected (inv : s.VersionInv) (off : s.client.serverConnected = false) :
    s.listening = false ∧ s.client.serverControllerCountReceived = false := by
  have ended : s.listening = false := by
    by_contra running
    have on := (inv.listener (by simpa using running)).1
    exact absurd on (ne_true_of_eq_false off)
  obtain ⟨_, k, _, closing⟩ := inv.closing ended
  refine ⟨ended, closing.uncounted ?_⟩
  by_contra early
  exact absurd (closing.connected (by omega)) (ne_true_of_eq_false off)

/-- While the connection thread waits for a version, the request is on its way or answered, or the
connection is gone. -/
theorem VersionInv.negotiation (inv : s.VersionInv) (at_ : s.client.pc.waits = true) :
    (s.client.serverProtocolVersion = s.serverVersion ∨ s.link = false ∨ s.marks ≠ []) ∧
      (s.link = true → s.effectiveVersion = min sdkProtocolVersion s.serverVersion) := by
  refine ⟨?_, fun up => inv.told up (.inr (.inl at_))⟩
  rcases inv.awaited with known | down | ⟨_, idle⟩ | more
  · exact .inl known
  · exact .inr (.inl down)
  · exact absurd at_ (ne_true_of_eq_false idle)
  · exact .inr (.inr more)

theorem VersionInv.waiting (inv : s.VersionInv) {c : NetworkClient} (same : SameVersions c s.client)
    (list : c.serverInitialized = s.client.serverInitialized) (before : s.client.pc.waits = true)
    (after : c.pc.waits = true) : VersionInv { s with client := c } := by
  obtain ⟨negotiating, _, _, _, _, _, notPublished⟩ := ConnectionPc.waits_elsewhere before
  obtain ⟨_, notNegotiated, notCounting, notCounted, notConnecting, notStarted, _⟩ :=
    ConnectionPc.waits_elsewhere after
  refine inv.moved same (fun _ => inv.negotiates negotiating) (fun _ => inv.negotiation before)
    ?_ ?_ ?_ ?_
  · exact fun _ now => absurd now (ne_true_of_eq_false notNegotiated)
  · exact fun now => absurd now notConnecting
  · exact fun now => absurd now (ne_true_of_eq_false notCounted)
  · intro shown
    refine ⟨notCounted, notStarted, ?_⟩
    rcases (inv.once shown).2.2 with ready | published | ended
    · exact .inl ⟨list.trans ready.1, notCounting⟩
    · exact absurd published notPublished
    · exact .inr (.inr ended)

theorem VersionInv.walked (inv : s.VersionInv) {c : NetworkClient} (same : SameVersions c s.client)
    (list : c.serverInitialized = s.client.serverInitialized)
    (plainly : ConnectionPc.plainly s.client.pc c.pc = true) :
    VersionInv { s with client := c } := by
  simp only [ConnectionPc.plainly, Bool.and_eq_true, Bool.or_eq_true, Bool.not_eq_eq_eq_not,
    Bool.not_true, bne_iff_ne, ne_eq] at plainly
  obtain ⟨⟨⟨⟨⟨⟨⟨negotiating, negotiated⟩, counted⟩, counting⟩, before⟩, _⟩, connecting⟩, started⟩ :=
    plainly
  have notWaiting : c.pc.waits = false := by
    cases at_ : c.pc <;> first | rfl | (rw [at_] at negotiating; cases negotiating)
  refine inv.moved same ?_ ?_ ?_ ?_ ?_ ?_
  · exact fun asked => absurd asked (ne_true_of_eq_false negotiating)
  · exact fun at_ => absurd at_ (ne_true_of_eq_false notWaiting)
  · refine fun on now => inv.initialized on (negotiated.resolve_right ?_)
    simp [now]
  · exact fun now => absurd now connecting
  · refine fun now => .inl (counted.resolve_right ?_)
    simp [now]
  · intro shown
    obtain ⟨early, _, ready⟩ := inv.once shown
    refine ⟨by simpa [early] using counted, started, ?_⟩
    rcases ready with ⟨ready, past⟩ | shown | ended
    · exact .inl ⟨list.trans ready, by simpa [past] using counting⟩
    · exact absurd shown before
    · exact .inr (.inr ended)

end Session
end SyncRGB
