import SyncRGB.Client.Mirrors

/-! How far the loading of the list has come, in phases that no order of the threads leaves. -/
namespace SyncRGB
open Transition

/-- The lines inside `if(!server_initialized)`. -/
def ConnectionPc.listing : ConnectionPc → Bool
  | .countTest | .countSent | .countReceivedTest | .dataTest | .dataRequestTest | .dataSend
  | .dataSent | .dataReceivedTest | .advance | .advanced | .publish | .published => true
  | _ => false

/-- The other lines of an iteration on an open connection. -/
def ConnectionPc.elsewhere (pc : ConnectionPc) : Bool :=
  !pc.listing && pc != .connecting && pc != .started

/-- The lines at which the data of one device can be awaited. -/
def ConnectionPc.awaiting (pc : ConnectionPc) : Bool :=
  pc.elsewhere || pc == .countTest || pc == .countReceivedTest || pc == .dataTest ||
    pc == .dataRequestTest || pc == .dataReceivedTest

def Statement.resets : Statement → Bool
  | .decode _ | .store _ | .setDataReceived true | .setVersion _ | .setVersionReceived _
  | .setConnected true | .setInitialized true => false
  | _ => true

def Reply.resets : Reply → Bool
  | .controllerCount _ | .deviceListUpdated => true
  | _ => false

/-- A part of the list that has been asked for and is not stored yet. -/
inductive Load
  | count
  | data (devIdx : Nat)
deriving DecidableEq

def Statement.load : Statement → Option Load
  | .store devIdx => some (.data devIdx)
  | _ => none

def Reply.load : Reply → Option Load
  | .controllerCount _ => some .count
  | .controllerData devIdx _ => some (.data devIdx)
  | _ => none

def Request.load : Request → Option Load
  | .controllerCount => some .count
  | .controllerData devIdx _ => some (.data devIdx)
  | _ => none

/-- What a listener can be in the middle of. -/
inductive Handling : List Statement → Prop
  | resetting {todo : List Statement} (all : ∀ x ∈ todo, x.resets = true) : Handling todo
  | decoding (version devIdx : Nat) :
      Handling [.decode version, .store devIdx, .setDataReceived true]
  | storing (devIdx : Nat) : Handling [.store devIdx, .setDataReceived true]
  | acknowledging : Handling [.setDataReceived true]
  | version (v : Nat) : Handling [.setVersion v, .setVersionReceived true]
  | versionReceived : Handling [.setVersionReceived true]

theorem handling_handler (reply : Reply) : Handling reply.handler := by
  cases reply with
  | controllerData devIdx version => exact .decoding version devIdx
  | protocolVersion v => exact .version v
  | controllerCount => exact .resetting (by simp [Reply.handler, Statement.resets])
  | deviceListUpdated => exact .resetting (by simp [Reply.handler, Statement.resets])

theorem handler_calm {reply : Reply} (unreset : reply.resets = false) :
    ∀ x ∈ reply.handler, x.resets = false := by
  cases reply with
  | controllerData => simp [Reply.handler, Statement.resets]
  | protocolVersion => simp [Reply.handler, Statement.resets]
  | controllerCount => cases unreset
  | deviceListUpdated => cases unreset

/-- What the loading of the list depends on, in two clients of which the first may have lost its
list. -/
structure Below (c d : NetworkClient) : Prop where
  ready : c.serverInitialized = true → d.serverInitialized = true
  connected : c.serverConnected = d.serverConnected
  dataReceived : c.controllerDataReceived = d.controllerDataReceived
  dataRequested : c.controllerDataRequested = d.controllerDataRequested
  count : c.serverControllerCount = d.serverControllerCount
  countRequested : c.serverControllerCountRequested = d.serverControllerCountRequested
  countReceived : c.serverControllerCountReceived = d.serverControllerCountReceived
  requested : c.requestedControllers = d.requestedControllers
  mirrors : c.serverControllers = d.serverControllers
  controllers : c.controllers = d.controllers
  handled : c.handled = d.handled
  countAsked : c.countAsked = d.countAsked

/-- What the loading of the list depends on, as one value. -/
def loadingView (c : NetworkClient) :=
  (c.serverInitialized, c.serverConnected, c.controllerDataReceived, c.controllerDataRequested,
    c.serverControllerCount, c.serverControllerCountRequested, c.serverControllerCountReceived,
    c.requestedControllers, c.serverControllers, c.controllers, c.handled, c.countAsked)

namespace Below

theorem of_eq {c d : NetworkClient} (same : loadingView c = loadingView d) : Below c d := by
  simp only [loadingView, Prod.mk.injEq] at same
  obtain ⟨ready, h1, h2, h3, h4, h5, h6, h7, h8, h9, h10, h11⟩ := same
  exact ⟨fun initialized => ready.symm.trans initialized, h1, h2, h3, h4, h5, h6, h7, h8, h9, h10, h11⟩

theorem run {c d : NetworkClient} (below : Below c d) {x : Statement} (resets : x.resets = true) :
    Below (c.run x) (d.run x) := by
  obtain ⟨ready, h1, h2, h3, h4, h5, h6, h7, h8, h9, h10, h11⟩ := below
  cases x with
  | store => cases resets
  | _ => constructor <;> simp_all [NetworkClient.run, NetworkClient.clearLists]

theorem runAll {c d : NetworkClient} (below : Below c d) {xs : List Statement}
    (resets : ∀ x ∈ xs, x.resets = true) :
    Below (xs.foldl NetworkClient.run c) (xs.foldl NetworkClient.run d) := by
  induction xs generalizing c d with
  | nil => exact below
  | cons x xs ih =>
      exact ih (below.run (resets x List.mem_cons_self))
        fun y member => resets y (List.mem_cons_of_mem _ member)

theorem unready {c d : NetworkClient} (below : Below d c) (unready : c.serverInitialized = false) :
    d.serverInitialized = false := by
  by_contra ready
  exact absurd (below.ready (by simpa using ready)) (ne_true_of_eq_false unready)

end Below

/-- A step of the connection thread outside the loading of the list has no part in it. -/
theorem NetworkClient.connectionStep_elsewhere {c : NetworkClient}
    {next : NetworkClient × Option Request} (taken : c.connectionStep = some next)
    (outside : c.pc.listing = false) :
    Below next.1 c ∧ (Below c next.1 ∨ c.pc = .started ∨ c.serverConnected = false) ∧
      (∀ q, next.2 = some q → q.load = none) ∧
      (next.1.pc.elsewhere = true ∨ next.1.pc = .connecting ∧ c.serverConnected = false ∨
        c.pc = .listTest ∧ next.1.pc = .countTest ∧ c.serverInitialized = false) := by
  cases pc : c.pc <;>
    simp only [NetworkClient.connectionStep, pc, Option.some.injEq] at taken outside
  case connecting => cases taken
  case top =>
    split at taken <;> cases taken
    case isTrue => exact ⟨.of_eq rfl, .inl (.of_eq rfl), fun _ sent => (by cases sent), .inl rfl⟩
    case isFalse off =>
      have off : c.serverConnected = false := by simpa using off
      exact ⟨⟨nofun, rfl, rfl, rfl, rfl, rfl, rfl, rfl, rfl, rfl, rfl, rfl⟩, .inr (.inr off),
        fun _ sent => (by cases sent), .inr (.inl ⟨rfl, off⟩)⟩
  case started =>
    cases taken
    exact ⟨⟨nofun, rfl, rfl, rfl, rfl, rfl, rfl, rfl, rfl, rfl, rfl, rfl⟩, .inr (.inl rfl),
      fun _ sent => (by cases sent), .inl rfl⟩
  case check =>
    split at taken <;> cases taken
    case isTrue =>
      refine ⟨.of_eq rfl, .inl (.of_eq rfl), fun _ sent => (by cases sent), .inl ?_⟩
      dsimp only
      split <;> rfl
    case isFalse => exact ⟨.of_eq rfl, .inl (.of_eq rfl), fun _ sent => (by cases sent), .inl rfl⟩
  case versionLoop =>
    cases taken
    refine ⟨.of_eq rfl, .inl (.of_eq rfl), fun _ sent => (by cases sent), .inl ?_⟩
    dsimp only
    split <;> rfl
  case stringTest =>
    split at taken <;> cases taken
    case isTrue => exact ⟨.of_eq rfl, .inl (.of_eq rfl), fun _ sent => (by cases sent), .inl rfl⟩
    case isFalse => exact ⟨.of_eq rfl, .inl (.of_eq rfl), fun _ sent => (by cases sent; rfl), .inl rfl⟩
  case listTest =>
    cases taken
    refine ⟨.of_eq rfl, .inl (.of_eq rfl), fun _ sent => (by cases sent), ?_⟩
    by_cases ready : c.serverInitialized = true
    · rw [if_pos ready]
      exact .inl rfl
    · rw [if_neg ready]
      exact .inr (.inr ⟨rfl, rfl, by simpa using ready⟩)
  case versionRequest =>
    cases taken
    exact ⟨.of_eq rfl, .inl (.of_eq rfl), fun _ sent => (by cases sent; rfl), .inl rfl⟩
  case versionWait | versionTimedOut | versionDone | stringSent | shortWait | longWait =>
    cases taken
    exact ⟨.of_eq rfl, .inl (.of_eq rfl), fun _ sent => (by cases sent), .inl rfl⟩
  all_goals cases outside

namespace Session

/-- The parts of the list on their way from the client's request to the end of the reply. -/
def loads (s : Session) : List Load :=
  s.replies.filterMap Reply.load ++ s.requests.filterMap Request.load

/-- With the reply whose data the listener has not stored yet. -/
def pending (s : Session) : List Load := s.todo.filterMap Statement.load ++ s.loads

/-- The client when the listener has done with the handler it is in, if that starts something anew. -/
def settled (s : Session) : NetworkClient :=
  (s.todo.filter Statement.resets).foldl NetworkClient.run s.client

/-- The purpose of a notification: once one has been handled, and while no handler is about to take the
list back, a list is shown as ready only if its count has been asked for since, and it holds that many
different mirrors, all received since. -/
def ListCurrent (s : Session) : Prop :=
  0 < s.client.handled → .setInitialized false ∉ s.todo → s.client.serverInitialized = true →
    s.client.countAsked = true ∧ s.client.controllers.Nodup ∧
      s.client.controllers.length = s.client.serverControllerCount ∧
      ∀ m ∈ s.client.controllers, m.since = s.client.handled

/-- The handlers that reset something and the lines inside `if(!server_initialized)` exclude each
other. A notification is taken up only when nothing of the list is on its way, a mirror is refreshed
only outside those handlers, and a connection is made only when the listener of the one before has
returned. -/
def ListKept (s : Session) : Action → Prop
  | .connection => s.client.pc = .listTest → ∀ x ∈ s.todo, x.resets = false
  | .connect .. => s.todo = []
  | .receive => ∀ reply ∈ s.replies.head?,
      (reply.resets = true → s.client.pc.listing = false) ∧
      (reply = .deviceListUpdated → s.loads = [])
  | .hangup => s.client.pc.listing = false
  | .refresh _ => ∀ x ∈ s.todo, x.resets = false
  | _ => True

instance (s : Session) : (a : Action) → Decidable (s.ListKept a)
  | .connection => inferInstanceAs (Decidable (_ = _ → ∀ x ∈ s.todo, x.resets = false))
  | .connect .. | .hangup => inferInstanceAs (Decidable (_ = _))
  | .receive => inferInstanceAs (Decidable (∀ reply ∈ s.replies.head?, (_ → _) ∧ (_ → _)))
  | .refresh _ => inferInstanceAs (Decidable (∀ x ∈ s.todo, x.resets = false))
  | .connectFailed | .timeout | .statement | .endingStatement | .linkDown | .serve
  | .deviceListChanged _ | .call .. => inferInstanceAs (Decidable True)

/-- Nothing of the list is there. -/
structure Waiting (c : NetworkClient) : Prop where
  unasked : c.serverControllerCountRequested = false
  uncounted : c.serverControllerCountReceived = false
  unready : c.serverInitialized = false
  empty : c.serverControllers = []
  unpublished : c.controllers = []

/-- The count has been asked for. -/
structure Asked (c : NetworkClient) (loads : List Load) : Prop where
  asked : c.countAsked = true
  uncounted : c.serverControllerCountReceived = false
  unready : c.serverInitialized = false
  empty : c.serverControllers = []
  unpublished : c.controllers = []
  one : loads.Sublist [.count]
  gone : c.serverConnected = false → loads = []

/-- The count is there, and `n` mirrors have been stored since. -/
structure Loading (c : NetworkClient) (n : Nat) : Prop where
  connected : c.serverConnected = true
  asked : c.countAsked = true
  counted : c.serverControllerCountReceived = true
  unready : c.serverInitialized = false
  unpublished : c.controllers = []
  placed : c.Indexed
  current : ∀ m ∈ c.serverControllers, m.since = c.handled
  length : c.serverControllers.length = n
  bounded : n ≤ c.serverControllerCount

/-- The data of the next device is on its way. -/
structure Awaited (c : NetworkClient) (todo : List Statement) (loads : List Load) : Prop where
  loading : Loading c c.requestedControllers
  more : c.requestedControllers < c.serverControllerCount
  unreceived : c.controllerDataReceived = false
  one : loads.Sublist [.data c.requestedControllers]
  carried : Statement.setDataReceived true ∈ todo → Statement.store c.requestedControllers ∈ todo

/-- The data of the next device is stored; the connection thread has not gone on. -/
structure Stored (c : NetworkClient) (todo : List Statement) : Prop where
  loading : Loading c (c.requestedControllers + 1)
  acknowledged : c.controllerDataReceived = true → Statement.setDataReceived true ∉ todo

/-- The list is in the master list. -/
structure Published (c : NetworkClient) (todo : List Statement) (loads : List Load) : Prop where
  connected : c.serverConnected = true
  asked : c.countAsked = true
  placed : c.Indexed
  current : ∀ m ∈ c.serverControllers, m.since = c.handled
  shown : c.controllers = c.serverControllers
  length : c.serverControllers.length = c.serverControllerCount
  inside : ∀ load ∈ loads, ∃ i < c.serverControllers.length, load = .data i
  calm : ∀ x ∈ todo, x.resets = false

/-- How far the list has come, for the client `c` that the listener will leave, the line of the
connection thread, what the listener has to do, and the parts on their way. -/
inductive Phase (c : NetworkClient) (pc : ConnectionPc) (todo : List Statement) :
    List Load → Prop
  | waiting (is : Waiting c) (quiet : Statement.setDataReceived true ∉ todo)
      (at_ : pc.listing = false ∨ pc = .countTest) : Phase c pc todo []
  | asked {loads : List Load} (is : Asked c loads) (quiet : Statement.setDataReceived true ∉ todo)
      (at_ : pc = .countSent ∨ c.serverControllerCountRequested = true ∧
        (pc.elsewhere = true ∨ pc = .countTest ∨ pc = .countReceivedTest ∨
          (pc = .connecting ∨ pc = .started) ∧ loads = [])) : Phase c pc todo loads
  | between (is : Loading c c.requestedControllers)
      (quiet : Statement.setDataReceived true ∉ todo)
      (unasked : c.controllerDataRequested = false) (requested : c.serverControllerCountRequested = true)
      (at_ : pc.elsewhere = true ∨ pc = .countTest ∨ pc = .countReceivedTest ∨ pc = .dataTest ∨
        (pc = .dataRequestTest ∨ pc = .dataSend) ∧
          c.requestedControllers < c.serverControllerCount ∨
        pc = .publish ∧ c.requestedControllers = c.serverControllerCount) : Phase c pc todo []
  | awaited {loads : List Load} (is : Awaited c todo loads)
      (requested : c.serverControllerCountRequested = true)
      (at_ : pc = .dataSent ∨ c.controllerDataRequested = true ∧ pc.awaiting = true) :
      Phase c pc todo loads
  | stored (is : Stored c todo) (requested : c.serverControllerCountRequested = true)
      (at_ : pc = .dataSent ∨ c.controllerDataRequested = true ∧
        (pc.awaiting = true ∨ pc = .advance ∧ c.controllerDataReceived = true)) : Phase c pc todo []
  | advanced (is : Loading c c.requestedControllers)
      (quiet : Statement.setDataReceived true ∉ todo)
      (requested : c.serverControllerCountRequested = true) (at_ : pc = .advanced) :
      Phase c pc todo []
  | published {loads : List Load} (is : Published c todo loads)
      (at_ : pc = .published ∨ c.serverInitialized = true ∧ pc.elsewhere = true) :
      Phase c pc todo loads

/-- Before its first step the connection thread has not looked at anything. -/
structure Unstarted (s : Session) : Prop where
  pc : s.client.pc = .top
  disconnected : s.client.serverConnected = false
  unhandled : s.client.handled = 0
  unasked : s.client.serverControllerCountRequested = false
  uncounted : s.client.serverControllerCountReceived = false
  empty : s.client.serverControllers = []
  unpublished : s.client.controllers = []
  silent : s.listening = false
  rested : s.todo = []
  down : s.link = false
  requests : s.requests = []
  replies : s.replies = []
  single : s.ending = []

structure ListInv (s : Session) : Prop where
  single : s.ending = []
  offline : s.link = false → s.requests = []
  silent : s.listening = false → s.link = false
  handling : Handling s.todo
  alive : s.listening = true →
    s.client.serverConnected = true ∧ ∀ b, Statement.setConnected b ∉ s.todo
  exclusive : s.client.pc.listing = true → ∀ x ∈ s.todo, x.resets = false
  phase : Phase s.settled s.client.pc s.todo s.pending

variable {s t : Session} {c d : NetworkClient} {pc pc' : ConnectionPc} {todo : List Statement}
  {loads : List Load}

theorem Waiting.of_below (is : Waiting c) (below : Below d c) : Waiting d :=
  ⟨below.countRequested.trans is.unasked, below.countReceived.trans is.uncounted,
    below.unready is.unready, below.mirrors.trans is.empty, below.controllers.trans is.unpublished⟩

theorem Asked.of_below (is : Asked c loads) (below : Below d c) : Asked d loads :=
  ⟨below.countAsked.trans is.asked, below.countReceived.trans is.uncounted,
    below.unready is.unready, below.mirrors.trans is.empty,
    below.controllers.trans is.unpublished, is.one, by rw [below.connected]; exact is.gone⟩

theorem Loading.of_below {n : Nat} (is : Loading c n) (below : Below d c) : Loading d n :=
  ⟨below.connected.trans is.connected, below.countAsked.trans is.asked,
    below.countReceived.trans is.counted, below.unready is.unready,
    below.controllers.trans is.unpublished,
    (NetworkClient.indexed_congr below.mirrors).mpr is.placed,
    by rw [below.mirrors, below.handled]; exact is.current, by rw [below.mirrors]; exact is.length,
    by rw [below.count]; exact is.bounded⟩

theorem Awaited.of_below (is : Awaited c todo loads) (below : Below d c) : Awaited d todo loads := by
  refine ⟨?_, ?_, below.dataReceived.trans is.unreceived, ?_, ?_⟩ <;> rw [below.requested]
  · exact is.loading.of_below below
  · rw [below.count]
    exact is.more
  · exact is.one
  · exact is.carried

theorem Stored.of_below (is : Stored c todo) (below : Below d c) : Stored d todo := by
  refine ⟨?_, by rw [below.dataReceived]; exact is.acknowledged⟩
  rw [below.requested]
  exact is.loading.of_below below

theorem Published.of_below (is : Published c todo loads) (below : Below d c) :
    Published d todo loads :=
  ⟨below.connected.trans is.connected, below.countAsked.trans is.asked,
    (NetworkClient.indexed_congr below.mirrors).mpr is.placed,
    by rw [below.mirrors, below.handled]; exact is.current,
    by rw [below.mirrors, below.controllers]; exact is.shown,
    by rw [below.mirrors, below.count]; exact is.length, by rw [below.mirrors]; exact is.inside,
    is.calm⟩

theorem elsewhere_not_listing (at_ : pc.elsewhere = true) : pc.listing = false := by
  simp only [ConnectionPc.elsewhere, Bool.and_eq_true, Bool.not_eq_true'] at at_
  exact at_.1.1

theorem Phase.same (phase : Phase c pc todo loads) (below : Below d c) (back : Below c d) :
    Phase d pc todo loads := by
  cases phase with
  | waiting is quiet at_ => exact .waiting (is.of_below below) quiet at_
  | asked is quiet at_ =>
      rw [← below.countRequested] at at_
      exact .asked (is.of_below below) quiet at_
  | between is quiet unasked requested at_ =>
      rw [← below.requested, ← below.count] at at_
      refine .between ?_ quiet (below.dataRequested.trans unasked)
        (below.countRequested.trans requested) at_
      rw [below.requested]
      exact is.of_below below
  | awaited is requested at_ =>
      rw [← below.dataRequested] at at_
      exact .awaited (is.of_below below) (below.countRequested.trans requested) at_
  | stored is requested at_ =>
      rw [← below.dataRequested, ← below.dataReceived] at at_
      exact .stored (is.of_below below) (below.countRequested.trans requested) at_
  | advanced is quiet requested at_ =>
      refine .advanced ?_ quiet (below.countRequested.trans requested) at_
      rw [below.requested]
      exact is.of_below below
  | published is at_ =>
      exact .published (is.of_below below)
        (at_.imp_right fun ⟨ready, away⟩ => ⟨back.ready ready, away⟩)

/-- A step outside the loading of the list leaves it as far as it is. -/
theorem Phase.elsewhere (phase : Phase c pc todo loads) (below : Below d c)
    (back : Below c d ∨ pc = .started ∨ c.serverConnected = false) (outside : pc.listing = false)
    (next : pc'.elsewhere = true ∨ pc' = .connecting ∧ c.serverConnected = false ∨
      pc' = .countTest ∧ c.serverInitialized = false) : Phase d pc' todo loads := by
  have free : pc'.listing = false ∨ pc' = .countTest := by
    rcases next with away | ⟨rfl, _⟩ | inside
    · exact .inl (elsewhere_not_listing away)
    · exact .inl rfl
    · exact .inr inside.1
  have moved : c.serverConnected = true → pc'.elsewhere = true ∨ pc' = .countTest := by
    rintro on
    rcases next with away | ⟨_, off⟩ | inside
    · exact .inl away
    · exact absurd on (ne_true_of_eq_false off)
    · exact .inr inside.1
  have awaiting : c.serverConnected = true → pc'.awaiting = true := by
    intro on
    rcases moved on with away | rfl
    · simp [ConnectionPc.awaiting, away]
    · rfl
  cases phase with
  | waiting is quiet => exact .waiting (is.of_below below) quiet free
  | asked is quiet at_ =>
      rcases at_ with rfl | ⟨requested, _⟩
      · cases outside
      · refine .asked (is.of_below below) quiet (.inr ⟨below.countRequested.trans requested, ?_⟩)
        rcases next with away | ⟨at_, off⟩ | inside
        · exact .inl away
        · exact .inr (.inr (.inr ⟨.inl at_, is.gone off⟩))
        · exact .inr (.inl inside.1)
  | between is quiet unasked requested =>
      refine .between ?_ quiet (below.dataRequested.trans unasked)
        (below.countRequested.trans requested) ((moved is.connected).imp_right .inl)
      rw [below.requested]
      exact is.of_below below
  | awaited is requested at_ =>
      rcases at_ with rfl | ⟨asked, _⟩
      · cases outside
      · exact .awaited (is.of_below below) (below.countRequested.trans requested)
          (.inr ⟨below.dataRequested.trans asked, awaiting is.loading.connected⟩)
  | stored is requested at_ =>
      rcases at_ with rfl | ⟨asked, _⟩
      · cases outside
      · exact .stored (is.of_below below) (below.countRequested.trans requested)
          (.inr ⟨below.dataRequested.trans asked, .inl (awaiting is.loading.connected)⟩)
  | advanced _ _ _ at_ =>
      subst at_
      cases outside
  | published is at_ =>
      rcases at_ with rfl | ⟨ready, here⟩
      · cases outside
      · have back : Below c d := by
          rcases back with back | rfl | off
          · exact back
          · cases here
          · exact absurd is.connected (ne_true_of_eq_false off)
        refine .published (is.of_below below) (.inr ⟨back.ready ready, ?_⟩)
        rcases next with away | ⟨_, off⟩ | ⟨_, unready⟩
        · exact away
        · exact absurd is.connected (ne_true_of_eq_false off)
        · exact absurd ready (ne_true_of_eq_false unready)

theorem settled_calm (calm : ∀ x ∈ s.todo, x.resets = false) : s.settled = s.client := by
  have none_ : s.todo.filter Statement.resets = [] := by
    rw [List.filter_eq_nil_iff]
    exact fun x member => by simp [calm x member]
  rw [settled, none_]
  rfl

theorem run_disconnected {x : Statement} (resets : x.resets = true)
    (off : c.serverConnected = false) : (c.run x).serverConnected = false := by
  cases x with
  | setConnected b => cases b with
      | false => rfl
      | true => cases resets
  | store => cases resets
  | _ => exact off

theorem settled_disconnected (off : s.client.serverConnected = false) :
    s.settled.serverConnected = false := by
  unfold settled
  have resets : ∀ x ∈ s.todo.filter Statement.resets, x.resets = true :=
    fun x member => (List.mem_filter.mp member).2
  generalize s.todo.filter Statement.resets = xs at resets
  generalize s.client = c at off
  induction xs generalizing c with
  | nil => exact off
  | cons x xs ih =>
      exact ih (fun y member => resets y (List.mem_cons_of_mem _ member)) _
        (run_disconnected (resets x List.mem_cons_self) off)

theorem settled_below (below : Below c s.client) : Below (settled { s with client := c }) s.settled :=
  below.runAll fun _ member => (List.mem_filter.mp member).2

theorem below_settled (below : Below s.client c) : Below s.settled (settled { s with client := c }) :=
  below.runAll fun _ member => (List.mem_filter.mp member).2

theorem pending_send (s : Session) (q : Request) :
    (s.send q).pending = s.pending ++ (if s.link then q.load.toList else []) := by
  unfold send pending loads
  split
  · cases load : q.load <;> simp [load]
  · simp

@[simp] theorem send_settled (s : Session) (q : Request) : (s.send q).settled = s.settled := by
  unfold settled
  rw [send_todo, send_client]

/-- What remains to be shown after a step that leaves the listener alone and may send a packet. -/
theorem ListInv.sent (inv : s.ListInv) {c : NetworkClient} {q : Option Request}
    (connected : c.serverConnected = s.client.serverConnected)
    (exclusive : c.pc.listing = true → ∀ x ∈ s.todo, x.resets = false)
    (phase : ∀ loads, loads.Sublist (q.bind Request.load).toList →
      (s.client.serverConnected = false → loads = []) →
        Phase (settled { s with client := c }) c.pc s.todo (s.pending ++ loads)) :
    (s.proceed c q).ListInv := by
  cases q with
  | none =>
      have phase := phase [] (List.nil_sublist _) fun _ => rfl
      rw [List.append_nil] at phase
      exact ⟨inv.single, inv.offline, inv.silent, inv.handling,
        by simpa [proceed, connected] using inv.alive, exclusive, phase⟩
  | some request =>
      refine ⟨by simpa [proceed] using inv.single, ?_, by simpa [proceed] using inv.silent,
        by simpa [proceed] using inv.handling,
        by simpa [proceed, connected] using inv.alive, by simpa [proceed] using exclusive, ?_⟩
      · intro down
        rw [proceed, send_link] at down
        rw [proceed, send, if_neg (by simpa using down)]
        exact inv.offline down
      · rw [proceed, send_settled, send_client, send_todo, pending_send]
        refine phase _ ?_ fun off => if_neg fun up => ?_
        · split
          · exact List.Sublist.refl _
          · exact List.nil_sublist _
        · have running : s.listening = true := by
            by_contra ending
            exact absurd up (ne_true_of_eq_false (inv.silent (by simpa using ending)))
          exact absurd (inv.alive running).1 (ne_true_of_eq_false off)

end Session
end SyncRGB
