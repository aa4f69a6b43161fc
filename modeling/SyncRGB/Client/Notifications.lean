import SyncRGB.Client.ListSteps

/-! The other steps, and what a handled notification of a list change leads to: the list that is shown
afterwards has been asked for and received since. -/
namespace SyncRGB
open Transition

namespace Session
variable {s t : Session} {c d : NetworkClient} {pc pc' : ConnectionPc} {todo : List Statement}
  {loads : List Load}

theorem ListInv.connectFailed (inv : s.ListInv) (taken : s.Step .connectFailed t) : t.ListInv := by
  simp only [Step, step, Session.connectFailed] at taken
  split at taken <;> cases taken
  case isTrue pc =>
    have phase := inv.phase
    rw [pc] at phase
    refine { inv with
      exclusive := fun inside => by cases inside
      phase := phase.elsewhere (settled_below (.of_eq rfl)) (.inl (below_settled (.of_eq rfl))) rfl (.inl rfl) }

theorem ListInv.timeout (inv : s.ListInv) (taken : s.Step .timeout t) : t.ListInv := by
  simp only [Step, step, Session.timeout] at taken
  split at taken <;> cases taken
  case isTrue pc =>
    have phase := inv.phase
    rw [pc] at phase
    refine { inv with
      exclusive := fun inside => by cases inside
      phase := phase.elsewhere (settled_below (.of_eq rfl)) (.inl (below_settled (.of_eq rfl))) rfl (.inl rfl) }

theorem Phase.lost (phase : Phase c pc todo loads) {fewer : List Load} (lost : fewer.Sublist loads) :
    Phase c pc todo fewer := by
  cases phase with
  | waiting is quiet at_ => rw [List.sublist_nil.mp lost]; exact .waiting is quiet at_
  | asked is quiet at_ =>
      have none_ : loads = [] → fewer = [] := fun same => List.sublist_nil.mp (same ▸ lost)
      refine .asked { is with one := lost.trans is.one, gone := fun off => none_ (is.gone off) } quiet ?_
      exact at_.imp_right fun ⟨requested, at_⟩ => ⟨requested, at_.imp_right fun other =>
        other.imp_right fun other => other.imp_right fun ⟨at_, same⟩ => ⟨at_, none_ same⟩⟩
  | between is quiet unasked requested at_ =>
      rw [List.sublist_nil.mp lost]
      exact .between is quiet unasked requested at_
  | awaited is requested at_ => exact .awaited { is with one := lost.trans is.one } requested at_
  | stored is requested at_ => rw [List.sublist_nil.mp lost]; exact .stored is requested at_
  | advanced is quiet requested at_ =>
      rw [List.sublist_nil.mp lost]
      exact .advanced is quiet requested at_
  | published is at_ =>
      exact .published { is with inside := fun load member => is.inside load (lost.subset member) } at_

theorem ListInv.linkDown (inv : s.ListInv) (taken : s.Step .linkDown t) : t.ListInv := by
  cases taken
  refine { inv with offline := fun _ => rfl, silent := fun _ => rfl, phase := inv.phase.lost ?_ }
  simp [pending, loads]

theorem reply_load (S devices : Nat) (q : Request) :
    ((q.reply S devices).toList.filterMap Reply.load).Sublist q.load.toList := by
  cases q with
  | protocolVersion => simp only [Request.reply]; split <;> exact List.nil_sublist _
  | controllerCount => exact List.Sublist.refl _
  | controllerData devIdx version => simp only [Request.reply]; split <;> simp [Reply.load, Request.load]
  | _ => exact List.nil_sublist _

theorem ListInv.serve (inv : s.ListInv) (taken : s.Step .serve t) : t.ListInv := by
  simp only [Step, step, Session.serve] at taken
  split at taken <;> cases taken
  case h_1 q requests more =>
    refine { inv with
      offline := fun down => absurd (inv.offline down) (by rw [more]; simp)
      phase := inv.phase.lost ?_ }
    have request : s.requests.filterMap Request.load =
        q.load.toList ++ requests.filterMap Request.load := by
      rw [more]
      cases load : q.load <;> simp [load]
    simp only [pending, loads, request, List.filterMap_append, List.append_assoc]
    exact ((((reply_load s.serverVersion s.devices q).append_right _).append_left _).append_left _)

theorem ListInv.deviceListChanged (inv : s.ListInv) {devices : Nat}
    (taken : s.Step (.deviceListChanged devices) t) : t.ListInv := by
  simp only [Step, step, Session.deviceListChanged] at taken
  split at taken <;> cases taken
  refine { inv with phase := inv.phase.lost ?_ }
  simp [pending, loads, Reply.load]

/-- Outside the loading of one device it does not matter what else the listener has to do. -/
theorem Phase.elsewhile (phase : Phase c pc todo loads) {todo' : List Statement}
    (quiet : Statement.setDataReceived true ∉ todo')
    (calm : (∀ x ∈ todo, x.resets = false) → ∀ x ∈ todo', x.resets = false) :
    Phase c pc todo' loads := by
  cases phase with
  | waiting is _ at_ => exact .waiting is quiet at_
  | asked is _ at_ => exact .asked is quiet at_
  | between is _ unasked requested at_ => exact .between is quiet unasked requested at_
  | awaited is requested at_ =>
      exact .awaited { is with carried := fun member => absurd member quiet } requested at_
  | stored is requested at_ => exact .stored { is with acknowledged := fun _ => quiet } requested at_
  | advanced is _ requested at_ => exact .advanced is quiet requested at_
  | published is at_ => exact .published { is with calm := calm is.calm } at_

theorem Phase.within (phase : Phase c pc todo loads) : c.controllers <+: c.serverControllers := by
  have empty : c.controllers = [] → c.controllers <+: c.serverControllers := by
    intro none_
    rw [none_]
    exact List.nil_prefix
  cases phase with
  | waiting is => exact empty is.unpublished
  | asked is => exact empty is.unpublished
  | between is => exact empty is.unpublished
  | awaited is => exact empty is.loading.unpublished
  | stored is => exact empty is.loading.unpublished
  | advanced is => exact empty is.unpublished
  | published is => exact is.shown ▸ List.prefix_rfl

theorem Phase.counts (phase : Phase c pc [] (.count :: loads)) (outside : pc.listing = false)
    (connected : c.serverConnected = true) (n : Nat) :
    Phase ((Reply.handler (.controllerCount n)).foldl NetworkClient.run c) pc
      (Reply.handler (.controllerCount n)) loads := by
  cases phase with
  | asked is _ at_ =>
      have nothing : loads = [] := by
        have := is.one.length_le
        simpa using this
      subst nothing
      have none_ : ((Reply.handler (.controllerCount n)).foldl NetworkClient.run c).serverControllers =
        [] := is.empty
      rcases at_ with rfl | ⟨requested, away | rfl | rfl | ⟨_, lost⟩⟩
      · cases outside
      · refine .between ⟨connected, is.asked, rfl, is.unready, is.unpublished, ?_, ?_, ?_, ?_⟩
          (by simp [Reply.handler]) rfl requested (.inl away)
        · intro i m found
          simp [none_] at found
        · simp [none_]
        · rw [none_]
          rfl
        · exact Nat.zero_le _
      · cases outside
      · cases outside
      · cases lost
  | awaited is =>
      have := is.one.subset List.mem_cons_self
      simp at this
  | published is =>
      obtain ⟨_, _, same⟩ := is.inside .count List.mem_cons_self
      cases same

theorem Phase.carries {i version : Nat} (phase : Phase c pc [] (.data i :: loads)) :
    Phase c pc (Reply.handler (.controllerData i version)) (.data i :: loads) := by
  cases phase with
  | awaited is requested at_ =>
      have same : i = c.requestedControllers := by
        have := is.one.subset List.mem_cons_self
        simpa using this
      refine .awaited { is with carried := fun _ => ?_ } requested at_
      rw [same]
      simp [Reply.handler]
  | published is at_ =>
      exact .published { is with calm := by simp [Reply.handler, Statement.resets] } at_
  | asked is =>
      have := is.one.subset List.mem_cons_self
      simp at this

theorem ListInv.receive (inv : s.ListInv) (kept : s.ListKept .receive) (taken : s.Step .receive t) :
    t.ListInv := by
  simp only [Step, step, Session.receive] at taken
  split at taken
  case h_2 => cases taken
  case h_1 reply replies more =>
    split at taken <;> cases taken
    case isTrue ready =>
      obtain ⟨running, rested⟩ := ready
      obtain ⟨outside, nothing⟩ := kept reply (by rw [more]; rfl)
      have alive := (inv.alive running).1
      have phase := inv.phase
      have calm : ∀ x ∈ s.todo, x.resets = false := by simp [rested]
      have onWay : s.pending = reply.load.toList ++
          (replies.filterMap Reply.load ++ s.requests.filterMap Request.load) := by
        cases load : reply.load <;> simp [pending, loads, rested, more, load]
      rw [settled_calm calm, rested, onWay] at phase
      refine { inv with
        handling := handling_handler reply
        alive := fun _ => ⟨alive, by cases reply <;> simp [Reply.handler]⟩
        exclusive := ?_
        phase := ?_ }
      · intro inside
        have unreset : reply.resets = false := by
          by_contra resets
          exact absurd inside (ne_true_of_eq_false (outside (by simpa using resets)))
        exact handler_calm unreset
      · cases reply with
        | controllerCount n => exact phase.counts (outside rfl) alive n
        | controllerData i version => exact phase.carries
        | protocolVersion v =>
            exact phase.elsewhile (by simp [Reply.handler]) (by simp [Reply.handler, Statement.resets])
        | deviceListUpdated =>
            have none_ : replies.filterMap Reply.load ++ s.requests.filterMap Request.load = [] := by
              have := nothing rfl
              simpa [loads, more, Reply.load] using this
            have cleared : s.client.controllers.diff s.client.serverControllers = [] :=
              NetworkClient.diff_published phase.within
            change Phase _ _ _ (_ ++ (replies.filterMap Reply.load ++ s.requests.filterMap Request.load))
            rw [none_]
            exact .waiting ⟨rfl, rfl, rfl, rfl, cleared⟩ (by simp [Reply.handler]) (.inl (outside rfl))

theorem ListInv.hangup (inv : s.ListInv) (kept : s.ListKept .hangup) (taken : s.Step .hangup t) :
    t.ListInv := by
  simp only [Step, step, Session.hangup] at taken
  split at taken <;> cases taken
  case isTrue ready =>
    obtain ⟨_, rested, down⟩ := ready
    have phase := inv.phase
    rw [settled_calm (by simp [rested])] at phase
    have none_ := inv.offline down
    have cleared : s.client.controllers.diff s.client.serverControllers = [] :=
      NetworkClient.diff_published phase.within
    refine { inv with
      silent := fun _ => down
      handling := .resetting (by simp [listenDone, Statement.resets])
      alive := fun on => by cases on
      exclusive := fun inside => absurd inside (ne_true_of_eq_false kept)
      phase := ?_ }
    change Phase _ _ _ ([] ++ ([] ++ s.requests.filterMap Request.load))
    rw [none_]
    exact .waiting ⟨rfl, rfl, rfl, rfl, cleared⟩ (by simp [listenDone]) (.inl kept)

theorem ListInv.connect (inv : s.ListInv) {serverVersion devices : Nat}
    (kept : s.ListKept (.connect serverVersion devices))
    (taken : s.Step (.connect serverVersion devices) t) : t.ListInv := by
  simp only [Step, step, Session.connect] at taken
  split at taken <;> cases taken
  case isTrue pc =>
    have rested : s.todo = [] := kept
    have phase := inv.phase
    rw [settled_calm (by simp [rested]), pc] at phase
    refine ⟨?_, fun down => (by cases down), fun ended => (by cases ended), .resetting (by simp),
      fun _ => ⟨rfl, by simp⟩, fun inside => (by cases inside), ?_⟩
    · rw [rested, if_pos rfl]
      exact inv.single
    · change Phase { s.client with serverConnected := true, pc := .started } .started [] []
      generalize s.pending = loads at phase
      cases phase with
      | waiting is => exact .waiting { is with } (by simp) (.inl rfl)
      | asked is _ at_ =>
          exact .asked { is with one := List.nil_sublist _, gone := fun _ => rfl } (by simp)
            (.inr ⟨(at_.resolve_left (by decide)).1, .inr (.inr (.inr ⟨.inr rfl, rfl⟩))⟩)
      | between _ _ _ _ at_ | awaited _ _ at_ | stored _ _ at_ | advanced _ _ _ at_
      | published _ at_ => simp [ConnectionPc.elsewhere, ConnectionPc.awaiting] at at_

theorem ListInv.call (inv : s.ListInv) {position : Nat} {method : Method}
    (taken : s.Step (.call position method) t) : t.ListInv := by
  obtain ⟨m, _, rfl⟩ := Option.map_eq_some_iff.mp taken
  split
  case isTrue => exact inv
  case isFalse =>
    refine inv.sent (c := s.client) (q := some (s.callRequest m method)) rfl inv.exclusive
      fun loads sent _ => ?_
    rw [List.sublist_nil.mp sent, List.append_nil]
    exact inv.phase

/-- Only the mirrors of a published list can be refreshed. -/
theorem Phase.refreshed (phase : Phase c pc todo loads) {position : Nat} {m : Mirror}
    (found : c.controllers[position]? = some m) {more : List Load}
    (sent : more.Sublist [.data m.devIdx]) :
    Phase { c with controllerDataReceived := false } pc todo (loads ++ more) := by
  have shown : c.controllers ≠ [] := fun none_ => by simp [none_] at found
  cases phase with
  | published is at_ =>
      refine .published { is with inside := fun load member => ?_ } at_
      rcases List.mem_append.mp member with before | new
      · exact is.inside load before
      · rw [is.shown] at found
        have inside := (List.getElem?_eq_some_iff.mp found).1
        refine ⟨m.devIdx, ?_, by simpa using sent.subset new⟩
        rw [is.placed position m found]
        exact inside
  | waiting is => exact absurd is.unpublished shown
  | asked is => exact absurd is.unpublished shown
  | between is => exact absurd is.unpublished shown
  | awaited is => exact absurd is.loading.unpublished shown
  | stored is => exact absurd is.loading.unpublished shown
  | advanced is => exact absurd is.unpublished shown

theorem ListInv.refresh (inv : s.ListInv) {position : Nat} (kept : s.ListKept (.refresh position))
    (taken : s.Step (.refresh position) t) : t.ListInv := by
  obtain ⟨m, found, rfl⟩ := Option.map_eq_some_iff.mp taken
  have phase := inv.phase
  rw [settled_calm kept] at phase
  refine inv.sent (c := (s.client.sendRequestControllerData m.devIdx).1)
    (q := some (s.client.sendRequestControllerData m.devIdx).2) rfl inv.exclusive fun loads sent _ => ?_
  rw [settled_calm (s := { s with client := (s.client.sendRequestControllerData m.devIdx).1 }) kept]
  exact phase.refreshed found sent

theorem Phase.decoded {version i : Nat}
    (phase : Phase c pc [.decode version, .store i, .setDataReceived true] loads) :
    Phase c pc [.store i, .setDataReceived true] loads := by
  cases phase with
  | awaited is requested at_ =>
      refine .awaited { is with carried := fun _ => ?_ } requested at_
      simpa using is.carried (by simp)
  | stored is requested at_ =>
      have unreceived : c.controllerDataReceived ≠ true :=
        fun received => absurd (is.acknowledged received) (by simp)
      exact .stored { is with acknowledged := fun received => absurd received unreceived } requested at_
  | published is at_ => exact .published { is with calm := by simp [Statement.resets] } at_
  | waiting _ quiet _ | asked _ quiet _ | between _ quiet _ _ _ | advanced _ quiet _ _ => simp at quiet

/-- The awaited data goes to the end of the list, any other into the mirror that is there. -/
theorem Phase.stores {i : Nat}
    (phase : Phase c pc [.store i, .setDataReceived true] (.data i :: loads)) :
    Phase (c.store i) pc [.setDataReceived true] loads := by
  cases phase with
  | awaited is requested at_ =>
      obtain ⟨same, nothing⟩ : i = c.requestedControllers ∧ loads = [] := by
        have first := is.one.subset List.mem_cons_self
        have length := is.one.length_le
        exact ⟨by simpa using first, by simpa using length⟩
      subst nothing
      have fits : i ≥ c.serverControllers.length := by rw [is.loading.length, same]
      have placed := (NetworkClient.indexed_store is.loading.placed i).mpr
        (by rw [is.loading.length, same])
      have grown : c.store i = { c with
          serverControllers := c.serverControllers ++ [⟨i, c.created, c.handled⟩]
          created := c.created + 1 } := by
        rw [NetworkClient.store, if_pos fits]
      rw [grown] at placed ⊢
      refine .stored ⟨{ is.loading with
        placed := placed, current := ?_, length := ?_, bounded := is.more }, ?_⟩ requested
        (at_.imp_right fun ⟨sent, at_⟩ => ⟨sent, .inl at_⟩)
      · intro m member
        rcases List.mem_append.mp member with before | new
        · exact is.loading.current m before
        · rw [List.mem_singleton.mp new]
      · simp [is.loading.length]
      · exact fun received => absurd received (ne_true_of_eq_false is.unreceived)
  | published is at_ =>
      obtain ⟨j, inside, same⟩ := is.inside _ List.mem_cons_self
      cases same
      rw [NetworkClient.store, if_neg (Nat.not_le_of_lt inside)]
      exact .published { is with
        inside := fun load member => is.inside load (List.mem_cons_of_mem _ member)
        calm := by simp [Statement.resets] } at_
  | asked _ quiet => simp at quiet

theorem Phase.acknowledged (phase : Phase c pc [.setDataReceived true] loads) :
    Phase { c with controllerDataReceived := true } pc [] loads := by
  cases phase with
  | awaited is => simpa using is.carried (by simp)
  | stored is requested at_ =>
      exact .stored ⟨{ is.loading with }, fun _ => by simp⟩ requested
        (at_.imp_right fun ⟨sent, at_⟩ => ⟨sent, at_.imp_right fun ⟨at_, _⟩ => ⟨at_, rfl⟩⟩)
  | published is at_ => exact .published { is with calm := by simp } at_
  | waiting _ quiet _ | asked _ quiet _ | between _ quiet _ _ _ | advanced _ quiet _ _ => simp at quiet

/-- A statement of the listener takes the list from one phase to the next. -/
theorem ListInv.handled (inv : s.ListInv) {x : Statement} {rest : List Statement}
    (more : s.todo = x :: rest) :
    Handling rest ∧ Phase (settled { s with client := s.client.run x, todo := rest }) s.client.pc rest
      (pending { s with client := s.client.run x, todo := rest }) := by
  have handling := inv.handling
  have phase := inv.phase
  rw [more] at handling
  cases handling with
  | resetting all =>
      have resets := all x List.mem_cons_self
      have inside : ∀ y ∈ rest, y.resets = true := fun y member => all y (List.mem_cons_of_mem _ member)
      refine ⟨.resetting inside, ?_⟩
      have same : settled { s with client := s.client.run x, todo := rest } = s.settled := by
        simp [settled, more, resets]
      have unloaded : pending { s with client := s.client.run x, todo := rest } = s.pending := by
        have none_ : x.load = none := by cases x <;> first | rfl | cases resets
        simp [pending, more, none_, loads]
      rw [same, unloaded]
      refine phase.elsewhile (fun member => ?_) fun calm => ?_
      · exact absurd (inside _ member) (by decide)
      · exact absurd resets (ne_true_of_eq_false (calm x (by rw [more]; exact List.mem_cons_self)))
  | decoding version i =>
      have calm : ∀ x ∈ s.todo, x.resets = false := by simp [more, Statement.resets]
      have onWay : s.pending = .data i :: s.loads := by rw [pending, more]; rfl
      rw [settled_calm calm, more, onWay] at phase
      exact ⟨.storing i, phase.decoded⟩
  | storing i =>
      have calm : ∀ x ∈ s.todo, x.resets = false := by simp [more, Statement.resets]
      have onWay : s.pending = .data i :: s.loads := by rw [pending, more]; rfl
      rw [settled_calm calm, more, onWay] at phase
      exact ⟨.acknowledging, phase.stores⟩
  | acknowledging =>
      have calm : ∀ x ∈ s.todo, x.resets = false := by simp [more, Statement.resets]
      have onWay : s.pending = s.loads := by rw [pending, more]; rfl
      rw [settled_calm calm, more, onWay] at phase
      exact ⟨.resetting (by simp), phase.acknowledged⟩
  | version v =>
      have calm : ∀ x ∈ s.todo, x.resets = false := by simp [more, Statement.resets]
      have onWay : s.pending = s.loads := by rw [pending, more]; rfl
      rw [settled_calm calm, onWay] at phase
      have next : Phase s.client s.client.pc [.setVersionReceived true] s.loads :=
        phase.elsewhile (by simp) (by simp [Statement.resets])
      exact ⟨.versionReceived, next.same (.of_eq rfl) (.of_eq rfl)⟩
  | versionReceived =>
      have calm : ∀ x ∈ s.todo, x.resets = false := by simp [more, Statement.resets]
      have onWay : s.pending = s.loads := by rw [pending, more]; rfl
      rw [settled_calm calm, onWay] at phase
      have next : Phase s.client s.client.pc [] s.loads := phase.elsewhile (by simp) (by simp)
      exact ⟨.resetting (by simp), next.same (.of_eq rfl) (.of_eq rfl)⟩

theorem ListInv.statement (inv : s.ListInv) (taken : s.Step .statement t) : t.ListInv := by
  simp only [Step, step, Session.statement] at taken
  split at taken <;> cases taken
  case h_1 x rest more =>
    have ran := s.client.run_ran x
    obtain ⟨handling, phase⟩ := inv.handled more
    have later : ∀ {y}, y ∈ rest → y ∈ s.todo := by
      intro y member
      rw [more]
      exact List.mem_cons_of_mem _ member
    have here : x ∈ s.todo := by rw [more]; exact List.mem_cons_self
    refine { inv with
      handling := handling
      alive := fun on => ?_
      exclusive := ?_
      phase := by rw [ran.pc]; exact phase }
    · obtain ⟨connected, none_⟩ := inv.alive on
      refine ⟨?_, fun b member => none_ b (later member)⟩
      exact (ran.connected.resolve_right fun same => none_ _ (same ▸ here)).trans connected
    · rw [ran.pc]
      exact fun inside y member => inv.exclusive inside y (later member)

theorem settled_initialized (stays : Statement.setInitialized false ∉ s.todo) :
    s.settled.serverInitialized = s.client.serverInitialized := by
  unfold settled
  have plain : ∀ x ∈ s.todo.filter Statement.resets, ∀ b, x ≠ .setInitialized b := by
    rintro x member b rfl
    obtain ⟨member, resets⟩ := List.mem_filter.mp member
    cases b
    · exact stays member
    · cases resets
  generalize s.todo.filter Statement.resets = xs at plain
  generalize s.client = c
  induction xs generalizing c with
  | nil => rfl
  | cons x xs ih =>
      refine (ih (fun y member => plain y (List.mem_cons_of_mem _ member)) _).trans ?_
      exact (c.run_ran x).ready.resolve_right (plain x List.mem_cons_self _)

theorem ListInv.current (inv : s.ListInv) : s.ListCurrent := by
  intro _ stays ready
  have phase := inv.phase
  have shown := (settled_initialized stays).trans ready
  generalize s.pending = loads at phase
  cases phase with
  | published is =>
      have same := settled_calm is.calm
      rw [same] at is
      refine ⟨is.asked, ?_, by rw [is.shown]; exact is.length, by rw [is.shown]; exact is.current⟩
      have distinct := ((mirrorsIndexed_iff s).mpr is.placed).distinct
      rw [is.shown]
      exact distinct.of_map
  | waiting is => exact absurd shown (ne_true_of_eq_false is.unready)
  | asked is => exact absurd shown (ne_true_of_eq_false is.unready)
  | between is => exact absurd shown (ne_true_of_eq_false is.unready)
  | awaited is => exact absurd shown (ne_true_of_eq_false is.loading.unready)
  | stored is => exact absurd shown (ne_true_of_eq_false is.loading.unready)
  | advanced is => exact absurd shown (ne_true_of_eq_false is.unready)

theorem unstarted_initial (received requested initialized versionReceived : Bool) (n : Nat) :
    (initial (.constructed received requested initialized versionReceived n)).Unstarted :=
  ⟨rfl, rfl, rfl, rfl, rfl, rfl, rfl, rfl, rfl, rfl, rfl, rfl, rfl⟩

theorem Unstarted.step {a : Action} (start : s.Unstarted) (taken : s.Step a t) :
    t.Unstarted ∨ t.ListInv := by
  cases a with
  | connection =>
      obtain ⟨next, moved, rfl⟩ := Option.map_eq_some_iff.mp taken
      simp only [NetworkClient.connectionStep, start.pc, start.disconnected] at moved
      cases moved
      refine .inr ⟨start.single, fun _ => start.requests, fun _ => start.down, ?_,
        fun on => absurd on (ne_true_of_eq_false start.silent), fun inside => (by cases inside), ?_⟩
      · exact .resetting (by simp [proceed, start.rested])
      · have nothing : ∀ c, pending { s with client := c } = [] := fun c => by
          simp [pending, loads, start.rested, start.replies, start.requests]
        change Phase (settled { s with client := _ }) _ s.todo (pending { s with client := _ })
        rw [nothing, settled_calm (by simp [start.rested])]
        exact .waiting ⟨start.unasked, start.uncounted, rfl, start.empty, start.unpublished⟩
          (by simp [start.rested]) (.inl rfl)
  | linkDown =>
      cases taken
      exact .inl { start with down := rfl, requests := rfl }
  | connect => simp [Step, Session.step, Session.connect, start.pc] at taken
  | connectFailed => simp [Step, Session.step, Session.connectFailed, start.pc] at taken
  | timeout => simp [Step, Session.step, Session.timeout, start.pc] at taken
  | receive => simp [Step, Session.step, Session.receive, start.replies] at taken
  | statement => simp [Step, Session.step, Session.statement, start.rested] at taken
  | endingStatement => simp [Step, Session.step, endingStatement, start.single] at taken
  | hangup => simp [Step, Session.step, Session.hangup, start.silent] at taken
  | serve => simp [Step, Session.step, Session.serve, start.requests] at taken
  | deviceListChanged => simp [Step, Session.step, Session.deviceListChanged, start.down] at taken
  | call => simp [Step, Session.step, Session.call, start.unpublished] at taken
  | refresh => simp [Step, Session.step, Session.refresh, start.unpublished] at taken

theorem list_step {a : Action} (inv : s.Unstarted ∨ s.ListInv)
    (taken : Guarded ListKept Step s a t) : t.Unstarted ∨ t.ListInv := by
  obtain ⟨kept, taken⟩ := taken
  rcases inv with start | inv
  · exact start.step taken
  · right
    cases a with
    | connection => exact inv.connection kept taken
    | connect => exact inv.connect kept taken
    | connectFailed => exact inv.connectFailed taken
    | timeout => exact inv.timeout taken
    | receive => exact inv.receive kept taken
    | statement => exact inv.statement taken
    | endingStatement => simp [Step, Session.step, endingStatement, inv.single] at taken
    | hangup => exact inv.hangup kept taken
    | linkDown => exact inv.linkDown taken
    | serve => exact inv.serve taken
    | deviceListChanged => exact inv.deviceListChanged taken
    | call => exact inv.call taken
    | refresh => exact inv.refresh kept taken

/-- In every run from the start of a client whose steps meet the condition, a list that is shown as
ready after a notification is the one asked for since. -/
theorem run_list_current (received requested initialized versionReceived : Bool) (n : Nat)
    {as : List Action} {t : Session}
    (run : Run (Guarded ListKept Step)
      (initial (.constructed received requested initialized versionReceived n)) as t) :
    t.ListCurrent := by
  have start := unstarted_initial received requested initialized versionReceived n
  rcases Run.invariant (fun _ _ _ inv taken => list_step inv taken) run (.inl start) with fresh | inv
  · intro some_
    exact absurd fresh.unhandled (Nat.ne_of_gt some_)
  · exact inv.current

/-- While the phases hold, the data that the listener stores is that of the next device, or of one
that is in the list already. -/
theorem ListInv.storedInOrder (inv : s.ListInv) (a : Action) : s.StoredInOrder a := by
  intro i next
  cases a with
  | statement =>
      have handling := inv.handling
      have phase := inv.phase
      obtain ⟨rest, more⟩ := List.head?_eq_some_iff.mp next
      rw [more] at handling
      cases handling with
      | resetting all => cases all _ List.mem_cons_self
      | storing =>
          have calm : ∀ x ∈ s.todo, x.resets = false := by simp [more, Statement.resets]
          have onWay : s.pending = .data i :: s.loads := by rw [pending, more]; rfl
          rw [settled_calm calm, more, onWay] at phase
          cases phase with
          | asked _ quiet => simp at quiet
          | awaited is =>
              have first := is.one.subset List.mem_cons_self
              rw [is.loading.length]
              simpa using Nat.le_of_eq (by simpa using first)
          | published is =>
              obtain ⟨j, inside, same⟩ := is.inside _ List.mem_cons_self
              cases same
              exact Nat.le_of_lt inside
  | endingStatement => simp [nextStatement, inv.single] at next
  | _ => cases next

/-- In the same runs every mirror stays at the index of its device. -/
theorem run_mirrors_placed (received requested initialized versionReceived : Bool) (n : Nat)
    {as : List Action} {t : Session}
    (run : Run (Guarded ListKept Step)
      (initial (.constructed received requested initialized versionReceived n)) as t) :
    t.MirrorsIndexed := by
  have keeps : ∀ u a v, (u.Unstarted ∨ u.ListInv) ∧ u.MirrorsIndexed → Guarded ListKept Step u a v →
      (v.Unstarted ∨ v.ListInv) ∧ v.MirrorsIndexed := by
    rintro u a v ⟨inv, indexed⟩ taken
    refine ⟨list_step inv taken, (step_indexed indexed taken.2).mpr ?_⟩
    rcases inv with fresh | inv
    · intro i next
      cases a <;> simp [nextStatement, fresh.rested, fresh.single] at next
    · exact inv.storedInOrder a
  exact (Run.invariant keeps run ⟨.inl (unstarted_initial ..), mirrorsIndexed_initial ..⟩).2

/-- A client has loaded one device when a second appears; it loads the new list. -/
def reload : List Action :=
  startup 5 1 ++ connectionSteps 11 ++ [.serve] ++ handling 3 ++ connectionSteps 22 ++
    [.deviceListChanged 2] ++ handling 11 ++ connectionSteps 7 ++ [.serve] ++ handling 4 ++
    connectionSteps 12 ++ [.serve] ++ handling 3 ++ connectionSteps 24 ++ [.serve] ++ handling 3 ++
    connectionSteps 22

theorem reload_current :
    ∃ t, Run (Guarded ListKept Step) (initial (.constructed false false false false 0)) reload t ∧
      (t.client.handled, t.client.serverInitialized, t.client.controllers.length) = (1, true, 2) ∧
      t.ListCurrent := by
  have shown : (exec ListKept reload (initial (.constructed false false false false 0))).map
      (fun t => (t.client.handled, t.client.serverInitialized, t.client.controllers.length)) =
        some (1, true, 2) := by decide +kernel
  obtain ⟨t, executed, state⟩ := Option.map_eq_some_iff.mp shown
  have run := run_of_exec executed
  exact ⟨t, run, state, run_list_current false false false false 0 run⟩

/-- The notification comes when the connection thread has published the list of no devices and is
about to call it ready. -/
def lateReady : List Action :=
  startup 5 0 ++ connectionSteps 8 ++ [.deviceListChanged 1] ++ handling 11 ++ [.connection]

theorem lateReady_lost :
    ∃ t, Run Step (initial (.constructed false false false false 0)) lateReady t ∧
      ¬ t.ListCurrent := by
  have ready : (exec Free lateReady (initial (.constructed false false false false 0))).map
      (fun t => (t.client.handled, t.todo, t.client.serverInitialized, t.client.countAsked)) =
        some (1, [], true, false) := by decide
  obtain ⟨t, executed, state⟩ := Option.map_eq_some_iff.mp ready
  simp only [Prod.mk.injEq] at state
  obtain ⟨handled, todo, initialized, unasked⟩ := state
  refine ⟨t, run_of_free executed, fun current => ?_⟩
  have asked := (current (by omega) (by simp [todo]) initialized).1
  exact absurd asked (ne_true_of_eq_false unasked)

end Session
end SyncRGB
