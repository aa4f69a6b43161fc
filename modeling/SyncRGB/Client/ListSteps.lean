import SyncRGB.Client.ListPhases

/-! The lines inside the loading of the list, one lemma each, and the steps of the connection thread. -/
namespace SyncRGB
open Transition

namespace Session
variable {s t : Session} {c d : NetworkClient} {pc pc' : ConnectionPc} {todo : List Statement}
  {loads : List Load}

theorem Phase.countTest (phase : Phase c .countTest todo loads)
    (requested : c.serverControllerCountRequested = true) :
    Phase { c with pc := .countReceivedTest } .countReceivedTest todo loads := by
  cases phase with
  | waiting is => exact absurd requested (ne_true_of_eq_false is.unasked)
  | asked is quiet =>
      exact .asked (is.of_below (.of_eq rfl)) quiet (.inr ⟨requested, .inr (.inr (.inl rfl))⟩)
  | between is quiet unasked =>
      exact .between (is.of_below (.of_eq rfl)) quiet unasked requested (.inr (.inr (.inl rfl)))
  | awaited is _ at_ =>
      exact .awaited (is.of_below (.of_eq rfl)) requested (.inr ⟨(at_.resolve_left (by decide)).1, rfl⟩)
  | stored is _ at_ =>
      exact .stored (is.of_below (.of_eq rfl)) requested (.inr ⟨(at_.resolve_left (by decide)).1, .inl rfl⟩)
  | advanced _ _ _ at_ => cases at_
  | published _ at_ => simp +decide at at_

theorem Phase.countRequest (phase : Phase c .countTest todo loads)
    (unrequested : ¬ c.serverControllerCountRequested = true) {more : List Load}
    (sent : more.Sublist [.count]) (gone : c.serverConnected = false → more = []) :
    Phase { c with countAsked := true, pc := .countSent } .countSent todo (loads ++ more) := by
  cases phase with
  | waiting is quiet =>
      exact .asked ⟨rfl, is.uncounted, is.unready, is.empty, is.unpublished, sent, gone⟩ quiet
        (.inl rfl)
  | asked _ _ at_ => exact absurd (at_.resolve_left (by decide)).1 unrequested
  | between _ _ _ requested => exact absurd requested unrequested
  | awaited _ requested => exact absurd requested unrequested
  | stored _ requested => exact absurd requested unrequested
  | advanced _ _ _ at_ => cases at_
  | published _ at_ => simp +decide at at_

theorem Phase.countSent (phase : Phase c .countSent todo loads) :
    Phase { c with serverControllerCountRequested := true, pc := .shortWait } .shortWait todo
      loads := by
  cases phase with
  | asked is quiet =>
      exact .asked { is with } quiet (.inr ⟨rfl, .inl rfl⟩)
  | waiting _ _ at_ | between _ _ _ _ at_ | awaited _ _ at_ | stored _ _ at_ | advanced _ _ _ at_
  | published _ at_ =>
      simp +decide at at_

theorem Phase.counted (phase : Phase c .countReceivedTest todo loads)
    (counted : c.serverControllerCountReceived = true) :
    Phase { c with pc := .dataTest } .dataTest todo loads := by
  cases phase with
  | asked is => exact absurd counted (ne_true_of_eq_false is.uncounted)
  | between is quiet unasked requested =>
      exact .between (is.of_below (.of_eq rfl)) quiet unasked requested (.inr (.inr (.inr (.inl rfl))))
  | awaited is requested at_ =>
      exact .awaited (is.of_below (.of_eq rfl)) requested (.inr ⟨(at_.resolve_left (by decide)).1, rfl⟩)
  | stored is requested at_ =>
      exact .stored (is.of_below (.of_eq rfl)) requested (.inr ⟨(at_.resolve_left (by decide)).1, .inl rfl⟩)
  | waiting _ _ at_ | advanced _ _ _ at_ | published _ at_ =>
      simp +decide at at_

theorem Phase.uncounted (phase : Phase c .countReceivedTest todo loads)
    (uncounted : ¬ c.serverControllerCountReceived = true) :
    Phase { c with pc := .shortWait } .shortWait todo loads := by
  cases phase with
  | asked is quiet at_ =>
      exact .asked (is.of_below (.of_eq rfl)) quiet (.inr ⟨(at_.resolve_left (by decide)).1, .inl rfl⟩)
  | between is => exact absurd is.counted uncounted
  | awaited is => exact absurd is.loading.counted uncounted
  | stored is => exact absurd is.loading.counted uncounted
  | waiting _ _ at_ | advanced _ _ _ at_ | published _ at_ =>
      simp +decide at at_

theorem Phase.dataLeft (phase : Phase c .dataTest todo loads)
    (left : c.requestedControllers < c.serverControllerCount) :
    Phase { c with pc := .dataRequestTest } .dataRequestTest todo loads := by
  cases phase with
  | between is quiet unasked requested =>
      exact .between (is.of_below (.of_eq rfl)) quiet unasked requested
        (.inr (.inr (.inr (.inr (.inl ⟨.inl rfl, left⟩)))))
  | awaited is requested at_ =>
      exact .awaited (is.of_below (.of_eq rfl)) requested (.inr ⟨(at_.resolve_left (by decide)).1, rfl⟩)
  | stored is requested at_ =>
      exact .stored (is.of_below (.of_eq rfl)) requested (.inr ⟨(at_.resolve_left (by decide)).1, .inl rfl⟩)
  | waiting _ _ at_ | asked _ _ at_ | advanced _ _ _ at_ | published _ at_ =>
      simp +decide at at_

theorem Phase.dataComplete (phase : Phase c .dataTest todo loads)
    (complete : ¬ c.requestedControllers < c.serverControllerCount) :
    Phase { c with pc := .publish } .publish todo loads := by
  cases phase with
  | between is quiet unasked requested =>
      have all := Nat.le_antisymm is.bounded (Nat.le_of_not_lt complete)
      exact .between (is.of_below (.of_eq rfl)) quiet unasked requested
        (.inr (.inr (.inr (.inr (.inr ⟨rfl, all⟩)))))
  | awaited is => exact absurd is.more complete
  | stored is => exact absurd is.loading.bounded complete
  | waiting _ _ at_ | asked _ _ at_ | advanced _ _ _ at_ | published _ at_ =>
      simp +decide at at_

theorem Phase.dataRequested (phase : Phase c .dataRequestTest todo loads)
    (asked : c.controllerDataRequested = true) :
    Phase { c with pc := .dataReceivedTest } .dataReceivedTest todo loads := by
  cases phase with
  | between _ _ unasked => exact absurd asked (ne_true_of_eq_false unasked)
  | awaited is requested => exact .awaited (is.of_below (.of_eq rfl)) requested (.inr ⟨asked, rfl⟩)
  | stored is requested => exact .stored (is.of_below (.of_eq rfl)) requested (.inr ⟨asked, .inl rfl⟩)
  | waiting _ _ at_ | asked _ _ at_ | advanced _ _ _ at_ | published _ at_ =>
      simp +decide at at_

theorem Phase.dataRequest (phase : Phase c .dataRequestTest todo loads)
    (unasked : ¬ c.controllerDataRequested = true) :
    Phase { c with controllerDataReceived := false, pc := .dataSend } .dataSend todo loads := by
  cases phase with
  | between is quiet unasked requested at_ =>
      have left : c.requestedControllers < c.serverControllerCount := by
        simpa +decide using at_
      exact .between { is with } quiet unasked requested
        (.inr (.inr (.inr (.inr (.inl ⟨.inr rfl, left⟩)))))
  | awaited _ _ at_ => exact absurd (at_.resolve_left (by decide)).1 unasked
  | stored _ _ at_ => exact absurd (at_.resolve_left (by decide)).1 unasked
  | waiting _ _ at_ | asked _ _ at_ | advanced _ _ _ at_ | published _ at_ =>
      simp +decide at at_

theorem Phase.dataSend (phase : Phase c .dataSend todo loads) {more : List Load}
    (sent : more.Sublist [.data c.requestedControllers]) :
    Phase { c with controllerDataReceived := false, pc := .dataSent } .dataSent todo
      (loads ++ more) := by
  cases phase with
  | between is quiet _ requested at_ =>
      have left : c.requestedControllers < c.serverControllerCount := by
        simpa +decide using at_
      exact .awaited ⟨{ is with }, left, rfl, sent, fun acknowledged => absurd acknowledged quiet⟩
        requested (.inl rfl)
  | waiting _ _ at_ | asked _ _ at_ | awaited _ _ at_ | stored _ _ at_ | advanced _ _ _ at_
  | published _ at_ =>
      simp +decide at at_

theorem Phase.dataSent (phase : Phase c .dataSent todo loads) :
    Phase { c with controllerDataRequested := true, pc := .dataReceivedTest } .dataReceivedTest todo
      loads := by
  cases phase with
  | awaited is requested =>
      exact .awaited ⟨{ is.loading with }, is.more, is.unreceived, is.one, is.carried⟩ requested
        (.inr ⟨rfl, rfl⟩)
  | stored is requested =>
      exact .stored ⟨{ is.loading with }, is.acknowledged⟩ requested (.inr ⟨rfl, .inl rfl⟩)
  | waiting _ _ at_ | asked _ _ at_ | between _ _ _ _ at_ | advanced _ _ _ at_ | published _ at_ =>
      simp +decide at at_

theorem Phase.dataReceived (phase : Phase c .dataReceivedTest todo loads)
    (received : c.controllerDataReceived = true) :
    Phase { c with pc := .advance } .advance todo loads := by
  cases phase with
  | awaited is => exact absurd received (ne_true_of_eq_false is.unreceived)
  | stored is requested at_ =>
      exact .stored (is.of_below (.of_eq rfl)) requested
        (.inr ⟨(at_.resolve_left (by decide)).1, .inr ⟨rfl, received⟩⟩)
  | waiting _ _ at_ | asked _ _ at_ | between _ _ _ _ at_ | advanced _ _ _ at_ | published _ at_ =>
      simp +decide at at_

theorem Phase.dataMissing (phase : Phase c .dataReceivedTest todo loads) :
    Phase { c with pc := .shortWait } .shortWait todo loads := by
  cases phase with
  | awaited is requested at_ =>
      exact .awaited (is.of_below (.of_eq rfl)) requested (.inr ⟨(at_.resolve_left (by decide)).1, rfl⟩)
  | stored is requested at_ =>
      exact .stored (is.of_below (.of_eq rfl)) requested (.inr ⟨(at_.resolve_left (by decide)).1, .inl rfl⟩)
  | waiting _ _ at_ | asked _ _ at_ | between _ _ _ _ at_ | advanced _ _ _ at_ | published _ at_ =>
      simp +decide at at_

theorem Phase.advance (phase : Phase c .advance todo loads) :
    Phase { c with requestedControllers := c.requestedControllers + 1, pc := .advanced } .advanced
      todo loads := by
  cases phase with
  | stored is requested at_ =>
      have received : c.controllerDataReceived = true := by
        simpa +decide using
          (at_.resolve_left (by decide)).2
      exact .advanced { is.loading with } (is.acknowledged received) requested rfl
  | waiting _ _ at_ | asked _ _ at_ | between _ _ _ _ at_ | awaited _ _ at_ | advanced _ _ _ at_
  | published _ at_ =>
      simp +decide at at_

theorem Phase.advancedStep (phase : Phase c .advanced todo loads) :
    Phase { c with controllerDataRequested := false, pc := .shortWait } .shortWait todo loads := by
  cases phase with
  | advanced is quiet requested => exact .between { is with } quiet rfl requested (.inl rfl)
  | waiting _ _ at_ | asked _ _ at_ | between _ _ _ _ at_ | awaited _ _ at_ | stored _ _ at_
  | published _ at_ =>
      simp +decide at at_

theorem Phase.publish (phase : Phase c .publish todo loads)
    (calm : ∀ x ∈ todo, x.resets = false) :
    Phase { c with controllers := c.controllers ++ c.serverControllers, pc := .published } .published
      todo loads := by
  cases phase with
  | between is _ _ _ at_ =>
      have all : c.requestedControllers = c.serverControllerCount := by
        simpa +decide using at_
      refine .published ⟨is.connected, is.asked, is.placed, is.current, ?_, is.length.trans all,
        fun _ member => (by cases member), calm⟩ (.inl rfl)
      rw [is.unpublished]
      rfl
  | waiting _ _ at_ | asked _ _ at_ | awaited _ _ at_ | stored _ _ at_ | advanced _ _ _ at_
  | published _ at_ =>
      simp +decide at at_

theorem Phase.publishedStep (phase : Phase c .published todo loads) :
    Phase { c with serverInitialized := true, pc := .shortWait } .shortWait todo loads := by
  cases phase with
  | published is =>
      exact .published ⟨is.connected, is.asked, is.placed, is.current, is.shown, is.length, is.inside,
        is.calm⟩ (.inr ⟨rfl, rfl⟩)
  | waiting _ _ at_ | asked _ _ at_ | between _ _ _ _ at_ | awaited _ _ at_ | stored _ _ at_
  | advanced _ _ _ at_ =>
      simp +decide at at_

/-- A step inside the loading of the list takes it from one phase to the next. -/
theorem Phase.connection {next : NetworkClient × Option Request} (phase : Phase c c.pc todo loads)
    (inside : c.pc.listing = true) (calm : ∀ x ∈ todo, x.resets = false)
    (taken : c.connectionStep = some next) (more : List Load)
    (sent : more.Sublist (next.2.bind Request.load).toList)
    (gone : c.serverConnected = false → more = []) :
    Phase next.1 next.1.pc todo (loads ++ more) := by
  cases pc : c.pc <;> rw [pc] at phase inside <;>
    simp only [NetworkClient.connectionStep, pc, Option.some.injEq] at taken
  case countTest =>
    split at taken <;> cases taken
    case isTrue requested =>
      rw [List.sublist_nil.mp sent, List.append_nil]
      exact phase.countTest requested
    case isFalse unrequested => exact phase.countRequest unrequested sent gone
  case dataSend =>
    cases taken
    exact phase.dataSend sent
  case dataRequestTest =>
    split at taken <;> cases taken <;> rw [List.sublist_nil.mp sent, List.append_nil]
    case isTrue asked => exact phase.dataRequested asked
    case isFalse unasked => exact phase.dataRequest unasked
  case countReceivedTest =>
    cases taken
    rw [List.sublist_nil.mp sent, List.append_nil]
    split
    case isTrue counted => exact phase.counted counted
    case isFalse uncounted => exact phase.uncounted uncounted
  case dataTest =>
    cases taken
    rw [List.sublist_nil.mp sent, List.append_nil]
    split
    case isTrue left => exact phase.dataLeft left
    case isFalse complete => exact phase.dataComplete complete
  case dataReceivedTest =>
    cases taken
    rw [List.sublist_nil.mp sent, List.append_nil]
    split
    case isTrue received => exact phase.dataReceived received
    case isFalse => exact phase.dataMissing
  case countSent =>
    cases taken
    rw [List.sublist_nil.mp sent, List.append_nil]
    exact phase.countSent
  case dataSent =>
    cases taken
    rw [List.sublist_nil.mp sent, List.append_nil]
    exact phase.dataSent
  case advance =>
    cases taken
    rw [List.sublist_nil.mp sent, List.append_nil]
    exact phase.advance
  case advanced =>
    cases taken
    rw [List.sublist_nil.mp sent, List.append_nil]
    exact phase.advancedStep
  case publish =>
    cases taken
    rw [List.sublist_nil.mp sent, List.append_nil]
    exact phase.publish calm
  case published =>
    cases taken
    rw [List.sublist_nil.mp sent, List.append_nil]
    exact phase.publishedStep
  all_goals cases inside

theorem ListInv.connection (inv : s.ListInv) (kept : s.ListKept .connection)
    (taken : s.Step .connection t) : t.ListInv := by
  obtain ⟨next, moved, rfl⟩ := Option.map_eq_some_iff.mp taken
  have connected := (NetworkClient.connectionStep_keeps moved).2
  have phase := inv.phase
  cases inside : s.client.pc.listing with
  | false =>
      obtain ⟨below, back, silent, target⟩ := NetworkClient.connectionStep_elsewhere moved inside
      have calm : next.1.pc = .countTest → ∀ x ∈ s.todo, x.resets = false := by
        intro entered
        rcases target with away | ⟨at_, _⟩ | ⟨pc, _⟩
        · rw [entered] at away
          cases away
        · rw [entered] at at_
          cases at_
        · exact kept pc
      refine inv.sent connected ?_ fun loads sent _ => ?_
      · intro listing
        rcases target with away | ⟨at_, _⟩ | ⟨_, entered, _⟩
        · exact absurd listing (ne_true_of_eq_false (elsewhere_not_listing away))
        · rw [at_] at listing
          cases listing
        · exact calm entered
      · have none_ : next.2.bind Request.load = none := by
          cases sent : next.2 with
          | none => rfl
          | some q => exact silent q sent
        rw [none_] at sent
        rw [List.sublist_nil.mp sent, List.append_nil]
        refine phase.elsewhere (settled_below below) ?_ inside ?_
        · exact back.imp below_settled fun other => other.imp_right settled_disconnected
        · refine target.imp_right fun other => other.imp ?_ ?_
          · exact fun ⟨at_, off⟩ => ⟨at_, settled_disconnected off⟩
          · rintro ⟨_, entered, unready⟩
            rw [settled_calm (calm entered)]
            exact ⟨entered, unready⟩
  | true =>
      have calm := inv.exclusive inside
      refine inv.sent connected (fun _ => calm) fun loads sent gone => ?_
      rw [settled_calm calm] at phase
      rw [settled_calm (s := { s with client := next.1 }) calm]
      exact phase.connection inside calm moved loads sent gone

end Session
end SyncRGB
