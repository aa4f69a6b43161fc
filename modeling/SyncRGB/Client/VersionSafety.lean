import SyncRGB.Client.VersionSteps

/-! The statements of the listener, and the runs on which client and server use the same versions. -/
namespace SyncRGB
open Transition

namespace Session
variable {s t : Session}

theorem drop_cons {α : Type} {xs rest : List α} {x : α} {k : Nat} (same : x :: rest = xs.drop k) :
    k < xs.length ∧ xs[k]? = some x ∧ rest = xs.drop (k + 1) := by
  have inside : k < xs.length := by
    by_contra outside
    rw [List.drop_eq_nil_of_le (by omega)] at same
    cases same
  rw [List.drop_eq_getElem_cons inside] at same
  obtain ⟨rfl, rfl⟩ := List.cons.inj same
  exact ⟨inside, List.getElem?_eq_getElem inside, rfl⟩

theorem Closing.ran {c : NetworkClient} {x : Statement} {rest : List Statement} {k : Nat}
    (closing : Closing c (x :: rest) k) (published : c.controllers <+: c.serverControllers) :
    k < 11 ∧ listenDone[k]? = some x ∧ Closing (c.run x) rest (k + 1) := by
  obtain ⟨inside, at_, more⟩ := drop_cons closing.rest
  have length : k < 11 := inside
  refine ⟨length, at_, more, ?_, ?_, ?_, ?_⟩
  · intro early
    refine ((c.run_ran x).connected.resolve_right fun same => ?_).trans (closing.connected (by omega))
    rw [same] at at_
    have : k ≤ 8 := by omega
    interval_cases k <;> cases at_
  · intro late
    rcases Nat.lt_or_ge k 4 with early | later
    · obtain rfl : k = 3 := by omega
      cases at_
      rfl
    · refine ((c.run_ran x).initialized.resolve_right fun same => ?_).trans (closing.uninitialized later)
      rw [same] at at_
      interval_cases k <;> cases at_
  · intro late
    rcases Nat.lt_or_ge k 8 with early | later
    · obtain rfl : k = 7 := by omega
      cases at_
      rfl
    · refine ((c.run_ran x).countReceived.resolve_right fun same => ?_).trans (closing.uncounted later)
      rw [same] at at_
      interval_cases k <;> cases at_
  · intro late
    obtain rfl : k = 10 := by omega
    cases at_
    exact ⟨NetworkClient.diff_published published, rfl⟩

theorem Clearing.ran {c : NetworkClient} {x : Statement} {rest : List Statement} {k : Nat}
    (clearing : Clearing c (x :: rest) k) (published : c.controllers <+: c.serverControllers) :
    k < 11 ∧ (∀ b, x = .setInitialized b → c.controllers = []) ∧
      Clearing (c.run x) rest (k + 1) := by
  obtain ⟨inside, at_, more⟩ := drop_cons clearing.rest
  refine ⟨inside, ?_, more, ?_⟩
  · rintro b rfl
    refine (clearing.cleared ?_).1
    by_contra early
    have : k ≤ 1 := by omega
    interval_cases k <;> cases at_
  · intro late
    rcases Nat.lt_or_ge k 2 with early | later
    · obtain rfl : k = 1 := by omega
      cases at_
      exact ⟨NetworkClient.diff_published published, rfl⟩
    · obtain ⟨nothing, none_⟩ := clearing.cleared later
      have length : k < 11 := inside
      have plain : x ≠ .clearLists ∧ ∀ i, x ≠ .store i := by
        constructor
        · rintro rfl
          interval_cases k <;> cases at_
        · rintro i rfl
          interval_cases k <;> cases at_
      constructor
      · rcases (c.run_ran x).lists with same | cleared
        · exact same.1.trans nothing
        · exact absurd cleared.1 plain.1
      · rcases (c.run_ran x).mirrors with same | cleared | ⟨i, stored⟩
        · exact same.trans none_
        · exact absurd cleared plain.1
        · exact absurd stored (plain.2 i)

theorem mark_eq_some {x : Statement} {m : Mark} (marked : x.mark = some m) :
    (m = .version ∧ ∃ v, x = .setVersion v) ∨ (m = .count ∧ x = .setCountReceived true) := by
  unfold Statement.mark at marked
  split at marked <;> cases marked
  · exact .inl ⟨rfl, _, rfl⟩
  · exact .inr ⟨rfl, rfl⟩

theorem VersionInv.statement (inv : s.VersionInv) (taken : s.Step .statement t) : t.VersionInv := by
  simp only [Step, step, Session.statement] at taken
  split at taken <;> cases taken
  case h_1 x rest more =>
    have ran := s.client.run_ran x
    have here : x ∈ s.todo := by rw [more]; exact List.mem_cons_self
    have later : ∀ {y}, y ∈ rest → y ∈ s.todo := by
      intro y member
      rw [more]
      exact List.mem_cons_of_mem _ member
    have marked : s.marks =
        x.mark.toList ++ marks { s with client := s.client.run x, todo := rest } := by
      simp [marks, more, filterMap_mark_cons]
    -- Only a version reply writes the version, and it writes the server's.
    have version : (s.client.run x).serverProtocolVersion = s.client.serverProtocolVersion ∨
        (s.client.run x).serverProtocolVersion = s.serverVersion := by
      refine ran.version.imp_right fun same => (inv.handled _ ?_).1
      rw [← same]
      exact here
    have known : s.client.serverProtocolVersion = s.serverVersion →
        (s.client.run x).serverProtocolVersion = s.serverVersion :=
      fun before => version.elim (fun same => same.trans before) id
    have unmarked : (s.client.run x).serverProtocolVersion ≠ s.serverVersion → x.mark = none := by
      intro unknown
      cases mark : x.mark with
      | none => rfl
      | some m =>
          have behind := inv.current.resolve_left fun before => unknown (known before)
          rcases mark_eq_some mark with ⟨_, v, rfl⟩ | ⟨rfl, _⟩
          · exact absurd (inv.handled v here).1 unknown
          · exact absurd (by rw [marked, mark]; rfl) behind.first
    have received : s.client.serverProtocolVersionReceived = true →
        (s.client.run x).serverProtocolVersionReceived = true := by
      intro before
      rcases ran.received with same | written
      · exact same.trans before
      · exact inv.received _ (written ▸ here)
    have lists : (s.client.run x).controllers ≠ [] → s.client.controllers ≠ [] := by
      intro shown
      rcases ran.lists with same | cleared
      · rwa [same.1] at shown
      · exact absurd (cleared.2.1.trans (NetworkClient.diff_published inv.published)) shown
    have initialized : s.listening = true →
        (s.client.run x).protocolInitialized = s.client.protocolInitialized :=
      fun on => ran.initialized.resolve_right fun same => (inv.listener on).2.2 _ (same ▸ here)
    refine { inv with
      assumed := ?_
      received := fun b member => inv.received b (later member)
      handled := ?_
      unversioned := fun zero => version.elim (fun same => same.trans (inv.unversioned zero))
        fun same => same.trans zero
      current := ?_
      awaited := ?_
      requested := fun i v member => (inv.requested i v member).imp_right known
      encoded := fun i v member => (inv.encoded i v member).imp_right known
      decoding := fun v member => (inv.decoding v (later member)).imp_right known
      told := ?_
      listener := ?_
      connecting := by rw [ran.pc]; exact inv.connecting
      initialized := fun on at_ => ?_
      closing := ?_
      clearing := ?_
      published := ?_
      once := ?_ }
    · intro some_
      rcases ran.version with same | written
      · rcases inv.assumed (same ▸ some_) with before | before
        · exact .inl (received before)
        · rw [more] at before
          rcases List.mem_cons.mp before with rfl | after
          · exact .inl rfl
          · exact .inr after
      · have handled := (inv.handled _ (written ▸ here)).2
        rw [more] at handled
        rw [(List.cons.inj handled).2]
        exact .inr List.mem_cons_self
    · intro v member
      have handled := (inv.handled v (later member)).2
      rw [more] at handled
      rw [(List.cons.inj handled).2] at member
      simp at member
    · by_cases now : (s.client.run x).serverProtocolVersion = s.serverVersion
      · exact .inl now
      · have behind := inv.current.resolve_left fun before => now (known before)
        have unmarked := unmarked now
        refine .inr ⟨?_, ?_, ?_, ?_⟩
        · have first := behind.first
          rwa [marked, unmarked] at first
        · rcases ran.countReceived with same | written
          · exact same.trans behind.uncounted
          · by_contra counted
            have counted : (s.client.run x).serverControllerCountReceived = true := by
              simpa using counted
            rw [written, counted] at unmarked
            cases unmarked
        · by_contra shown
          exact lists shown behind.unpublished
        · rw [ran.pc]
          exact behind.early
    · by_cases now : (s.client.run x).serverProtocolVersion = s.serverVersion
      · exact .inl now
      · have awaited := inv.awaited.resolve_left fun before => now (known before)
        rcases awaited with down | ⟨fresh, idle⟩ | some_
        · exact .inr (.inl down)
        · cases on : s.listening with
          | false => exact .inr (.inl (inv.silent on))
          | true => exact .inr (.inr (.inl ⟨(initialized on).trans fresh, by rw [ran.pc]; exact idle⟩))
        · rw [marked, unmarked now] at some_
          exact .inr (.inr (.inr some_))
    · intro up reached
      have on := inv.online up
      rw [initialized on, ran.pc] at reached
      exact inv.told up (reached.imp_right fun other => other.imp_right lists)
    · intro on
      obtain ⟨connected, noConnected, noInitialized⟩ := inv.listener on
      refine ⟨?_, fun b member => noConnected b (later member),
        fun b member => noInitialized b (later member)⟩
      exact (ran.connected.resolve_right fun same => noConnected _ (same ▸ here)).trans connected
    · rw [initialized on]
      exact inv.initialized on (ran.pc ▸ at_)
    · intro ended
      obtain ⟨idle, k, _, closing⟩ := inv.closing ended
      rw [more] at closing
      obtain ⟨inside, _, closing⟩ := closing.ran inv.published
      exact ⟨by rw [ran.pc]; exact idle, k + 1, inside, closing⟩
    · intro on
      rcases inv.clearing on with ⟨k, _, clearing⟩ | other
      · rw [more] at clearing
        obtain ⟨inside, _, clearing⟩ := clearing.ran inv.published
        exact .inl ⟨k + 1, inside, clearing⟩
      · exact .inr fun b member => other b (later member)
    · rcases ran.lists with ⟨same, grown⟩ | ⟨_, cleared, none_⟩
      · rw [same]
        exact inv.published.trans grown
      · rw [cleared, NetworkClient.diff_published inv.published]
        exact List.nil_prefix
    · intro shown
      have before := lists shown
      obtain ⟨early, started, ready⟩ := inv.once before
      rw [ran.pc]
      refine ⟨early, started, ?_⟩
      have ending : s.listening = false → (x = .setInitialized (s.client.run x).serverInitialized ∨
          s.client.serverControllerCountReceived = false) →
            (s.client.run x).serverControllerCountReceived = false := by
        intro ended
        obtain ⟨_, k, _, closing⟩ := inv.closing ended
        rw [more] at closing
        obtain ⟨inside, at_, closing⟩ := closing.ran inv.published
        rintro (same | uncounted)
        · refine closing.uncounted ?_
          by_contra early
          have : k ≤ 6 := by omega
          rw [same] at at_
          interval_cases k <;> cases at_
        · rcases ran.countReceived with same | same
          · exact same.trans uncounted
          · have member := List.mem_of_getElem? at_
            rw [same] at member
            simpa [listenDone] using member
      rcases ready with ⟨ready, past⟩ | published | ⟨uncounted, ended⟩
      · rcases ran.ready with same | same
        · exact .inl ⟨same.trans ready, past⟩
        · cases on : s.listening with
          | false => exact .inr (.inr ⟨ending on (.inl same), rfl⟩)
          | true =>
              rcases inv.clearing on with ⟨k, _, clearing⟩ | other
              · rw [more] at clearing
                exact absurd ((clearing.ran inv.published).2.1 _ same) before
              · exact absurd here (same ▸ other _)
      · exact .inr (.inl published)
      · exact .inr (.inr ⟨ending ended (.inr uncounted), ended⟩)

theorem VersionInv.step {a : Action} (inv : s.VersionInv)
    (taken : Guarded VersionKept Step s a t) : t.VersionInv := by
  obtain ⟨kept, taken⟩ := taken
  cases a with
  | connection => exact inv.connection kept taken
  | connect => exact inv.connect kept taken
  | connectFailed => exact inv.connectFailed taken
  | timeout => exact inv.timeout kept taken
  | receive => exact inv.receive taken
  | statement => exact inv.statement taken
  | endingStatement => simp [Step, Session.step, endingStatement, inv.single] at taken
  | hangup => exact inv.hangup kept taken
  | linkDown => exact inv.linkDown taken
  | serve => exact inv.serve taken
  | deviceListChanged => exact inv.deviceListChanged taken
  | call => exact inv.call taken
  | refresh => exact inv.refresh taken

/-- In every run from the start of a client whose steps meet the condition, client and server use the
same version for every description that the client decodes and every mode that it sends. -/
theorem run_versions_agree (received requested initialized versionReceived : Bool) (n : Nat)
    {as : List Action} {t : Session}
    (run : Run (Guarded VersionKept Step)
      (initial (.constructed received requested initialized versionReceived n)) as t) :
    t.VersionsAgree :=
  (Run.invariant (fun _ _ _ inv taken => inv.step taken) run
    (versionInv_initial received requested initialized versionReceived n)).agree

/-- A server of version 3 answers the version request only after the timeout; the client loads its
one device and sets a mode. -/
def lateVersion : List Action :=
  [.connection, .connect 3 1] ++ connectionSteps 4 ++ [.timeout] ++ connectionSteps 8 ++
    [.serve, .serve, .serve] ++ handling 2 ++ handling 4 ++ connectionSteps 11 ++ [.serve] ++
    handling 3 ++ connectionSteps 22 ++ [.call 0 .deviceUpdateMode]

theorem lateVersion_agree :
    ∃ t, Run (Guarded VersionKept Step) (initial (.constructed false false false false 0))
        lateVersion t ∧
      t.requests = [.rgbController .deviceUpdateMode 0 3] ∧ t.VersionsAgree := by
  have sent : (exec VersionKept lateVersion (initial (.constructed false false false false 0))).map
      (fun t => t.requests) = some [.rgbController .deviceUpdateMode 0 3] := by decide
  obtain ⟨t, executed, requests⟩ := Option.map_eq_some_iff.mp sent
  have run := run_of_exec executed
  exact ⟨t, run, requests, run_versions_agree false false false false 0 run⟩

/-- After a connection to a server of version 5 the client reconnects to one without versions. -/
def olderServer : List Action :=
  startup 5 1 ++ [.linkDown, .hangup] ++ List.replicate 11 .statement ++
    [.connection, .connect 0 1] ++ connectionSteps 9 ++ [.serve, .serve, .serve] ++ handling 4 ++
    connectionSteps 11 ++ [.serve, .receive]

theorem olderServer_disagree :
    ∃ t, Run Step (initial (.constructed false false false false 0)) olderServer t ∧
      ¬ t.VersionsAgree := by
  have decoding : (exec Free olderServer (initial (.constructed false false false false 0))).map
      (fun t => (t.todo, t.client.getProtocolVersion)) =
        some (Reply.handler (.controllerData 0 0), 5) := by decide
  obtain ⟨t, executed, state⟩ := Option.map_eq_some_iff.mp decoding
  obtain ⟨todo, version⟩ := Prod.mk.inj state
  refine ⟨t, run_of_free executed, fun agree => ?_⟩
  have same := agree.decoded 0 _ todo
  rw [version] at same
  cases same

end Session
end SyncRGB
