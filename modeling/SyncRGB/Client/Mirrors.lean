import SyncRGB.Client.Session

/-! The mirrors of a client and the devices they stand for. -/
namespace SyncRGB
open Transition

namespace NetworkClient

/-- A step of the connection thread leaves the mirrors and the connection as they are. -/
theorem connectionStep_keeps {c : NetworkClient} {next : NetworkClient × Option Request}
    (taken : c.connectionStep = some next) :
    next.1.serverControllers = c.serverControllers ∧ next.1.serverConnected = c.serverConnected := by
  unfold connectionStep at taken
  split at taken
  all_goals first
    | cases taken
    | (split at taken <;> cases taken)
  all_goals exact ⟨rfl, rfl⟩

/-- Every mirror stands at the index of its device. -/
def Indexed (c : NetworkClient) : Prop :=
  ∀ i (m : Mirror), c.serverControllers[i]? = some m → m.devIdx = i

theorem indexed_clearLists (c : NetworkClient) : c.clearLists.Indexed := by
  intro i m found
  simp [clearLists] at found

/-- A reply keeps the order exactly when its index is at most the number of mirrors. -/
theorem indexed_store {c : NetworkClient} (start : c.Indexed) (devIdx : Nat) :
    (c.store devIdx).Indexed ↔ devIdx ≤ c.serverControllers.length := by
  unfold store
  split
  case isFalse inside => exact iff_of_true start (by omega)
  case isTrue outside =>
    constructor
    · intro indexed
      have last := indexed c.serverControllers.length _ List.getElem?_concat_length
      exact Nat.le_of_eq last
    · intro fits i m found
      rcases Nat.lt_trichotomy i c.serverControllers.length with less | same | more
      · rw [List.getElem?_append_left less] at found
        exact start i m found
      · subst same
        rw [List.getElem?_concat_length] at found
        cases found
        exact Nat.le_antisymm fits outside
      · rw [List.getElem?_eq_none (by simp; omega)] at found
        cases found

theorem indexed_congr {c d : NetworkClient} (same : d.serverControllers = c.serverControllers) :
    d.Indexed ↔ c.Indexed := by
  unfold Indexed
  rw [same]

theorem indexed_run {c : NetworkClient} (start : c.Indexed) (x : Statement) :
    (c.run x).Indexed ↔ ∀ devIdx, x = .store devIdx → devIdx ≤ c.serverControllers.length := by
  cases x with
  | store devIdx =>
      rw [run, indexed_store start]
      exact ⟨fun fits _ same => by cases same; exact fits, fun fits => fits devIdx rfl⟩
  | clearLists => exact iff_of_true (indexed_clearLists c) (fun _ same => by cases same)
  | _ => exact iff_of_true start (fun _ same => by cases same)

end NetworkClient

namespace Session

theorem step_serverControllers {s t : Session} {a : Action} (taken : s.Step a t) :
    t.client.serverControllers =
      match s.nextStatement a with
      | none => s.client.serverControllers
      | some x => (s.client.run x).serverControllers := by
  cases a with
  | connection =>
      obtain ⟨next, moved, rfl⟩ := Option.map_eq_some_iff.mp taken
      rw [← (NetworkClient.connectionStep_keeps moved).1]
      simp [nextStatement]
  | statement =>
      simp only [Step, step, statement] at taken
      split at taken
      case h_1 rest more => cases taken; simp [nextStatement, more]
      case h_2 => cases taken
  | endingStatement =>
      simp only [Step, step, endingStatement] at taken
      split at taken
      case h_1 more => cases taken; simp [nextStatement, more]
      case h_2 more => cases taken; simp [nextStatement, more]
      case h_3 => cases taken
  | receive =>
      simp only [Step, step, receive] at taken
      split at taken
      · split at taken <;> cases taken
        rfl
      · cases taken
  | serve =>
      simp only [Step, step, serve] at taken
      split at taken <;> cases taken
      rfl
  | call position method =>
      obtain ⟨m, _, rfl⟩ := Option.map_eq_some_iff.mp taken
      split <;> simp [nextStatement]
  | refresh position =>
      obtain ⟨m, _, rfl⟩ := Option.map_eq_some_iff.mp taken
      simp [nextStatement, NetworkClient.sendRequestControllerData]
  | linkDown => cases taken; rfl
  | connect | connectFailed | timeout | hangup | deviceListChanged =>
      simp only [Step, step, connect, connectFailed, timeout, hangup, deviceListChanged] at taken
      split at taken <;> cases taken
      rfl

/-- What the list of mirrors is for: each mirror stands at the index of its device, no device has
two, and the packets sent through a mirror name the index it stands at. -/
structure MirrorsIndexed (s : Session) : Prop where
  placed : ∀ i (m : Mirror), s.client.serverControllers[i]? = some m → m.devIdx = i
  distinct : (s.client.serverControllers.map Mirror.devIdx).Nodup
  addressed : ∀ i (m : Mirror) method, s.client.serverControllers[i]? = some m →
    (s.callRequest m method).devIdx = i ∧
      (s.client.sendRequestControllerData m.devIdx).2.devIdx = i

theorem mirrorsIndexed_iff (s : Session) : s.MirrorsIndexed ↔ s.client.Indexed := by
  constructor
  · exact fun indexed => indexed.placed
  · intro indexed
    refine ⟨indexed, ?_, fun i m _ found => ⟨indexed i m found, indexed i m found⟩⟩
    rw [List.nodup_iff_getElem?_ne_getElem?]
    intro i j less short same
    rw [List.length_map] at short
    have first := List.getElem?_eq_getElem (Nat.lt_trans less short)
    have second := List.getElem?_eq_getElem short
    rw [List.getElem?_map, List.getElem?_map, first, second] at same
    have := indexed i _ first
    have := indexed j _ second
    simp only [Option.map_some, Option.some.injEq] at same
    omega

/-- A mirror is created at the end of the list only for the first device that has none yet. -/
def StoredInOrder (s : Session) (a : Action) : Prop :=
  ∀ devIdx, s.nextStatement a = some (.store devIdx) → devIdx ≤ s.client.serverControllers.length

theorem step_indexed {s t : Session} {a : Action} (start : s.MirrorsIndexed) (taken : s.Step a t) :
    t.MirrorsIndexed ↔ s.StoredInOrder a := by
  rw [mirrorsIndexed_iff] at start ⊢
  have list := step_serverControllers taken
  unfold StoredInOrder
  cases next : s.nextStatement a with
  | none =>
      simp only [next] at list
      rw [NetworkClient.indexed_congr list]
      exact iff_of_true start (fun _ same => by cases same)
  | some x =>
      simp only [next] at list
      rw [NetworkClient.indexed_congr list, NetworkClient.indexed_run start]
      simp only [Option.some.injEq]

theorem mirrorsIndexed_initial (received requested initialized versionReceived : Bool) (n : Nat) :
    (initial (.constructed received requested initialized versionReceived n)).MirrorsIndexed := by
  rw [mirrorsIndexed_iff]
  intro i m found
  simp [initial, NetworkClient.constructed] at found

/-- From the start of a client, the mirrors are in place throughout a run exactly when every
controller data reply of the run is stored in order. -/
theorem mirrors_indexed_iff (received requested initialized versionReceived : Bool) (n : Nat)
    (as : List Action) (t : Session) :
    let s := initial (.constructed received requested initialized versionReceived n)
    Run (Kept MirrorsIndexed Step) s as t ↔ Run (Guarded StoredInOrder Step) s as t := by
  exact Run.kept_iff (fun _ _ _ start taken => step_indexed start taken) (mirrorsIndexed_initial ..)

/-- The data of device 1 is on its way when the notification of a list change overtakes it: the list is
cleared, and the reply opens the new one. -/
def overtakenReply : List Action :=
  startup 5 2 ++ connectionSteps 11 ++ [.serve] ++ handling 3 ++ connectionSteps 24 ++
    [.deviceListChanged 2, .serve] ++ handling 11 ++ handling 3

theorem overtakenReply_misplaced :
    ∃ t, Run Step (initial (.constructed false false false false 0)) overtakenReply t ∧
      ¬ t.MirrorsIndexed := by
  have list : (exec Free overtakenReply (initial (.constructed false false false false 0))).map
      (fun t => t.client.serverControllers) = some [⟨1, 1, 1⟩] := by decide
  obtain ⟨t, executed, mirrors⟩ := Option.map_eq_some_iff.mp list
  refine ⟨t, run_of_free executed, fun indexed => ?_⟩
  have first := indexed.placed 0 ⟨1, 1, 1⟩ (by rw [mirrors]; rfl)
  exact absurd first (by decide)

end Session
end SyncRGB
