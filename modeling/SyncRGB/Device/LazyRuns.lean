import Mathlib.Data.List.Induction
import SyncRGB.Device.LazyInit

/-! What every run of the threads keeps, and the order of their events that follows from it. -/
namespace SyncRGB
open Transition
variable {T Fn : Type}

namespace InitPc

/-- Between the lock and the unlock. -/
def holds : InitPc Fn → Bool
  | reload | deviceInitialize | running _ | store | unlock | unwind | assign _ | clear | unlockArming => true
  | _ => false

/-- From the second test to the store, or to the end of an exception in between. -/
def initialising : InitPc Fn → Bool
  | deviceInitialize | running _ | store | unwind => true
  | _ => false

def stores : InitPc Fn → Bool
  | store => true
  | _ => false

def runs : InitPc Fn → Bool
  | running _ => true
  | _ => false

/-- The device has been initialised for the call. -/
def served : InitPc Fn → Bool
  | store | unlock | leave => true
  | _ => false

theorem holds_of_initialising {pc : InitPc Fn} (initialising_ : pc.initialising = true) : pc.holds = true := by
  cases pc <;> first | rfl | cases initialising_

theorem holds_of_runs {pc : InitPc Fn} (runs_ : pc.runs = true) : pc.holds = true := by
  cases pc <;> first | rfl | cases runs_

theorem holds_of_stores {pc : InitPc Fn} (stores_ : pc.stores = true) : pc.holds = true := by
  cases pc <;> first | rfl | cases stores_

end InitPc

/-! ### One line -/

namespace InitLine
variable {t : T} {pc next : InitPc Fn} {m m' : InitShared T Fn} {event : InitEvent T}

/-- The mutex is taken where it is free and given back where it is held; the other lines leave it alone. -/
theorem mutex (line : InitLine t pc m event next m') :
    m.deviceInitializeMutex = none ∧ m'.deviceInitializeMutex = some t ∧ next.holds = true ∨
      m'.deviceInitializeMutex = none ∧ pc.holds = true ∧ next.holds = false ∨
      m'.deviceInitializeMutex = m.deviceInitializeMutex ∧ next.holds = pc.holds := by
  cases line with
  | lock free => exact .inl ⟨free, rfl, rfl⟩
  | lockReset free => exact .inl ⟨free, rfl, rfl⟩
  | lockSet free => exact .inl ⟨free, rfl, rfl⟩
  | unlock => exact .inr (.inl ⟨rfl, rfl, rfl⟩)
  | unwind => exact .inr (.inl ⟨rfl, rfl, rfl⟩)
  | unlockArming => exact .inr (.inl ⟨rfl, rfl, rfl⟩)
  | _ => exact .inr (.inr ⟨rfl, rfl⟩)

/-- Who stores the flag holds the mutex. -/
theorem flag (line : InitLine t pc m event next m') :
    m'.deviceInitialized = m.deviceInitialized ∨ pc.holds = true := by
  cases line with
  | store => exact .inr rfl
  | clear => exact .inr rfl
  | _ => exact .inl rfl

theorem initialising (line : InitLine t pc m event next m')
    (before : pc.initialising = true → m.deviceInitialized = false) (now : next.initialising = true) :
    m'.deviceInitialized = false := by
  cases line with
  | reloadFalse not_yet => exact not_yet
  | begin => exact before rfl
  | finish => exact before rfl
  | throw => exact before rfl
  | _ => cases now

/-- The flag is stored behind a run that returned. -/
theorem done (line : InitLine t pc m event next m') :
    m'.deviceInitialized = true ∨ next.stores = true →
      (m.deviceInitialized = true ∨ pc.stores = true) ∧ (∀ v, event ≠ .rearmed v) ∨ event = .finished t := by
  cases line with
  | finish => exact fun _ => .inr rfl
  | store => exact fun _ => .inl ⟨.inr rfl, nofun⟩
  | clear => exact fun done => by rcases done with set | stores <;> contradiction
  | _ => exact fun done => .inl ⟨done.imp_right nofun, nofun⟩

theorem done_kept (line : InitLine t pc m event next m') (kept : ∀ v, event ≠ .rearmed v)
    (done : m.deviceInitialized = true ∨ pc.stores = true) : m'.deviceInitialized = true := by
  cases line with
  | store => rfl
  | clear => exact absurd rfl (kept t)
  | _ => exact done.resolve_right nofun

/-- The lines that begin and end a run. -/
theorem run {u : T} (line : InitLine t pc m event next m') (run : event ∈ [.began u, .finished u, .threw u]) :
    u = t ∧ pc.initialising = true ∧ pc.stores = false := by
  cases line with
  | begin | finish | throw => simp_all [InitPc.initialising, InitPc.stores]
  | _ => simp at run

theorem begin_runs {u : T} (line : InitLine t pc m (.began u) next m') :
    u = t ∧ pc.runs = false ∧ pc.holds = true ∧ next.runs = true := by
  cases line with
  | begin => exact ⟨rfl, rfl, rfl, rfl⟩

theorem run_ends (line : InitLine t pc m event next m') (running : pc.runs = true) :
    event = .finished t ∨ event = .threw t := by
  cases line with
  | finish => exact .inl rfl
  | throw => exact .inr rfl
  | _ => cases running

theorem finish_stores {u : T} (line : InitLine t pc m (.finished u) next m') : next.stores = true := by
  cases line with
  | finish => rfl

theorem holds_of_rearmed {u : T} (line : InitLine t pc m (.rearmed u) next m') : pc.holds = true := by
  cases line with
  | clear => rfl

theorem called_unserved {u : T} (line : InitLine t pc m (.called u) next m') : u = t ∧ next.served = false := by
  cases line with
  | call => exact ⟨rfl, rfl⟩

theorem returned_served {u : T} (line : InitLine t pc m (.returned u) next m') : u = t ∧ pc.served = true := by
  cases line with
  | leave => exact ⟨rfl, rfl⟩

/-- A call is served by its own run or by the flag. -/
theorem served (line : InitLine t pc m event next m') (now : next.served = true) :
    pc.served = true ∨ event = .finished t ∨ m.deviceInitialized = true := by
  cases line with
  | loadTrue set => exact .inr (.inr set)
  | reloadTrue set => exact .inr (.inr set)
  | finish => exact .inr (.inl rfl)
  | store => exact .inl rfl
  | unlock => exact .inl rfl
  | _ => cases now

end InitLine

namespace InitEvent

theorem Initialised.append {events : List (InitEvent T)} {event : InitEvent T} (before : Initialised events)
    (kept : ∀ v, event ≠ .rearmed v) : Initialised (events ++ [event]) := by
  obtain ⟨front, u, back, rfl, none_⟩ := before
  refine ⟨front, u, back ++ [event], by rw [List.append_assoc, List.cons_append], fun v mem => ?_⟩
  rcases List.mem_append.mp mem with early | last
  · exact none_ v early
  · exact kept v (List.mem_singleton.mp last).symm

/-- The run that returned stands in front of the call or behind its beginning. -/
theorem Initialised.split {front middle : List (InitEvent T)} {t : T}
    (initialised : Initialised (front ++ .called t :: middle)) :
    Initialised front ∨ ∃ u, .finished u ∈ middle := by
  obtain ⟨early, u, late, same, none_⟩ := initialised
  rcases List.append_eq_append_iff.mp same with ⟨between, rfl, split⟩ | ⟨between, rfl, split⟩
  · cases between with
    | nil => cases split
    | cons event between =>
        obtain ⟨rfl, rfl⟩ := List.cons.inj split
        exact .inr ⟨u, by simp⟩
  · cases between with
    | nil => cases split
    | cons event between =>
        obtain ⟨rfl, rfl⟩ := List.cons.inj split
        exact .inl ⟨early, u, between, rfl, fun v mem => none_ v (List.mem_append_left _ mem)⟩

end InitEvent

/-! ### One step -/

namespace LazyInit
variable [DecidableEq T] {s s' : LazyInit T Fn} {event : InitEvent T}

structure Inv (s : LazyInit T Fn) : Prop where
  locked : Exclusive InitPc.holds s.pc s.members.deviceInitializeMutex
  unset (t : T) : (s.pc t).initialising = true → s.members.deviceInitialized = false

/-- A run has returned since the device was armed. -/
def Done (s : LazyInit T Fn) : Prop := s.members.deviceInitialized = true ∨ ∃ t, (s.pc t).stores = true

omit [DecidableEq T] in
theorem constructed_inv : Inv (constructed : LazyInit T Fn) where
  locked _ := iff_of_false Bool.false_ne_true nofun
  unset _ _ := rfl

omit [DecidableEq T] in
theorem constructed_not_done : ¬ Done (constructed : LazyInit T Fn) := by
  rintro (set | ⟨t, stores⟩)
  · cases set
  · cases stores

/-- The thread that steps, and the others, which stay where they are. -/
theorem Step.thread (step : Step s event s') :
    ∃ t, InitLine t (s.pc t) s.members event (s'.pc t) s'.members ∧ s'.pc = Function.update s.pc t (s'.pc t) ∧
      ∀ u, u ≠ t → s'.pc u = s.pc u := by
  obtain ⟨t, next, members, line, rfl⟩ := step
  have there : Function.update s.pc t next t = next := Function.update_self _ _ _
  exact ⟨t, by rwa [← there] at line, congrArg (Function.update s.pc t) there.symm,
    fun u other => Function.update_of_ne other _ _⟩

theorem Step.inv (step : Step s event s') (inv : Inv s) : Inv s' := by
  obtain ⟨t, line, moved, others⟩ := step.thread
  constructor
  · have locked := inv.locked
    rcases line.mutex with ⟨free, taken, now⟩ | ⟨given, held, no_more⟩ | ⟨kept, same⟩
    · rw [free] at locked
      rw [taken, moved]
      exact locked.acquire now
    · rw [given, moved]
      exact locked.release held no_more
    · rw [kept, moved]
      exact locked.stay same
  · intro u initialising
    by_cases own : u = t
    · rw [own] at initialising
      exact line.initialising (inv.unset t) initialising
    · rw [others u own] at initialising
      rcases line.flag with same | held
      · rw [same]
        exact inv.unset u initialising
      · exact absurd (inv.locked.eq (InitPc.holds_of_initialising initialising) held) own

theorem Step.done (step : Step s event s') (inv : Inv s) (done : Done s') :
    Done s ∧ (∀ v, event ≠ .rearmed v) ∨ ∃ u, event = .finished u := by
  obtain ⟨t, line, -, others⟩ := step.thread
  have mine (done : s'.members.deviceInitialized = true ∨ (s'.pc t).stores = true) :
      Done s ∧ (∀ v, event ≠ .rearmed v) ∨ ∃ u, event = .finished u := by
    rcases line.done done with ⟨before, kept⟩ | finished
    · exact .inl ⟨before.imp_right fun stores => ⟨t, stores⟩, kept⟩
    · exact .inr ⟨t, finished⟩
  rcases done with set | ⟨u, stores⟩
  · exact mine (.inl set)
  · by_cases own : u = t
    · rw [own] at stores
      exact mine (.inr stores)
    · rw [others u own] at stores
      refine .inl ⟨.inr ⟨u, stores⟩, ?_⟩
      rintro v rfl
      exact own (inv.locked.eq (InitPc.holds_of_stores stores) line.holds_of_rearmed)

theorem Step.done_kept (step : Step s event s') (kept : ∀ v, event ≠ .rearmed v) (done : Done s) : Done s' := by
  obtain ⟨t, line, -, others⟩ := step.thread
  rcases done with set | ⟨u, stores⟩
  · exact .inl (line.done_kept kept (.inl set))
  · by_cases own : u = t
    · rw [own] at stores
      exact .inl (line.done_kept kept (.inr stores))
    · exact .inr ⟨u, by rwa [others u own]⟩

/-- No run is under way when the device is initialised. -/
theorem Step.not_done {u : T} (step : Step s event s') (inv : Inv s)
    (run : event ∈ [.began u, .finished u, .threw u]) : ¬ Done s := by
  obtain ⟨t, line, -⟩ := step.thread
  obtain ⟨-, initialising, no_store⟩ := line.run run
  rintro (set | ⟨v, stores⟩)
  · rw [inv.unset t initialising] at set
    cases set
  · have same : v = t :=
      inv.locked.eq (InitPc.holds_of_stores stores) (InitPc.holds_of_initialising initialising)
    rw [same, no_store] at stores
    cases stores

theorem Step.done_of_finished {u : T} (step : Step s (.finished u) s') : Done s' := by
  obtain ⟨t, line, -⟩ := step.thread
  exact .inr ⟨t, line.finish_stores⟩

theorem Step.running_kept {t : T} (step : Step s event s') (no_end : event ≠ .finished t ∧ event ≠ .threw t)
    (running : (s.pc t).runs = true) : (s'.pc t).runs = true := by
  obtain ⟨u, line, -, others⟩ := step.thread
  by_cases own : t = u
  · rw [own] at running no_end
    exact absurd (line.run_ends running) (not_or.mpr no_end)
  · rwa [others t own]

/-! ### Runs -/

theorem inv_of_run {events : List (InitEvent T)} (run : Run Step s events s') (base : Inv s) : Inv s' :=
  run.invariant (fun _ _ _ inv step => Step.inv step inv) base

theorem running_kept_of_run {t : T} {events : List (InitEvent T)} (run : Run Step s events s')
    (no_end : ∀ event ∈ events, event ≠ .finished t ∧ event ≠ .threw t) (running : (s.pc t).runs = true) :
    (s'.pc t).runs = true := by
  have keeps (s : LazyInit T Fn) (event : InitEvent T) (s' : LazyInit T Fn) (running : (s.pc t).runs = true)
      (no_end : event ≠ .finished t ∧ event ≠ .threw t) (step : Step s event s') : (s'.pc t).runs = true :=
    step.running_kept no_end running
  exact run.invariant_of_labels keeps no_end running

theorem done_kept_of_run {events : List (InitEvent T)} (run : Run Step s events s')
    (kept : ∀ event ∈ events, ∀ v, event ≠ .rearmed v) (done : Done s) : Done s' := by
  have keeps (s : LazyInit T Fn) (event : InitEvent T) (s' : LazyInit T Fn) (done : Done s)
      (kept : ∀ v, event ≠ .rearmed v) (step : Step s event s') : Done s' := step.done_kept kept done
  exact run.invariant_of_labels keeps kept done

/-- What happens between two events, with the states around it. -/
theorem run_split {as bs cs : List (InitEvent T)} {a b : InitEvent T} (base : Inv s)
    (run : Run Step s (as ++ a :: (bs ++ b :: cs)) s') :
    ∃ s₁ s₂ s₃ s₄, Inv s₁ ∧ Run Step s as s₁ ∧ Step s₁ a s₂ ∧ Run Step s₂ bs s₃ ∧ Inv s₃ ∧ Step s₃ b s₄ := by
  obtain ⟨s₁, front, rest⟩ := Run.append_iff.mp run
  obtain ⟨s₂, first, rest⟩ := Run.cons_iff.mp rest
  obtain ⟨s₃, middle, rest⟩ := Run.append_iff.mp rest
  obtain ⟨s₄, second, -⟩ := Run.cons_iff.mp rest
  have inv := inv_of_run front base
  exact ⟨s₁, s₂, s₃, s₄, inv, front, first, middle, inv_of_run middle (first.inv inv), second⟩

section
variable {events : List (InitEvent T)}

theorem noOverlap_of_run (run : Run Step s events s') (base : Inv s) : InitEvent.NoOverlap events := by
  rintro front t middle u back rfl
  obtain ⟨s₁, s₂, s₃, s₄, -, -, first, between, inv, second⟩ := run_split base run
  by_contra not_ended
  rw [not_or] at not_ended
  have began : (s₂.pc t).runs = true := by
    obtain ⟨v, line, -⟩ := first.thread
    obtain ⟨rfl, -, -, runs⟩ := line.begin_runs
    exact runs
  have still : (s₃.pc t).runs = true := by
    apply running_kept_of_run between _ began
    intro event mem
    exact ⟨fun same => not_ended.1 (same ▸ mem), fun same => not_ended.2 (same ▸ mem)⟩
  obtain ⟨v, line, -⟩ := second.thread
  obtain ⟨rfl, not_running, held, -⟩ := line.begin_runs
  have same : t = u := inv.locked.eq (InitPc.holds_of_runs still) held
  rw [← same, still] at not_running
  cases not_running

theorem finishesOnce_of_run (run : Run Step s events s') (base : Inv s) : InitEvent.FinishesOnce events := by
  rintro front t middle event u back rfl again
  obtain ⟨s₁, s₂, s₃, s₄, -, -, first, between, inv, second⟩ := run_split base run
  by_contra not_armed
  have still : Done s₃ := by
    apply done_kept_of_run between _ first.done_of_finished
    intro event mem v same
    exact not_armed ⟨v, same ▸ mem⟩
  refine second.not_done (u := u) inv ?_ still
  rcases again with rfl | rfl <;> simp

/-! ### What a call finds -/

theorem initialised_of_run (run : Run Step s events s') (base : Inv s) (start : ¬ Done s) (done : Done s') :
    InitEvent.Initialised events := by
  induction events using List.reverseRecOn generalizing s' with
  | nil =>
      cases run
      exact absurd done start
  | append_singleton events event ih =>
      obtain ⟨s₁, front, rest⟩ := Run.append_iff.mp run
      obtain ⟨s₂, last, rest⟩ := Run.cons_iff.mp rest
      cases rest
      rcases last.done (inv_of_run front base) done with ⟨before, kept⟩ | ⟨u, rfl⟩
      · exact (ih front before).append kept
      · exact ⟨events, u, [], rfl, fun v => List.not_mem_nil⟩

/-- How a call comes to be served, by induction on what happens behind its beginning. -/
theorem served_of_run {front middle : List (InitEvent T)} {t : T} {s₁ s₂ s₃ : LazyInit T Fn} (base : Inv s)
    (start : ¬ Done s) (before : Run Step s front s₁) (call : Step s₁ (.called t) s₂) (behind : Run Step s₂ middle s₃)
    (served : (s₃.pc t).served = true) : InitEvent.Initialised front ∨ ∃ u, .finished u ∈ middle := by
  induction middle using List.reverseRecOn generalizing s₃ with
  | nil =>
      cases behind
      obtain ⟨v, line, -⟩ := call.thread
      obtain ⟨rfl, unserved⟩ := line.called_unserved
      rw [unserved] at served
      cases served
  | append_singleton middle event ih =>
      obtain ⟨s₄, until_, rest⟩ := Run.append_iff.mp behind
      obtain ⟨s₅, last, rest⟩ := Run.cons_iff.mp rest
      cases rest
      have earlier (found : InitEvent.Initialised front ∨ ∃ u, .finished u ∈ middle) :
          InitEvent.Initialised front ∨ ∃ u, .finished u ∈ middle ++ [event] :=
        found.imp_right fun ⟨u, mem⟩ => ⟨u, List.mem_append_left _ mem⟩
      obtain ⟨v, line, -, others⟩ := last.thread
      by_cases own : t = v
      · rw [← own] at line
        rcases line.served served with served | rfl | set
        · exact earlier (ih until_ served)
        · exact .inr ⟨t, List.mem_append_right _ (List.mem_singleton.mpr rfl)⟩
        · have whole : Run Step s (front ++ .called t :: middle) s₄ :=
            Run.append_iff.mpr ⟨s₁, before, .cons call until_⟩
          exact earlier (initialised_of_run whole base start (.inl set)).split
      · rw [others t own] at served
        exact earlier (ih until_ served)

theorem returnsInitialised_of_run (run : Run Step s events s') (base : Inv s) (start : ¬ Done s) :
    InitEvent.ReturnsInitialised events := by
  rintro front t middle back rfl
  obtain ⟨s₁, s₂, s₃, s₄, -, before, call, behind, -, return_⟩ := run_split base run
  obtain ⟨v, line, -⟩ := return_.thread
  obtain ⟨rfl, served⟩ := line.returned_served
  exact served_of_run base start before call behind served

theorem throwLeaves_of_run (run : Run Step s events s') (base : Inv s) :
    InitEvent.ThrowLeaves events s'.members.deviceInitialized := by
  rintro front t middle rfl none_
  obtain ⟨s₁, before, rest⟩ := Run.append_iff.mp run
  obtain ⟨s₂, first, rest⟩ := Run.cons_iff.mp rest
  have inv := inv_of_run before base
  have keeps (s : LazyInit T Fn) (event : InitEvent T) (s' : LazyInit T Fn) (both : Inv s ∧ ¬ Done s)
      (no_finish : ∀ u, event ≠ .finished u) (step : Step s event s') : Inv s' ∧ ¬ Done s' := by
    refine ⟨step.inv both.1, fun done => ?_⟩
    rcases step.done both.1 done with ⟨done, -⟩ | ⟨u, same⟩
    · exact both.2 done
    · exact no_finish u same
  have start : Inv s₂ ∧ ¬ Done s₂ := by
    have not_done : ¬ Done s₁ := first.not_done inv (List.mem_cons_of_mem _ (List.mem_cons_of_mem _ List.mem_cons_self))
    exact keeps s₁ (.threw t) s₂ ⟨inv, not_done⟩ (by rintro u ⟨⟩) first
  have stays := rest.invariant_of_labels keeps (fun event mem u same => none_ u (same ▸ mem)) start
  exact Bool.eq_false_iff.mpr fun set => stays.2 (.inl set)

end

theorem lazilyInitialised_of_run {events : List (InitEvent T)} {s : LazyInit T Fn}
    (run : Run Step constructed events s) : LazilyInitialised events s where
  noOverlap := noOverlap_of_run run constructed_inv
  finishesOnce := finishesOnce_of_run run constructed_inv
  returnsInitialised := returnsInitialised_of_run run constructed_inv constructed_not_done
  throwLeaves := throwLeaves_of_run run constructed_inv

/-- Two threads race for the initialisation, a third one arms the device again, and one of them initialises it once
more. -/
theorem called_twice : ∃ s : LazyInit ℕ ℕ, s.members.deviceInitialized = true ∧ LazilyInitialised
    [.called 0, .called 1, .internal, .internal, .internal, .internal, .began 0, .finished 0, .internal, .internal,
      .internal, .internal, .internal, .returned 1, .returned 0, .internal, .internal, .internal, .rearmed 2, .internal,
      .called 1, .internal, .internal, .internal, .began 1, .finished 1, .internal, .internal, .returned 1] s :=
  ⟨_, rfl, lazilyInitialised_of_run <|
    .cons ⟨0, _, _, .call, rfl⟩ <| .cons ⟨1, _, _, .call, rfl⟩ <| .cons ⟨0, _, _, .loadFalse rfl, rfl⟩ <|
    .cons ⟨1, _, _, .loadFalse rfl, rfl⟩ <| .cons ⟨0, _, _, .lock rfl, rfl⟩ <|
    .cons ⟨0, _, _, .reloadFalse rfl, rfl⟩ <| .cons ⟨0, _, _, .begin, rfl⟩ <| .cons ⟨0, _, _, .finish, rfl⟩ <|
    .cons ⟨0, _, _, .store, rfl⟩ <| .cons ⟨0, _, _, .unlock, rfl⟩ <| .cons ⟨1, _, _, .lock rfl, rfl⟩ <|
    .cons ⟨1, _, _, .reloadTrue rfl, rfl⟩ <| .cons ⟨1, _, _, .unlock, rfl⟩ <| .cons ⟨1, _, _, .leave, rfl⟩ <|
    .cons ⟨0, _, _, .leave, rfl⟩ <| .cons ⟨2, _, _, .set (some 7), rfl⟩ <| .cons ⟨2, _, _, .lockSet rfl, rfl⟩ <|
    .cons ⟨2, _, _, .assign, rfl⟩ <| .cons ⟨2, _, _, .clear, rfl⟩ <| .cons ⟨2, _, _, .unlockArming, rfl⟩ <|
    .cons ⟨1, _, _, .call, rfl⟩ <| .cons ⟨1, _, _, .loadFalse rfl, rfl⟩ <| .cons ⟨1, _, _, .lock rfl, rfl⟩ <|
    .cons ⟨1, _, _, .reloadFalse rfl, rfl⟩ <| .cons ⟨1, _, _, .begin, rfl⟩ <| .cons ⟨1, _, _, .finish, rfl⟩ <|
    .cons ⟨1, _, _, .store, rfl⟩ <| .cons ⟨1, _, _, .unlock, rfl⟩ <| .cons ⟨1, _, _, .leave, rfl⟩ <| .nil _⟩

/-- A run that throws is followed by another one, without the device being armed in between. -/
theorem thrown_runs_again : ¬∀ (events : List (InitEvent ℕ)) (s : LazyInit ℕ ℕ), Run Step constructed events s →
    InitEvent.NoOverlap events ∧ InitEvent.RunsOnce events ∧ InitEvent.ReturnsInitialised events ∧
      InitEvent.ThrowLeaves events s.members.deviceInitialized := by
  intro all
  have run : ∃ s : LazyInit ℕ ℕ, Run Step constructed
      ([.internal, .internal, .internal, .rearmed 0, .internal, .called 0, .internal, .internal, .internal] ++
        .began 0 :: ([.threw 0, .internal, .raised 0, .called 0, .internal, .internal, .internal] ++
          .began 0 :: [])) s :=
    ⟨_, .cons ⟨0, _, _, .set (some 7), rfl⟩ <| .cons ⟨0, _, _, .lockSet rfl, rfl⟩ <| .cons ⟨0, _, _, .assign, rfl⟩ <|
      .cons ⟨0, _, _, .clear, rfl⟩ <| .cons ⟨0, _, _, .unlockArming, rfl⟩ <| .cons ⟨0, _, _, .call, rfl⟩ <|
      .cons ⟨0, _, _, .loadFalse rfl, rfl⟩ <| .cons ⟨0, _, _, .lock rfl, rfl⟩ <|
      .cons ⟨0, _, _, .reloadFalse rfl, rfl⟩ <| .cons ⟨0, _, _, .begin, rfl⟩ <| .cons ⟨0, _, _, .throw, rfl⟩ <|
      .cons ⟨0, _, _, .unwind, rfl⟩ <| .cons ⟨0, _, _, .raise, rfl⟩ <| .cons ⟨0, _, _, .call, rfl⟩ <|
      .cons ⟨0, _, _, .loadFalse rfl, rfl⟩ <| .cons ⟨0, _, _, .lock rfl, rfl⟩ <|
      .cons ⟨0, _, _, .reloadFalse rfl, rfl⟩ <| .cons ⟨0, _, _, .begin, rfl⟩ <| .nil _⟩
  obtain ⟨s, run⟩ := run
  obtain ⟨v, armed⟩ := (all _ s run).2.1 _ _ _ _ _ rfl
  simp at armed

end LazyInit
end SyncRGB
