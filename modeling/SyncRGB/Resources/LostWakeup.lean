import SyncRGB.Resources.BackgroundSlot

/-! Wake-ups of the background thread. Its wait has no condition, so a notification that comes before the wait
is lost; those of the callers cannot come then, that of the destructor can. -/
namespace SyncRGB
open Transition

/-- The lines behind a test of `background_thread_running` that lets the loop go on, up to the wait. -/
def BackgroundPc.committed {κ : Type} : BackgroundPc κ → Bool
  | testSlot | running _ | wait => true
  | _ => false

@[simp] theorem BackgroundPc.notified_committed {κ : Type} (pc : BackgroundPc κ) :
    pc.notified.committed = pc.committed := by
  cases pc <;> rfl

namespace Background
variable {Tid κ : Type} [DecidableEq Tid] {s t : Background Tid κ} {a : Action Tid κ}

/-- The thread waits and nobody is about to notify it, although it has a coroutine to take or has to end. -/
structure Lost (s : Background Tid κ) : Prop where
  waiting : s.pc = .waiting
  callers : ∀ u, s.callers u = .idle
  destructor : s.destructor ≠ .notify
  due : s.scheduledBackgroundFunction ≠ none ∨ s.backgroundThreadRunning = false

/-- The destructor does not notify a thread that has tested the flag and not begun to wait. -/
def NotifiesInTime (s : Background Tid κ) (a : Action Tid κ) : Prop :=
  a = .destructor → s.destructor = .notify → s.pc.committed = false

/-- Once the destructor has notified it, the thread is on its way out. -/
structure Heard (s : Background Tid κ) : Prop where
  sound : s.Sound
  stopped : s.backgroundThreadRunning = false → s.destructor ≠ .idle
  leaving : s.destructor = .join ∨ s.destructor = .done → s.pc.committed = false ∧ s.pc ≠ .waiting

omit [DecidableEq Tid] in
theorem Started.heard (started : s.Started) : s.Heard where
  sound := started.sound
  stopped := by simp [started.running]
  leaving := by simp [started.destructor]

namespace Heard

omit [DecidableEq Tid] in
theorem not_lost (heard : s.Heard) : ¬ s.Lost := by
  intro lost
  rcases lost.due with filled | stopped
  · obtain ⟨⟨u, coroutine⟩, slot⟩ := Option.ne_none_iff_exists'.mp filled
    have busy := heard.sound.notified u coroutine slot lost.waiting
    rw [lost.callers u] at busy
    rcases busy with unlock | notify
    · cases unlock
    · cases notify
  · have leaving : s.destructor = .join ∨ s.destructor = .done := by
      have begun := heard.stopped stopped
      have told := lost.destructor
      cases at_ : s.destructor with
      | idle => exact absurd at_ begun
      | notify => exact absurd at_ told
      | join => exact .inl rfl
      | done => exact .inr rfl
    exact (heard.leaving leaving).2 lost.waiting

omit [DecidableEq Tid] in
/-- A line behind the test is not one of a thread that was told to end. -/
theorem untold (heard : s.Heard) (committed : s.pc.committed = true) :
    ¬ (s.destructor = .join ∨ s.destructor = .done) := by
  intro told
  have away := (heard.leaving told).1
  rw [committed] at away
  cases away

theorem step (heard : s.Heard) (inTime : s.NotifiesInTime a) (step : Step s a t) : t.Heard := by
  have sound : t.Sound := heard.sound.step step
  have stopped := heard.stopped
  have leaving := heard.leaving
  cases step.move with
  | acquire pc free => exact ⟨sound, stopped, fun _ => ⟨rfl, nofun⟩⟩
  | goOn pc running =>
      refine ⟨sound, stopped, ?_⟩
      intro told
      have begun : s.destructor ≠ .idle := by
        rcases told with join | done
        · exact fun idle => nomatch idle.symm.trans join
        · exact fun idle => nomatch idle.symm.trans done
      have flag := heard.sound.destroyed begun
      rw [running] at flag
      cases flag
  | leave pc flag => exact ⟨sound, stopped, fun _ => ⟨rfl, nofun⟩⟩
  | take u coroutine pc filled =>
      exact ⟨sound, stopped, fun told => absurd told (heard.untold (by rw [pc]; rfl))⟩
  | pass pc empty => exact ⟨sound, stopped, fun told => absurd told (heard.untold (by rw [pc]; rfl))⟩
  | finish coroutine pc => exact ⟨sound, stopped, fun told => absurd told (heard.untold (by rw [pc]; rfl))⟩
  | sleep pc => exact ⟨sound, stopped, fun told => absurd told (heard.untold (by rw [pc]; rfl))⟩
  | wake pc => exact ⟨sound, stopped, fun _ => ⟨rfl, nofun⟩⟩
  | call u coroutine pc => exact ⟨sound, stopped, leaving⟩
  | lock u coroutine pc free => exact ⟨sound, stopped, leaving⟩
  | put u coroutine pc => exact ⟨sound, stopped, leaving⟩
  | unlock u pc => exact ⟨sound, stopped, leaving⟩
  | notify u pc =>
      refine ⟨sound, stopped, fun told => ?_⟩
      simp [(leaving told).1]
  | stop pc =>
      refine ⟨sound, fun _ => nofun, ?_⟩
      rintro (join | done)
      · cases join
      · cases done
  | destructorNotify pc =>
      refine ⟨sound, fun _ => nofun, fun _ => ?_⟩
      simp [inTime rfl pc]
  | join pc ended =>
      refine ⟨sound, fun _ => nofun, fun _ => ?_⟩
      simp [ended, BackgroundPc.committed]

end Heard

/-- A thread that is notified too early, with no call under way, comes to wait for ever. -/
theorem lost_of_notified_early (sound : s.Sound) (destructor : s.destructor = .notify)
    (early : s.pc.committed = true) (callers : ∀ u, s.callers u = .idle) :
    ∃ as t, Run Step s (.destructor :: as) t ∧ t.Lost := by
  have flag : s.backgroundThreadRunning = false := sound.destroyed (by rw [destructor]; exact nofun)
  obtain ⟨pc, calls, state, mutex, slot, running, handedOver, taken, overwritten⟩ := s
  cases destructor
  cases flag
  cases pc with
  | wait =>
      refine ⟨[.background], _, .cons rfl (.cons rfl (.nil _)), ?_⟩
      exact ⟨rfl, callers, nofun, .inr rfl⟩
  | running coroutine =>
      refine ⟨[.background, .background], _, .cons rfl (.cons rfl (.cons rfl (.nil _))), ?_⟩
      exact ⟨rfl, callers, nofun, .inr rfl⟩
  | testSlot =>
      cases slot with
      | none =>
          refine ⟨[.background, .background], _, .cons rfl (.cons rfl (.cons rfl (.nil _))), ?_⟩
          exact ⟨rfl, callers, nofun, .inr rfl⟩
      | some filled =>
          refine ⟨[.background, .background, .background], _,
            .cons rfl (.cons rfl (.cons rfl (.cons rfl (.nil _)))), ?_⟩
          exact ⟨rfl, callers, nofun, .inr rfl⟩
  | start | testRunning | waiting | woken | ended => cases early

/-- In every interleaving in which the destructor notifies the thread in time no wake-up is lost; one that
comes too early, when no call is under way, is lost. -/
theorem no_lost_wakeup (s : Background Tid κ) (started : s.Started) :
    (∀ as t, Run (Guarded NotifiesInTime Step) s as t → ¬ t.Lost) ∧
      ∀ as t, Run Step s as t → t.destructor = .notify → t.pc.committed = true →
        (∀ u, t.callers u = .idle) → ∃ bs u, Run Step t (.destructor :: bs) u ∧ u.Lost := by
  constructor
  · intro as t run
    have keeps (s : Background Tid κ) (a : Action Tid κ) (t : Background Tid κ) (heard : s.Heard)
        (step : Guarded NotifiesInTime Step s a t) : t.Heard := heard.step step.1 step.2
    exact (run.invariant keeps started.heard).not_lost
  · intro as t run destructor early callers
    have keeps (s : Background Tid κ) (a : Action Tid κ) (t : Background Tid κ) (sound : s.Sound)
        (step : Step s a t) : t.Sound := sound.step step
    exact lost_of_notified_early (run.invariant keeps started.sound) destructor early callers

/-- The thread waits, runs the exit of the HID interface, waits again, and is told to end. -/
theorem no_lost_wakeup_fresh :
    ∃ t, Run (Guarded NotifiesInTime Step) fresh [.background, .background, .background, .background,
        .call () .hidExitCoroutine, .caller (), .caller (), .caller (), .caller (), .background, .background,
        .background, .background, .background, .stop, .destructor, .background, .background, .destructor] t ∧
      ¬ t.Lost ∧ t.taken = [.hidExitCoroutine] ∧ t.destructor = .done := by
  have other {s : Background Unit Coroutine} {a : Action Unit Coroutine} (other : a ≠ .destructor) :
      s.NotifiesInTime a := fun same => absurd same other
  obtain ⟨t, run, taken, destructor⟩ : ∃ t, Run (Guarded NotifiesInTime Step) fresh [.background, .background,
      .background, .background, .call () .hidExitCoroutine, .caller (), .caller (), .caller (), .caller (),
      .background, .background, .background, .background, .background, .stop, .destructor, .background, .background,
      .destructor] t ∧ t.taken = [.hidExitCoroutine] ∧ t.destructor = .done := by
    refine ⟨?state, ?run, ?taken, ?destructor⟩
    case run =>
      iterate 15 apply Run.cons ⟨other nofun, rfl⟩
      apply Run.cons ⟨fun _ _ => rfl, rfl⟩
      iterate 2 apply Run.cons ⟨other nofun, rfl⟩
      apply Run.cons ⟨fun _ _ => rfl, rfl⟩
      exact .nil _
    case taken => rfl
    case destructor => rfl
  exact ⟨t, run, (no_lost_wakeup fresh started_fresh).1 _ t run, taken, destructor⟩

/-- The thread runs the exit of the HID interface that `Cleanup` has handed over while the destructor clears
the flag and notifies; then it waits for ever. -/
theorem destructor_wakeup_lost :
    ∃ s, Run Step fresh [.background, .background, .background, .background, .call () .hidExitCoroutine,
        .caller (), .caller (), .caller (), .caller (), .background, .background, .background, .stop,
        .destructor, .background, .background] s ∧
      s.Lost ∧ s.scheduledBackgroundFunction = none ∧ s.backgroundThreadRunning = false ∧
      s.destructor = .join := by
  refine ⟨_, .cons rfl (.cons rfl (.cons rfl (.cons rfl (.cons rfl (.cons rfl (.cons rfl (.cons rfl
    (.cons rfl (.cons rfl (.cons rfl (.cons rfl (.cons rfl (.cons rfl (.cons rfl (.cons rfl
      (.nil _)))))))))))))))), ?_, rfl, rfl, rfl⟩
  exact ⟨rfl, fun _ => rfl, nofun, .inr rfl⟩

end Background
end SyncRGB
