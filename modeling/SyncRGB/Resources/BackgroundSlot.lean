import Mathlib.Tactic.IntervalCases
import SyncRGB.Resources.Background

/-! What the one slot guarantees: which hand-overs lose nothing, and that what is in the slot is taken from
it in every fair execution. -/
namespace SyncRGB
open Transition
namespace Background
variable {Tid κ : Type} [DecidableEq Tid] {s t : Background Tid κ} {a : Action Tid κ}

omit [DecidableEq Tid] in
theorem findsSlotEmpty_of_pc {u : Tid} {pc : HandOverPc κ} (at_ : s.callers u = pc)
    (other : ∀ coroutine, pc ≠ .assign coroutine) : s.FindsSlotEmpty (.caller u) := by
  intro v coroutine same assign
  cases same
  exact absurd (at_.symm.trans assign) (other coroutine)

/-- A line keeps the slot lossless exactly when it does not put a coroutine over another one. -/
theorem lossless_step_iff (lossless : s.Lossless) (step : Step s a t) :
    t.Lossless ↔ s.FindsSlotEmpty a := by
  have kept : s.overwritten = [] ∧ s.handedOver = s.taken ++ s.slotted :=
    ⟨lossless.none_, lossless.order⟩
  cases step.move with
  | take u coroutine pc filled =>
      apply iff_of_true
      · constructor
        · exact kept.1
        · have order := kept.2
          rw [slotted, filled] at order
          simpa [slotted] using order
      · intro v c same
        cases same
  | put u coroutine assign =>
      constructor
      · intro after v c same held
        have none_ := after.none_
        simp only [goto, slotted, List.append_eq_nil_iff, Option.toList_eq_nil_iff,
          Option.map_eq_none_iff] at none_
        exact none_.2
      · intro empty
        have none_ := empty u coroutine rfl assign
        have order := kept.2
        constructor
        · simp [goto, kept.1, slotted, none_]
        · rw [slotted, none_] at order
          simpa [goto, slotted] using order
  | lock u coroutine pc free =>
      exact iff_of_true ⟨kept.1, kept.2⟩ (findsSlotEmpty_of_pc pc nofun)
  | unlock u pc => exact iff_of_true ⟨kept.1, kept.2⟩ (findsSlotEmpty_of_pc pc nofun)
  | notify u pc => exact iff_of_true ⟨kept.1, kept.2⟩ (findsSlotEmpty_of_pc pc nofun)
  | acquire | goOn | leave | pass | finish | sleep | wake | call | stop | destructorNotify | join =>
      exact iff_of_true ⟨kept.1, kept.2⟩ fun _ _ same => nomatch same

omit [DecidableEq Tid] in
theorem Started.lossless (started : s.Started) : s.Lossless := by
  constructor
  · exact started.overwritten
  · rw [started.handedOver, started.taken, slotted, started.empty]
    rfl

/-- Who holds the mutex, and what is so while the thread waits. -/
structure Sound (s : Background Tid κ) : Prop where
  background : s.stateMutex = some .background ↔ s.pc.locked = true
  caller : ∀ u, s.stateMutex = some (.caller u) ↔ (s.callers u).locked = true
  destructor : s.stateMutex ≠ some .destructor
  emptied : s.pc.emptied = true → s.scheduledBackgroundFunction = none
  notified : ∀ u coroutine, s.scheduledBackgroundFunction = some (u, coroutine) → s.pc = .waiting →
    s.callers u = .unlock ∨ s.callers u = .notify
  alive : s.pc = .ended → s.backgroundThreadRunning = false
  destroyed : s.destructor ≠ .idle → s.backgroundThreadRunning = false

omit [DecidableEq Tid] in
theorem Started.sound (started : s.Started) : s.Sound := by
  constructor
  · simp [started.free, started.pc, BackgroundPc.locked]
  · simp [started.free, started.callers, HandOverPc.locked]
  · simp [started.free]
  · simp [started.pc, BackgroundPc.emptied]
  · simp [started.empty]
  · simp [started.pc]
  · simp [started.destructor]

namespace Sound

omit [DecidableEq Tid] in
theorem outside (sound : s.Sound) (free : s.stateMutex ≠ some .background) : s.pc.locked = false := by
  rw [Bool.eq_false_iff, ne_eq, ← sound.background]
  exact free

omit [DecidableEq Tid] in
theorem caller_outside (sound : s.Sound) {u : Tid} (free : s.stateMutex ≠ some (.caller u)) :
    (s.callers u).locked = false := by
  rw [Bool.eq_false_iff, ne_eq, ← sound.caller]
  exact free

omit [DecidableEq Tid] in
theorem held (sound : s.Sound) {u : Tid} {pc : HandOverPc κ} (at_ : s.callers u = pc)
    (locked : pc.locked = true) : s.stateMutex = some (.caller u) := by
  apply (sound.caller u).mpr
  rw [at_]
  exact locked

omit [DecidableEq Tid] in
theorem holds (sound : s.Sound) {pc : BackgroundPc κ} (at_ : s.pc = pc) (locked : pc.locked = true) :
    s.stateMutex = some .background := by
  apply sound.background.mpr
  rw [at_]
  exact locked

omit [DecidableEq Tid] in
/-- The callers' view, when the mutex changes between the thread and nobody. -/
theorem callers_free (sound : s.Sound) {m : Option (BackgroundProcess Tid)}
    (before : ∀ u, s.stateMutex ≠ some (.caller u)) (after : ∀ u, m ≠ some (.caller u)) (u : Tid) :
    m = some (.caller u) ↔ (s.callers u).locked = true := by
  apply iff_of_false (after u)
  rw [sound.caller_outside (before u)]
  exact nofun

/-- A line of a thread's call that keeps the mutex, or takes it from nobody, or gives it to nobody. -/
theorem goto_caller (sound : s.Sound) {u : Tid} {m : Option (BackgroundProcess Tid)} {pc : HandOverPc κ}
    (own : m = some (.caller u) ↔ pc.locked = true)
    (others : ∀ v, v ≠ u → (m = some (.caller v) ↔ s.stateMutex = some (.caller v))) (v : Tid) :
    m = some (.caller v) ↔ (Function.update s.callers u pc v).locked = true := by
  rw [Function.update_apply]
  split
  · next same =>
      subst same
      exact own
  · next other => exact (others v other).trans (sound.caller v)

/-- A call that has not put its coroutine into the slot is not the one the thread waits for. -/
theorem notified_goto (sound : s.Sound) {u : Tid} {pc pc' : HandOverPc κ} (at_ : s.callers u = pc)
    (unlock : pc ≠ .unlock) (notify : pc ≠ .notify) (v : Tid) (coroutine : κ)
    (filled : s.scheduledBackgroundFunction = some (v, coroutine)) (waiting : s.pc = .waiting) :
    Function.update s.callers u pc' v = .unlock ∨ Function.update s.callers u pc' v = .notify := by
  have own := sound.notified v coroutine filled waiting
  have other : v ≠ u := by
    intro same
    rw [same, at_] at own
    exact own.elim unlock notify
  rw [Function.update_of_ne other]
  exact own

theorem step (sound : s.Sound) (step : Step s a t) : t.Sound := by
  cases step.move with
  | acquire pc free =>
      have nobody (u : Tid) : s.stateMutex ≠ some (.caller u) := by simp [free]
      exact { sound with
        background := iff_of_true rfl rfl
        caller := sound.callers_free nobody nofun
        destructor := nofun
        emptied := nofun
        notified := nofun
        alive := nofun }
  | goOn pc running =>
      exact { sound with
        background := iff_of_true (sound.holds pc rfl) rfl
        emptied := nofun
        notified := nofun
        alive := nofun }
  | leave pc stopped =>
      have nobody (u : Tid) : s.stateMutex ≠ some (.caller u) := by simp [sound.holds pc rfl]
      exact { sound with
        background := iff_of_false nofun nofun
        caller := sound.callers_free nobody nofun
        destructor := nofun
        emptied := nofun
        notified := nofun
        alive := fun _ => stopped }
  | take u coroutine pc filled =>
      exact { sound with
        background := iff_of_true (sound.holds pc rfl) rfl
        emptied := fun _ => rfl
        notified := nofun
        alive := nofun }
  | pass pc empty =>
      exact { sound with
        background := iff_of_true (sound.holds pc rfl) rfl
        emptied := fun _ => empty
        notified := nofun
        alive := nofun }
  | finish coroutine pc =>
      exact { sound with
        background := iff_of_true (sound.holds pc rfl) rfl
        emptied := fun _ => sound.emptied (by rw [pc]; rfl)
        notified := nofun
        alive := nofun }
  | sleep pc =>
      have nobody (u : Tid) : s.stateMutex ≠ some (.caller u) := by simp [sound.holds pc rfl]
      have empty : s.scheduledBackgroundFunction = none := sound.emptied (by rw [pc]; rfl)
      exact { sound with
        background := iff_of_false nofun nofun
        caller := sound.callers_free nobody nofun
        destructor := nofun
        emptied := nofun
        notified := fun u coroutine filled => nomatch empty.symm.trans filled
        alive := nofun }
  | wake pc =>
      have away : s.stateMutex ≠ some .background := by
        rw [ne_eq, sound.background, pc]
        exact nofun
      exact { sound with
        background := iff_of_false away nofun
        emptied := nofun
        notified := nofun
        alive := nofun }
  | call u coroutine pc =>
      have free : s.stateMutex ≠ some (.caller u) := by
        rw [ne_eq, sound.caller, pc]
        exact nofun
      exact { sound with
        caller := sound.goto_caller (iff_of_false free nofun) fun _ _ => Iff.rfl
        notified := sound.notified_goto pc nofun nofun }
  | lock u coroutine pc free =>
      have outside : s.pc.locked = false := sound.outside (by simp [free])
      exact { sound with
        background := by
          apply iff_of_false nofun
          rw [goto_pc, outside]
          exact nofun
        caller := by
          apply sound.goto_caller (iff_of_true rfl rfl)
          intro v other
          apply iff_of_false
          · intro same
            cases same
            exact other rfl
          · simp [free]
        destructor := nofun
        notified := sound.notified_goto pc nofun nofun }
  | put u coroutine pc =>
      have mine : s.stateMutex = some (.caller u) := sound.held pc rfl
      have outside : s.pc.locked = false := sound.outside (by simp [mine])
      have further : s.pc.emptied = false := by
        cases at_ : s.pc <;> simp_all [BackgroundPc.locked, BackgroundPc.emptied]
      exact { sound with
        caller := sound.goto_caller (iff_of_true mine rfl) fun _ _ => Iff.rfl
        emptied := fun emptied => nomatch further.symm.trans emptied
        notified := fun v c filled waiting => by
          cases filled
          rw [goto_callers, if_pos rfl]
          exact .inl rfl }
  | unlock u pc =>
      have mine : s.stateMutex = some (.caller u) := sound.held pc rfl
      have outside : s.pc.locked = false := sound.outside (by simp [mine])
      exact { sound with
        background := by
          apply iff_of_false nofun
          rw [goto_pc, outside]
          exact nofun
        caller := by
          have released : (none : Option (BackgroundProcess Tid)) = some (.caller u) ↔
              (HandOverPc.notify : HandOverPc κ).locked = true := iff_of_false nofun nofun
          apply sound.goto_caller released
          intro v other
          apply iff_of_false nofun
          rw [mine]
          intro same
          cases same
          exact other rfl
        destructor := nofun
        notified := fun v c filled waiting => by
          rw [goto_callers]
          split
          · exact .inr rfl
          · exact sound.notified v c filled waiting }
  | notify u pc =>
      have free : s.stateMutex ≠ some (.caller u) := by
        rw [ne_eq, sound.caller, pc]
        exact nofun
      exact { sound with
        background := sound.background.trans (by simp)
        caller := sound.goto_caller (iff_of_false free nofun) fun _ _ => Iff.rfl
        emptied := fun emptied => sound.emptied (by simpa using emptied)
        notified := fun v c filled waiting => absurd waiting (by simp)
        alive := fun ended => sound.alive (by simpa using ended) }
  | stop pc =>
      exact { sound with
        alive := fun _ => rfl
        destroyed := fun _ => rfl }
  | destructorNotify pc =>
      have stopped : s.backgroundThreadRunning = false := sound.destroyed (by simp [pc])
      exact { sound with
        background := sound.background.trans (by simp)
        emptied := fun emptied => sound.emptied (by simpa using emptied)
        notified := fun v c filled waiting => absurd waiting (by simp)
        alive := fun _ => stopped
        destroyed := fun _ => stopped }
  | join pc ended =>
      exact { sound with
        destroyed := fun _ => sound.alive ended }

end Sound

/-- A coroutine is in the slot, behind those that were taken, and the manager is not being destroyed. -/
structure InSlot (u : Tid) (coroutine : κ) (before : List κ) (s : Background Tid κ) : Prop where
  sound : s.Sound
  running : s.backgroundThreadRunning = true
  filled : s.scheduledBackgroundFunction = some (u, coroutine)
  taken : s.taken = before

/-- How far the coroutine that thread `u` put into the slot is from being taken, and whose turn it is. A
thread that is about to overwrite it comes last: it never gets to. -/
def phase (u : Tid) (s : Background Tid κ) : Nat × BackgroundProcess Tid :=
  match s.stateMutex with
  | none =>
      match s.pc with
      | .waiting => (4, .caller u)
      | _ => (3, .background)
  | some .background =>
      match s.pc with
      | .testRunning => (2, .background)
      | _ => (1, .background)
  | some (.caller v) =>
      match s.callers v with
      | .assign _ => (0, .caller v)
      | _ => (5, .caller v)
  | some .destructor => (0, .destructor)

/-- Nearer to the goal, or where it was by another's step. -/
def Nearer (u : Tid) (s : Background Tid κ) (a : Action Tid κ) (t : Background Tid κ) : Prop :=
  (phase u t).1 < (phase u s).1 ∨
    (phase u t).1 = (phase u s).1 ∧ (phase u t).2 = (phase u s).2 ∧ a.owner ≠ some (phase u s).2

omit [DecidableEq Tid] in
theorem nearer_of_phase {u : Tid} (same : phase u t = phase u s)
    (other : a.owner ≠ some (phase u s).2) : Nearer u s a t :=
  .inr ⟨congrArg Prod.fst same, congrArg Prod.snd same, other⟩

variable {u : Tid} {coroutine : κ} {before : List κ}

/-- Inside the mutex the thread can always go on. -/
theorem enabled_background (locked : s.pc.locked = true) :
    Enabled (@Step Tid κ _) Action.owner .background s := by
  have some_ : ∃ t, s.advance = some t := by
    rw [advance]
    cases pc : s.pc with
    | testRunning =>
        cases s.backgroundThreadRunning with
        | true => exact ⟨_, rfl⟩
        | false => exact ⟨_, rfl⟩
    | testSlot =>
        cases s.scheduledBackgroundFunction with
        | none => exact ⟨_, rfl⟩
        | some filled => exact ⟨_, rfl⟩
    | running c => exact ⟨_, rfl⟩
    | wait => exact ⟨_, rfl⟩
    | start | waiting | woken | ended =>
        rw [pc] at locked
        cases locked
  obtain ⟨t, run⟩ := some_
  exact ⟨.background, t, rfl, run⟩

/-- The process whose turn it is can step. -/
theorem InSlot.enabled (open_ : InSlot u coroutine before s) :
    Enabled (@Step Tid κ _) Action.owner (phase u s).2 s := by
  have sound := open_.sound
  rw [phase]
  cases holder : s.stateMutex with
  | none =>
      have outside : s.pc.locked = false := by
        rw [Bool.eq_false_iff, ne_eq, ← sound.background, holder]
        exact nofun
      cases pc : s.pc with
      | waiting =>
          have notify : s.callers u = .notify := by
            rcases sound.notified _ _ open_.filled pc with unlock | notify
            · have held := (sound.caller u).mpr (by rw [unlock]; rfl)
              rw [holder] at held
              cases held
            · exact notify
          exact ⟨.caller u, _, rfl, by rw [Step, step, advanceCaller, notify]⟩
      | start => exact ⟨.background, _, rfl, by rw [Step, step, advance, pc]; exact if_pos holder⟩
      | woken => exact ⟨.background, _, rfl, by rw [Step, step, advance, pc]; exact if_pos holder⟩
      | ended =>
          have stopped := sound.alive pc
          rw [open_.running] at stopped
          cases stopped
      | testRunning | testSlot | running | wait =>
          rw [pc] at outside
          cases outside
  | some process =>
      cases process with
      | background =>
          have inside := enabled_background (sound.background.mp holder)
          cases s.pc <;> exact inside
      | destructor => exact absurd holder sound.destructor
      | caller v =>
          have locked := (sound.caller v).mp holder
          cases pc : s.callers v with
          | assign c =>
              simp only [pc]
              exact ⟨.caller v, _, rfl, by rw [Step, step, advanceCaller, pc]⟩
          | unlock =>
              simp only [pc]
              exact ⟨.caller v, _, rfl, by rw [Step, step, advanceCaller, pc]⟩
          | idle | lock | notify =>
              rw [pc] at locked
              cases locked

/-- A line that is not the turn of its process changes neither the distance nor the turn; one that is
brings the coroutine nearer, takes it, or would overwrite it. -/
theorem InSlot.moves (open_ : InSlot u coroutine before s) (step : Guarded FindsSlotEmpty Step s a t) :
    (t.backgroundThreadRunning = false ∨ t.taken = before ++ [coroutine]) ∨
      InSlot u coroutine before t ∧ Nearer u s a t := by
  have sound := open_.sound
  have next := sound.step step.2
  obtain ⟨empty, step⟩ := step
  obtain ⟨-, running, filled, taken⟩ := open_
  cases step.move with
  | acquire pc free =>
      refine .inr ⟨⟨next, running, filled, taken⟩, .inl ?_⟩
      rcases pc with pc | pc <;> simp [phase, free, pc]
  | goOn pc _ =>
      have held := sound.background.mpr (by rw [pc]; rfl)
      refine .inr ⟨⟨next, running, filled, taken⟩, .inl ?_⟩
      simp [phase, held, pc]
  | leave pc stopped =>
      rw [running] at stopped
      cases stopped
  | take v c pc found =>
      rw [filled] at found
      cases found
      exact .inl (.inr (congrArg (· ++ [coroutine]) taken))
  | pass pc none_ =>
      rw [filled] at none_
      cases none_
  | finish c pc =>
      have none_ := sound.emptied (by rw [pc]; rfl)
      rw [filled] at none_
      cases none_
  | sleep pc =>
      have none_ := sound.emptied (by rw [pc]; rfl)
      rw [filled] at none_
      cases none_
  | wake pc =>
      refine .inr ⟨⟨next, running, filled, taken⟩, ?_⟩
      cases holder : s.stateMutex with
      | none => exact .inl (by simp [phase, holder, pc])
      | some process =>
          cases process with
          | background =>
              have inside := sound.background.mp holder
              rw [pc] at inside
              cases inside
          | destructor => exact absurd holder sound.destructor
          | caller v => exact nearer_of_phase (by simp [phase, holder]) (by simp [Action.owner, phase, holder])
  | call v c idle =>
      refine .inr ⟨⟨next, running, filled, taken⟩, nearer_of_phase ?_ (by simp [Action.owner])⟩
      cases holder : s.stateMutex with
      | none => simp [phase, holder]
      | some process =>
          cases process with
          | background => simp [phase, holder]
          | destructor => exact absurd holder sound.destructor
          | caller w =>
              have locked := (sound.caller w).mp holder
              have apart : w ≠ v := by
                rintro rfl
                rw [idle] at locked
                cases locked
              simp [phase, holder, apart]
  | lock v c pc free =>
      refine .inr ⟨⟨next, running, filled, taken⟩, .inl ?_⟩
      cases at_ : s.pc <;> simp [phase, free, at_]
  | put v c assign =>
      have none_ := empty v c rfl assign
      rw [filled] at none_
      cases none_
  | unlock v pc =>
      have held := (sound.caller v).mpr (by rw [pc]; rfl)
      refine .inr ⟨⟨next, running, filled, taken⟩, .inl ?_⟩
      cases s.pc <;> simp [phase, held, pc]
  | notify v pc =>
      refine .inr ⟨⟨next, running, filled, taken⟩, ?_⟩
      cases holder : s.stateMutex with
      | none =>
          cases at_ : s.pc with
          | waiting => exact .inl (by simp [phase, holder, at_, BackgroundPc.notified])
          | start | testRunning | testSlot | running | wait | woken | ended =>
              apply nearer_of_phase
              · simp [phase, holder, at_, BackgroundPc.notified]
              · simp [phase, holder, at_, Action.owner]
      | some process =>
          cases process with
          | background =>
              have inside := sound.background.mp holder
              apply nearer_of_phase
              · cases at_ : s.pc <;> simp_all [phase, BackgroundPc.notified, BackgroundPc.locked]
              · cases at_ : s.pc <;> simp [phase, holder, at_, Action.owner]
          | destructor => exact absurd holder sound.destructor
          | caller w =>
              have locked := (sound.caller w).mp holder
              have apart : w ≠ v := by
                rintro rfl
                rw [pc] at locked
                cases locked
              apply nearer_of_phase
              · simp [phase, holder, apart]
              · cases at_ : s.callers w <;> simp [phase, holder, at_, Action.owner, apart.symm]
  | stop pc => exact .inl (.inl rfl)
  | destructorNotify pc =>
      have stopped := sound.destroyed (by simp [pc])
      rw [running] at stopped
      cases stopped
  | join pc ended =>
      have stopped := sound.destroyed (by simp [pc])
      rw [running] at stopped
      cases stopped

/-- The coroutine in the slot is on its way out. -/
def leavesSlot (u : Tid) (coroutine : κ) (before : List κ) :
    Progress (@Step Tid κ _) (Guarded FindsSlotEmpty Step) Action.owner
      (InSlot u coroutine before)
      (fun s => s.backgroundThreadRunning = false ∨ s.taken = before ++ [coroutine]) where
  rank s := (phase u s).1
  helpful s := (phase u s).2
  enabled _ open_ := open_.enabled
  moves _ _ _ open_ step := open_.moves step

/-- In every fair execution in which hand-overs find the slot empty, what is put into the slot is the next
coroutine to be taken, unless the manager is destroyed first. -/
theorem eventually_taken (e : Execution (Guarded FindsSlotEmpty (@Step Tid κ _)))
    (started : (e.state 0).Started) (fair : WeaklyFair Step Action.owner e) (n : Nat)
    (filled : (e.state n).scheduledBackgroundFunction = some (u, coroutine)) :
    ∃ m, n ≤ m ∧ ((e.state m).backgroundThreadRunning = false ∨
      (e.state m).taken = (e.state n).taken ++ [coroutine]) := by
  have keeps (s : Background Tid κ) (a : Action Tid κ) (t : Background Tid κ) (sound : s.Sound)
      (step : Guarded FindsSlotEmpty Step s a t) : t.Sound := sound.step step.2
  have sound := e.invariant keeps started.sound n
  cases running : (e.state n).backgroundThreadRunning with
  | false => exact ⟨n, Nat.le_refl n, .inl running⟩
  | true => exact (leavesSlot u coroutine _).reaches e fair ⟨sound, running, filled, rfl⟩

/-- From a fresh manager, in every interleaving: nothing is overwritten and the coroutines are taken in the
order in which they were handed over exactly as long as every hand-over finds the slot empty; and then, if
no thread is held up for ever, each of them is taken, or the manager is destroyed. -/
theorem background_scheduling (s : Background Tid κ) (started : s.Started) :
    (∀ as t, Run (Kept Lossless Step) s as t ↔ Run (Guarded FindsSlotEmpty Step) s as t) ∧
    ∀ e : Execution (Guarded FindsSlotEmpty (@Step Tid κ _)), e.state 0 = s →
      WeaklyFair Step Action.owner e → ∀ n,
        (e.state n).overwritten = [] ∧
        (e.state n).handedOver = (e.state n).taken ++ (e.state n).slotted ∧
        ∀ u coroutine, (e.state n).scheduledBackgroundFunction = some (u, coroutine) →
          ∃ m, n ≤ m ∧ ((e.state m).backgroundThreadRunning = false ∨
            (e.state m).taken = (e.state n).taken ++ [coroutine]) := by
  constructor
  · intro as t
    exact Run.kept_iff (fun s a t lossless step => lossless_step_iff lossless step) started.lossless
  · rintro e rfl fair n
    have keeps (s : Background Tid κ) (a : Action Tid κ) (t : Background Tid κ) (lossless : s.Lossless)
        (step : Guarded FindsSlotEmpty Step s a t) : t.Lossless :=
      (lossless_step_iff lossless step.2).mpr step.1
    have lossless := e.invariant keeps started.lossless n
    exact ⟨lossless.none_, lossless.order, fun u coroutine filled =>
      eventually_taken e started fair n filled⟩

/-- What the manager hands over. -/
inductive Coroutine
  | initCoroutine
  | hidExitCoroutine
  | detectDevicesCoroutine
  deriving DecidableEq, Repr

def fresh : Background Unit Coroutine where
  pc := .start
  callers := fun _ => .idle
  destructor := .idle
  stateMutex := none
  scheduledBackgroundFunction := none
  backgroundThreadRunning := true
  handedOver := []
  taken := []
  overwritten := []

theorem started_fresh : fresh.Started := ⟨rfl, fun _ => rfl, rfl, rfl, rfl, rfl, rfl, rfl, rfl⟩

/-- `Initialize` on one thread, then the background thread up to its wait. -/
def initializing : List (Action Unit Coroutine) :=
  [.call () .initCoroutine, .caller (), .caller (), .caller (), .caller (), .background, .background,
    .background, .background, .background]

def afterInitializing (n : Nat) : Background Unit Coroutine :=
  (initializing.take n).foldl (fun s a => (s.step a).getD s) fresh

theorem afterInitializing_all (n : Nat) : afterInitializing (n + 10) = afterInitializing 10 := by
  rw [afterInitializing, afterInitializing, List.take_of_length_le, List.take_of_length_le]
  · exact Nat.le_refl 10
  · exact Nat.le_add_left 10 n

/-- Behind the last line nothing happens any more. -/
def initExecution : Execution (Guarded FindsSlotEmpty (@Step Unit Coroutine _)) where
  state := afterInitializing
  label n := initializing[n]?
  moves n := by
    by_cases inside : n < 10
    · interval_cases n <;> refine ⟨fun t c same assign => ?_, rfl⟩ <;>
        first | rfl | (cases same <;> cases assign)
    · obtain ⟨k, rfl⟩ := Nat.exists_eq_add_of_le' (Nat.not_lt.mp inside)
      have behind : initializing[k + 10]? = none := List.getElem?_eq_none (Nat.le_add_left 10 k)
      simp only [behind]
      exact (afterInitializing_all (k + 1)).trans (afterInitializing_all k).symm

/-- In the end the background thread waits and nobody else is at work. -/
theorem fair_initExecution : WeaklyFair Step Action.owner initExecution := by
  intro p n owed
  obtain ⟨a, t, owner, step⟩ := owed (n + 10) (Nat.le_add_right n 10)
  rw [show initExecution.state (n + 10) = afterInitializing 10 from afterInitializing_all n] at step
  cases a with
  | background => cases step
  | caller u => cases step
  | destructor => cases step
  | spuriousWakeup | call | stop => cases owner

/-- The coroutine of `Initialize`, in the slot after three lines, is taken. -/
theorem init_coroutine_taken :
    ∃ m, 3 ≤ m ∧ ((initExecution.state m).backgroundThreadRunning = false ∨
      (initExecution.state m).taken = (initExecution.state 3).taken ++ [.initCoroutine]) :=
  ((background_scheduling fresh started_fresh).2 initExecution rfl fair_initExecution 3).2.2
    () .initCoroutine rfl

/-- `DetectDevices` hands over the exit of the HID interface in `Cleanup` and then the detection, before
the background thread has woken: the first is lost. -/
theorem hid_exit_overwritten :
    ∃ s, Run Step fresh [.call () .hidExitCoroutine, .caller (), .caller (), .caller (), .caller (),
        .call () .detectDevicesCoroutine, .caller (), .caller ()] s ∧
      s.handedOver = [.hidExitCoroutine, .detectDevicesCoroutine] ∧ s.taken = [] ∧
      s.slotted = [.detectDevicesCoroutine] ∧ s.overwritten = [.hidExitCoroutine] := by
  refine ⟨_, .cons rfl (.cons rfl (.cons rfl (.cons rfl (.cons rfl (.cons rfl (.cons rfl (.cons rfl
    (.nil _)))))))), ?_, ?_, ?_, ?_⟩ <;> rfl

end Background
end SyncRGB
