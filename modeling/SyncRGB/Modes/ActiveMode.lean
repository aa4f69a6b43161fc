import SyncRGB.Modes.Selection
import SyncRGB.Transition.Run
import SyncRGB.VectorEdit.Pointwise

/-! Runs of everything that writes an active mode: packets, profile loads, JSON-RPC calls and hot-plugging. -/
namespace SyncRGB
open ByteCodec Transition Effect VectorEdit RGBController

/-! ### The mode methods -/

namespace JsonRpc

/-- Controllers that were `cs` before. -/
abbrev Selected (cs t : List RGBController) : Prop := List.Forall₂ Selects cs t

section Methods
variable {cs : List RGBController}

theorem device_keeps (params : Json) :
    Keeps (Selected cs) (device params) (fun a t => t[a.1]? = some a.2 ∧ Selected cs t) (Selected cs) := by
  apply Keeps.bind_lift fun _ h => h
  intro deviceIdx _
  apply Keeps.bind .get
  intro t
  cases found : t[deviceIdx.toNat]? with
  | none => exact .throw fun _ h => h.2
  | some c => exact .pure fun s h => ⟨h.1 ▸ found, h.2⟩

theorem checkMode_ok {modeIdx : UInt32} {c : RGBController} {u : Unit} (ok : checkMode modeIdx c = .ok u) :
    modeIdx.toNat < c.modes.length := by
  unfold checkMode at ok
  split_ifs at ok with inside
  exact inside

theorem setMode_selects {modeIdx : UInt32} {c x : RGBController} (inside : modeIdx.toNat < c.modes.length)
    (same : x.Selects c) : x.Selects (c.setMode modeIdx.toInt32) := by
  refine same.trans ⟨same.few_after, rfl, .inr ?_⟩
  show sizeT modeIdx.toInt32 < c.modes.length
  rwa [sizeT_toInt32 (inside.trans same.few_after)]

theorem setMode_keeps (params : Json) :
    Keeps (Selected cs) (setMode params) (fun _ => Selected cs) (Selected cs) := by
  apply Keeps.bind_lift fun _ h => h
  intro _ _
  apply Keeps.bind_lift fun _ h => h
  intro modeIdx _
  apply Keeps.bind (device_keeps params)
  rintro ⟨i, c⟩
  apply Keeps.bind_lift fun t h => h.2
  intro _ ok
  apply Keeps.modify
  rintro t ⟨there, selected⟩
  apply forall₂_modify selected
  intro x y found same
  obtain rfl := Option.some.inj (there.symm.trans found)
  exact setMode_selects (checkMode_ok ok) same

theorem setCustomMode_keeps (params : Json) :
    Keeps (Selected cs) (setCustomMode params) (fun _ => Selected cs) (Selected cs) := by
  apply Keeps.bind_lift fun _ h => h
  intro _ _
  apply Keeps.bind (device_keeps params)
  rintro ⟨i, c⟩
  apply Keeps.modify
  rintro t ⟨-, selected⟩
  apply forall₂_modify selected
  intro x y _ same
  exact same.trans (setCustomMode_selects same.few_after)

theorem onMode_keeps {i modeIdx : Nat} {c : RGBController} (work : Change Mode Unit) :
    Keeps (fun t => t[i]? = some c ∧ Selected cs t) (onMode i modeIdx work)
      (fun _ t => (∃ c', t[i]? = some c' ∧ c'.modes.length = c.modes.length) ∧ Selected cs t)
      (Selected cs) := by
  rintro t ⟨found, selected⟩
  cases there : c.modes[modeIdx]? with
  | none =>
      have skipped : onMode i modeIdx work t = (.ok (), t) := by simp only [onMode, found, Option.bind_some, there]
      rw [skipped]
      exact ⟨⟨c, found, rfl⟩, selected⟩
  | some m =>
      have worked : onMode i modeIdx work t =
          ((work m).1, t.modify i fun c => { c with modes := c.modes.set modeIdx (work m).2 }) := by
        simp only [onMode, found, Option.bind_some, there]
        rfl
      have kept : Selected cs (t.modify i fun c => { c with modes := c.modes.set modeIdx (work m).2 }) :=
        forall₂_modify selected fun x y _ same =>
          same.trans ⟨same.few_after, List.length_set, .inl rfl⟩
      rw [worked]
      cases (work m).1 with
      | ok _ =>
          refine ⟨⟨{ c with modes := c.modes.set modeIdx (work m).2 }, ?_, List.length_set⟩, kept⟩
          rw [List.getElem?_modify_eq, found]
          rfl
      | error _ => exact kept

theorem updateMode_keeps (uninitialized : Nat → UInt32) (params : Json) :
    Keeps (Selected cs) (updateMode uninitialized params) (fun _ => Selected cs) (Selected cs) := by
  apply Keeps.bind_lift fun _ h => h
  intro _ _
  apply Keeps.bind_lift fun _ h => h
  intro modeObj _
  apply Keeps.bind_lift fun _ h => h
  intro _ _
  apply Keeps.bind_lift fun _ h => h
  intro modeIdx _
  apply Keeps.bind (device_keeps params)
  rintro ⟨i, c⟩
  apply Keeps.bind_lift fun t h => h.2
  intro _ ok
  apply Keeps.bind (onMode_keeps (updateParameters uninitialized modeObj))
  intro _
  apply Keeps.modify
  rintro t ⟨⟨c', there, modes⟩, selected⟩
  apply forall₂_modify selected
  intro x y found same
  obtain rfl := Option.some.inj (there.symm.trans found)
  exact setMode_selects (modes ▸ checkMode_ok ok) same

end Methods
end JsonRpc

/-! ### The mode packets -/

/-- The controllers that are left, unless a slot was written that no vector has. -/
def Outcome.controllers : Outcome → Option (List RGBController)
  | .done s | .closed s => some s.controllers
  | .badRead | .badTarget => none

namespace NetworkServer
variable {s : NetworkServer} {p : NetPacket}

/-- Whether the packet leaves controllers depends on a condition on its target alone. -/
def Ends (s : NetworkServer) (target : Prop) (o : Outcome) : Prop :=
  (target → ∃ t, o.controllers = some t ∧ List.Forall₂ Selects s.controllers t) ∧
    (¬ target → o.controllers = none)

section Few
variable (few : ∀ c ∈ s.controllers, c.modes.length < 2 ^ 31)
include few

theorem onController_ends {set : RGBController → Reader (Option RGBController)}
    {target : RGBController → Prop} (reads : s.onController p set ≠ .badRead)
    (each : ∀ c r q, c.modes.length < 2 ^ 31 → (set c).exec p.data 0 = some (r, q) →
      (target c → ∃ c', r = some c' ∧ c.Selects c') ∧ (¬ target c → r = none)) :
    s.Ends (∀ c, s.controllers[p.pktDevIdx.toNat]? = some c → target c) (s.onController p set) := by
  unfold onController at reads ⊢
  cases found : s.controllers[p.pktDevIdx.toNat]? with
  | none =>
      refine ⟨fun _ => ⟨_, rfl, forall₂_selects_refl few⟩, fun off => absurd (fun c h => ?_) off⟩
      cases h
  | some c =>
      simp only [Option.some.injEq, forall_eq']
      rw [found] at reads
      cases run : (set c).exec p.data 0 with
      | none =>
          simp only [run] at reads
          exact absurd rfl reads
      | some result =>
          obtain ⟨r, q⟩ := result
          obtain ⟨hit, missed⟩ := each c r q (few c (List.mem_of_getElem? found)) run
          refine ⟨fun target => ?_, fun off => ?_⟩
          · obtain ⟨c', rfl, selects⟩ := hit target
            exact ⟨_, rfl, forall₂_set (forall₂_selects_refl few) found fun x same => same.trans selects⟩
          · obtain rfl := missed off
            rfl

theorem described_ends {set : RGBController → Reader (Option RGBController)} {mismatch : Outcome}
    {target : Prop} (other : mismatch.controllers = some s.controllers)
    (reads : s.described p mismatch set ≠ .badRead)
    (each : s.onController p set ≠ .badRead → s.Ends target (s.onController p set)) :
    s.Ends (s.Accepts p → target) (s.described p mismatch set) := by
  have same {o : Outcome} (left : o.controllers = some s.controllers) (refused : ¬ s.Accepts p) :
      s.Ends (s.Accepts p → target) o :=
    ⟨fun _ => ⟨_, left, forall₂_selects_refl few⟩, fun off => absurd (fun h => absurd h refused) off⟩
  unfold described sized at reads ⊢
  split_ifs at reads ⊢ with null
  · exact same rfl fun h => h.1 null
  · rw [embeddedSize_eq] at reads ⊢
    by_cases room : 4 ≤ p.data.length
    · simp only [room, if_true, Bool.or_eq_true, beq_iff_eq] at reads ⊢
      by_cases pass : p.pktSize = field32 p.data 0 ∨ s.legacyClient = true
      · rw [if_pos pass] at reads ⊢
        obtain ⟨hit, missed⟩ := each reads
        exact ⟨fun h => hit (h ⟨null, pass⟩), fun off => missed fun h => off fun _ => h⟩
      · rw [if_neg pass]
        exact same other fun h => pass h.2
    · rw [if_neg room] at reads
      exact absurd rfl reads

def ModePacket (p : NetPacket) : Prop :=
  p.kind = some .setCustomMode ∨ p.kind = some .updateMode ∨ p.kind = some .saveMode

theorem modeDescription_ends {mismatch : Outcome} (other : mismatch.controllers = some s.controllers)
    (reads : s.described p mismatch (setModeDescription s.clientProtocolVersion) ≠ .badRead) :
    s.Ends (∀ c, s.controllers[p.pktDevIdx.toNat]? = some c → s.Accepts p → c.ModeTarget p.data)
      (s.described p mismatch (setModeDescription s.clientProtocolVersion)) := by
  obtain ⟨hit, missed⟩ := described_ends few other reads fun reads =>
    onController_ends few reads fun c r q few run => setModeDescription_selects few p.sized run
  exact ⟨fun h => hit fun accepts c found => h c found accepts,
    fun off => missed fun h => off fun c found accepts => h accepts c found⟩

theorem dispatch_ends (services : Services) (mode : ModePacket p)
    (reads : s.dispatch services p ≠ .badRead) : s.Ends (s.TargetOk p) (s.dispatch services p) := by
  unfold TargetOk
  unfold dispatch at reads ⊢
  obtain kind | kind | kind := mode
  · simp only [kind] at reads ⊢
    refine onController_ends few reads fun c r q few run => ⟨fun _ => ?_, fun off => absurd trivial off⟩
    obtain ⟨rfl, -⟩ := Prod.mk.inj (Option.some.inj run)
    exact ⟨_, rfl, setCustomMode_selects few⟩
  · simp only [kind] at reads ⊢
    exact modeDescription_ends few rfl reads
  · simp only [kind] at reads ⊢
    exact modeDescription_ends few rfl reads

end Few
end NetworkServer

/-! ### Runs -/

/-- The name of the active mode that `ControllerToJSON` looks up; `none` when there is no such mode. -/
def activeModeName (c : RGBController) : Option Bytes := c.modes[sizeT c.activeMode]?.map Mode.name

structure HasActiveMode (c : RGBController) : Prop where
  low : 0 ≤ c.activeMode.toInt
  high : c.activeMode.toInt < c.modes.length
  named : (activeModeName c).isSome

theorem hasActiveMode_iff {c : RGBController} (few : c.modes.length < 2 ^ 31) :
    HasActiveMode c ↔ sizeT c.activeMode < c.modes.length := by
  constructor
  · intro known
    exact (sizeT_lt_iff few).mpr ⟨known.low, known.high⟩
  · intro inside
    obtain ⟨low, high⟩ := (sizeT_lt_iff few).mp inside
    refine ⟨low, high, ?_⟩
    rw [activeModeName, List.getElem?_eq_getElem inside]
    rfl

/-- What writes an active mode. A profile is loaded device by device; the saved controllers and the pending
ones are any there may be. -/
inductive ModeAction
  | packet (legacyWorkaroundEnabled : Bool) (clientProtocolVersion : Nat) (p : NetPacket)
  | loadDevice (loadSize loadSettings : Bool) (i : Nat) (temps : List (RGBController × Bool))
  | setMode (params : Json)
  | setCustomMode (params : Json)
  | updateMode (uninitialized : Nat → UInt32) (params : Json)
  | registerRGBController (pending : List (RGBController × Bool)) (detected : RGBController)

namespace ModeAction

/-- Packets of the three kinds whose data holds what is read; new controllers with one of their modes
active. -/
def Possible (cs : List RGBController) : ModeAction → Prop
  | packet workaround version p =>
      NetworkServer.ModePacket p ∧ NetworkServer.dispatch idleServices ⟨cs, workaround, version⟩ p ≠ .badRead
  | registerRGBController _ detected => HasActiveMode detected ∧ detected.modes.length < 2 ^ 31
  | _ => True

/-- The controllers afterwards; `none` when a slot was written that no vector has. -/
def perform (cs : List RGBController) : ModeAction → Option (List RGBController)
  | packet workaround version p =>
      (NetworkServer.dispatch idleServices ⟨cs, workaround, version⟩ p).controllers
  | loadDevice loadSize loadSettings i temps => some (cs.modify i fun c =>
      (ProfileManager.loadDeviceFromListWithOptions loadSize loadSettings temps c).2.2)
  | setMode params => some (JsonRpc.setMode params cs).2
  | setCustomMode params => some (JsonRpc.setCustomMode params cs).2
  | updateMode uninitialized params => some (JsonRpc.updateMode uninitialized params cs).2
  | registerRGBController pending detected =>
      some (cs ++ [(restoreDetected pending detected).2.ownedLocally])

/-- The mode index of a packet is not the number of modes, and a saved active mode that is taken over is in
range. -/
def Careful (cs : List RGBController) : ModeAction → Prop
  | packet workaround version p => NetworkServer.TargetOk ⟨cs, workaround, version⟩ p
  | loadDevice _ loadSettings i temps => loadSettings = true →
      ∀ c, cs[i]? = some c → ∀ saved, usedEntry temps c = some saved → saved.BringsMode c
  | _ => True

end ModeAction

/-- No action follows a write outside of a vector. -/
def ModeStep (s : Option (List RGBController)) (a : ModeAction) (t : Option (List RGBController)) : Prop :=
  ∃ cs, s = some cs ∧ a.Possible cs ∧ t = a.perform cs

/-- No slot outside of a vector was written, and every controller has an active mode. -/
def ActiveModes (s : Option (List RGBController)) : Prop :=
  ∃ cs, s = some cs ∧ ∀ c ∈ cs, HasActiveMode c

/-- The numbers of modes fit an `int`. -/
def FewModes (s : Option (List RGBController)) : Prop :=
  ∀ cs, s = some cs → ∀ c ∈ cs, c.modes.length < 2 ^ 31

def CarefulIn (s : Option (List RGBController)) (a : ModeAction) : Prop := ∀ cs, s = some cs → a.Careful cs

/-! ### One action -/

theorem loadDevice_length (loadSize loadSettings : Bool) (temps : List (RGBController × Bool))
    (c : RGBController) :
    (ProfileManager.loadDeviceFromListWithOptions loadSize loadSettings temps c).2.2.modes.length =
      c.modes.length := by
  rw [loadDevice_eq]
  cases usedEntry temps c with
  | none => rfl
  | some saved => exact loadFrom_length loadSize loadSettings saved c

theorem loadDevice_hasActiveMode_iff {loadSize loadSettings : Bool} {temps : List (RGBController × Bool)}
    {c : RGBController} (few : c.modes.length < 2 ^ 31) (known : HasActiveMode c) :
    HasActiveMode (ProfileManager.loadDeviceFromListWithOptions loadSize loadSettings temps c).2.2 ↔
      (loadSettings = true → ∀ saved, usedEntry temps c = some saved → saved.BringsMode c) := by
  have length := loadDevice_length loadSize loadSettings temps c
  rw [hasActiveMode_iff (by rwa [length]), length, loadDevice_eq]
  cases usedEntry temps c with
  | none => exact iff_of_true ((hasActiveMode_iff few).mp known) fun _ _ h => by cases h
  | some saved =>
      simp only [Option.some.injEq, forall_eq']
      exact loadFrom_inside_iff ((hasActiveMode_iff few).mp known)

theorem restored_selects (pending : List (RGBController × Bool)) {c : RGBController}
    (few : c.modes.length < 2 ^ 31) : c.Selects (restoreDetected pending c).2.ownedLocally := by
  have restored := restoreDetected_selects pending few
  exact restored.trans ⟨restored.few_after, rfl, .inl rfl⟩

section Selected
variable {cs t : List RGBController} (selected : JsonRpc.Selected cs t)
include selected

theorem selected_few : ∀ c ∈ t, c.modes.length < 2 ^ 31 := by
  intro c' member
  obtain ⟨c, -, same⟩ := exists_of_mem_right selected member
  exact same.few_after

theorem selected_activeModes (known : ∀ c ∈ cs, HasActiveMode c) : ActiveModes (some t) := by
  refine ⟨t, rfl, fun c' member => ?_⟩
  obtain ⟨c, hc, same⟩ := exists_of_mem_right selected member
  exact (hasActiveMode_iff same.few_after).mpr (same.inside ((hasActiveMode_iff same.few).mp (known c hc)))

end Selected

section Action
variable {cs : List RGBController} (few : ∀ c ∈ cs, c.modes.length < 2 ^ 31)
include few

theorem perform_few {a : ModeAction} (possible : a.Possible cs) {t : List RGBController}
    (done : a.perform cs = some t) : ∀ c ∈ t, c.modes.length < 2 ^ 31 := by
  cases a with
  | packet workaround version p =>
      obtain ⟨hit, missed⟩ := NetworkServer.dispatch_ends (s := ⟨cs, workaround, version⟩) few idleServices
        possible.1 possible.2
      by_cases target : NetworkServer.TargetOk ⟨cs, workaround, version⟩ p
      · obtain ⟨t', left, selected⟩ := hit target
        obtain rfl := Option.some.inj (done.symm.trans left)
        exact selected_few selected
      · cases done.symm.trans (missed target)
  | loadDevice loadSize loadSettings i temps =>
      obtain rfl := Option.some.inj done
      have all : List.Forall₂ (fun x y => y.modes.length = x.modes.length) cs cs :=
        List.forall₂_same.mpr fun _ _ => rfl
      intro c' member
      obtain ⟨c, hc, same⟩ := exists_of_mem_right
        (forall₂_modify all fun x y _ same => (loadDevice_length loadSize loadSettings temps y).trans same)
        member
      exact same ▸ few c hc
  | setMode params =>
      obtain rfl := Option.some.inj done
      exact selected_few ((JsonRpc.setMode_keeps params).left (forall₂_selects_refl few))
  | setCustomMode params =>
      obtain rfl := Option.some.inj done
      exact selected_few ((JsonRpc.setCustomMode_keeps params).left (forall₂_selects_refl few))
  | updateMode uninitialized params =>
      obtain rfl := Option.some.inj done
      exact selected_few ((JsonRpc.updateMode_keeps uninitialized params).left (forall₂_selects_refl few))
  | registerRGBController pending detected =>
      obtain rfl := Option.some.inj done
      intro c member
      obtain old | new := List.mem_append.mp member
      · exact few c old
      · obtain rfl := List.mem_singleton.mp new
        exact (restored_selects pending possible.2).few_after

/-- A step keeps the active modes exactly when it is careful. -/
theorem perform_activeModes_iff {a : ModeAction} (possible : a.Possible cs)
    (known : ∀ c ∈ cs, HasActiveMode c) : ActiveModes (a.perform cs) ↔ a.Careful cs := by
  cases a with
  | packet workaround version p =>
      obtain ⟨hit, missed⟩ := NetworkServer.dispatch_ends (s := ⟨cs, workaround, version⟩) few idleServices
        possible.1 possible.2
      by_cases target : NetworkServer.TargetOk ⟨cs, workaround, version⟩ p
      · obtain ⟨t, left, selected⟩ := hit target
        refine iff_of_true ?_ target
        show ActiveModes (Outcome.controllers _)
        rw [left]
        exact selected_activeModes selected known
      · refine iff_of_false (fun ⟨t, left, _⟩ => ?_) target
        cases (missed target).symm.trans left
  | loadDevice loadSize loadSettings i temps =>
      let load (c : RGBController) :=
        (ProfileManager.loadDeviceFromListWithOptions loadSize loadSettings temps c).2.2
      have one (c : RGBController) (found : cs[i]? = some c) : HasActiveMode (load c) ↔
          (loadSettings = true → ∀ saved, usedEntry temps c = some saved → saved.BringsMode c) :=
        loadDevice_hasActiveMode_iff (few c (List.mem_of_getElem? found))
          (known c (List.mem_of_getElem? found))
      have all : (∀ c ∈ cs.modify i load, HasActiveMode c) ↔
          ∀ c, cs[i]? = some c → HasActiveMode (load c) := forall_mem_modify_iff known
      constructor
      · rintro ⟨t, done, after⟩ settings c found
        obtain rfl := Option.some.inj done
        exact (one c found).mp (all.mp after c found) settings
      · intro careful
        exact ⟨_, rfl, all.mpr fun c found => (one c found).mpr fun settings => careful settings c found⟩
  | setMode params =>
      exact iff_of_true (selected_activeModes ((JsonRpc.setMode_keeps params).left (forall₂_selects_refl few)) known)
        trivial
  | setCustomMode params =>
      exact iff_of_true
        (selected_activeModes ((JsonRpc.setCustomMode_keeps params).left (forall₂_selects_refl few)) known) trivial
  | updateMode uninitialized params =>
      exact iff_of_true (selected_activeModes
        ((JsonRpc.updateMode_keeps uninitialized params).left (forall₂_selects_refl few)) known) trivial
  | registerRGBController pending detected =>
      have restored := restored_selects pending possible.2
      refine iff_of_true ⟨_, rfl, fun c member => ?_⟩ trivial
      obtain old | new := List.mem_append.mp member
      · exact known c old
      · obtain rfl := List.mem_singleton.mp new
        exact (hasActiveMode_iff restored.few_after).mpr
          (restored.inside ((hasActiveMode_iff restored.few).mp possible.1))

end Action

/-! ### The whole run -/

theorem modeStep_few {s t : Option (List RGBController)} {a : ModeAction} (few : FewModes s)
    (step : ModeStep s a t) : FewModes t := by
  obtain ⟨cs, rfl, possible, rfl⟩ := step
  exact fun t done => perform_few (few cs rfl) possible done

/-- Along a run every controller has an active mode exactly if every step is careful. -/
theorem activeModes_run_iff {s t : Option (List RGBController)} {actions : List ModeAction}
    (few : FewModes s) (known : ActiveModes s) :
    Run (Kept ActiveModes ModeStep) s actions t ↔ Run (Guarded CarefulIn ModeStep) s actions t := by
  have keeps (s : Option (List RGBController)) (a : ModeAction) (t : Option (List RGBController))
      (few : FewModes s) (step : ModeStep s a t) : FewModes t := modeStep_few few step
  refine Run.kept_iff_of_invariant keeps (fun s a t few known step => ?_) few known
  obtain ⟨cs, rfl, possible, rfl⟩ := step
  obtain ⟨_, same, known⟩ := known
  obtain rfl := Option.some.inj same
  rw [perform_activeModes_iff (few cs rfl) possible known]
  exact ⟨fun careful _ same => Option.some.inj same ▸ careful, fun careful => careful cs rfl⟩

def oneMode : RGBController := { new 0 with modes := [Mode.new] }

theorem oneMode_few : FewModes (some [oneMode]) := by
  intro cs same c member
  obtain rfl := Option.some.inj same
  obtain rfl := List.mem_singleton.mp member
  decide

theorem oneMode_activeModes : ActiveModes (some [oneMode]) := by
  refine ⟨_, rfl, fun c member => ?_⟩
  obtain rfl := List.mem_singleton.mp member
  exact ⟨by decide, by decide, rfl⟩

/-- `UPDATEMODE` with the number of modes as its index and a whole mode behind it. -/
def modeBehindLast : NetPacket :=
  ⟨0, 1101, le 4 61 ++ le 4 1 ++ le 2 1 ++ List.replicate 51 0, by decide⟩

/-- The check lets the index through. -/
theorem modeBehindLast_lost : FewModes (some [oneMode]) ∧ ActiveModes (some [oneMode]) ∧
    ∃ t, ModeStep (some [oneMode]) (.packet false 5 modeBehindLast) t ∧ ¬ ActiveModes t := by
  have outcome : NetworkServer.dispatch idleServices ⟨[oneMode], false, 5⟩ modeBehindLast = .badTarget := rfl
  refine ⟨oneMode_few, oneMode_activeModes, none, ⟨_, rfl, ⟨.inr (.inl rfl), ?_⟩, ?_⟩, ?_⟩
  · rw [outcome]
    exact Outcome.noConfusion
  · rw [ModeAction.perform, outcome]
    rfl
  · rintro ⟨_, same, -⟩
    cases same

def selectFirst : Json :=
  .object [(ascii "deviceIndex", .unsigned 0), (ascii "modeIndex", .unsigned 0)]

def twoModes : RGBController := { new 0 with modes := [Mode.new, Mode.new] }

/-- A saved controller with its second mode active. -/
def savedSecond : RGBController := { twoModes with activeMode := 1 }

/-- The second mode is written by a packet, the first one selected, and a profile with the second one loaded. -/
theorem selectSecond_kept :
    ∃ t, Run (Kept ActiveModes ModeStep) (some [twoModes])
        [.packet false 5 modeBehindLast, .setMode selectFirst, .loadDevice false true 0 [(savedSecond, false)]] t ∧
      t.map (List.map activeMode) = some [1] := by
  have few : FewModes (some [twoModes]) := by
    intro cs same c member
    obtain rfl := Option.some.inj same
    obtain rfl := List.mem_singleton.mp member
    decide
  have known : ActiveModes (some [twoModes]) := by
    refine ⟨_, rfl, fun c member => ?_⟩
    obtain rfl := List.mem_singleton.mp member
    exact ⟨by decide, by decide, rfl⟩
  have aimed : CarefulIn (some [twoModes]) (.packet false 5 modeBehindLast) := by
    intro cs same
    obtain rfl := Option.some.inj same
    intro c found _
    obtain rfl := Option.some.inj found
    show sizeT _ ≠ _
    decide
  obtain ⟨t, run, active⟩ : ∃ t, Run (Guarded CarefulIn ModeStep) (some [twoModes])
        [.packet false 5 modeBehindLast, .setMode selectFirst, .loadDevice false true 0 [(savedSecond, false)]] t ∧
      t.map (List.map activeMode) = some [1] := by
    refine ⟨_, .cons ⟨aimed, _, rfl, ⟨.inr (.inl rfl), ?_⟩, rfl⟩ (.cons ⟨fun _ _ => trivial, _, rfl, trivial, rfl⟩
      (.cons ⟨?_, _, rfl, trivial, rfl⟩ (.nil _))), rfl⟩
    · rw [show NetworkServer.dispatch idleServices ⟨[twoModes], false, 5⟩ modeBehindLast = .done _ from rfl]
      exact Outcome.noConfusion
    · intro cs same _ c found saved used
      obtain rfl := Option.some.inj same
      obtain rfl := Option.some.inj found
      cases used
      exact fun _ => by decide
  exact ⟨t, (activeModes_run_iff few known).mpr run, active⟩

end SyncRGB
