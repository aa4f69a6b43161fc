import SyncRGB.Resources.ResourceManager
import SyncRGB.Transition.Run

/-! A WebSocket client that caches the master list and follows the reported changes. -/
namespace SyncRGB
open VectorEdit Transition UpdateDeviceList
variable {Ptr : Type} [DecidableEq Ptr]

/-- The client inserts at the `deviceConnected` indices in order, then removes the `deviceDisconnected`
positions; `none` when an index is outside of its list. -/
def Deltas.apply (d : Deltas Ptr) (cached : List Ptr) : Option (List Ptr) :=
  (insertAll d.added cached).bind (removeAll d.removed)

structure Replay (Ptr : Type) where
  manager : ResourceManager Ptr
  cached : Option (List Ptr)
  agreed : Bool
deriving DecidableEq, Repr

namespace Replay

def follow (s : Replay Ptr) (r : Rebuild Ptr) : Replay Ptr :=
  let cached := s.cached.bind r.deltas.apply
  { s with cached, agreed := s.agreed && cached = some r.list }

def step (s : Replay Ptr) (a : ResourceManager.Action Ptr) : Option (Replay Ptr) :=
  (s.manager.step a).map fun (manager, rebuilds) => rebuilds.foldl follow { s with manager }

def Step (s : Replay Ptr) (a : ResourceManager.Action Ptr) (t : Replay Ptr) : Prop :=
  s.step a = some t

/-- After every rebuild the client's list was the master list. -/
def Agreed (s : Replay Ptr) : Prop := s.agreed = true

/-- The client's list is as long as the master list and begins with the hardware controllers that are
listed already, in the order of the hardware list. -/
def InPlace (hw list : List Ptr) (cached : Option (List Ptr)) : Prop :=
  ∃ c ∈ cached, c.length = list.length ∧ hw.filter (· ∈ list) <+: c

def RebuiltInPlace (s : Replay Ptr) (a : ResourceManager.Action Ptr) : Prop :=
  a.rebuilds = true → ∀ e ∈ s.manager.edit a, InPlace e.rgbControllersHw e.rgbControllers s.cached

/-- The new controllers at or behind index `i`. -/
abbrev newAt (list hw : List Ptr) (i : Nat) : List (Nat × Ptr) :=
  ((hw.zipIdx i).filter fun e => e.1 ∉ list).map Prod.swap

theorem newAt_cons (list hw : List Ptr) (x : Ptr) (i : Nat) :
    newAt list (x :: hw) i = if x ∈ list then newAt list hw (i + 1)
      else (i, x) :: newAt list hw (i + 1) := by
  by_cases listed : x ∈ list <;> simp [newAt, List.zipIdx_cons, listed]

theorem le_of_mem_newAt {list hw : List Ptr} {i : Nat} {e : Nat × Ptr} (member : e ∈ newAt list hw i) :
    i ≤ e.1 := by
  obtain ⟨⟨x, j⟩, found, rfl⟩ := List.mem_map.mp member
  exact List.le_snd_of_mem_zipIdx (List.mem_filter.mp found).1

/-- Inserting the new controllers yields the hardware list in front exactly when the client's list begins
with the others. -/
theorem insertAll_newAt (list hw front c : List Ptr) :
    (∃ k, insertAll (newAt list hw front.length) (front ++ c) = some k ∧
        k.take (front.length + hw.length) = front ++ hw) ↔ hw.filter (· ∈ list) <+: c := by
  induction hw generalizing front c with
  | nil => exact iff_of_true ⟨_, rfl, by simp⟩ List.nil_prefix
  | cons x hw ih =>
      have shape : front ++ x :: hw = (front ++ [x]) ++ hw := by simp
      have length : (front ++ [x]).length = front.length + 1 := by simp
      have total : front.length + (x :: hw).length = (front ++ [x]).length + hw.length := by
        simp only [List.length_cons, length]
        omega
      rw [newAt_cons]
      by_cases listed : x ∈ list
      · simp only [listed, if_true, List.filter_cons, decide_true]
        by_cases starts : c.head? = some x
        · obtain ⟨more, rfl⟩ := List.head?_eq_some_iff.mp starts
          have moved : front ++ x :: more = (front ++ [x]) ++ more := by simp
          rw [List.prefix_cons_inj, ← ih (front ++ [x]) more, ← length, total, shape, moved]
        · refine iff_of_false ?_ fun ⟨more, same⟩ => starts (by rw [← same]; rfl)
          rintro ⟨k, inserted, taken⟩
          have kept : k[front.length]? = c.head? := by
            rw [getElem?_of_insertAll inserted fun e member => le_of_mem_newAt member,
              List.getElem?_append_right (Nat.le_refl _), Nat.sub_self, List.head?_eq_getElem?]
          have found : (k.take (front.length + (x :: hw).length))[front.length]? = some x := by
            rw [taken, List.getElem?_append_right (Nat.le_refl _), Nat.sub_self]
            rfl
          rw [List.getElem?_take_of_lt (by simp), kept] at found
          exact starts found
      · simp only [listed, if_false, List.filter_cons, decide_false, Bool.false_eq_true, insertAll,
          insertAt_length, Option.bind_some]
        have moved : front ++ x :: c = (front ++ [x]) ++ c := by simp
        rw [← ih (front ++ [x]) c, ← length, total, shape, moved]

theorem length_balance {hw list : List Ptr} (distinct : hw.Nodup) (unique : list.Nodup) :
    list.length + (deltas hw list).added.length = hw.length + (list.diff hw).length := by
  have listed : (list.filter (· ∈ hw)).length = (hw.filter (· ∈ list)).length := by
    apply List.Perm.length_eq
    rw [List.perm_ext_iff_of_nodup (unique.filter _) (distinct.filter _)]
    intro x
    simp [and_comm]
  have added : (deltas hw list).added.length = (hw.filter (· ∉ list)).length := by
    have names : hw.filter (· ∉ list) = (hw.zipIdx.filter fun e => e.1 ∉ list).map Prod.fst := by
      conv_lhs => rw [← List.zipIdx_map_fst 0 hw]
      rw [List.filter_map]
      rfl
    rw [names, deltas, List.length_map, List.length_map]
  have left := List.length_eq_length_filter_add (l := list) (· ∈ hw)
  have right := List.length_eq_length_filter_add (l := hw) (· ∈ list)
  have rest : list.diff hw = list.filter (· ∉ hw) := unique.sdiff_eq_filter
  simp only [← decide_not] at left right
  rw [added, rest]
  omega

/-- The client ends up with the master list exactly when its own list was in place. -/
theorem apply_deltas_iff {hw list : List Ptr} (distinct : hw.Nodup) (unique : list.Nodup)
    (cached : Option (List Ptr)) :
    cached.bind (deltas hw list).apply = some hw ↔ InPlace hw list cached := by
  have balance := length_balance distinct unique
  have front (c : List Ptr) := insertAll_newAt list hw [] c
  simp only [List.nil_append, List.length_nil, Nat.zero_add] at front
  constructor
  · intro same
    obtain ⟨c, held, applied⟩ := Option.bind_eq_some_iff.mp same
    obtain ⟨k, inserted, removed⟩ := Option.bind_eq_some_iff.mp applied
    have grown := length_of_insertAll inserted
    simp only [deltas, removeAll_range'] at removed
    split at removed
    case isFalse => cases removed
    case isTrue room =>
      have same := Option.some.inj removed
      have length := congrArg List.length same
      simp only [List.length_append, List.length_take, List.length_drop] at length
      have whole : k.drop (hw.length + (list.diff hw).length) = [] := by
        apply List.drop_eq_nil_of_le
        omega
      rw [whole, List.append_nil] at same
      have inFront := (front c).mp ⟨k, inserted, same⟩
      have fits : hw.length ≤ k.length := by
        have short := congrArg List.length same
        rw [List.length_take] at short
        omega
      exact ⟨c, held, by omega, inFront⟩
  · rintro ⟨c, held, length, inFront⟩
    obtain ⟨k, inserted, taken⟩ := (front c).mpr inFront
    have grown := length_of_insertAll inserted
    change insertAll (deltas hw list).added c = some k at inserted
    change k.length = c.length + (deltas hw list).added.length at grown
    rw [Option.mem_def.mp held, Option.bind_some, Deltas.apply, inserted, Option.bind_some]
    simp only [deltas, removeAll_range', taken]
    rw [if_pos (by omega), List.drop_eq_nil_of_le (by omega), List.append_nil]

theorem agreed_of_foldl {rs : List (Rebuild Ptr)} {s : Replay Ptr}
    (agreed : (rs.foldl follow s).Agreed) : s.Agreed := by
  induction rs generalizing s with
  | nil => exact agreed
  | cons r rs ih => exact (Bool.and_eq_true_iff.mp (ih agreed)).1

/-- A rebuild of a list that holds the hardware controllers alone reports nothing. -/
theorem foldl_follow_again {hw : List Ptr} (distinct : hw.Nodup) {rs : List (Rebuild Ptr)}
    (again : ∀ r ∈ rs, r = ⟨hw, deltas hw hw⟩) {s : Replay Ptr} (cached : s.cached = some hw) :
    (rs.foldl follow s).Agreed ↔ s.Agreed := by
  induction rs generalizing s with
  | nil => exact Iff.rfl
  | cons r rs ih =>
      have same : (some hw).bind (deltas hw hw).apply = some hw := by
        refine (apply_deltas_iff distinct distinct _).mpr ⟨hw, rfl, rfl, ?_⟩
        have kept : hw.filter (fun x => x ∈ hw) = hw :=
          List.filter_eq_self.mpr fun x member => by simpa using member
        exact (congrArg (· <+: hw) kept).mpr List.prefix_rfl
      obtain rfl := again r List.mem_cons_self
      have next : follow s ⟨hw, deltas hw hw⟩ = { s with cached := some hw } := by
        simp only [follow, cached, same, decide_true, Bool.and_true]
      rw [List.foldl_cons, next]
      exact ih (fun r member => again r (List.mem_cons_of_mem _ member)) rfl

/-- One action keeps the two lists in step exactly when the client's list is in place for its rebuild. -/
theorem step_agreed_iff {s t : Replay Ptr} {a : ResourceManager.Action Ptr} (sound : s.manager.Sound)
    (agreed : s.Agreed) (taken : s.Step a t) : t.Agreed ↔ s.RebuiltInPlace a := by
  obtain ⟨⟨m, rs⟩, moved, rfl⟩ := Option.map_eq_some_iff.mp taken
  obtain ⟨e, edited, rebuilt⟩ := Option.bind_eq_some_iff.mp moved
  have sound := sound.edit edited
  cases rebuilds : a.rebuilds with
  | false =>
      have none_ : rs = [] := by
        cases a with
        | registerNetworkClient | appendControllers | removeControllers => cases rebuilt; rfl
        | registerRGBController | unregisterRGBController | rescan | unregisterNetworkClient =>
            cases rebuilds
      subst none_
      apply iff_of_true agreed
      intro again
      rw [rebuilds] at again
      cases again
  | true =>
      obtain ⟨_, more, same, again, _, _⟩ := sound.rebuild rebuilds
      rw [rebuilt] at same
      cases same
      have place : s.RebuiltInPlace a ↔ InPlace e.rgbControllersHw e.rgbControllers s.cached := by
        simp only [RebuiltInPlace, rebuilds, edited, forall_const, Option.mem_def,
          Option.some.injEq, forall_eq']
      rw [place, ← apply_deltas_iff sound.hardware sound.listed]
      dsimp only
      rw [List.foldl_cons]
      constructor
      · intro agreed
        have first := agreed_of_foldl agreed
        simpa using (Bool.and_eq_true_iff.mp first).2
      · intro same
        apply (foldl_follow_again sound.hardware again same).mpr
        simp only [follow, Agreed, same, decide_true, Bool.and_true]
        exact agreed

theorem foldl_follow_manager (rs : List (Rebuild Ptr)) (s : Replay Ptr) :
    (rs.foldl follow s).manager = s.manager := by
  induction rs generalizing s with
  | nil => rfl
  | cons r rs ih => exact ih (follow s r)

/-- From a client that holds the master list, the lists agree after every rebuild of a run exactly when
the client's list is in place whenever a rebuild begins. -/
theorem replay_agrees_iff {m : ResourceManager Ptr} (sound : m.Sound)
    (as : List (ResourceManager.Action Ptr)) (t : Replay Ptr) :
    Run (Kept Agreed Step) ⟨m, some m.rgbControllers, true⟩ as t ↔
      Run (Guarded RebuiltInPlace Step) ⟨m, some m.rgbControllers, true⟩ as t := by
  have keeps (s : Replay Ptr) (a : ResourceManager.Action Ptr) (t : Replay Ptr) (sound : s.manager.Sound)
      (taken : Step s a t) : t.manager.Sound := by
    obtain ⟨⟨m, rs⟩, moved, rfl⟩ := Option.map_eq_some_iff.mp taken
    rw [foldl_follow_manager]
    exact sound.step moved
  exact Run.kept_iff_of_invariant keeps
    (fun s a t sound agreed taken => step_agreed_iff sound agreed taken) sound rfl

/-- Two devices are plugged in one after the other. -/
theorem replay_agrees_plugged :
    Run (Kept Agreed Step) ⟨.empty, some [], true⟩
      [.registerRGBController 1, .registerRGBController 2]
      ⟨⟨[1, 2], [1, 2], 2, []⟩, some [1, 2], true⟩ := by
  apply (replay_agrees_iff (m := .empty) ResourceManager.sound_empty _ _).mpr
  have first : Step (⟨.empty, some [], true⟩ : Replay Nat) (.registerRGBController 1)
      ⟨⟨[1], [1], 1, []⟩, some [1], true⟩ := by rfl
  have second : Step (⟨⟨[1], [1], 1, []⟩, some [1], true⟩ : Replay Nat) (.registerRGBController 2)
      ⟨⟨[1, 2], [1, 2], 2, []⟩, some [1, 2], true⟩ := by rfl
  refine .cons ⟨?_, first⟩ (.cons ⟨?_, second⟩ (.nil _))
  · rintro - e edited
    cases edited
    exact ⟨[], rfl, rfl, by decide⟩
  · rintro - e edited
    cases edited
    exact ⟨[1], rfl, rfl, by decide⟩

/-- The only device is unplugged: `UnregisterRGBController` erases it before the rebuild, which has
nothing left to report. -/
theorem replay_disagrees_unplugged :
    ∃ t, Run Step (⟨⟨[1], [1], 1, []⟩, some [1], true⟩ : Replay Nat)
      [.unregisterRGBController 1] t ∧ ¬ t.Agreed :=
  ⟨⟨⟨[], [], 1, []⟩, some [1], false⟩, .cons (by rfl) (.nil _), by simp [Agreed]⟩

end Replay
end SyncRGB
