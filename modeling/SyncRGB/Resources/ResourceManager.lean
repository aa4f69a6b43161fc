import SyncRGB.Resources.DeviceList

/-! What is registered with the `ResourceManager`, who edits its master list, and what a rebuild does
to the controllers of network clients. -/
namespace SyncRGB
variable {Ptr : Type} [DecidableEq Ptr]

/-- `clients` holds for each connected network client the controllers it has appended to the master
list. -/
structure ResourceManager (Ptr : Type) where
  rgbControllersHw : List Ptr
  rgbControllers : List Ptr
  detectionPrevSize : Nat
  clients : List (List Ptr)
deriving DecidableEq, Repr

structure Rebuild (Ptr : Type) where
  list : List Ptr
  deltas : Deltas Ptr
deriving DecidableEq, Repr

namespace ResourceManager

/-- What the device detection, hot-plugging and the network clients do. Controllers that are
registered or appended are new objects. -/
inductive Action (Ptr : Type)
  | registerRGBController (controller : Ptr)
  | unregisterRGBController (controller : Ptr)
  | rescan
  | registerNetworkClient
  | appendControllers (client : Nat) (controllers : List Ptr)
  | removeControllers (client : Nat)
  | unregisterNetworkClient (client : Nat)
deriving DecidableEq, Repr

def Action.rebuilds : Action Ptr → Bool
  | .registerRGBController _ | .unregisterRGBController _ | .rescan
  | .unregisterNetworkClient _ => true
  | _ => false

def empty : ResourceManager Ptr := ⟨[], [], 0, []⟩

/-- The controllers of connected network clients. -/
def remote (m : ResourceManager Ptr) : List Ptr := m.clients.flatten

/-- All controllers there are. -/
def known (m : ResourceManager Ptr) : List Ptr := m.rgbControllersHw ++ m.rgbControllers ++ m.remote

/-- What the action does to the lists before their first rebuild. A client that stops erases its
controllers, `ProcessPreDetection` calls `Cleanup`. -/
def edit (m : ResourceManager Ptr) : Action Ptr → Option (ResourceManager Ptr)
  | .registerRGBController c =>
      if c ∈ m.known then none
      else some { m with rgbControllersHw := m.rgbControllersHw ++ [c] }
  | .unregisterRGBController c =>
      some { m with
        rgbControllersHw := m.rgbControllersHw.erase c
        rgbControllers := m.rgbControllers.erase c }
  | .rescan => some { m with rgbControllersHw := [], detectionPrevSize := 0 }
  | .registerNetworkClient => some { m with clients := m.clients ++ [[]] }
  | .appendControllers k cs =>
      if cs.Nodup ∧ (∀ c ∈ cs, c ∉ m.known) then
        m.clients[k]?.map fun owned => { m with
          rgbControllers := m.rgbControllers ++ cs
          clients := m.clients.set k (owned ++ cs) }
      else none
  | .removeControllers k => m.clients[k]?.map fun owned => { m with
      rgbControllers := m.rgbControllers.diff owned
      clients := m.clients.set k [] }
  | .unregisterNetworkClient k => m.clients[k]?.map fun owned => { m with
      rgbControllers := m.rgbControllers.diff owned
      clients := m.clients.eraseIdx k }

/-- `UpdateDeviceList`. -/
def update (m : ResourceManager Ptr) : Option (ResourceManager Ptr × Rebuild Ptr) :=
  (updateDeviceList m.rgbControllersHw m.rgbControllers).map fun (list, deltas) =>
    ({ m with rgbControllers := list }, ⟨list, deltas⟩)

/-- The rebuilds of an action. Registering rebuilds a second time when the hardware list has another
size than when it was last looked at. -/
def rebuild (m : ResourceManager Ptr) (a : Action Ptr) :
    Option (ResourceManager Ptr × List (Rebuild Ptr)) :=
  match a with
  | .registerRGBController _ => do
      let (m, first) ←
        if m.rgbControllersHw.length ≠ m.detectionPrevSize then
          m.update.map fun (m, r) => (m, [r])
        else some (m, [])
      let (m, last) ← { m with detectionPrevSize := m.rgbControllersHw.length : ResourceManager Ptr }.update
      return (m, first ++ [last])
  | _ => if a.rebuilds then m.update.map fun (m, r) => (m, [r]) else some (m, [])

def step (m : ResourceManager Ptr) (a : Action Ptr) :
    Option (ResourceManager Ptr × List (Rebuild Ptr)) :=
  (m.edit a).bind fun edited => edited.rebuild a

structure Sound (m : ResourceManager Ptr) : Prop where
  hardware : m.rgbControllersHw.Nodup
  listed : m.rgbControllers.Nodup
  apart : ∀ c ∈ m.remote, c ∉ m.rgbControllersHw

omit [DecidableEq Ptr] in
theorem sound_empty : (empty : ResourceManager Ptr).Sound := by
  constructor <;> simp [empty, remote]

omit [DecidableEq Ptr] in
theorem mem_flatten_set {xss : List (List Ptr)} {k : Nat} {xs : List Ptr} {x : Ptr}
    (member : x ∈ (xss.set k xs).flatten) : x ∈ xss.flatten ∨ x ∈ xs := by
  obtain ⟨ys, inside, found⟩ := List.mem_flatten.mp member
  rcases List.mem_or_eq_of_mem_set inside with old | rfl
  · exact .inl (List.mem_flatten.mpr ⟨ys, old, found⟩)
  · exact .inr found

omit [DecidableEq Ptr] in
theorem mem_flatten_of_getElem? {xss : List (List Ptr)} {k : Nat} {xs : List Ptr} {x : Ptr}
    (at_ : xss[k]? = some xs) (member : x ∈ xs) : x ∈ xss.flatten :=
  List.mem_flatten.mpr ⟨xs, List.mem_of_getElem? at_, member⟩

theorem Sound.edit {m m' : ResourceManager Ptr} (sound : m.Sound) {a : Action Ptr}
    (edited : m.edit a = some m') : m'.Sound := by
  obtain ⟨hardware, listed, apart⟩ := sound
  cases a with
  | registerRGBController c =>
      simp only [ResourceManager.edit] at edited
      split at edited
      · cases edited
      · next new =>
        cases edited
        simp only [known, List.mem_append, not_or] at new
        refine ⟨hardware.append (List.nodup_singleton c) ?_, listed, fun d member => ?_⟩
        · exact List.disjoint_singleton.mpr new.1.1
        · simp only [List.mem_append, List.mem_singleton, not_or]
          exact ⟨apart d member, fun same => new.2 (same ▸ member)⟩
  | unregisterRGBController c =>
      cases edited
      exact ⟨hardware.erase c, listed.erase c, fun d member inside =>
        apart d member (List.mem_of_mem_erase inside)⟩
  | rescan => cases edited; exact ⟨List.nodup_nil, listed, fun _ _ => List.not_mem_nil⟩
  | registerNetworkClient => cases edited; exact ⟨hardware, listed, by simpa [remote] using apart⟩
  | appendControllers k cs =>
      simp only [ResourceManager.edit] at edited
      split at edited
      · next new =>
        obtain ⟨owned, at_, rfl⟩ := Option.map_eq_some_iff.mp edited
        refine ⟨hardware, listed.append new.1 ?_, fun d member => ?_⟩
        · intro d inside member
          exact new.2 d member (by simp [known, inside])
        · rcases mem_flatten_set member with old | old
          · exact apart d old
          · rcases List.mem_append.mp old with old | added
            · exact apart d (mem_flatten_of_getElem? at_ old)
            · intro inside
              exact new.2 d added (by simp [known, inside])
      · cases edited
  | removeControllers k =>
      obtain ⟨owned, at_, rfl⟩ := Option.map_eq_some_iff.mp edited
      refine ⟨hardware, listed.diff, fun d member => ?_⟩
      rcases mem_flatten_set member with old | old
      · exact apart d old
      · cases old
  | unregisterNetworkClient k =>
      obtain ⟨owned, at_, rfl⟩ := Option.map_eq_some_iff.mp edited
      refine ⟨hardware, listed.diff, fun d member => ?_⟩
      obtain ⟨ys, inside, found⟩ := List.mem_flatten.mp member
      exact apart d (List.mem_flatten.mpr ⟨ys, List.mem_of_mem_eraseIdx inside, found⟩)

/-- In a sound state the rebuilds of an action leave the hardware controllers alone in the list. -/
theorem Sound.update {m : ResourceManager Ptr} (sound : m.Sound) :
    m.update = some ({ m with rgbControllers := m.rgbControllersHw },
      ⟨m.rgbControllersHw, UpdateDeviceList.deltas m.rgbControllersHw m.rgbControllers⟩) := by
  rw [ResourceManager.update, UpdateDeviceList.updateDeviceList_eq sound.hardware sound.listed]
  rfl

omit [DecidableEq Ptr] in
theorem Sound.rebuilt {m : ResourceManager Ptr} (sound : m.Sound) :
    { m with rgbControllers := m.rgbControllersHw : ResourceManager Ptr }.Sound :=
  ⟨sound.hardware, sound.hardware, sound.apart⟩

/-- What a call of `UpdateDeviceList` owes the network clients that are connected: their controllers
stay in the master list, in the same order, behind the hardware controllers. -/
structure RemotesKept (m : ResourceManager Ptr) (after : List Ptr) : Prop where
  kept : after.filter (· ∈ m.remote) = m.rgbControllers.filter (· ∈ m.remote)
  behind : m.rgbControllersHw <+: after

theorem Sound.rebuild {m : ResourceManager Ptr} (sound : m.Sound) {a : Action Ptr}
    (rebuilds : a.rebuilds = true) :
    ∃ m' more, m.rebuild a = some (m', ⟨m.rgbControllersHw,
        UpdateDeviceList.deltas m.rgbControllersHw m.rgbControllers⟩ :: more) ∧
      (∀ r ∈ more, r = ⟨m.rgbControllersHw,
        UpdateDeviceList.deltas m.rgbControllersHw m.rgbControllersHw⟩) ∧
      m'.Sound ∧ m'.rgbControllers = m.rgbControllersHw := by
  cases a with
  | registerRGBController c =>
      simp only [ResourceManager.rebuild]
      split
      · have again : ({ m with
            rgbControllers := m.rgbControllersHw
            detectionPrevSize := m.rgbControllersHw.length : ResourceManager Ptr }).Sound :=
          ⟨sound.hardware, sound.hardware, sound.apart⟩
        rw [sound.update]
        simp only [Option.map_some, Option.bind_eq_bind, Option.bind_some, again.update]
        exact ⟨_, _, rfl, by simp, again, rfl⟩
      · have again : ({ m with
            detectionPrevSize := m.rgbControllersHw.length : ResourceManager Ptr }).Sound :=
          ⟨sound.hardware, sound.listed, sound.apart⟩
        simp only [Option.bind_eq_bind, Option.bind_some, again.update]
        exact ⟨_, [], rfl, by simp, again.rebuilt, rfl⟩
  | unregisterRGBController | rescan | unregisterNetworkClient =>
      simp only [ResourceManager.rebuild, rebuilds, if_true, sound.update]
      exact ⟨_, [], rfl, by simp, sound.rebuilt, rfl⟩
  | registerNetworkClient | appendControllers | removeControllers => cases rebuilds

theorem Sound.step {m m' : ResourceManager Ptr} {a : Action Ptr} {rs : List (Rebuild Ptr)}
    (sound : m.Sound) (taken : m.step a = some (m', rs)) : m'.Sound := by
  obtain ⟨e, edited, rebuilt⟩ := Option.bind_eq_some_iff.mp taken
  have sound := sound.edit edited
  cases rebuilds : a.rebuilds with
  | true =>
      obtain ⟨_, _, same, _, after, _⟩ := sound.rebuild rebuilds
      rw [rebuilt] at same
      cases same
      exact after
  | false =>
      cases a with
      | registerNetworkClient | appendControllers | removeControllers => cases rebuilt; exact sound
      | registerRGBController | unregisterRGBController | rescan | unregisterNetworkClient =>
          cases rebuilds

/-- A rebuild keeps the controllers of connected clients exactly when it finds none of them. -/
theorem step_keeps_remotes_iff {m e : ResourceManager Ptr} {a : Action Ptr} (sound : m.Sound)
    (edited : m.edit a = some e) (rebuilds : a.rebuilds = true) :
    (∃ m' rs, m.step a = some (m', rs) ∧ e.RemotesKept m'.rgbControllers) ↔
      ∀ c ∈ e.rgbControllers, c ∉ e.remote := by
  have sound := sound.edit edited
  obtain ⟨m', more, rebuilt, _, _, list⟩ := sound.rebuild rebuilds
  have taken := rebuilt
  rw [← Option.bind_some e fun e => e.rebuild a, ← edited] at taken
  have none_ : e.rgbControllersHw.filter (· ∈ e.remote) = [] := by
    rw [List.filter_eq_nil_iff]
    intro c hardware
    simpa using fun member => sound.apart c member hardware
  constructor
  · rintro ⟨m'', rs, taken', kept⟩ c member remote
    cases taken.symm.trans taken'
    have same := kept.kept
    rw [list, none_] at same
    have inside : c ∈ e.rgbControllers.filter (· ∈ e.remote) := by
      simp [member, remote]
    rw [← same] at inside
    cases inside
  · intro local_
    refine ⟨m', _, taken, ?_, list ▸ List.prefix_rfl⟩
    rw [list, none_, eq_comm, List.filter_eq_nil_iff]
    intro c member
    simpa using local_ c member

theorem step_keeps_remotes_local :
    (∃ m' rs, (⟨[1], [1], 1, [[]]⟩ : ResourceManager Nat).step (.registerRGBController 2) =
        some (m', rs) ∧
      (⟨[1, 2], [1], 1, [[]]⟩ : ResourceManager Nat).RemotesKept m'.rgbControllers) ↔
      ∀ c ∈ [1], c ∉ (⟨[1, 2], [1], 1, [[]]⟩ : ResourceManager Nat).remote :=
  step_keeps_remotes_iff (m := ⟨[1], [1], 1, [[]]⟩) (by constructor <;> decide) rfl rfl

/-- A client has appended its controller 7 when hardware is plugged in. -/
theorem register_drops_remote :
    ∃ m rs, (⟨[], [7], 0, [[7]]⟩ : ResourceManager Nat).step (.registerRGBController 1) =
      some (m, rs) ∧
      ¬ (⟨[1], [7], 0, [[7]]⟩ : ResourceManager Nat).RemotesKept m.rgbControllers := by
  refine ⟨⟨[1], [1], 1, [[7]]⟩, _, rfl, fun kept => ?_⟩
  have same := kept.kept
  revert same
  decide

end ResourceManager
end SyncRGB
