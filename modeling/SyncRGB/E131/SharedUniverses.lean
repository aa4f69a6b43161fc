import SyncRGB.E131.DeviceLists

/-! When the devices that share a universe come to one list, so that no two controllers send it. -/
namespace SyncRGB
open ByteCodec VectorEdit
namespace E131

/-- The device at a place of the settings. -/
def deviceAt (devices : List E131Device) (i : Nat) : E131Device := devices.getD i .cleared

def overlapAt (devices : List E131Device) (i j : Nat) : Bool := overlap (deviceAt devices i) (deviceAt devices j)

/-- The lists with the places of the devices. -/
def placeLists (devices : List E131Device) : List (List Nat) :=
  groups (overlapAt devices) (List.range devices.length)

section
variable (ops : FloatOps) (devices : List E131Device)

/-- The number that `e131_pkt_init` writes into a packet and `e131_multicast_dest` into its address: 16 bits of the
universe. -/
def sentUniverse (univ : UInt32) : UInt16 := univ.toUInt16

/-- The numbers of the packets of a controller. -/
def sentUniverses (devices : List E131Device) : List UInt16 := (universes ops devices).map sentUniverse

/-- Each device stands once in the lists; those with a universe in which channels of both are packed stand in one of
them; and no two controllers send a universe to the same destination. -/
structure GroupsRightly : Prop where
  lists : deviceLists devices = (placeLists devices).map (List.map (deviceAt devices))
  once : (placeLists devices).flatten.Perm (List.range devices.length)
  together (i j : Nat) (dev other : E131Device) (univ univ' channel channel' : UInt32) :
    devices[i]? = some dev → devices[j]? = some other → dev.ip = other.ip →
    (univ, channel) ∈ packed ops dev → (univ', channel') ∈ packed ops other → sentUniverse univ = sentUniverse univ' →
    ∃ g ∈ placeLists devices, i ∈ g ∧ j ∈ g
  alone (k l : Nat) (g h : List E131Device) :
    k ≠ l → (deviceLists devices)[k]? = some g → (deviceLists devices)[l]? = some h →
    destination g = destination h → ∀ univ ∈ sentUniverses ops g, univ ∉ sentUniverses ops h

/-- From two devices with the same destination and universes that are sent as one, chains of overlapping devices lead
down to the same earliest one. -/
def ChainsMeet : Prop :=
  ∀ (i j : Nat) (dev other : E131Device) (univ univ' : UInt32),
    devices[i]? = some dev → devices[j]? = some other → dev.ip = other.ip →
    univ ∈ universesOf ops dev → univ' ∈ universesOf ops other → sentUniverse univ = sentUniverse univ' →
    earliest (overlapAt devices) i = earliest (overlapAt devices) j

end

section
variable {ops : FloatOps} {devices : List E131Device}

/-! ### Places -/

theorem deviceAt_of_some {i : Nat} {dev : E131Device} (found : devices[i]? = some dev) : deviceAt devices i = dev := by
  rw [deviceAt, List.getD_eq_getElem?_getD, found]
  rfl

theorem map_deviceAt (devices : List E131Device) : (List.range devices.length).map (deviceAt devices) = devices := by
  apply List.ext_getElem?
  intro i
  rw [List.getElem?_map]
  by_cases inside : i < devices.length
  · rw [List.getElem?_range inside, Option.map_some, List.getElem?_eq_getElem inside,
      deviceAt_of_some (List.getElem?_eq_getElem inside)]
  · rw [List.getElem?_eq_none (by rw [List.length_range]; omega), List.getElem?_eq_none (by omega)]
    rfl

theorem deviceLists_eq : deviceLists devices = (placeLists devices).map (List.map (deviceAt devices)) := by
  conv_lhs => rw [← map_deviceAt devices]
  exact groups_map (deviceAt devices) (List.range devices.length)

theorem placeLists_grouped : Grouped (overlapAt devices) devices.length (placeLists devices) := grouped_range _

/-- Overlapping devices have one destination. -/
theorem ip_of_leads {i f : Nat} (leads : Leads (overlapAt devices) i f) :
    (deviceAt devices i).ip = (deviceAt devices f).ip := by
  induction leads with
  | refl => rfl
  | tail _ step ih =>
      have overlaps := (Bool.and_eq_true_iff.mp step.2).1
      exact ih.trans (eq_of_beq overlaps)

theorem ip_of_list {g : List Nat} (mem : g ∈ placeLists devices) {i j : Nat} (first : i ∈ g) (second : j ∈ g) :
    (deviceAt devices i).ip = (deviceAt devices j).ip := by
  have same := placeLists_grouped.same g mem i first j second
  rw [ip_of_leads (leads_earliest i), same, ← ip_of_leads (leads_earliest j)]

/-! ### Universes -/

theorem mem_foldl_addUniverse {univs given : List UInt32} {univ : UInt32} :
    univ ∈ univs.foldl addUniverse given ↔ univ ∈ given ∨ univ ∈ univs := by
  induction univs generalizing given with
  | nil => simp
  | cons u univs ih =>
      have added : univ ∈ addUniverse given u ↔ univ ∈ given ∨ univ = u := by
        unfold addUniverse
        split
        · rename_i there
          exact ⟨.inl, fun either => either.elim id fun same => same ▸ there⟩
        · rw [List.mem_append, List.mem_singleton]
      rw [List.foldl_cons, ih, added, List.mem_cons, or_assoc]

theorem mem_universes {g : List E131Device} {univ : UInt32} :
    univ ∈ universes ops g ↔ ∃ dev ∈ g, univ ∈ universesOf ops dev := by
  rw [universes, mem_foldl_addUniverse, List.mem_flatMap]
  exact or_iff_right List.not_mem_nil

theorem mem_sentUniverses {g : List E131Device} {number : UInt16} :
    number ∈ sentUniverses ops g ↔ ∃ dev ∈ g, ∃ univ ∈ universesOf ops dev, sentUniverse univ = number := by
  rw [sentUniverses, List.mem_map]
  constructor
  · rintro ⟨univ, sent, same⟩
    obtain ⟨dev, member, own⟩ := mem_universes.mp sent
    exact ⟨dev, member, univ, own, same⟩
  · rintro ⟨dev, member, univ, own, same⟩
    exact ⟨univ, mem_universes.mpr ⟨dev, member, own⟩, same⟩

/-- The channels are packed into the universes that have packets. -/
theorem mem_of_packed {dev : E131Device} {univ channel : UInt32} (stored : (univ, channel) ∈ packed ops dev) :
    univ ∈ universesOf ops dev := by
  have walk (univs : List UInt32) (p : Packing) (mem : (univ, channel) ∈ packUniverses ops dev univs p) :
      univ ∈ univs := by
    induction univs generalizing p with
    | nil => exact absurd mem List.not_mem_nil
    | cons u univs ih =>
        rw [packUniverses] at mem
        rcases List.mem_append.mp mem with here | later
        · obtain ⟨_, -, same⟩ := List.mem_map.mp here
          cases same
          exact List.mem_cons_self
        · exact List.mem_cons_of_mem u (ih _ later)
  exact walk _ _ stored

/-- A list of places, with the devices there. -/
theorem list_at {k : Nat} {g : List E131Device} (found : (deviceLists devices)[k]? = some g) :
    ∃ places, (placeLists devices)[k]? = some places ∧ places.map (deviceAt devices) = g := by
  rw [deviceLists_eq, List.getElem?_map] at found
  exact Option.map_eq_some_iff.mp found

theorem destination_of_mem {g : List Nat} (mem : g ∈ placeLists devices) {i : Nat} (inside : i ∈ g) :
    destination (g.map (deviceAt devices)) = some (deviceAt devices i).ip := by
  cases g with
  | nil => exact absurd inside List.not_mem_nil
  | cons first rest => exact congrArg some (ip_of_list mem List.mem_cons_self inside)

/-- The lists are right exactly when the chains from devices with a common universe meet. -/
theorem groupsRightly_iff (ops : FloatOps) (devices : List E131Device) :
    GroupsRightly ops devices ↔ ChainsMeet ops devices := by
  have grouped : Grouped (overlapAt devices) devices.length (placeLists devices) := placeLists_grouped
  constructor
  · intro right i j dev other univ univ' first second ip common common' number
    have insideI : i < devices.length := (List.getElem?_eq_some_iff.mp first).1
    have insideJ : j < devices.length := (List.getElem?_eq_some_iff.mp second).1
    obtain ⟨k, g, atK, here⟩ := grouped.exists_group insideI
    obtain ⟨l, h, atL, there⟩ := grouped.exists_group insideJ
    by_contra apart
    have differ : k ≠ l := by
      rintro rfl
      rw [atK] at atL
      cases atL
      exact apart (grouped.same g (List.mem_of_getElem? atK) i here j there)
    have lists (m : Nat) (places : List Nat) (found : (placeLists devices)[m]? = some places) :
        (deviceLists devices)[m]? = some (places.map (deviceAt devices)) := by
      rw [deviceLists_eq, List.getElem?_map, found]
      rfl
    have same : destination (g.map (deviceAt devices)) = destination (h.map (deviceAt devices)) := by
      rw [destination_of_mem (List.mem_of_getElem? atK) here, destination_of_mem (List.mem_of_getElem? atL) there,
        deviceAt_of_some first, deviceAt_of_some second, ip]
    refine right.alone k l _ _ differ (lists k g atK) (lists l h atL) same (sentUniverse univ) ?_ ?_
    · exact mem_sentUniverses.mpr ⟨dev, List.mem_map.mpr ⟨i, here, deviceAt_of_some first⟩, univ, common, rfl⟩
    · exact mem_sentUniverses.mpr ⟨other, List.mem_map.mpr ⟨j, there, deviceAt_of_some second⟩, univ', common',
        number.symm⟩
  · intro meet
    refine ⟨deviceLists_eq, grouped.members, ?_, ?_⟩
    · intro i j dev other univ univ' channel channel' first second ip stored stored' number
      apply (grouped.together_iff (List.getElem?_eq_some_iff.mp first).1 (List.getElem?_eq_some_iff.mp second).1).mpr
      exact meet i j dev other univ univ' first second ip (mem_of_packed stored) (mem_of_packed stored') number
    · intro k l g h differ atK atL same number sent sent'
      obtain ⟨places, placesK, rfl⟩ := list_at atK
      obtain ⟨places', placesL, rfl⟩ := list_at atL
      obtain ⟨dev, mem, univ, common, first⟩ := mem_sentUniverses.mp sent
      obtain ⟨other, mem', univ', common', second⟩ := mem_sentUniverses.mp sent'
      obtain ⟨i, here, rfl⟩ := List.mem_map.mp mem
      obtain ⟨j, there, rfl⟩ := List.mem_map.mp mem'
      have found {m : Nat} {g : List Nat} {p : Nat} (at_ : (placeLists devices)[m]? = some g) (inside : p ∈ g) :
          devices[p]? = some (deviceAt devices p) := by
        have below := grouped.lt (List.mem_of_getElem? at_) inside
        rw [List.getElem?_eq_getElem below, deviceAt_of_some (List.getElem?_eq_getElem below)]
      rw [destination_of_mem (List.mem_of_getElem? placesK) here,
        destination_of_mem (List.mem_of_getElem? placesL) there] at same
      have equal := meet i j _ _ univ univ' (found placesK here) (found placesL there) (Option.some.inj same) common
        common' (first.trans second.symm)
      exact differ (grouped.position placesK placesL here there equal)

end

/-- Rounded up, where the numbers are small enough for `float`. -/
def smallOps : FloatOps where
  ceilQuotient channels universeSize := (channels + universeSize - 1) / universeSize
  atMost channelIdx universeSize := channelIdx ≤ universeSize

def strip (numLeds startUniverse : UInt32) : E131Device := { E131Device.cleared with numLeds, startUniverse }

/-- A strip over four universes comes after two devices in the first and the third of them. -/
theorem late_strip_shared : ¬ GroupsRightly smallOps [strip 10 1, strip 10 3, strip 512 1] := by
  intro right
  have lists : deviceLists [strip 10 1, strip 10 3, strip 512 1] = [[strip 10 1, strip 512 1], [strip 10 3]] := by
    decide
  have first : (3 : UInt16) ∈ sentUniverses smallOps [strip 10 1, strip 512 1] := by decide
  have second : (3 : UInt16) ∈ sentUniverses smallOps [strip 10 3] := by decide
  refine right.alone 0 1 [strip 10 1, strip 512 1] [strip 10 3] Nat.zero_ne_one ?_ ?_ rfl 3 first second
  · rw [lists]
    rfl
  · rw [lists]
    rfl

end E131
end SyncRGB
