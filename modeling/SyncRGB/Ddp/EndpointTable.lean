import Mathlib.Data.List.Nodup
import SyncRGB.Ddp.Endpoints

/-! When the table of endpoints is right. -/
namespace SyncRGB
open ByteCodec

/-! ### Addresses -/

namespace DDPEndpoint

theorem cstr_ofDevice (dev : DDPDevice) : cstr (ofDevice dev).ip = (cstr dev.ip).take 15 := by
  have text : 0 ∉ (cstr dev.ip).take 15 := fun mem => cstr_no_nul dev.ip (List.mem_of_mem_take mem)
  have ending : 16 - ((cstr dev.ip).take 15).length = 15 - ((cstr dev.ip).take 15).length + 1 := by
    rw [List.length_take]
    omega
  show cstr ((cstr dev.ip).take 15 ++ List.replicate _ 0) = _
  rw [ending, List.replicate_succ]
  conv_lhs => rw [← cstr_of_no_nul text, cstr_terminated]
  exact cstr_of_no_nul text

/-- A short address is kept. -/
theorem key_ofDevice {dev : DDPDevice} (short : dev.Short) : (ofDevice dev).key = dev.key := by
  have kept : cstr (ofDevice dev).ip = dev.ip := by
    rw [cstr_ofDevice, cstr_of_no_nul short.text, List.take_of_length_le short.length]
  exact Prod.ext kept rfl

theorem short_of_key {dev : DDPDevice} (kept : (ofDevice dev).key = dev.key) : dev.Short := by
  have ip : cstr (ofDevice dev).ip = dev.ip := congrArg Prod.fst kept
  rw [cstr_ofDevice] at ip
  constructor
  · rw [← ip]
    exact List.length_take_le 15 _
  · rw [← ip]
    exact fun mem => cstr_no_nul dev.ip (List.mem_of_mem_take mem)

theorem serves_iff {dev : DDPDevice} (short : dev.Short) (endpoint : DDPEndpoint) :
    endpoint.serves dev = true ↔ endpoint.key = dev.key := by
  rw [serves, cstr_of_no_nul short.text, Bool.and_eq_true, beq_iff_eq, beq_iff_eq]
  exact (Prod.ext_iff (x := endpoint.key) (y := dev.key)).symm

end DDPEndpoint

namespace DDPController

/-! ### Searches -/

section
variable (dev : DDPDevice)

theorem findEndpoint_eq (front back : Table) (endpoints : List DDPEndpoint) :
    findEndpoint (front ++ endpoints.map some ++ back) dev endpoints.length front.length =
      some ((endpoints.findIdx? (·.serves dev)).map (front.length + ·)) := by
  induction endpoints generalizing front with
  | nil => rfl
  | cons endpoint endpoints ih =>
      have here : (front ++ (endpoint :: endpoints).map some ++ back)[front.length]? = some (some endpoint) := by
        rw [List.append_assoc, List.getElem?_append_right (le_refl _), Nat.sub_self]
        rfl
      have behind := ih (front ++ [some endpoint])
      rw [List.append_assoc front, List.length_append] at behind
      rw [List.length_cons, findEndpoint, here, List.findIdx?_cons]
      dsimp only
      cases serves : endpoint.serves dev with
      | true => rfl
      | false =>
          refine behind.trans ?_
          simp only [Bool.false_eq_true, if_false, Option.map_map]
          congr 2
          funext i
          show front.length + 1 + i = front.length + (i + 1)
          omega

/-- A table that has been filled up to some entry. -/
theorem findEndpoint_filled (endpoints : List DDPEndpoint) (back : Table) :
    findEndpoint (endpoints.map some ++ back) dev endpoints.length 0 =
      some (endpoints.findIdx? (·.serves dev)) := by
  have found := findEndpoint_eq dev [] back endpoints
  rwa [List.nil_append, List.length_nil, show (0 + · : Nat → Nat) = id from funext Nat.zero_add, Option.map_id] at found

end

/-! ### The second pass -/

/-- The endpoints behind those that there are, when the devices are gone through. -/
def interned : List DDPEndpoint → List DDPDevice → List DDPEndpoint
  | endpoints, [] => endpoints
  | endpoints, dev :: rest =>
      if (endpoints.findIdx? (·.serves dev)).isSome then interned endpoints rest
      else interned (endpoints ++ [.ofDevice dev]) rest

theorem length_le_interned (endpoints : List DDPEndpoint) (devices : List DDPDevice) :
    endpoints.length ≤ (interned endpoints devices).length := by
  induction devices generalizing endpoints with
  | nil => exact le_refl _
  | cons dev rest ih =>
      rw [interned]
      split
      · exact ih endpoints
      · have more := ih (endpoints ++ [.ofDevice dev])
        rw [List.length_append] at more
        omega

theorem fillEndpoints_eq (devices : List DDPDevice) (endpoints : List DDPEndpoint) (free : Nat)
    (room : (interned endpoints devices).length ≤ endpoints.length + free) :
    fillEndpoints devices endpoints.length (endpoints.map some ++ List.replicate free none) =
      some ((interned endpoints devices).length, (interned endpoints devices).map some ++
        List.replicate (endpoints.length + free - (interned endpoints devices).length) none) := by
  induction devices generalizing endpoints free with
  | nil =>
      rw [interned, Nat.add_sub_cancel_left]
      rfl
  | cons dev rest ih =>
      rw [interned] at room ⊢
      rw [fillEndpoints, findEndpoint_filled, Option.bind_eq_bind, Option.bind_some]
      split
      · rename_i known
        rw [if_pos known] at room
        exact ih endpoints free room
      · rename_i new
        rw [if_neg new] at room
        have grown := length_le_interned (endpoints ++ [.ofDevice dev]) rest
        rw [List.length_append, List.length_singleton] at grown
        obtain ⟨free, rfl⟩ : ∃ more, free = more + 1 := ⟨free - 1, by omega⟩
        have stored : (endpoints.map some ++ List.replicate (free + 1) none).set endpoints.length
              (some (DDPEndpoint.ofDevice dev)) =
            (endpoints ++ [DDPEndpoint.ofDevice dev]).map some ++ List.replicate free none := by
          rw [List.set_append_right _ _ (by rw [List.length_map]), List.length_map, Nat.sub_self, List.replicate_succ,
            List.map_append, List.append_assoc]
          rfl
        have below : endpoints.length <
            (endpoints.map some ++ List.replicate (free + 1) (none : Option DDPEndpoint)).length := by
          rw [List.length_append, List.length_map, List.length_replicate]
          omega
        have next := ih (endpoints ++ [.ofDevice dev]) free (by rw [List.length_append, List.length_singleton]; omega)
        rw [List.length_append, List.length_singleton] at next
        rw [if_pos below, stored, next]
        congr 4
        omega

/-- The endpoints have the addresses of the devices, each once. -/
structure Interns (endpoints : List DDPEndpoint) (devices : List DDPDevice) : Prop where
  once : (endpoints.map DDPEndpoint.key).Nodup
  stored (key : Bytes × UInt16) : key ∈ endpoints.map DDPEndpoint.key ↔ ∃ dev ∈ devices, key = dev.key

theorem Interns.next {endpoints : List DDPEndpoint} {devices : List DDPDevice} (interns : Interns endpoints devices)
    {dev : DDPDevice} (short : dev.Short) :
    Interns (if (endpoints.findIdx? (·.serves dev)).isSome then endpoints else endpoints ++ [.ofDevice dev])
      (devices ++ [dev]) := by
  have known : (endpoints.findIdx? (·.serves dev)).isSome = true ↔ dev.key ∈ endpoints.map DDPEndpoint.key := by
    rw [List.findIdx?_isSome, List.any_eq_true, List.mem_map]
    simp only [DDPEndpoint.serves_iff short]
  have extended (key : Bytes × UInt16) :
      (∃ other ∈ devices ++ [dev], key = other.key) ↔ (∃ other ∈ devices, key = other.key) ∨ key = dev.key := by
    simp only [List.mem_append, List.mem_singleton, or_and_right, exists_or, exists_eq_left]
  split
  · rename_i there
    refine ⟨interns.once, fun key => ?_⟩
    rw [extended, ← interns.stored]
    exact ⟨.inl, fun either => either.elim id fun same => same ▸ known.mp there⟩
  · rename_i new
    have added : (endpoints ++ [DDPEndpoint.ofDevice dev]).map DDPEndpoint.key =
        endpoints.map DDPEndpoint.key ++ [dev.key] := by
      rw [List.map_append, List.map_singleton, DDPEndpoint.key_ofDevice short]
    refine ⟨?_, fun key => ?_⟩
    · rw [added]
      exact List.nodup_append.mpr ⟨interns.once, List.nodup_singleton _, by
        rintro key there _ here rfl
        exact new (known.mpr (List.mem_singleton.mp here ▸ there))⟩
    · rw [added, extended, ← interns.stored, List.mem_append, List.mem_singleton]

theorem Interns.interned {endpoints : List DDPEndpoint} {front devices : List DDPDevice}
    (interns : Interns endpoints front) (short : ∀ dev ∈ devices, dev.Short) :
    Interns (interned endpoints devices) (front ++ devices) := by
  induction devices generalizing endpoints front with
  | nil =>
      rw [List.append_nil]
      exact interns
  | cons dev rest ih =>
      obtain ⟨here, behind⟩ := List.forall_mem_cons.mp short
      have next := ih (interns.next here) behind
      rw [List.append_assoc, List.singleton_append] at next
      rw [DDPController.interned]
      split
      · rename_i known
        rwa [if_pos known] at next
      · rename_i new
        rwa [if_neg new] at next

theorem Interns.tableRight {endpoints : List DDPEndpoint} {devices : List DDPDevice}
    (interns : Interns endpoints devices) (short : ∀ dev ∈ devices, dev.Short) :
    TableRight devices ⟨endpoints.map some, endpoints.length, endpoints.length⟩ := by
  have keysEq : keys (endpoints.map some) = (endpoints.map DDPEndpoint.key).map some := by
    rw [keys, List.map_map, List.map_map]
    rfl
  refine ⟨List.length_map _, rfl, ?_, fun key => ?_, fun dev member => ?_⟩
  · rw [keysEq]
    exact interns.once.map (Option.some_injective _)
  · rw [keysEq, List.mem_map]
    constructor
    · rintro ⟨key, stored, rfl⟩
      obtain ⟨dev, member, rfl⟩ := (interns.stored key).mp stored
      exact ⟨dev, member, rfl⟩
    · rintro ⟨dev, member, rfl⟩
      exact ⟨dev.key, (interns.stored dev.key).mpr ⟨dev, member, rfl⟩, rfl⟩
  · have found := findEndpoint_filled dev endpoints []
    rw [List.append_nil] at found
    obtain ⟨endpoint, stored, same⟩ := List.mem_map.mp ((interns.stored dev.key).mpr ⟨dev, member, rfl⟩)
    have serves := (DDPEndpoint.serves_iff (short dev member) endpoint).mpr same
    have known : (endpoints.findIdx? (·.serves dev)).isSome = true := by
      rw [List.findIdx?_isSome]
      exact List.any_eq_true.mpr ⟨endpoint, stored, serves⟩
    obtain ⟨i, at_⟩ := Option.isSome_iff_exists.mp known
    obtain ⟨below, first, -⟩ := List.findIdx?_eq_some_iff_getElem.mp at_
    refine ⟨i, found.trans (congrArg some at_), ?_⟩
    rw [keysEq, List.getElem?_map, List.getElem?_map, List.getElem?_eq_getElem below]
    exact congrArg (some ∘ some) ((DDPEndpoint.serves_iff (short dev member) _).mp first)

/-- With as many entries as there are addresses, the second pass fills the table rightly. -/
theorem fillEndpoints_right {devices : List DDPDevice} (short : ∀ dev ∈ devices, dev.Short) :
    ∃ table, fillEndpoints devices 0 (List.replicate (interned [] devices).length none) =
        some ((interned [] devices).length, table) ∧ table.all Option.isSome = true ∧
      TableRight devices ⟨table, (interned [] devices).length, (interned [] devices).length⟩ := by
  have empty : Interns [] [] := ⟨List.nodup_nil, fun key => by simp⟩
  have filled := fillEndpoints_eq devices [] (interned [] devices).length (by rw [List.length_nil, Nat.zero_add])
  rw [List.length_nil, Nat.zero_add, Nat.sub_self, List.replicate_zero, List.append_nil] at filled
  refine ⟨(interned [] devices).map some, filled, ?_, (empty.interned short).tableRight short⟩
  rw [List.all_map]
  exact List.all_eq_true.mpr fun endpoint _ => rfl

/-! ### The first pass -/

/-- The second device is compared with an entry behind the null pointer. -/
theorem initializeNetPorts_two (first second : DDPDevice) (rest : List DDPDevice) :
    initializeNetPorts (first :: second :: rest) = none := rfl

theorem initializeNetPorts_one (dev : DDPDevice) :
    initializeNetPorts [dev] = some ⟨[some (.ofDevice dev)], 1, 1⟩ := rfl

/-- The table is right exactly for no device at all and for a single one with a short address. -/
theorem endpointsRight_iff (devices : List DDPDevice) :
    EndpointsRight devices ↔ devices = [] ∨ ∃ dev, devices = [dev] ∧ dev.Short := by
  constructor
  · rintro ⟨ports, ran, right⟩
    match devices with
    | [] => exact .inl rfl
    | [dev] =>
        rw [initializeNetPorts_one] at ran
        cases ran
        have stored := (right.stored (some dev.key)).mpr ⟨dev, List.mem_singleton.mpr rfl, rfl⟩
        have kept : dev.key = (DDPEndpoint.ofDevice dev).key := Option.some.inj (List.mem_singleton.mp stored)
        exact .inr ⟨dev, rfl, DDPEndpoint.short_of_key kept.symm⟩
    | first :: second :: rest =>
        rw [initializeNetPorts_two] at ran
        cases ran
  · rintro (rfl | ⟨dev, rfl, short⟩)
    · have empty : Interns [] [] := ⟨List.nodup_nil, fun key => by simp⟩
      exact ⟨_, rfl, empty.tableRight fun dev member => absurd member List.not_mem_nil⟩
    · obtain ⟨table, filled, -, right⟩ := fillEndpoints_right (List.forall_mem_singleton.mpr short)
      refine ⟨_, initializeNetPorts_one dev, ?_⟩
      cases filled
      exact right

/-- A single LED at 1.1.1.1. -/
def lamp : DDPDevice where
  ip := [49, 46, 49, 46, 49, 46, 49]
  port := 4048
  numLeds := 1

/-- Two devices behind one address. -/
theorem two_devices_read_null : ¬ EndpointsRight [lamp, lamp] := by
  rintro ⟨ports, ran, -⟩
  rw [initializeNetPorts_two] at ran
  cases ran

end DDPController
end SyncRGB
