import SyncRGB.Profile.LoadDevice
import SyncRGB.Resources.HotPlug
import SyncRGB.VectorEdit.FirstFit
import SyncRGB.VectorEdit.Substring

/-! The match of `RegisterRGBController`, which keeps the old controllers it has matched in a list of pointers, next
to the one of `LoadDeviceFromListWithOptions`, which keeps flags. -/
namespace SyncRGB
open ByteCodec VectorEdit

/-- The location test of `RegisterRGBController`, by positions in the location. -/
def registerLocationCheck (existing detected : Bytes) : Bool :=
  if find hidPrefix detected = some 0 then true
  else if find i2cPrefix detected = some 0 then
    match rfind [44, 32] detected with
    | none => false
    | some loc =>
        let i2cAddress := detected.drop (loc + 2)
        (find i2cAddress existing).isSome
  else existing = detected

namespace RGBController

/-- Test if controllers match. -/
def registerMatches (existing detected : RGBController) : Bool :=
  existing.type = detected.type && existing.name = detected.name && existing.description = detected.description &&
    existing.version = detected.version && existing.serial = detected.serial &&
    registerLocationCheck existing.location detected.location

end RGBController

/-- `rgb_controllers_hw_cleanup_pending`: old controllers with their addresses, each an object of its own. -/
structure PendingControllers where
  controllers : List (Nat × RGBController)
  distinct : (controllers.map Prod.fst).Nodup

namespace PendingControllers

/-- The loop of `RegisterRGBController` over the pending controllers. -/
def findExisting (matched : List Nat) (detected : RGBController) :
    List (Nat × RGBController) → Option (Nat × RGBController)
  | [] => none
  | existing :: rest =>
      let alreadyMatched := matched.any fun address => address = existing.1
      if alreadyMatched then findExisting matched detected rest
      else if existing.2.registerMatches detected then some existing
      else findExisting matched detected rest

variable (pending : PendingControllers)

/-- The matched controller and `rgb_controllers_hw_matched` after the loop. -/
def matchExisting (matched : List Nat) (detected : RGBController) : Option (Nat × RGBController) × List Nat :=
  match findExisting matched detected pending.controllers with
  | some existing => (some existing, matched ++ [existing.1])
  | none => (none, matched)

/-- The places of the controllers that a run of detected ones is matched to. -/
def registerAnswers (matched : List Nat) : List RGBController → List (Option Nat)
  | [] => []
  | detected :: rest =>
      let (existing, matched) := pending.matchExisting matched detected
      (existing.bind fun e => pending.controllers.findIdx? fun other => other.1 = e.1) ::
        registerAnswers matched rest

def matchedAfter (matched : List Nat) (detected : List RGBController) : List Nat :=
  detected.foldl (fun matched detected => (pending.matchExisting matched detected).2) matched

/-- The flags that say the same as the list of pointers. -/
def flagged (matched : List Nat) : List (RGBController × Bool) :=
  pending.controllers.map fun e => (e.2, matched.any fun address => address = e.1)

end PendingControllers

namespace ProfileManager
variable (loadSize loadSettings : Bool)

/-- The flags after a controller was loaded. -/
def usedFlags (temps : List (RGBController × Bool)) (c : RGBController) : List (RGBController × Bool) :=
  (loadDeviceFromListWithOptions loadSize loadSettings temps c).2.1

/-- The places of the saved controllers that a run of controllers loads. -/
def loadAnswers (temps : List (RGBController × Bool)) : List RGBController → List (Option Nat)
  | [] => []
  | c :: rest =>
      newlyUsed temps (usedFlags loadSize loadSettings temps c) ::
        loadAnswers (usedFlags loadSize loadSettings temps c) rest

def usedFlagsAfter (temps : List (RGBController × Bool)) (cs : List RGBController) : List (RGBController × Bool) :=
  cs.foldl (usedFlags loadSize loadSettings) temps

end ProfileManager

/-! ### One test -/

theorem behindLastComma_eq (location : Bytes) :
    behindLastComma location = (rfind [44, 32] location).map fun loc => location.drop (loc + 2) := by
  induction location with
  | nil => rfl
  | cons b rest ih =>
      rw [behindLastComma, ih, rfind_cons]
      cases rfind [44, 32] rest with
      | some loc => rfl
      | none =>
          by_cases here : [44, 32] <+: b :: rest
          · simp only [if_pos here, Option.map_none, Option.none_or, Option.map_some]
            rfl
          · simp only [if_neg here, Option.map_none, Option.none_or]

theorem registerLocationCheck_eq (existing detected : Bytes) :
    registerLocationCheck existing detected = locationCheck existing detected := by
  simp only [registerLocationCheck, locationCheck, find_eq_zero_iff, behindLastComma_eq]
  congr 2
  cases rfind [44, 32] detected with
  | none => rfl
  | some loc =>
      rw [Option.map_some, Bool.eq_iff_iff, decide_eq_true_eq]
      exact find_isSome_iff

theorem registerMatches_eq (existing detected : RGBController) :
    existing.registerMatches detected = existing.matchesSaved detected := by
  rw [RGBController.registerMatches, RGBController.matchesSaved, registerLocationCheck_eq]

/-! ### The loop with flags -/

namespace ProfileManager
open RGBController
variable (loadSize loadSettings : Bool)

theorem usedFlags_eq (temps : List (RGBController × Bool)) (c : RGBController) :
    usedFlags loadSize loadSettings temps c = markUsed temps (firstFit matchesSaved temps c) := by
  induction temps with
  | nil => rfl
  | cons e temps ih =>
      obtain ⟨saved, used⟩ := e
      rw [usedFlags, loadDeviceFromListWithOptions, firstFit_cons]
      split
      · rfl
      · rw [markUsed_succ, ← ih]
        rfl

theorem loadAnswers_eq (temps : List (RGBController × Bool)) (cs : List RGBController) :
    loadAnswers loadSize loadSettings temps cs = answers matchesSaved temps cs := by
  induction cs generalizing temps with
  | nil => rfl
  | cons c rest ih => rw [loadAnswers, answers, ih, usedFlags_eq, newlyUsed_markUsed]

theorem usedFlagsAfter_eq (temps : List (RGBController × Bool)) (cs : List RGBController) :
    usedFlagsAfter loadSize loadSettings temps cs = usedAfter matchesSaved temps cs := by
  have step : usedFlags loadSize loadSettings =
      fun temps c => markUsed temps (firstFit matchesSaved temps c) := by
    funext temps c
    exact usedFlags_eq loadSize loadSettings temps c
  rw [usedFlagsAfter, usedAfter, step]

end ProfileManager

/-! ### The loop with pointers -/

namespace PendingControllers
open RGBController

theorem findExisting_eq (matched : List Nat) (detected : RGBController) (existing : List (Nat × RGBController)) :
    findExisting matched detected existing =
      (firstFit matchesSaved (existing.map fun e => (e.2, matched.any fun address => address = e.1)) detected).bind
        fun i => existing[i]? := by
  induction existing with
  | nil => rfl
  | cons e rest ih =>
      have shift (answer : Option Nat) :
          ((answer.map fun i => i + 1).bind fun i => (e :: rest)[i]?) = answer.bind fun i => rest[i]? := by
        cases answer <;> rfl
      rw [findExisting, List.map_cons, firstFit_cons, registerMatches_eq, ih]
      dsimp only
      cases (matched.any fun address => address = e.1) with
      | true => exact (shift _).symm
      | false =>
          cases e.2.matchesSaved detected with
          | true => rfl
          | false => exact (shift _).symm

variable (pending : PendingControllers) (matched : List Nat) (detected : RGBController)

theorem length_flagged : (pending.flagged matched).length = pending.controllers.length := List.length_map _

/-- The address of a matched controller marks no other one. -/
theorem flagged_matched {i : Nat} {e : Nat × RGBController} (there : pending.controllers[i]? = some e) :
    pending.flagged (matched ++ [e.1]) = markUsed (pending.flagged matched) (some i) := by
  apply List.ext_getElem?
  intro j
  rw [flagged, flagged, markUsed, List.getElem?_map]
  by_cases same : i = j
  · subst same
    rw [List.getElem?_modify_eq, List.getElem?_map, there]
    simp
  · rw [List.getElem?_modify_ne _ _ same, List.getElem?_map]
    cases other : pending.controllers[j]? with
    | none => rfl
    | some f =>
        have apart : e.1 ≠ f.1 := by
          intro address
          apply same
          have inside := (List.getElem?_eq_some_iff.mp there).1
          apply (List.getElem?_inj (by rwa [List.length_map]) pending.distinct).mp
          rw [List.getElem?_map, List.getElem?_map, there, other, Option.map_some, Option.map_some, address]
        simp [apart]

/-- The place of an old controller is told by its address. -/
theorem findIdx?_address {i : Nat} {e : Nat × RGBController} (there : pending.controllers[i]? = some e) :
    (pending.controllers.findIdx? fun other => other.1 = e.1) = some i := by
  obtain ⟨inside, rfl⟩ := List.getElem?_eq_some_iff.mp there
  rw [List.findIdx?_eq_some_iff_getElem]
  refine ⟨inside, decide_eq_true rfl, ?_⟩
  intro j before same
  have address := of_decide_eq_true same
  have index : j = i := by
    apply (List.getElem?_inj _ pending.distinct).mp
    · rw [List.getElem?_map, List.getElem?_map, there, List.getElem?_eq_getElem (before.trans inside), Option.map_some,
        Option.map_some, address]
    · rw [List.length_map]
      exact before.trans inside
  omega

theorem matchExisting_eq :
    ((pending.matchExisting matched detected).1.bind fun e =>
        pending.controllers.findIdx? fun other => other.1 = e.1) =
      firstFit matchesSaved (pending.flagged matched) detected ∧
    pending.flagged (pending.matchExisting matched detected).2 =
      markUsed (pending.flagged matched) (firstFit matchesSaved (pending.flagged matched) detected) := by
  have run := findExisting_eq matched detected pending.controllers
  rw [← flagged] at run
  rw [matchExisting]
  cases found : firstFit matchesSaved (pending.flagged matched) detected with
  | none =>
      rw [found, Option.bind_none] at run
      rw [run]
      exact ⟨rfl, rfl⟩
  | some i =>
      obtain ⟨inside, -⟩ := List.findIdx?_eq_some_iff_getElem.mp found
      rw [length_flagged] at inside
      have there := List.getElem?_eq_getElem inside
      rw [found, Option.bind_some, there] at run
      rw [run]
      exact ⟨pending.findIdx?_address there, pending.flagged_matched matched there⟩

theorem registerAnswers_eq (queries : List RGBController) :
    pending.registerAnswers matched queries = answers matchesSaved (pending.flagged matched) queries := by
  induction queries generalizing matched with
  | nil => rfl
  | cons detected rest ih =>
      obtain ⟨answer, marks⟩ := pending.matchExisting_eq matched detected
      rw [answers, ← marks, ← answer, ← ih]
      rfl

theorem flagged_matchedAfter (queries : List RGBController) :
    pending.flagged (pending.matchedAfter matched queries) =
      usedAfter matchesSaved (pending.flagged matched) queries := by
  induction queries generalizing matched with
  | nil => rfl
  | cons detected rest ih =>
      rw [usedAfter, List.foldl_cons, ← (pending.matchExisting_eq matched detected).2]
      exact ih _

/-! ### The flags of the registration -/

theorem restoreDetected_marks (entries : List (RGBController × Bool)) (c : RGBController) :
    (restoreDetected entries c).1 = markUsed entries (firstFit matchesSaved entries c) := by
  induction entries with
  | nil => rfl
  | cons e entries ih =>
      obtain ⟨existing, used⟩ := e
      have same : existing.matchesExisting c = existing.matchesSaved c := rfl
      rw [restoreDetected, firstFit_cons, same]
      split
      · rfl
      · rw [markUsed_succ, ← ih]

theorem restoreDetected_state (matched : List Nat) (detected : RGBController) (existing : List (Nat × RGBController)) :
    (restoreDetected (existing.map fun e => (e.2, matched.any fun address => address = e.1)) detected).2 =
      (findExisting matched detected existing).elim detected fun e => e.2.restoreFrom detected := by
  induction existing with
  | nil => rfl
  | cons e rest ih =>
      have same : e.2.matchesExisting detected = e.2.registerMatches detected := (registerMatches_eq _ _).symm
      rw [List.map_cons, restoreDetected, findExisting, same]
      cases (matched.any fun address => address = e.1) with
      | true => exact ih
      | false =>
          cases e.2.registerMatches detected with
          | true => rfl
          | false => exact ih

/-- The loop with pointers does what the registration does with flags. -/
theorem restoreDetected_flagged :
    restoreDetected (pending.flagged matched) detected =
      (pending.flagged (pending.matchExisting matched detected).2,
        (pending.matchExisting matched detected).1.elim detected fun e => e.2.restoreFrom detected) := by
  have found : (pending.matchExisting matched detected).1 = findExisting matched detected pending.controllers := by
    rw [matchExisting]
    cases findExisting matched detected pending.controllers <;> rfl
  apply Prod.ext
  · exact (restoreDetected_marks _ _).trans (pending.matchExisting_eq matched detected).2.symm
  · rw [found]
    exact restoreDetected_state matched detected pending.controllers

end PendingControllers

/-- Both tests accept the same pairs, used or not; and over every run of queries both loops pick the same entries and
mark them, none of them twice and none that was marked before. -/
theorem matchers_agree :
    (∀ (existing detected : RGBController) (used : Bool),
      (!used && existing.registerMatches detected) = (!used && existing.matchesSaved detected)) ∧
    ∀ (loadSize loadSettings : Bool) (pending : PendingControllers) (matched : List Nat)
      (queries : List RGBController),
      pending.registerAnswers matched queries =
          ProfileManager.loadAnswers loadSize loadSettings (pending.flagged matched) queries ∧
        pending.flagged (pending.matchedAfter matched queries) =
          ProfileManager.usedFlagsAfter loadSize loadSettings (pending.flagged matched) queries ∧
        (pending.registerAnswers matched queries).reduceOption.Nodup ∧
        ∀ i, some i ∈ pending.registerAnswers matched queries →
          ∃ e, pending.controllers[i]? = some e ∧ e.1 ∉ matched := by
  constructor
  · intro existing detected used
    rw [registerMatches_eq]
  · intro loadSize loadSettings pending matched queries
    rw [ProfileManager.loadAnswers_eq, ProfileManager.usedFlagsAfter_eq, pending.registerAnswers_eq]
    refine ⟨rfl, pending.flagged_matchedAfter matched queries, answers_nodup _ queries, ?_⟩
    intro i answered
    obtain ⟨c, unused⟩ := answers_unused answered
    rw [PendingControllers.flagged, List.getElem?_map] at unused
    obtain ⟨e, there, flag⟩ := Option.map_eq_some_iff.mp unused
    refine ⟨e, there, ?_⟩
    intro marked
    have used : (matched.any fun address => address = e.1) = true :=
      List.any_eq_true.mpr ⟨e.1, marked, decide_eq_true rfl⟩
    rw [used] at flag
    cases flag

end SyncRGB
