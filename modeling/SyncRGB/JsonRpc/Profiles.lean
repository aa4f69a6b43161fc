import SyncRGB.JsonRpc.Json
import SyncRGB.Profile.ProfileStore
import SyncRGB.Transition.Run

/-! The profile methods of the JSON-RPC handler over the profile store, and what they should keep. -/
namespace SyncRGB
open ByteCodec Transition ProfileManager

namespace JsonRpc
variable {File : Type} [DecidableEq File] (fs : FileSystem File)

/-- The beginning of every method that works on one profile. -/
def profileName (params : Json) : Handled Bytes := do
  params.require ["profileName"] "Missing 'profileName' parameter"
  (← params.get "profileName").toBytes

/-- The two parameters of `SaveProfile`. -/
def saveParams (params : Json) : Handled (Bytes × Bool) := do
  let name ← profileName params
  let includeSizes ← params.valueOf "includeSizes" Json.toBool true
  return (name, includeSizes)

/-- `JSONRPCHandler::GetProfiles`. The handler holds the manager by its interface. -/
def getProfiles (s : Store File) : List Bytes := s.interfaceProfileList

/-- `JSONRPCHandler::SaveProfile` up to its `success`, whatever the manager answers; `none` where an
encoder leaves its buffer. -/
def saveProfile (memory : Nat → Nat → UInt8) (controllers : List RGBController) (params : Json)
    (s : Store File) : Handled (Option (Store File)) := do
  let (name, includeSizes) ← saveParams params
  return (s.saveProfile fs memory controllers name includeSizes).map Prod.snd

/-- The name has to be in the list that the handler sees. -/
def knownProfile (params : Json) (s : Store File) : Handled Bytes := do
  let name ← profileName params
  if name ∈ s.interfaceProfileList then return name
  else throw (.error errProfileNotFound (ascii "Profile not found: " ++ name))

/-- `JSONRPCHandler::LoadProfile`, accepted with the file that both passes of the manager load. -/
def loadProfile (params : Json) (s : Store File) : Handled (Option Bytes) := do
  let name ← knownProfile params s
  return s.openProfile fs name

/-- `JSONRPCHandler::DeleteProfile`. -/
def deleteProfile (params : Json) (s : Store File) : Handled (Store File) := do
  let name ← knownProfile params s
  return s.deleteProfile fs name

inductive ProfileRequest where
  | saveProfile (memory : Nat → Nat → UInt8) (controllers : List RGBController) (params : Json)
  | loadProfile (params : Json)
  | deleteProfile (params : Json)

/-- The store, and the profiles saved and not deleted since with what was written for each. -/
structure Profiles (File : Type) where
  store : Store File
  saved : List (Bytes × Bytes)
  deriving DecidableEq

namespace Profiles

def new : Profiles File := ⟨Store.new, []⟩

/-- A save puts a file in place: it has a name, and the file system takes it. -/
def stores (name : Bytes) (includeSizes : Bool) : Bool :=
  removeNullTerminatingChars name ≠ [] &&
    (fs.resolve (savedName (removeNullTerminatingChars name) includeSizes)).isSome

def forget (name : Bytes) (saved : List (Bytes × Bytes)) : List (Bytes × Bytes) :=
  saved.filter fun e => e.1 ≠ removeNullTerminatingChars name

/-- The profiles after a request, by what was asked for. -/
def savedAfter (saved : List (Bytes × Bytes)) : ProfileRequest → List (Bytes × Bytes)
  | .saveProfile memory controllers params =>
      match saveParams params with
      | .ok (name, includeSizes) =>
          match profileFile memory includeSizes controllers with
          | some bytes =>
              if stores fs name includeSizes then
                (removeNullTerminatingChars name, bytes) :: forget name saved
              else saved
          | none => saved
      | .error _ => saved
  | .loadProfile _ => saved
  | .deleteProfile params =>
      match profileName params with
      | .ok name => forget name saved
      | .error _ => saved

/-- The store after a request; a failed one leaves it as it was. -/
def storeAfter (s : Store File) : ProfileRequest → Option (Store File)
  | .saveProfile memory controllers params =>
      match saveProfile fs memory controllers params s with
      | .ok s' => s'
      | .error _ => some s
  | .loadProfile _ => some s
  | .deleteProfile params => some ((deleteProfile fs params s).toOption.getD s)

def Step (s : Profiles File) (r : ProfileRequest) (t : Profiles File) : Prop :=
  storeAfter fs s.store r = some t.store ∧ savedAfter fs s.saved r = t.saved

/-- The three methods agree with the saved profiles. -/
structure Faithful (s : Profiles File) : Prop where
  listed : ∀ name, name ∈ getProfiles s.store ↔ ∃ bytes, (name, bytes) ∈ s.saved
  accepted : ∀ params name, profileName params = .ok name →
    ((∃ opened, loadProfile fs params s.store = .ok opened) ↔ ∃ bytes, (name, bytes) ∈ s.saved)
  opened : ∀ params name bytes, profileName params = .ok name → (name, bytes) ∈ s.saved →
    loadProfile fs params s.store = .ok (some bytes)
  removed : ∀ params name bytes, profileName params = .ok name → (name, bytes) ∈ s.saved →
    ∃ t, deleteProfile fs params s.store = .ok t ∧ t.openProfile fs name = none

def StoresNothing (_ : Profiles File) (r : ProfileRequest) : Prop :=
  ∀ memory controllers params name includeSizes, r = .saveProfile memory controllers params →
    saveParams params = .ok (name, includeSizes) → stores fs name includeSizes = false

/-- The list that the handler sees is empty, whatever the manager has listed. -/
def Unlisted (s : Profiles File) : Prop := s.store.interfaceProfileList = []

variable {fs}

omit [DecidableEq File] in
theorem knownProfile_unlisted {s : Store File} (unlisted : s.interfaceProfileList = []) (params : Json)
    (name : Bytes) : knownProfile params s ≠ .ok name := by
  intro known
  obtain ⟨n, -, found⟩ := Handled.bind_eq_ok.mp known
  rw [unlisted, if_neg List.not_mem_nil] at found
  cases found

theorem loadProfile_unlisted {s : Store File} (unlisted : s.interfaceProfileList = []) (params : Json)
    (opened : Option Bytes) : loadProfile fs params s ≠ .ok opened := by
  intro loaded
  obtain ⟨name, known, -⟩ := Handled.bind_eq_ok.mp loaded
  exact knownProfile_unlisted unlisted params name known

theorem deleteProfile_unlisted {s : Store File} (unlisted : s.interfaceProfileList = []) (params : Json)
    (t : Store File) : deleteProfile fs params s ≠ .ok t := by
  intro deleted
  obtain ⟨name, known, -⟩ := Handled.bind_eq_ok.mp deleted
  exact knownProfile_unlisted unlisted params name known

theorem interfaceProfileList_saveProfile {memory : Nat → Nat → UInt8}
    {controllers : List RGBController} {name : Bytes} {sizes done : Bool} {s t : Store File}
    (saved : s.saveProfile fs memory controllers name sizes = some (done, t)) :
    t.interfaceProfileList = s.interfaceProfileList := by
  simp only [Store.saveProfile] at saved
  split at saved
  · obtain ⟨-, rfl⟩ := Prod.mk.inj (Option.some.inj saved)
    rfl
  · obtain ⟨bytes, -, written⟩ := Option.bind_eq_some_iff.mp saved
    obtain ⟨-, rfl⟩ := Prod.mk.inj (Option.some.inj written)
    rfl

theorem Unlisted.step {s t : Profiles File} {r : ProfileRequest} (unlisted : s.Unlisted)
    (step : Step fs s r t) : t.Unlisted := by
  have after := step.1
  cases r with
  | saveProfile memory controllers params =>
      simp only [storeAfter, saveProfile] at after
      cases asked : saveParams params with
      | error e =>
          simp only [asked, bind, Except.bind] at after
          obtain same := Option.some.inj after
          rwa [Unlisted, ← same]
      | ok p =>
          simp only [asked, bind, Except.bind, pure, Except.pure] at after
          obtain ⟨⟨done, u⟩, saved, same⟩ := Option.map_eq_some_iff.mp after
          rw [Unlisted, ← same]
          exact (interfaceProfileList_saveProfile saved).trans unlisted
  | loadProfile params =>
      obtain same := Option.some.inj after
      rwa [Unlisted, ← same]
  | deleteProfile params =>
      simp only [storeAfter] at after
      cases deleted : deleteProfile fs params s.store with
      | error e =>
          simp only [deleted] at after
          obtain same := Option.some.inj after
          rwa [Unlisted, ← same]
      | ok u => exact absurd deleted (deleteProfile_unlisted unlisted params u)

theorem faithful_iff {s : Profiles File} (unlisted : s.Unlisted) : s.Faithful fs ↔ s.saved = [] := by
  constructor
  · intro faithful
    apply List.eq_nil_iff_forall_not_mem.mpr
    rintro ⟨name, bytes⟩ saved
    have listed := (faithful.listed name).mpr ⟨bytes, saved⟩
    rw [getProfiles, unlisted] at listed
    cases listed
  · intro none_
    refine ⟨fun name => ?_, fun params name _ => ?_, fun params name bytes _ saved => ?_,
      fun params name bytes _ saved => ?_⟩
    · rw [getProfiles, unlisted]
      simp [none_]
    · apply iff_of_false (fun ⟨opened, loaded⟩ => loadProfile_unlisted unlisted params opened loaded)
      simp [none_]
    all_goals
      rw [none_] at saved
      cases saved

theorem saved_eq_nil_iff {s t : Profiles File} {r : ProfileRequest} (none_ : s.saved = [])
    (step : Step fs s r t) : t.saved = [] ↔ StoresNothing fs s r := by
  obtain ⟨after, saved⟩ := step
  rw [← saved, none_]
  cases r with
  | saveProfile memory controllers params =>
      cases asked : saveParams params with
      | error e =>
          simp only [savedAfter, asked]
          apply iff_of_true trivial
          intro _ _ _ name sizes same ok
          cases same
          rw [asked] at ok
          cases ok
      | ok p =>
          obtain ⟨name, sizes⟩ := p
          have guard : StoresNothing fs s (.saveProfile memory controllers params) ↔
              stores fs name sizes = false := by
            constructor
            · intro nothing
              exact nothing _ _ _ name sizes rfl asked
            · intro nothing _ _ _ name' sizes' same ok
              cases same
              rw [asked] at ok
              cases ok
              exact nothing
          rw [guard]
          cases written : profileFile memory sizes controllers with
          | some bytes => cases put : stores fs name sizes <;> simp [savedAfter, asked, written, put]
          | none =>
              simp only [storeAfter, saveProfile, asked, bind, Except.bind, pure, Except.pure] at after
              obtain ⟨u, took, -⟩ := Option.map_eq_some_iff.mp after
              have unnamed : removeNullTerminatingChars name = [] := by
                by_contra named
                simp only [Store.saveProfile, if_neg named, written] at took
                cases took
              simp [savedAfter, asked, written, stores, unnamed]
  | loadProfile params =>
      apply iff_of_true rfl
      intro _ _ _ _ _ same
      cases same
  | deleteProfile params =>
      refine iff_of_true ?_ fun _ _ _ _ _ same => ?_
      · simp only [savedAfter]
        split <;> rfl
      · cases same

/-- In every run from an empty directory, of requests with any parameters, the methods stay faithful to
the saved profiles exactly when no save of the run stores a file. -/
theorem faithful_run_iff (rs : List ProfileRequest) (t : Profiles File) :
    Run (Kept (Faithful fs) (Step fs)) new rs t ↔ Run (Guarded (StoresNothing fs) (Step fs)) new rs t := by
  have unlisted : Unlisted (new : Profiles File) := rfl
  have keeps (s : Profiles File) (r : ProfileRequest) (t : Profiles File) (ok : s.Unlisted)
      (next : Step fs s r t) : t.Unlisted := ok.step next
  refine Run.kept_iff_of_invariant keeps ?_ unlisted ((faithful_iff unlisted).mpr rfl)
  intro s r t unlisted faithful next
  rw [faithful_iff (unlisted.step next)]
  exact saved_eq_nil_iff ((faithful_iff unlisted).mp faithful) next

/-- Every name is a file of its own in the directory. -/
def plainFiles : FileSystem Bytes := ⟨some, some⟩

/-- A save of the profile "a" without controllers. -/
def saveA : ProfileRequest :=
  .saveProfile (fun _ _ => 0) [] (.object [(ascii "profileName", .string (ascii "a"))])

/-- The saved profile is not listed. -/
theorem saveA_unlisted : ∃ t, Run (Step plainFiles) new [saveA] t ∧ ¬ t.Faithful plainFiles := by
  have unlisted : Unlisted (new : Profiles Bytes) := rfl
  have taken : ∃ t, Step plainFiles new saveA t ∧ t.saved ≠ [] :=
    ⟨⟨_, _⟩, ⟨rfl, rfl⟩, List.cons_ne_nil _ _⟩
  obtain ⟨t, next, saved⟩ := taken
  exact ⟨t, .cons next (.nil t), fun faithful =>
    saved ((faithful_iff (unlisted.step next)).mp faithful)⟩

end Profiles
end JsonRpc
end SyncRGB
