import Mathlib.Data.List.Zip
import SyncRGB.Controller.Updates
import SyncRGB.Profile.ProfileStore
import SyncRGB.Profile.RestoredState
import SyncRGB.Transition.Run

/-! Saving a profile, editing the controllers and loading the profile again. No edit changes what the
match and the guards of the load look at, a mode that is replaced as a whole apart. -/
namespace SyncRGB
open ByteCodec VectorEdit RGBController Transition
namespace ProfileManager

/-! ### Edits -/

/-- What is done to a controller between the save and the load. Sizes go through the device, segments
through the controller; a mode is replaced by any other and made active, as `SetModeDescription` does. -/
inductive Edit
  | resizeZone (zone : Nat) (newSize : UInt32)
  | clearSegments (zone : Int32)
  | addSegment (zone : Int32) (newSegment : Segment)
  | setActiveMode (mode : Int32)
  | updateMode (mode : Int32) (newMode : Mode)
  | setColors (newColors : List RGBColor)

/-- Slots that do not exist and color vectors of another length are left out. -/
def Edit.apply : Edit → RGBController → Option RGBController
  | resizeZone zone newSize, c => some (c.resizeZone zone newSize)
  | clearSegments zone, c => c.clearSegments zone
  | addSegment zone newSegment, c => c.addSegment zone newSegment
  | setActiveMode mode, c => some { c with activeMode := mode }
  | updateMode mode newMode, c =>
      if sizeT mode < c.modes.length then
        some { c with modes := c.modes.set (sizeT mode) newMode, activeMode := mode }
      else none
  | setColors newColors, c =>
      if newColors.length = c.colors.length then some { c with colors := newColors } else none

def EditStep (cs : List RGBController) (label : Nat × Edit) (cs' : List RGBController) : Prop :=
  ∃ c c', cs[label.1]? = some c ∧ label.2.apply c = some c' ∧ cs' = cs.set label.1 c'

theorem setupColors_colored (c : RGBController) : c.setupColors.Colored := by
  have total : totalLedCount c.setupColors.zones = totalLedCount c.zones := by
    rw [← totalLedCount_unplaced, unplaced_setupColors, totalLedCount_unplaced]
  rw [Colored, total]
  exact resizeColors_length c.colors _

theorem setupColors_fixed (c : RGBController) :
    c.setupColors.zones.map Zone.fixed = c.zones.map Zone.fixed := by
  exact map_setupZones (fun _ => rfl) _ _ 0 c.zones

namespace Edited
variable {saved c c' : RGBController}

theorem keep (edited : Edited saved c) (identity : c.SameIdentity c')
    (zones : c'.zones.map Zone.fixed = c.zones.map Zone.fixed)
    (modes : c'.modes.length = c.modes.length) (colored : c'.Colored) : Edited saved c' :=
  ⟨edited.identity.trans identity, edited.zones.trans zones.symm, edited.modes.trans modes.symm, colored⟩

theorem resizeZone (edited : Edited saved c) (zone : Nat) (newSize : UInt32) :
    Edited saved (c.resizeZone zone newSize) := by
  rw [RGBController.resizeZone]
  cases found : c.zones[zone]? with
  | none => exact edited
  | some z =>
      by_cases inside : z.ledsMin ≤ newSize ∧ newSize ≤ z.ledsMax
      · simp only [if_pos inside]
        refine edited.keep ⟨rfl, rfl, rfl, rfl, rfl, rfl⟩ ?_ rfl (setupColors_colored _)
        rw [setupColors_fixed]
        exact map_set_of_eq _ found rfl
      · simp only [if_neg inside]
        exact edited

theorem modifySegments {zone : Int32} {f : List Segment → List Segment} (edited : Edited saved c)
    (applied : c.modifySegments zone f = some c') : Edited saved c' := by
  obtain ⟨z, found, rfl⟩ := Option.map_eq_some_iff.mp applied
  refine edited.keep ⟨rfl, rfl, rfl, rfl, rfl, rfl⟩ (map_set_of_eq _ found rfl) rfl ?_
  have total : totalLedCount (c.zones.set (sizeT zone) { z with segments := f z.segments }) =
      totalLedCount c.zones := totalLedCount_congr (map_set_of_eq _ found rfl)
  exact edited.colored.trans (congrArg UInt32.toNat total.symm)

theorem apply (edited : Edited saved c) {e : Edit} (applied : e.apply c = some c') :
    Edited saved c' := by
  cases e with
  | resizeZone zone newSize =>
      obtain rfl := Option.some.inj applied
      exact edited.resizeZone zone newSize
  | clearSegments zone =>
      have cleared : c.modifySegments zone (fun _ => []) = some c' := applied
      exact edited.modifySegments cleared
  | addSegment zone newSegment =>
      have added : c.modifySegments zone (· ++ [newSegment]) = some c' := applied
      exact edited.modifySegments added
  | setActiveMode mode =>
      obtain rfl := Option.some.inj applied
      exact edited.keep ⟨rfl, rfl, rfl, rfl, rfl, rfl⟩ rfl rfl edited.colored
  | updateMode mode newMode =>
      obtain ⟨-, same⟩ := Option.ite_none_right_eq_some.mp applied
      obtain rfl := Option.some.inj same
      exact edited.keep ⟨rfl, rfl, rfl, rfl, rfl, rfl⟩ rfl List.length_set edited.colored
  | setColors newColors =>
      obtain ⟨length, same⟩ := Option.ite_none_right_eq_some.mp applied
      obtain rfl := Option.some.inj same
      exact edited.keep ⟨rfl, rfl, rfl, rfl, rfl, rfl⟩ rfl rfl (length.trans edited.colored)

theorem refl (colored : c.Colored) : Edited c c := ⟨SameIdentity.refl c, rfl, rfl, colored⟩

end Edited

theorem edited_run {saved cs cs' : List RGBController} {edits : List (Nat × Edit)}
    (run : Run EditStep cs edits cs') (edited : List.Forall₂ Edited saved cs) :
    List.Forall₂ Edited saved cs' := by
  refine run.invariant (fun cs label cs' all step => ?_) edited
  obtain ⟨c, c', found, applied, rfl⟩ := step
  exact forall₂_set all found fun s one => one.apply applied

/-! ### Loading -/

theorem loadFrom_unplaced (loadSize loadSettings : Bool) (saved c : RGBController) :
    loadFrom loadSize loadSettings saved.unplaced c = loadFrom loadSize loadSettings saved c := by
  have zones (ss : List Zone) (zone : Nat) (c : RGBController) :
      loadZones (ss.map Zone.unplaced) zone c = loadZones ss zone c := by
    induction ss generalizing zone c with
    | nil => rfl
    | cons s ss ih => exact ih (zone + 1) (loadZone s zone c)
  have sizes : loadSizes saved.unplaced c = loadSizes saved c := by
    have length : saved.unplaced.zones.length = saved.zones.length := List.length_map _
    rw [loadSizes, loadSizes, length]
    split_ifs
    · exact zones saved.zones 0 c
    · rfl
  rw [loadFrom, loadFrom, sizes]
  rfl

theorem loadOwn_unplaced (loadSize loadSettings : Bool) (saved c : RGBController) :
    loadOwn loadSize loadSettings saved.unplaced c = loadOwn loadSize loadSettings saved c := by
  rw [loadOwn, loadFrom_unplaced]
  rfl

section Reloaded
variable {cs : List RGBController} (limits : ∀ c ∈ cs, c.WithinLimits 5) (colored : ∀ c ∈ cs, c.Colored)
  (type : Int32)
include limits colored

theorem reloaded_unplaced {c : RGBController} (member : c ∈ cs) :
    (c.reloaded type).unplaced = c.unplaced :=
  (reloaded_unplaced_iff (limits c member)).mpr (colored c member)

theorem reloaded_identity {c : RGBController} (member : c ∈ cs) : (c.reloaded type).SameIdentity c := by
  have windows (e : RGBController) : e.SameIdentity e.unplaced := ⟨rfl, rfl, rfl, rfl, rfl, rfl⟩
  have back (e : RGBController) : e.unplaced.SameIdentity e := ⟨rfl, rfl, rfl, rfl, rfl, rfl⟩
  have same := windows (c.reloaded type)
  rw [reloaded_unplaced limits colored type member] at same
  exact same.trans (back c)

/-- The records of a file load what the saved controllers themselves would. -/
theorem loadProfile_reloaded (loadSize loadSettings : Bool) (apart : Apart cs) {es : List RGBController}
    (own : List.Forall₂ SameIdentity cs es) :
    (loadProfileWithOptions loadSize loadSettings (cs.map (reloaded type)) es).2 =
      List.zipWith (loadOwn loadSize loadSettings) cs es := by
  have identity {c : RGBController} (member : c ∈ cs) : (c.reloaded type).SameIdentity c :=
    reloaded_identity limits colored type member
  have owns : List.Forall₂ SameIdentity (cs.map (reloaded type)) es :=
    List.forall₂_map_left_iff.mpr
      (((List.forall₂_and_left _ _).mpr ⟨fun _ => identity, own⟩).imp fun _ _ both => both.1.trans both.2)
  have aparts : Apart (cs.map (reloaded type)) := by
    refine List.pairwise_map.mpr (apart.imp_of_mem fun ha hb away => ?_)
    rw [matchesSaved_congr (identity ha) (identity hb), matchesSaved_congr (identity hb) (identity ha)]
    exact away
  have same (c : RGBController) (member : c ∈ cs) (e : RGBController) :
      loadOwn loadSize loadSettings (c.reloaded type) e = loadOwn loadSize loadSettings c e := by
    rw [← loadOwn_unplaced, reloaded_unplaced limits colored type member, loadOwn_unplaced]
  rw [loadProfileWithOptions_eq owns aparts, List.zipWith_map_left]
  apply List.zipWith_congr _ _ cs es
  exact ((List.forall₂_and_left _ _).mpr ⟨same, own⟩).imp fun _ e both => both.1 e

end Reloaded

theorem loadSettings_identity (saved c : RGBController) :
    c.SameIdentity (loadColors saved (loadModes saved c)) := by
  rw [loadColors, loadModes]
  split_ifs <;> exact ⟨rfl, rfl, rfl, rfl, rfl, rfl⟩

theorem loadOwn_identity (saved c : RGBController) : c.SameIdentity (loadOwn false true saved c) := by
  rw [loadOwn]
  split_ifs
  · exact loadSettings_identity saved c
  · exact SameIdentity.refl c

/-- What both passes make of a controller: one whose own location does not match is never loaded. -/
theorem loadOwn_loadOwn {saved c : RGBController} (identity : saved.SameIdentity c) :
    loadOwn true false saved (loadOwn false true saved c) =
      if locationCheck saved.location saved.location then
        loadSizes saved (loadColors saved (loadModes saved c))
      else c := by
  have own {e : RGBController} (same : saved.SameIdentity e) :
      saved.matchesSaved e = locationCheck saved.location saved.location := by
    rw [← matchesSaved_self, matchesSaved_congr (SameIdentity.refl saved) same]
  rw [loadOwn, loadOwn, own identity]
  cases located : locationCheck saved.location saved.location with
  | true =>
      have again := own (identity.trans (loadSettings_identity saved c))
      rw [located] at again
      exact if_pos again
  | false =>
      have again := own identity
      rw [located] at again
      exact if_neg (by rw [if_neg Bool.false_ne_true, again]; exact Bool.false_ne_true)

/-- A controller whose location matches itself comes back when it is restorable, another one is left as
it is. -/
def Returns (saved c : RGBController) : Prop :=
  if locationCheck saved.location saved.location then Restorable saved c else Restored saved c

theorem restored_loadOwn_iff {saved c : RGBController} (colored : saved.Colored)
    (edited : Edited saved c) :
    Restored saved (loadOwn true false saved (loadOwn false true saved c)) ↔ Returns saved c := by
  rw [loadOwn_loadOwn edited.identity, Returns]
  split_ifs
  · exact restored_iff colored edited
  · exact Iff.rfl

theorem forall₂_restored_iff {cs es : List RGBController} (colored : ∀ c ∈ cs, c.Colored)
    (edited : List.Forall₂ Edited cs es) :
    List.Forall₂ Restored cs
        (List.zipWith (loadOwn true false) cs (List.zipWith (loadOwn false true) cs es)) ↔
      List.Forall₂ Returns cs es := by
  induction edited with
  | nil => exact iff_of_true .nil .nil
  | cons first _ ih =>
      rw [List.zipWith_cons_cons, List.zipWith_cons_cons, List.forall₂_cons, List.forall₂_cons,
        restored_loadOwn_iff (colored _ List.mem_cons_self) first,
        ih fun c hc => colored c (List.mem_cons_of_mem _ hc)]

/-! ### The profile in between -/

section Store
variable {File : Type} [DecidableEq File] (fs : FileSystem File)

/-- `ProfileManager::LoadProfileWithOptions`: the file is opened and read anew. The variables that start
with any value come as a pair; `none` when the read of the file does not end. -/
def Store.loadProfileWithOptions (uninitialized : Int32 × UInt32) (turns : Nat)
    (loadSize loadSettings : Bool) (profileName : Bytes) (s : Store File) (cs : List RGBController) :
    Option (List RGBController) :=
  match loadProfileToList uninitialized.1 uninitialized.2 turns (s.openProfile fs profileName) with
  | .done saved => some (ProfileManager.loadProfileWithOptions loadSize loadSettings saved cs).2
  | _ => none

/-- `LoadProfile` and then `LoadSizeFromProfile`. -/
def Store.loadSettingsThenSizes (first second : Int32 × UInt32) (turns : Nat) (profileName : Bytes)
    (s : Store File) (cs : List RGBController) : Option (List RGBController) := do
  let cs ← s.loadProfileWithOptions fs first turns false true profileName cs
  s.loadProfileWithOptions fs second turns true false profileName cs

variable {fs}

/-- A file that was created under a name without the extension is the one that is opened. -/
theorem openProfile_saveProfile {memory : Nat → Nat → UInt8} {cs : List RGBController} {name : Bytes}
    {s s' : Store File} {file : Bytes} (encoded : profileFile memory false cs = some file)
    (saved : s.saveProfile fs memory cs name false = some (true, s'))
    (bare : extension (removeNullTerminatingChars name) ≠ orp)
    (taken : (fs.resolve (savedName (removeNullTerminatingChars name) false)).isSome) :
    s'.openProfile fs name = some file := by
  obtain ⟨f, created⟩ := Option.isSome_iff_exists.mp taken
  have same : loadedName (removeNullTerminatingChars name) false =
      savedName (removeNullTerminatingChars name) false := by
    simp [loadedName, savedName, bare]
  have named : removeNullTerminatingChars name ≠ [] := by
    intro empty
    simp [Store.saveProfile, empty] at saved
  simp only [Store.saveProfile, if_neg named, encoded, created, Option.bind_eq_bind, Option.bind_some,
    Option.pure_def, Option.some.injEq, Prod.mk.injEq, true_and] at saved
  rw [Store.openProfile, same, created, ← saved]
  exact Files.content_write s.files f file

def ComesBack (fs : FileSystem File) (first second : Int32 × UInt32) (name : Bytes) (s : Store File)
    (saved cs : List RGBController) : Prop :=
  ∃ turns after, s.loadSettingsThenSizes fs first second turns name cs = some after ∧
    List.Forall₂ Restored saved after

section Opened
variable {memory : Nat → Nat → UInt8} {cs es : List RGBController} {name file : Bytes} {s : Store File}
  (savable : Savable cs) (colored : ∀ c ∈ cs, c.Colored) (apart : Apart cs)
  (encoded : profileFile memory false cs = some file) (opened : s.openProfile fs name = some file)
include savable colored apart encoded opened

theorem loadProfileWithOptions_opened (own : List.Forall₂ SameIdentity cs es)
    (uninitialized : Int32 × UInt32) (turns : Nat) (loadSize loadSettings : Bool) :
    s.loadProfileWithOptions fs uninitialized turns loadSize loadSettings name es =
      if cs.length < turns then some (List.zipWith (loadOwn loadSize loadSettings) cs es) else none := by
  obtain ⟨file', saved, loads⟩ :=
    loadProfileToList_profileFile savable memory uninitialized.1 uninitialized.2 false
  obtain rfl := Option.some.inj (encoded.symm.trans saved)
  have all : written false cs = cs := rfl
  rw [Store.loadProfileWithOptions, opened, loads, all]
  split_ifs
  · exact congrArg some
      (loadProfile_reloaded savable.limits colored uninitialized.1 loadSize loadSettings apart own)
  · rfl

theorem comesBack_opened_iff (edited : List.Forall₂ Edited cs es) (first second : Int32 × UInt32) :
    ComesBack fs first second name s cs es ↔ List.Forall₂ Returns cs es := by
  have own : List.Forall₂ SameIdentity cs es := edited.imp fun _ _ one => one.identity
  have still : List.Forall₂ SameIdentity cs (List.zipWith (loadOwn false true) cs es) :=
    forall₂_zipWith own fun s e same => same.trans (loadOwn_identity s e)
  have loads (turns : Nat) : s.loadSettingsThenSizes fs first second turns name es =
      if cs.length < turns then
        some (List.zipWith (loadOwn true false) cs (List.zipWith (loadOwn false true) cs es))
      else none := by
    rw [Store.loadSettingsThenSizes,
      loadProfileWithOptions_opened savable colored apart encoded opened own]
    split_ifs with enough
    · rw [Option.bind_eq_bind, Option.bind_some,
        loadProfileWithOptions_opened savable colored apart encoded opened still, if_pos enough]
    · rfl
  rw [← forall₂_restored_iff colored edited]
  constructor
  · rintro ⟨turns, after, loaded, back⟩
    rw [loads] at loaded
    split_ifs at loaded
    obtain rfl := Option.some.inj loaded
    exact back
  · intro back
    exact ⟨cs.length + 1, _, (loads _).trans (if_pos (Nat.lt_succ_self _)), back⟩

end Opened

/-- Saving, editing in any way and loading again brings everything back exactly when every controller
returns. -/
theorem comesBack_iff {memory : Nat → Nat → UInt8} {cs es : List RGBController}
    {edits : List (Nat × Edit)} {name : Bytes} {s s' : Store File} (savable : Savable cs)
    (colored : ∀ c ∈ cs, c.Colored) (apart : Apart cs)
    (saved : s.saveProfile fs memory cs name false = some (true, s'))
    (bare : extension (removeNullTerminatingChars name) ≠ orp)
    (taken : (fs.resolve (savedName (removeNullTerminatingChars name) false)).isSome)
    (run : Run EditStep cs edits es) (first second : Int32 × UInt32) :
    ComesBack fs first second name s' cs es ↔ List.Forall₂ Returns cs es := by
  obtain ⟨file, encoded, -⟩ := loadProfileToList_profileFile savable memory 0 0 false
  have opened := openProfile_saveProfile encoded saved bare taken
  have start : List.Forall₂ Edited cs cs :=
    List.forall₂_same.mpr fun c hc => Edited.refl (colored c hc)
  exact comesBack_opened_iff savable colored apart encoded opened (edited_run run start) first second

end Store

/-- Two LEDs in a zone that can have one or two, in different colors. -/
def strip : RGBController :=
  { new 0 with zones := [{ Zone.new with ledsCount := 2, ledsMin := 1, ledsMax := 2 }], colors := [1, 2] }

theorem strip_savable : Savable [strip] where
  limits := by
    intro c hc
    obtain rfl := List.mem_singleton.mp hc
    refine ⟨by decide, by decide, by decide, by decide, by decide, ?_, by decide, by decide, by decide,
      by decide⟩
    intro z hz m hm
    obtain rfl := List.mem_singleton.mp hz
    cases hm
  file := by decide

/-- Files are known by the names they are opened under. -/
def namedFiles : FileSystem Bytes := ⟨some, some⟩

/-- A save under a name stores the file. -/
theorem saveProfile_taken {cs : List RGBController} (savable : Savable cs) {name : Bytes}
    (named : removeNullTerminatingChars name ≠ []) (s : Store Bytes) :
    ∃ s', s.saveProfile namedFiles (fun _ _ => 0) cs name false = some (true, s') := by
  obtain ⟨file, encoded, -⟩ := loadProfileToList_profileFile savable (fun _ _ => 0) 0 0 false
  let files := s.files.write (savedName (removeNullTerminatingChars name) false) file
  refine ⟨Store.updateProfileList namedFiles { s with files }, ?_⟩
  rw [Store.saveProfile, if_neg named, encoded]
  rfl

/-- The strip is made shorter and brought back to its length: the cut color is black. -/
theorem shortened_lost : Savable [strip] ∧ strip.Colored ∧ Apart [strip] ∧
    ∃ es s', Run EditStep [strip] [(0, .resizeZone 0 1)] es ∧
      Store.new.saveProfile namedFiles (fun _ _ => 0) [strip] [97] false = some (true, s') ∧
      ¬ ComesBack namedFiles (0, 0) (0, 0) [97] s' [strip] es := by
  have colored : ∀ c ∈ [strip], c.Colored := by decide
  have apart : Apart [strip] := List.pairwise_singleton _ _
  obtain ⟨file, encoded, -⟩ := loadProfileToList_profileFile strip_savable (fun _ _ => 0) 0 0 false
  have named : removeNullTerminatingChars [97] ≠ [] := by decide
  obtain ⟨s', saved⟩ := saveProfile_taken strip_savable named Store.new
  have opened := openProfile_saveProfile encoded saved (by decide) rfl
  have run : Run EditStep [strip] [(0, .resizeZone 0 1)] [strip.resizeZone 0 1] :=
    .cons ⟨strip, _, rfl, rfl, rfl⟩ (.nil _)
  have start : List.Forall₂ Edited [strip] [strip] := .cons (Edited.refl (colored _ (by decide))) .nil
  refine ⟨strip_savable, colored _ (by decide), apart, _, s', run, saved, fun back => ?_⟩
  have returns := (comesBack_opened_iff strip_savable colored apart encoded opened
    (edited_run run start) (0, 0) (0, 0)).mp back
  obtain ⟨first, -⟩ := List.forall₂_cons.mp returns
  have restorable : Restorable strip (strip.resizeZone 0 1) := first
  exact absurd (restorable.colors.black 2 (by decide)) (by decide)

def edits : List (Nat × Edit) :=
  [(0, .addSegment 0 { name := [], type := 0, startIdx := 0, ledsCount := 1 }), (0, .setColors [3, 4])]

theorem edits_undone : ∃ es s', Run EditStep [strip] edits es ∧
    Store.new.saveProfile namedFiles (fun _ _ => 0) [strip] [97] false = some (true, s') ∧
    ComesBack namedFiles (0, 0) (0, 0) [97] s' [strip] es := by
  have named : removeNullTerminatingChars [97] ≠ [] := by decide
  obtain ⟨s', saved⟩ := saveProfile_taken strip_savable named Store.new
  have run : Run EditStep [strip] edits _ :=
    .cons ⟨strip, _, rfl, rfl, rfl⟩ (.cons ⟨_, _, rfl, rfl, rfl⟩ (.nil _))
  refine ⟨_, s', run, saved, ?_⟩
  refine (comesBack_iff strip_savable (by decide) (List.pairwise_singleton _ _) saved (by decide) rfl run
    (0, 0) (0, 0)).mpr (.cons ?_ .nil)
  show Restorable _ _
  refine ⟨.nil, .cons ⟨.inl rfl, .inr (by decide)⟩ .nil, ⟨.inl rfl, fun x behind => ?_⟩⟩
  have none_ : x ∈ ([] : List RGBColor) := behind
  exact absurd none_ List.not_mem_nil

end ProfileManager
end SyncRGB
