import SyncRGB.FileTree.FreeTree
import SyncRGB.Profile.ProfileStore

/-! Where the profile operations go on disk: the paths they build from a client's name, and when what
such a path names lies in the configuration directory in every tree. -/
namespace SyncRGB
open ByteCodec FileTree

/-- A path string that a system call can take. -/
structure ConfigurationDirectory where
  path : Bytes
  nonempty : path ≠ []
  noNul : (0 : UInt8) ∉ path

/-- A configuration directory that is spelled as the root. -/
def ConfigurationDirectory.IsRoot (config : ConfigurationDirectory) : Prop :=
  IsAbsolute config.path ∧ spelling [] (components config.path) = []

instance (config : ConfigurationDirectory) : Decidable config.IsRoot :=
  inferInstanceAs (Decidable (IsAbsolute config.path ∧ spelling [] (components config.path) = []))

namespace ProfileManager

/-- The path `SaveProfile` opens for writing. -/
def savePath (config : ConfigurationDirectory) (profileName : Bytes) (sizes : Bool) : Bytes :=
  let filename := profileName ++ if sizes then ors else orp
  join config.path filename

/-- The path `LoadProfileToList` opens. -/
def loadPath (config : ConfigurationDirectory) (profileName : Bytes) (sizes : Bool) : Bytes :=
  let filename := join config.path profileName
  if sizes then filename ++ ors
  else if extension filename ≠ orp then filename ++ orp else filename

/-- The path `DeleteProfile` removes. -/
def deletePath (config : ConfigurationDirectory) (profileName : Bytes) : Bytes :=
  let filename := join config.path profileName
  filename ++ orp

inductive Operation
  | saveProfile (sizes : Bool)
  | loadProfile
  | loadSizeFromProfile
  | deleteProfile
  deriving DecidableEq

namespace Operation

/-- The path an operation hands to the operating system; a save without a name opens nothing. -/
def path (op : Operation) (config : ConfigurationDirectory) (profileName : Bytes) : Option Bytes :=
  let profileName := removeNullTerminatingChars profileName
  match op with
  | saveProfile sizes => if profileName = [] then none else some (savePath config profileName sizes)
  | loadProfile => some (loadPath config profileName false)
  | loadSizeFromProfile => some (loadPath config profileName false)
  | deleteProfile => some (deletePath config profileName)

/-- Whether `UpdateProfileList` follows. -/
def scans (op : Operation) (profileName : Bytes) : Bool :=
  match op with
  | saveProfile _ => removeNullTerminatingChars profileName ≠ []
  | deleteProfile => true
  | _ => false

/-- All the paths, where the directory lists the names `listed`. -/
def paths (op : Operation) (config : ConfigurationDirectory) (profileName : Bytes)
    (listed : List Bytes) : List Bytes :=
  (op.path config profileName).toList ++
    if op.scans profileName then (listed.filter (orp <:+: ·)).map (join config.path) else []

/-- What is joined to the configuration directory. -/
def file (op : Operation) (profileName : Bytes) : Option Bytes :=
  let profileName := removeNullTerminatingChars profileName
  match op with
  | saveProfile sizes => if profileName = [] then none else some (savedName profileName sizes)
  | loadProfile => some (loadedName profileName false)
  | loadSizeFromProfile => some (loadedName profileName false)
  | deleteProfile => some (deletedName profileName)

end Operation

/-- In every tree that has the configuration directory, whatever it lists, the operation touches files
directly inside it only. -/
def Confined (config : ConfigurationDirectory) (op : Operation) (profileName : Bytes) : Prop :=
  ∀ (Dir : Type) (t : DirectoryTree Dir) (home : Dir), t.directory config.path = some home →
    ∀ listed : List Bytes, (∀ name ∈ listed, Ordinary name) →
      ∀ path ∈ op.paths config profileName listed, ∀ f, t.named path = some f →
        LiesDirectlyInside home f

/-- A file name that leads nowhere but into the configuration directory: it does not end in `.` or `..`,
and what stands before its last component either stays where it is or, behind a leading separator,
spells the configuration directory itself. -/
def SpellsEntry (config : ConfigurationDirectory) (file : Bytes) : Prop :=
  let front := (components file).dropLast
  let name := (components file).getLast?.getD here
  (name ≠ here ∧ name ≠ above) ∧
    if IsAbsolute file then
      IsAbsolute config.path ∧ spelling [] front = spelling [] (components config.path)
    else ∀ c ∈ front, c = here ∨ (c = above ∧ config.IsRoot)

instance (config : ConfigurationDirectory) (file : Bytes) : Decidable (SpellsEntry config file) :=
  inferInstanceAs (Decidable (_ ∧ _))

/-- Every name the operation joins to the directory spells an entry of it. -/
def StaysInside (config : ConfigurationDirectory) (op : Operation) (profileName : Bytes) : Prop :=
  ∀ file ∈ op.file profileName, SpellsEntry config file

instance (config : ConfigurationDirectory) (op : Operation) (profileName : Bytes) :
    Decidable (StaysInside config op profileName) :=
  inferInstanceAs (Decidable (∀ file ∈ op.file profileName, SpellsEntry config file))

theorem not_isAbsolute_orp : ¬ IsAbsolute orp := by decide
theorem not_isAbsolute_ors : ¬ IsAbsolute ors := by decide

/-- Only what stands behind the last separator decides the extension. -/
theorem extension_append_cons (front rest : Bytes) :
    extension (front ++ separator :: rest) = extension rest := by
  have last : (front ++ separator :: rest).rtakeWhile (· != 47) = rest.rtakeWhile (· != 47) := by
    induction rest using List.reverseRecOn with
    | nil =>
        have stop : ¬ (separator != 47) = true := by decide
        exact List.rtakeWhile_concat_neg _ _ _ stop
    | append_singleton rest b ih =>
        rw [← List.cons_append, ← List.append_assoc, List.rtakeWhile_concat, List.rtakeWhile_concat, ih]
  rw [extension, extension, last]

/-- The extension of the joined path is the one of the name. -/
theorem extension_join (config : ConfigurationDirectory) (profileName : Bytes) :
    extension (join config.path profileName) = extension profileName := by
  by_cases h : IsAbsolute profileName
  · rw [join_absolute h]
  · obtain ⟨front, joined, -⟩ := join_relative config.nonempty h
    rw [joined, extension_append_cons]

theorem loadPath_eq (config : ConfigurationDirectory) (profileName : Bytes) (sizes : Bool) :
    loadPath config profileName sizes = join config.path (loadedName profileName sizes) := by
  rw [loadPath, loadedName, extension_join]
  cases sizes with
  | true => exact (join_append not_isAbsolute_ors _ _).symm
  | false =>
      by_cases known : extension profileName = orp
      · simp [known]
      · simp [known, join_append not_isAbsolute_orp]

namespace Operation

/-- Each operation joins one name, with its extension, to the directory. -/
theorem path_eq (op : Operation) (config : ConfigurationDirectory) (profileName : Bytes) :
    op.path config profileName = (op.file profileName).map (join config.path) := by
  cases op with
  | saveProfile sizes =>
      rw [path, file]
      split
      · rfl
      · rfl
  | loadProfile => exact congrArg some (loadPath_eq _ _ _)
  | loadSizeFromProfile => exact congrArg some (loadPath_eq _ _ _)
  | deleteProfile => exact congrArg some (join_append not_isAbsolute_orp _ _).symm

end Operation

/-- A relative name with components is walked from the configuration directory on. -/
theorem front_join (config : ConfigurationDirectory) {file : Bytes} (relative : ¬ IsAbsolute file)
    (some_ : components file ≠ []) :
    (components (join config.path file)).dropLast =
        components config.path ++ (components file).dropLast ∧
      (components (join config.path file)).getLast?.getD here =
        (components file).getLast?.getD here := by
  rw [components_join config.nonempty config.noNul relative]
  constructor
  · exact List.dropLast_append_of_ne_nil some_
  · rw [List.getLast?_append_of_ne_nil _ some_]

theorem components_ne_nil {file : Bytes} (h : (components file).getLast?.getD here ≠ here) :
    components file ≠ [] := by
  intro none
  rw [none] at h
  exact h rfl

/-- A joined name that spells an entry names one, in every tree with the configuration directory. -/
theorem SpellsEntry.inside {config : ConfigurationDirectory} {file : Bytes}
    (spells : SpellsEntry config file) {Dir : Type} {t : DirectoryTree Dir} {home : Dir}
    (there : t.directory config.path = some home) {f : File Dir}
    (named : t.named (join config.path file) = some f) : LiesDirectlyInside home f := by
  obtain ⟨last, front⟩ := spells
  obtain ⟨-, arrives⟩ := Option.ite_none_left_eq_some.mp there
  rw [DirectoryTree.named, if_neg (cstr_join_ne_nil config.nonempty config.noNul)] at named
  obtain ⟨d, walked, rfl⟩ := Option.map_eq_some_iff.mp named
  by_cases h : IsAbsolute file
  · rw [if_pos h] at front
    have spelled (cs : List Bytes) := t.walk_spelling [] cs
    rw [join_absolute h, DirectoryTree.start, if_pos h] at walked
    rw [DirectoryTree.start, if_pos front.1] at arrives
    have same : some d = some home := by
      calc some d = t.walk t.root (components file).dropLast := walked.symm
        _ = t.walk t.root (spelling [] (components file).dropLast) := (spelled _).symm
        _ = t.walk t.root (spelling [] (components config.path)) := by rw [front.2]
        _ = t.walk t.root (components config.path) := spelled _
        _ = some home := arrives
    rw [join_absolute h]
    exact ⟨Option.some.inj same, last⟩
  · rw [if_neg h] at front
    obtain ⟨before, name⟩ := front_join config h (components_ne_nil last.1)
    have start : t.start (join config.path file) = t.start config.path := by
      rw [DirectoryTree.start, DirectoryTree.start]
      simp only [isAbsolute_join config.nonempty h]
    rw [before, start, DirectoryTree.walk_append, arrives, Option.bind_some] at walked
    have stays : t.walk home (components file).dropLast = some home := by
      by_cases root : config.IsRoot
      · have home_root : home = t.root := by
          have spelled := t.walk_spelling [] (components config.path)
          rw [root.2] at spelled
          rw [DirectoryTree.start, if_pos root.1] at arrives
          exact (Option.some.inj (spelled.trans arrives)).symm
        rw [home_root]
        exact t.walk_root fun c member => (front c member).imp_right And.left
      · exact t.walk_here home fun c member =>
          (front c member).resolve_right fun climbs => root climbs.2
    rw [name]
    exact ⟨Option.some.inj (walked.symm.trans stays), last⟩

theorem startSpelling_eq_nil {path : Bytes} (h : spelling (startSpelling path) (components path) = []) :
    IsAbsolute path ∧ spelling [] (components path) = [] := by
  have initial := prefix_spelling (startSpelling path) (components path)
  rw [h, List.prefix_nil, startSpelling] at initial
  by_cases absolute : IsAbsolute path
  · rw [startSpelling, if_pos absolute] at h
    exact ⟨absolute, h⟩
  · rw [if_neg absolute] at initial
    cases initial

/-- In the tree of spellings, a joined name names an entry of the configuration directory only when it
spells one. -/
theorem spellsEntry_of_inside {config : ConfigurationDirectory} {file : Bytes}
    (inside : LiesDirectlyInside (spelling (startSpelling config.path) (components config.path))
      ⟨spelling (startSpelling (join config.path file)) (components (join config.path file)).dropLast,
        (components (join config.path file)).getLast?.getD here⟩) : SpellsEntry config file := by
  obtain ⟨same, last⟩ := inside
  change spelling _ _ = _ at same
  by_cases h : IsAbsolute file
  · rw [join_absolute h, startSpelling, if_pos h] at same
    rw [join_absolute h] at last
    have absolute : IsAbsolute config.path := by
      by_contra relative
      rw [startSpelling, if_neg relative] at same
      obtain ⟨rest, spelled⟩ := prefix_spelling [above] (components config.path)
      apply above_not_head (components file).dropLast
      rw [same, ← spelled]
      rfl
    rw [startSpelling, if_pos absolute] at same
    apply And.intro last
    rw [if_pos h]
    exact ⟨absolute, same⟩
  · have start : startSpelling (join config.path file) = startSpelling config.path := by
      rw [startSpelling, startSpelling]
      simp only [isAbsolute_join config.nonempty h]
    rw [start] at same
    by_cases some_ : components file = []
    · -- the path is the configuration directory itself
      rw [components_join config.nonempty config.noNul h, some_, List.append_nil] at same last
      cases placed : components config.path using List.reverseRecOn with
      | nil =>
          rw [placed] at last
          exact absurd rfl last.1
      | append_singleton front name =>
          rw [placed, List.dropLast_concat, spelling_append] at same
          rw [placed, List.getLast?_concat] at last
          rcases (spell_eq_iff _ _).mp same.symm with stay | climb
          · exact absurd stay last.1
          · exact absurd climb.1 last.2
    · obtain ⟨before, name⟩ := front_join config h some_
      rw [before, spelling_append] at same
      rw [name] at last
      apply And.intro last
      rw [if_neg h]
      intro c member
      rcases (spelling_eq_iff _ _).mp same c member with stay | climb
      · exact Or.inl stay
      · exact Or.inr ⟨climb.1, startSpelling_eq_nil climb.2⟩

/-- A joined name stays inside in every tree exactly when it spells an entry. -/
theorem inside_iff_spellsEntry (config : ConfigurationDirectory) (file : Bytes) :
    (∀ (Dir : Type) (t : DirectoryTree Dir) (home : Dir), t.directory config.path = some home →
      ∀ f, t.named (join config.path file) = some f → LiesDirectlyInside home f) ↔
    SpellsEntry config file := by
  constructor
  · intro everywhere
    have here_ : cstr config.path ≠ [] := by
      rw [cstr, List.takeWhile_eq_self_iff.mpr]
      · exact config.nonempty
      · intro b member
        exact bne_iff_ne.mpr fun zero => config.noNul (zero ▸ member)
    let depth := (components config.path).length + (components (join config.path file)).length + 1
    apply spellsEntry_of_inside
    apply everywhere _ (freeTree depth)
    · exact freeTree_directory here_ (by omega)
    · exact freeTree_named (cstr_join_ne_nil config.nonempty config.noNul) (by omega)
  · intro spells Dir t home there f named
    exact spells.inside there named

/-- The file system that the profile files lie in: names are joined to the configuration directory, and
its entries are the files that the directory iterator passes. -/
def fileSystem {Dir : Type} [DecidableEq Dir] (t : DirectoryTree Dir) (config : ConfigurationDirectory)
    (home : Dir) : FileSystem (File Dir) where
  resolve name := t.named (join config.path name)
  entry f := if f.dir = home ∧ Ordinary f.name then some f.name else none

section Elsewhere
variable {Dir : Type} [DecidableEq Dir] {t : DirectoryTree Dir} {config : ConfigurationDirectory}
  {home : Dir} {profileName : Bytes} {f : File Dir}

/-- A save leaves every file alone but the one its path names. -/
theorem Store.saveProfile_elsewhere {memory : Nat → Nat → UInt8} {controllers : List RGBController}
    {sizes saved : Bool} {s s' : Store (File Dir)}
    (run : s.saveProfile (fileSystem t config home) memory controllers profileName sizes =
      some (saved, s'))
    (other : ∀ path ∈ (Operation.saveProfile sizes).path config profileName, t.named path ≠ some f) :
    s'.files.content f = s.files.content f := by
  rw [saveProfile] at run
  split at run
  · cases run
    rfl
  · next name =>
      obtain ⟨bytes, -, run⟩ := Option.bind_eq_some_iff.mp run
      cases run
      have path := other _ ((if_neg name).trans rfl)
      cases target : (fileSystem t config home).resolve
          (savedName (removeNullTerminatingChars profileName) sizes) with
      | none => rfl
      | some g =>
          have apart : f ≠ g := fun same => path (same ▸ target)
          exact Files.content_write_of_ne _ apart bytes

/-- A delete leaves every file alone but the one its path names. -/
theorem Store.deleteProfile_elsewhere (s : Store (File Dir))
    (other : ∀ path ∈ Operation.deleteProfile.path config profileName, t.named path ≠ some f) :
    (s.deleteProfile (fileSystem t config home) profileName).files.content f = s.files.content f := by
  have path := other _ (Operation.deleteProfile.path_eq config profileName)
  cases target : (fileSystem t config home).resolve
      (deletedName (removeNullTerminatingChars profileName)) with
  | none => simp only [deleteProfile, target, updateProfileList]
  | some g =>
      have apart : f ≠ g := fun same => path (same ▸ target)
      simp only [deleteProfile, target, updateProfileList]
      exact Files.content_remove_of_ne _ apart

/-- A load opens the file its path names. -/
theorem Store.openProfile_eq (s : Store (File Dir)) :
    s.openProfile (fileSystem t config home) profileName =
      (Operation.loadProfile.path config profileName).bind fun path =>
        (t.named path).bind s.files.content := by
  rw [Operation.path_eq]
  rfl

end Elsewhere

theorem spellsEntry_of_ordinary (config : ConfigurationDirectory) {name : Bytes} (h : Ordinary name) :
    SpellsEntry config name := by
  rw [SpellsEntry, components_ordinary h, if_neg (not_isAbsolute_of_ordinary h)]
  exact ⟨⟨h.2.1, h.2.2.1⟩, fun c member => nomatch member⟩

theorem StaysInside.confined {config : ConfigurationDirectory} {op : Operation} {profileName : Bytes}
    (stays : StaysInside config op profileName) : Confined config op profileName := by
  intro Dir t home there listed ordinary path touched f named
  rcases List.mem_append.mp touched with opened | scanned
  · rw [op.path_eq] at opened
    obtain ⟨file, chosen, rfl⟩ := Option.map_eq_some_iff.mp (Option.mem_toList.mp opened)
    exact (stays file chosen).inside there named
  · by_cases scans : op.scans profileName = true
    · rw [if_pos scans] at scanned
      obtain ⟨name, member, rfl⟩ := List.mem_map.mp scanned
      have entry := ordinary name (List.mem_filter.mp member).1
      exact (spellsEntry_of_ordinary config entry).inside there named
    · rw [if_neg scans] at scanned
      cases scanned

theorem staysInside_of_confined {config : ConfigurationDirectory} {op : Operation} {profileName : Bytes}
    (confined : Confined config op profileName) : StaysInside config op profileName := by
  intro file chosen
  apply (inside_iff_spellsEntry config file).mp
  intro Dir t home there f named
  apply confined Dir t home there [] (fun _ member => nomatch member) _ _ f named
  apply List.mem_append_left
  rw [op.path_eq, chosen]
  exact List.mem_singleton_self _

/-- The files that an operation touches lie directly inside the configuration directory, whatever the
tree, exactly when the name it joins spells an entry. -/
theorem profile_operation_confined_iff (config : ConfigurationDirectory) (op : Operation)
    (profileName : Bytes) : Confined config op profileName ↔ StaysInside config op profileName :=
  ⟨staysInside_of_confined, StaysInside.confined⟩

/-- A parent component takes every operation out of the directory, and so does an absolute name. -/
theorem profile_names_escape :
    let config : ConfigurationDirectory := ⟨ascii "/home/user/rgb", by decide, by decide⟩
    (¬ Confined config (.saveProfile true) (ascii "../x") ∧
      ¬ Confined config (.saveProfile false) (ascii "../x") ∧
      ¬ Confined config .loadProfile (ascii "../x") ∧
      ¬ Confined config .loadSizeFromProfile (ascii "../x") ∧
      ¬ Confined config .deleteProfile (ascii "../x")) ∧
    ¬ Confined config .deleteProfile (ascii "/etc/x") := by
  refine ⟨⟨?_, ?_, ?_, ?_, ?_⟩, ?_⟩ <;> exact mt staysInside_of_confined (by decide)

end ProfileManager
end SyncRGB
