import SyncRGB.FileTree.Path
import SyncRGB.Profile.ProfileStore
import SyncRGB.Profile.SavedProfile

/-! Whether saving, loading, deleting and listing mean the same file by a profile name. Each derives the
file's name in its own way, and the names cross the narrow encoding of the platform in some of them. -/
namespace SyncRGB
open ByteCodec FileTree ProfileManager

/-- How a platform makes file names of strings and strings of file names. A file name is written in UTF-8
here, so `filesystem::u8path` leaves a string as it is, if it takes it. A path that is made of a
`std::string`, and `path::string`, go over the narrow encoding; it has the characters of ASCII. A conversion
that is not possible throws. -/
structure NameEncoding where
  takes : Bytes → Bool
  native : Bytes → Option Bytes
  string : Bytes → Option Bytes
  native_of_string {name s : Bytes} : string name = some s → native s = some name
  native_orp (s : Bytes) : native (s ++ orp) = (native s).map (· ++ orp)
  string_orp (name : Bytes) : string (name ++ orp) = (string name).map (· ++ orp)
  string_noNul {name s : Bytes} : 0 ∉ name → string name = some s → 0 ∉ s

namespace NameEncoding

/-- On POSIX a path is made of the bytes of a string. -/
def posix : NameEncoding where
  takes _ := true
  native := some
  string := some
  native_of_string := by
    intro name s same
    exact same.symm
  native_orp _ := rfl
  string_orp _ := rfl
  string_noNul := by
    intro name s plain same
    cases same
    exact plain

variable (names : NameEncoding)

/-- The configuration directory behind `u8path`, in which `SaveProfile` and `LoadProfile` look. -/
def utf8Files : FileSystem Bytes where
  resolve name := if names.takes name then some name else none
  entry := names.string

/-- The same directory behind the conversion of a `std::string`, as `DeleteProfile` takes it. -/
def nativeFiles : FileSystem Bytes where
  resolve := names.native
  entry := names.string

def writtenFile (profileName : Bytes) : Option Bytes :=
  names.utf8Files.resolve (savedName (removeNullTerminatingChars profileName) false)

def openedFile (profileName : Bytes) : Option Bytes :=
  names.utf8Files.resolve (loadedName (removeNullTerminatingChars profileName) false)

theorem openProfile_openedFile (profileName : Bytes) (s : Store Bytes) :
    s.openProfile names.utf8Files profileName = (names.openedFile profileName).bind s.files.content := rfl

/-- After a save, the file written is the one that a load opens and a delete removes, the directory is listed
to its end with the name in the list, and a load of any name in it opens the file it was listed for. -/
structure OneFile (profileName : Bytes) (s s' : Store Bytes) (f bytes : Bytes) : Prop where
  written : names.writtenFile profileName = some f ∧ s'.files = s.files.write f bytes
  opened : names.openedFile profileName = some f
  removed : (s'.deleteProfile names.nativeFiles profileName).files = s'.files.remove f
  scanned : ∀ e ∈ s'.files, (names.string e.1).isSome
  listed : profileName ∈ s'.profileList
  others : ∀ e ∈ s'.files, ∀ m, listing names.utf8Files e = some m → names.openedFile m = some e.1

/-- In any save of that name. -/
def Identifies (profileName : Bytes) (s : Store Bytes) : Prop :=
  ∀ memory controllers s',
    s.saveProfile names.utf8Files memory controllers profileName false = some (true, s') →
      ∃ f bytes, profileFile memory false controllers = some bytes ∧ names.OneFile profileName s s' f bytes

/-- The name has no extension of its own and reads the same in both encodings, the names of the directory
can be converted, and each file that gets listed is called by its listed name and `.orp`, where the listed
name has no such extension. -/
structure PlainlyNamed (profileName : Bytes) (s : Store Bytes) : Prop where
  bare : extension profileName ≠ orp
  taken : names.takes (profileName ++ orp) = true
  same : names.string profileName = some profileName
  scanned : ∀ e ∈ s.files, (names.string e.1).isSome
  others : ∀ e ∈ s.files, ∀ m, listing names.utf8Files e = some m →
    extension m ≠ orp ∧ e.1 = m ++ orp ∧ names.takes e.1 = true

end NameEncoding

/-! ### Names -/

/-- What stands behind the last `b` stands at the end together with it. -/
theorem cons_rtakeWhile_suffix {b : UInt8} {s : Bytes} (shorter : (s.rtakeWhile (· != b)).length < s.length) :
    b :: s.rtakeWhile (· != b) <:+ s := by
  induction s using List.reverseRecOn with
  | nil => exact absurd shorter (lt_irrefl 0)
  | append_singleton s c ih =>
      by_cases last : c = b
      · subst last
        rw [List.rtakeWhile_concat_neg _ _ _ (by simp)]
        exact List.suffix_append s [c]
      · have passed : (c != b) = true := by simp [last]
        simp only [List.rtakeWhile_concat, passed, if_true, List.length_append] at shorter ⊢
        obtain ⟨front, whole⟩ := ih (by omega)
        refine ⟨front, ?_⟩
        rw [← List.cons_append, ← List.append_assoc, whole]

/-- An extension stands at the end of its path. -/
theorem extension_suffix (path : Bytes) : extension path <:+ path := by
  rw [extension]
  split
  · rename_i dotted
    have filename := List.rtakeWhile_suffix (· != (47 : UInt8)) path
    exact (cons_rtakeWhile_suffix (by omega)).trans filename
  · exact List.nil_suffix

namespace ProfileManager

theorem loadedName_bare {name : Bytes} (bare : extension name ≠ orp) : loadedName name false = name ++ orp :=
  if_neg bare

theorem removeNullTerminatingChars_of_noNul {name : Bytes} (plain : 0 ∉ name) :
    removeNullTerminatingChars name = name := by
  rw [removeNullTerminatingChars, List.rdropWhile_eq_self_iff]
  intro some_ zero
  have last : name.getLast some_ = 0 := by simpa using zero
  exact plain (last ▸ List.getLast_mem some_)

theorem take_append_orp (name : Bytes) : (name ++ orp).take ((name ++ orp).length - 4) = name := by
  have four : orp.length = 4 := by decide
  rw [List.length_append, four, Nat.add_sub_cancel]
  exact List.take_left

theorem listing_eq_some_iff {fs : FileSystem Bytes} {e : Bytes × Bytes} {m : Bytes} :
    listing fs e = some m ↔ ∃ filename, fs.entry e.1 = some filename ∧
      (orp <:+: filename ∧ e.2.take 16 = profileHeader ∧ leValue ((e.2.drop 16).take 4) ≤ profileVersion) ∧
      filename.take (filename.length - 4) = m := by
  rw [listing, Option.bind_eq_bind, Option.bind_eq_some_iff]
  apply exists_congr
  intro filename
  apply and_congr_right
  intro _
  split
  · rename_i valid
    simp [valid]
  · rename_i invalid
    simp [invalid]

/-- What a save writes is a valid profile. -/
theorem profileFile_headed {memory : Nat → Nat → UInt8} {controllers : List RGBController} {bytes : Bytes}
    (encoded : profileFile memory false controllers = some bytes) :
    bytes.take 16 = profileHeader ∧ leValue ((bytes.drop 16).take 4) ≤ profileVersion := by
  obtain ⟨records, _, same⟩ := Option.bind_eq_some_iff.mp encoded
  cases same
  obtain ⟨⟨_, header, version⟩, _⟩ := headed_append records
  exact ⟨header, version⟩

end ProfileManager

namespace NameEncoding
variable {names : NameEncoding}

theorem orp_ne_nil : orp ≠ [] := by decide

/-- A name is not written with one extension more than it has. -/
theorem string_ne_append_orp (name : Bytes) : names.string name ≠ some (name ++ orp) := by
  -- The conversion back shows that the name ends in the extension too, and what is left of it is longer again.
  induction length : name.length using Nat.strong_induction_on generalizing name with
  | _ n ih =>
      intro longer
      have back := names.native_of_string longer
      rw [names.native_orp] at back
      obtain ⟨front, converted, rfl⟩ := Option.map_eq_some_iff.mp back
      rw [names.string_orp] at longer
      obtain ⟨s, shorter, same⟩ := Option.map_eq_some_iff.mp longer
      have whole : s = front ++ orp := List.append_cancel_right same
      have less : front.length < n := by
        rw [← length, List.length_append]
        have four : orp.length = 4 := by decide
        omega
      exact ih front.length less front rfl (whole ▸ shorter)

theorem native_of_same {name : Bytes} (same : names.string name = some name) :
    names.native (name ++ orp) = some (name ++ orp) := by
  rw [names.native_orp, names.native_of_string same, Option.map_some]

theorem string_of_same {name : Bytes} (same : names.string name = some name) :
    names.string (name ++ orp) = some (name ++ orp) := by rw [names.string_orp, same, Option.map_some]

/-- The string of a name that ends in `.orp`, without its last four characters. -/
theorem same_of_string {name s : Bytes} (written : names.string (name ++ orp) = some s)
    (front : s.take (s.length - 4) = name) : names.string name = some name := by
  rw [names.string_orp] at written
  obtain ⟨u, converted, rfl⟩ := Option.map_eq_some_iff.mp written
  rw [take_append_orp] at front
  exact front ▸ converted

theorem openedFile_eq_some_iff {m f : Bytes} (plain : 0 ∉ m) :
    names.openedFile m = some f ↔ loadedName m false = f ∧ names.takes f = true := by
  rw [openedFile, removeNullTerminatingChars_of_noNul plain]
  constructor
  · intro opened
    obtain ⟨taken, same⟩ := Option.ite_none_right_eq_some.mp opened
    cases same
    exact ⟨rfl, taken⟩
  · rintro ⟨rfl, taken⟩
    exact if_pos taken

theorem listing_noNul {e : Bytes × Bytes} {m : Bytes} (plain : 0 ∉ e.1)
    (listed : listing names.utf8Files e = some m) : 0 ∉ m := by
  obtain ⟨filename, entry, -, rfl⟩ := listing_eq_some_iff.mp listed
  intro zero
  exact names.string_noNul plain entry (List.mem_of_mem_take zero)

/-- A file is opened by the name it is listed under, exactly when it is called by that name and `.orp` and
the name has no extension of its own. -/
theorem opened_listed_iff {e : Bytes × Bytes} {m : Bytes} (plain : 0 ∉ e.1)
    (listed : listing names.utf8Files e = some m) :
    names.openedFile m = some e.1 ↔ extension m ≠ orp ∧ e.1 = m ++ orp ∧ names.takes e.1 = true := by
  rw [openedFile_eq_some_iff (listing_noNul plain listed)]
  constructor
  · rintro ⟨loaded, taken⟩
    by_cases known : extension m = orp
    · have whole : loadedName m false = m := if_pos known
      obtain ⟨filename, entry, -, front⟩ := listing_eq_some_iff.mp listed
      have entry : names.string e.1 = some filename := entry
      obtain ⟨r, ends⟩ := extension_suffix m
      rw [known] at ends
      rw [← loaded, whole, ← ends] at entry
      rw [← ends] at front
      obtain ⟨u, converted, rfl⟩ := Option.map_eq_some_iff.mp ((names.string_orp r).symm.trans entry)
      rw [take_append_orp] at front
      subst front
      exact absurd converted (string_ne_append_orp r)
    · rw [loadedName_bare known] at loaded
      exact ⟨known, loaded.symm, taken⟩
  · rintro ⟨bare, called, taken⟩
    exact ⟨(loadedName_bare bare).trans called.symm, taken⟩

end NameEncoding

namespace Files
variable {files : Files Bytes} {f bytes : Bytes}

theorem mem_write {e : Bytes × Bytes} (mem : e ∈ files.write f bytes) :
    e = (f, bytes) ∨ e ∈ files ∧ e.1 ≠ f := by
  rw [write] at mem
  split at mem
  · obtain ⟨old, there, rfl⟩ := List.mem_map.mp mem
    split
    · exact .inl rfl
    · rename_i other
      exact .inr ⟨there, other⟩
  · rename_i missing
    rcases List.mem_append.mp mem with there | new
    · refine .inr ⟨there, ?_⟩
      rintro rfl
      have absent := Option.map_eq_none_iff.mp (Option.not_isSome_iff_eq_none.mp missing)
      simpa using List.find?_eq_none.mp absent e there
    · exact .inl (List.mem_singleton.mp new)

theorem mem_write_self : (f, bytes) ∈ files.write f bytes := by
  obtain ⟨e, found, same⟩ := Option.map_eq_some_iff.mp (content_write files f bytes)
  have here : e.1 = f := by simpa using List.find?_some found
  subst here same
  exact List.mem_of_find?_eq_some found

theorem mem_write_of_ne {e : Bytes × Bytes} (mem : e ∈ files) (other : e.1 ≠ f) :
    e ∈ files.write f bytes := by
  rw [write]
  split
  · exact List.mem_map.mpr ⟨e, mem, if_neg other⟩
  · exact List.mem_append_left _ mem

end Files

namespace NameEncoding
variable {names : NameEncoding} {profileName : Bytes} {s s' : Store Bytes}

/-- A name that stays one component of a path and is read to its end. -/
def IsProfileName (profileName : Bytes) : Prop :=
  profileName ≠ [] ∧ separator ∉ profileName ∧ 0 ∉ profileName

instance (profileName : Bytes) : Decidable (IsProfileName profileName) :=
  inferInstanceAs (Decidable (profileName ≠ [] ∧ separator ∉ profileName ∧ 0 ∉ profileName))

theorem writtenFile_eq_some_iff {f : Bytes} (plain : IsProfileName profileName) :
    names.writtenFile profileName = some f ↔ profileName ++ orp = f ∧ names.takes f = true := by
  have name : savedName profileName false = profileName ++ orp := rfl
  rw [writtenFile, removeNullTerminatingChars_of_noNul plain.2.2, name]
  constructor
  · intro written
    obtain ⟨taken, same⟩ := Option.ite_none_right_eq_some.mp written
    cases same
    exact ⟨rfl, taken⟩
  · rintro ⟨rfl, taken⟩
    exact if_pos taken

theorem saveProfile_eq {memory : Nat → Nat → UInt8} {controllers : List RGBController}
    (plain : IsProfileName profileName) :
    s.saveProfile names.utf8Files memory controllers profileName false =
      (profileFile memory false controllers).map fun bytes =>
        (true, Store.updateProfileList names.utf8Files { s with
          files := match names.writtenFile profileName with
            | some f => s.files.write f bytes
            | none => s.files }) := by
  rw [Store.saveProfile, writtenFile, removeNullTerminatingChars_of_noNul plain.2.2]
  cases profileFile memory false controllers with
  | none => exact if_neg plain.1
  | some bytes =>
      rw [if_neg plain.1]
      cases names.utf8Files.resolve (savedName profileName false) with
      | none => rfl
      | some f => rfl

theorem identifies_of_plainlyNamed (plain : IsProfileName profileName)
    (entries : ∀ e ∈ s.files, Ordinary e.1) (named : names.PlainlyNamed profileName s) :
    names.Identifies profileName s := by
  intro memory controllers s' saved
  rw [saveProfile_eq plain] at saved
  obtain ⟨bytes, encoded, same⟩ := Option.map_eq_some_iff.mp saved
  have written : names.writtenFile profileName = some (profileName ++ orp) :=
    (writtenFile_eq_some_iff plain).mpr ⟨rfl, named.taken⟩
  rw [written] at same
  cases same
  refine ⟨profileName ++ orp, bytes, encoded, ?_⟩
  have listed : listing names.utf8Files (profileName ++ orp, bytes) = some profileName := by
    apply listing_eq_some_iff.mpr
    refine ⟨profileName ++ orp, string_of_same named.same, ⟨?_, profileFile_headed encoded⟩, ?_⟩
    · exact (List.suffix_append _ _).isInfix
    · exact take_append_orp profileName
  have opened : names.openedFile profileName = some (profileName ++ orp) := by
    apply (openedFile_eq_some_iff plain.2.2).mpr
    exact ⟨loadedName_bare named.bare, named.taken⟩
  constructor
  · exact ⟨written, rfl⟩
  · exact opened
  · have target : names.nativeFiles.resolve (deletedName profileName) = some (profileName ++ orp) :=
      native_of_same named.same
    rw [Store.deleteProfile, removeNullTerminatingChars_of_noNul plain.2.2, target]
    rfl
  · intro e mem
    rcases Files.mem_write mem with rfl | ⟨old, _⟩
    · exact Option.isSome_of_eq_some (string_of_same named.same)
    · exact named.scanned e old
  · exact List.mem_filterMap.mpr ⟨_, Files.mem_write_self, listed⟩
  · intro e mem m other
    rcases Files.mem_write mem with rfl | ⟨old, _⟩
    · cases listed.symm.trans other
      exact opened
    · exact (opened_listed_iff (entries e old).2.2.2.2 other).mpr (named.others e old m other)

theorem plainlyNamed_of_identifies (plain : IsProfileName profileName)
    (entries : ∀ e ∈ s.files, Ordinary e.1) (identifies : names.Identifies profileName s) :
    names.PlainlyNamed profileName s := by
  -- An empty list of controllers can always be saved.
  have encoded : profileFile (fun _ _ => 0) false [] = some (profileHeader ++ le 4 profileVersion ++ []) := rfl
  have saved : s.saveProfile names.utf8Files (fun _ _ => 0) [] profileName false = _ := saveProfile_eq plain
  rw [encoded, Option.map_some] at saved
  obtain ⟨f, bytes, -, one⟩ := identifies _ _ _ saved
  obtain ⟨rfl, taken⟩ := (writtenFile_eq_some_iff plain).mp one.written.1
  have bare : extension profileName ≠ orp := by
    intro known
    have whole : loadedName profileName false = profileName := if_pos known
    have called := ((openedFile_eq_some_iff plain.2.2).mp one.opened).1
    rw [whole] at called
    exact orp_ne_nil (List.append_right_eq_self.mp called.symm)
  have same : names.string profileName = some profileName := by
    obtain ⟨e, mem, listed⟩ := List.mem_filterMap.mp one.listed
    obtain ⟨filename, entry, -, front⟩ := listing_eq_some_iff.mp listed
    have here : e.1 = profileName ++ orp := Option.some.inj ((one.others e mem _ listed).symm.trans one.opened)
    rw [here] at entry
    exact same_of_string entry front
  constructor
  · exact bare
  · exact taken
  · exact same
  · intro e mem
    by_cases here : e.1 = profileName ++ orp
    · rw [here, string_of_same same]
      rfl
    · exact one.scanned e (one.written.2 ▸ Files.mem_write_of_ne mem here)
  · intro e mem m listed
    by_cases here : e.1 = profileName ++ orp
    · -- The file that is written over is listed under the same name.
      obtain ⟨filename, entry, -, front⟩ := listing_eq_some_iff.mp listed
      rw [here] at entry
      cases (string_of_same same).symm.trans entry
      rw [take_append_orp] at front
      subst front
      exact ⟨bare, here, here ▸ taken⟩
    · have opened := one.others e (one.written.2 ▸ Files.mem_write_of_ne mem here) m listed
      exact (opened_listed_iff (entries e mem).2.2.2.2 listed).mp opened

/-- The four operations mean one file by a name, and every listed name means the file it was listed for,
exactly when the name and the files are plainly named. -/
theorem identifies_iff (names : NameEncoding) {profileName : Bytes} {s : Store Bytes}
    (plain : IsProfileName profileName) (entries : ∀ e ∈ s.files, Ordinary e.1) :
    names.Identifies profileName s ↔ names.PlainlyNamed profileName s :=
  ⟨plainlyNamed_of_identifies plain entries, identifies_of_plainlyNamed plain entries⟩

/-- A directory with one valid profile. -/
def oneProfile : Store Bytes where
  interfaceProfileList := []
  profileList := []
  files := [(ascii "b.orp", profileHeader ++ le 4 profileVersion)]

theorem identifies_a : posix.Identifies (ascii "a") oneProfile := by
  apply (identifies_iff posix (by decide) (by decide)).mpr
  constructor
  · decide
  · rfl
  · rfl
  · decide
  · intro e mem m listed
    cases List.mem_singleton.mp mem
    cases listed
    decide

/-- What is saved as `a.orp` is in the file `a.orp.orp`, which a load of that name does not open. -/
theorem extension_twice : ¬ posix.Identifies (ascii "a.orp") Store.new := by
  intro identifies
  have named := (plainlyNamed_of_identifies (by decide) (by decide) identifies).bare
  exact named (by decide)

end NameEncoding
end SyncRGB
