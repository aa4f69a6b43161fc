import SyncRGB.Log.DailyLog

/-! When the rotation that precedes a daily log leaves the most recent files alone. -/
namespace SyncRGB
open ByteCodec VectorEdit

theorem LogFolder.matchingPaths_nodup (regexMatch : Bytes → Bool) (folder : LogFolder) :
    (LogManager.matchingPaths regexMatch folder.listing).Nodup := by
  have paths : folder.listing.entries.map DirectoryEntry.path = folder.names.map nameOrder := by
    rw [listing, names, List.map_map, List.map_map]
    rfl
  have all : (folder.listing.entries.map DirectoryEntry.path).Nodup := by
    rw [paths]
    exact folder.distinct.map nameOrder_injective
  exact all.sublist (List.filter_sublist.map _)

/-- Between the same texts, texts of one length compare as they do alone. -/
theorem append_lt_append_iff {a b : List Nat} (front back : List Nat) (length : a.length = b.length) :
    front ++ a ++ back < front ++ b ++ back ↔ a < b := by
  induction front with
  | nil =>
      rw [List.nil_append, List.nil_append]
      induction a generalizing b with
      | nil =>
          cases b with
          | nil => simp
          | cons => cases length
      | cons x a ih =>
          cases b with
          | nil => cases length
          | cons y b =>
              rw [List.cons_append, List.cons_append, List.cons_lt_cons_iff, List.cons_lt_cons_iff,
                ih (Nat.succ.inj length)]
  | cons x front ih =>
      rw [List.cons_append, List.cons_append, List.cons_append, List.cons_append, List.cons_lt_cons_iff]
      simpa using ih

namespace DailySettings

variable (settings : DailySettings)

/-- The daily files of a folder, in the order of their names. -/
def dailyFiles (folder : LogFolder) : Finset (List Nat) :=
  match settings.engine (LogManager.regexTempl dailyDateRegex (settings.basename ++ ascii "_#.log")) with
  | none => ∅
  | some regexMatch => (LogManager.matchingPaths regexMatch folder.listing).toFinset

/-- What is removed before a file opens. -/
def removed (folder : LogFolder) : Finset (List Nat) := ((settings.rotated folder).getD []).toFinset

def limit : Nat := settings.dailyLogLimit.toNatClampNeg

/-- The file of a day. -/
def dayFile (yyyymmdd : Bytes) : List Nat := nameOrder (settings.logname yyyymmdd)

/-- The files have the order of the days. -/
theorem dayFile_lt_dayFile {a b : Bytes} (length : a.length = b.length) :
    settings.dayFile a < settings.dayFile b ↔ nameOrder a < nameOrder b := by
  have split : ∀ date, settings.dayFile date =
      nameOrder (settings.basename ++ ascii "_") ++ nameOrder date ++ nameOrder (ascii ".log") := by
    intro date
    rw [dayFile, logname, nameOrder, List.map_append, List.map_append]
    rfl
  rw [split, split, append_lt_append_iff]
  rw [nameOrder, nameOrder, List.length_map, List.length_map, length]

/-- There are no daily files; or one less than the limit; or at least as many as the limit, the one of the day not
among them, and all that are too many older than that. -/
def RotatesRightly (folder : LogFolder) (yyyymmdd : Bytes) : Prop :=
  settings.dailyFiles folder = ∅ ∨ (settings.dailyFiles folder).card + 1 = settings.limit ∨
    settings.limit ≤ (settings.dailyFiles folder).card ∧ settings.dayFile yyyymmdd ∉ settings.dailyFiles folder ∧
      (settings.dailyFiles folder).card + 1 - settings.limit ≤
        (earlier (settings.dailyFiles folder) (settings.dayFile yyyymmdd)).card

/-- What is removed is not the file of the day, and not among the most recent files with it. -/
def KeepsRecent (folder : LogFolder) (yyyymmdd : Bytes) : Prop :=
  ∀ file ∈ settings.removed folder, file ≠ settings.dayFile yyyymmdd ∧
    settings.limit ≤ (later (insert (settings.dayFile yyyymmdd) (settings.dailyFiles folder)) file).card

variable {settings}

/-- The rotation removes the first files, and how many. -/
theorem removed_oldest (positive : 1 ≤ settings.dailyLogLimit) (folder : LogFolder) :
    Oldest (settings.dailyFiles folder) (settings.removed folder) ∧
      (settings.removed folder).card =
        if settings.limit ≤ (settings.dailyFiles folder).card + 1 then
          (settings.dailyFiles folder).card + 1 - settings.limit
        else (settings.dailyFiles folder).card := by
  cases compiled : settings.engine (LogManager.regexTempl dailyDateRegex (settings.basename ++ ascii "_#.log")) with
  | none =>
      have files : settings.dailyFiles folder = ∅ := by rw [dailyFiles, compiled]
      have none_removed : settings.removed folder = ∅ := by
        rw [removed, rotated, LogManager.rotateLogs, if_neg (Int32.not_lt.mpr positive), compiled]
        rfl
      have one := (LogManager.toNat_maxCount positive).2
      rw [files, none_removed, limit, Finset.card_empty]
      refine ⟨⟨Finset.Subset.refl _, fun a member => absurd member (Finset.notMem_empty a)⟩, ?_⟩
      split <;> omega
  | some regexMatch =>
      have nodup := folder.matchingPaths_nodup regexMatch
      have files : settings.dailyFiles folder = (LogManager.matchingPaths regexMatch folder.listing).toFinset := by
        rw [dailyFiles, compiled]
      rw [removed, rotated, LogManager.rotateLogs_eq compiled positive, Option.getD_some, files,
        List.toFinset_card_of_nodup nodup]
      refine ⟨Oldest.of_take _ _, ?_⟩
      have sorted := ((List.perm_insertionSort (· ≤ ·) _).nodup_iff.mpr nodup).sublist (List.take_sublist
        (if settings.dailyLogLimit.toNatClampNeg ≤ (LogManager.matchingPaths regexMatch folder.listing).length + 1 then
          (LogManager.matchingPaths regexMatch folder.listing).length + 1 - settings.dailyLogLimit.toNatClampNeg
        else (LogManager.matchingPaths regexMatch folder.listing).length) _)
      have one := (LogManager.toNat_maxCount positive).2
      rw [List.toFinset_card_of_nodup sorted, List.length_take, List.length_insertionSort, limit]
      split <;> omega

theorem rotatesRightly_iff (positive : 1 ≤ settings.dailyLogLimit) (folder : LogFolder) (yyyymmdd : Bytes) :
    settings.RotatesRightly folder yyyymmdd ↔ settings.KeepsRecent folder yyyymmdd := by
  obtain ⟨old, count⟩ := removed_oldest positive folder
  have one : 1 ≤ settings.limit := (LogManager.toNat_maxCount positive).2
  have rest := Finset.card_sdiff_add_card_eq_card old.sub
  have overtaken := old.overtaken_iff (settings.dayFile yyyymmdd) settings.limit
  have exact_count : (settings.removed folder = ∅ ∨
      settings.limit ≤ (settings.dailyFiles folder \ settings.removed folder).card ∨
      settings.limit ≤ (settings.dailyFiles folder \ settings.removed folder).card + 1 ∧
        settings.dayFile yyyymmdd ∉ settings.dailyFiles folder ∧
        (settings.removed folder).card ≤
          (earlier (settings.dailyFiles folder) (settings.dayFile yyyymmdd)).card) ↔
      settings.RotatesRightly folder yyyymmdd := by
    rw [RotatesRightly, ← Finset.card_eq_zero, ← Finset.card_eq_zero]
    by_cases enough : settings.limit ≤ (settings.dailyFiles folder).card + 1
    · rw [if_pos enough] at count
      rw [count]
      constructor
      · rintro (none_removed | many | ⟨-, absent, early⟩)
        · omega
        · omega
        · by_cases equal : (settings.dailyFiles folder).card + 1 = settings.limit
          · exact .inr (.inl equal)
          · exact .inr (.inr ⟨by omega, absent, early⟩)
      · rintro (empty | equal | ⟨-, absent, early⟩)
        · omega
        · omega
        · exact .inr (.inr ⟨by omega, absent, early⟩)
    · rw [if_neg enough] at count
      omega
  rw [← exact_count, ← overtaken]
  constructor
  · intro right file member
    refine ⟨?_, right file member⟩
    rintro rfl
    obtain none_removed | many | ⟨-, absent, -⟩ := overtaken.mp right
    · rw [none_removed] at member
      exact Finset.notMem_empty _ member
    · split at count <;> omega
    · exact absent (old.sub member)
  · exact fun keeps file member => (keeps file member).2

end DailySettings
end SyncRGB
