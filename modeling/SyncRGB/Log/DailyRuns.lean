import SyncRGB.Log.DailyRotation

/-! Daily logs over any number of starts, reconfigurations and days. -/
namespace SyncRGB
open ByteCodec VectorEdit

namespace LogFolder

/-- A file with this name and at least this content. -/
def Holds (folder : LogFolder) (name content : Bytes) : Prop :=
  ∃ file ∈ folder.files, file.filename = name ∧ content <+: file.content

variable {folder : LogFolder} {name content : Bytes}

theorem Holds.has (holds : folder.Holds name content) : folder.has name := by
  obtain ⟨file, member, rfl, -⟩ := holds
  exact List.mem_map_of_mem member

theorem Holds.mono {content' : Bytes} (holds : folder.Holds name content) (shorter : content' <+: content) :
    folder.Holds name content' := by
  obtain ⟨file, member, named, longer⟩ := holds
  exact ⟨file, member, named, shorter.trans longer⟩

theorem Holds.remove (holds : folder.Holds name content) {paths : List (List Nat)} (stays : nameOrder name ∉ paths) :
    (folder.remove paths).Holds name content := by
  obtain ⟨file, member, rfl, longer⟩ := holds
  exact ⟨file, List.mem_filter.mpr ⟨member, decide_eq_true stays⟩, rfl, longer⟩

theorem Holds.touch (holds : folder.Holds name content) (new : Bytes) : (folder.touch new).Holds name content := by
  obtain ⟨file, member, named, longer⟩ := holds
  rw [LogFolder.touch]
  split
  · exact ⟨file, List.mem_append_left _ member, named, longer⟩
  · exact ⟨file, member, named, longer⟩

theorem Holds.appendTo (holds : folder.Holds name content) (target text : Bytes) :
    (folder.appendTo target text).Holds name content := by
  obtain ⟨file, member, rfl, longer⟩ := holds
  refine ⟨_, List.mem_map_of_mem member, ?_⟩
  split
  · exact ⟨rfl, longer.trans (List.prefix_append _ _)⟩
  · exact ⟨rfl, longer⟩

/-- What is appended to a file that is there is in it. -/
theorem appendTo_holds (present : folder.has name) (text : Bytes) :
    ∃ before, (folder.appendTo name text).Holds name (before ++ text) := by
  obtain ⟨file, member, rfl⟩ := List.mem_map.mp present
  refine ⟨file.content, _, List.mem_map_of_mem member, ?_⟩
  rw [if_pos rfl]
  exact ⟨rfl, List.prefix_refl _⟩

/-- The names, with which of them are regular files. -/
def kinds (folder : LogFolder) : List (Bytes × Bool) := folder.files.map fun file => (file.filename, file.isRegularFile)

theorem kinds_appendTo (target text : Bytes) (folder : LogFolder) :
    (folder.appendTo target text).kinds = folder.kinds := by
  rw [kinds, appendTo, List.map_map]
  refine List.map_congr_left fun file _ => ?_
  rw [Function.comp_apply]
  split <;> rfl

theorem kinds_touch (new : Bytes) (folder : LogFolder) : (folder.touch new).kinds ⊆ (new, true) :: folder.kinds := by
  rw [touch]
  split
  · intro kind member
    rw [kinds, List.map_append, List.mem_append] at member
    obtain old | fresh := member
    · exact List.mem_cons_of_mem _ old
    · exact List.mem_cons.mpr (.inl (List.mem_singleton.mp fresh))
  · exact List.subset_cons_self _ _

theorem kinds_remove (paths : List (List Nat)) (folder : LogFolder) : (folder.remove paths).kinds ⊆ folder.kinds :=
  (List.filter_sublist.map _).subset

end LogFolder

namespace DailyLog

variable {Dir : Type} [DecidableEq Dir] (settings : DailySettings)

/-- The folder and the day for which an event opens a log file. -/
def opensAt (s : DailyLog Dir) : DailyEvent Dir → Option (Dir × DailyOpening)
  | .start dir opening _ => some (dir, opening)
  | .setServiceLogDirectory dir opening _ => some (dir, opening)
  | .reconfigureDailyLog dir opening _ => if s.dailyRollover then some (dir, opening) else none
  | .append today _ =>
      match s.stream with
      | none => none
      | some (dir, currentLogDate) =>
          if s.dailyRollover ∧ currentLogDate ≠ today.yyyymmdd then some (dir, today) else none

/-- The day of an event. -/
def day : DailyEvent Dir → Bytes
  | .start _ opening _ => opening.yyyymmdd
  | .setServiceLogDirectory _ opening _ => opening.yyyymmdd
  | .reconfigureDailyLog _ opening _ => opening.yyyymmdd
  | .append today _ => today.yyyymmdd

/-- What an event writes. -/
def queued : DailyEvent Dir → Bytes
  | .start _ _ queued => queued
  | .setServiceLogDirectory _ _ queued => queued
  | .reconfigureDailyLog _ _ queued => queued
  | .append _ queued => queued

omit [DecidableEq Dir] in
theorem rolling_eq {s : DailyLog Dir} (rollover : s.dailyRollover = true) : { s with dailyRollover := true } = s := by
  cases s
  cases rollover
  rfl

/-- An event opens a log file for its day and writes; or only writes, on its day; or does nothing. -/
theorem step_cases (s : DailyLog Dir) (event : DailyEvent Dir) :
    (∃ dir opening, s.opensAt event = some (dir, opening) ∧ opening.yyyymmdd = day event ∧
      s.step settings event =
        ({ s with dailyRollover := true }.openDailyLog settings dir opening).write settings (queued event)) ∨
    s.opensAt event = none ∧
      (s.dailyRollover = false ∧ s.step settings event = s ∨
        s.step settings event = s.write settings (queued event) ∧
          ∀ dir yyyymmdd, s.stream = some (dir, yyyymmdd) → s.dailyRollover = true → yyyymmdd = day event) := by
  cases event with
  | start dir opening text => exact .inl ⟨dir, opening, rfl, rfl, rfl⟩
  | setServiceLogDirectory dir opening text => exact .inl ⟨dir, opening, rfl, rfl, rfl⟩
  | reconfigureDailyLog dir opening text =>
      rw [opensAt, step]
      by_cases rollover : s.dailyRollover = true
      · rw [if_pos rollover, if_pos rollover, rolling_eq rollover]
        exact .inl ⟨dir, opening, rfl, rfl, rfl⟩
      · rw [if_neg rollover, if_neg rollover]
        exact .inr ⟨rfl, .inl ⟨Bool.eq_false_iff.mpr rollover, rfl⟩⟩
  | append today text =>
      rw [opensAt, step, rolledOver]
      cases current : s.stream with
      | none => exact .inr ⟨rfl, .inr ⟨rfl, fun dir yyyymmdd opened => by cases opened⟩⟩
      | some stream =>
          dsimp only
          by_cases newDay : s.dailyRollover = true ∧ stream.2 ≠ today.yyyymmdd
          · rw [if_pos newDay, if_pos newDay, ← current, rolling_eq newDay.1]
            exact .inl ⟨stream.1, today, rfl, rfl, rfl⟩
          · rw [if_neg newDay, if_neg newDay]
            refine .inr ⟨rfl, .inr ⟨rfl, ?_⟩⟩
            rintro dir yyyymmdd ⟨⟩ rollover
            exact not_not.mp fun other => newDay ⟨rollover, other⟩

theorem openedFolder_kinds (opening : DailyOpening) (removed : List (List Nat)) (folder : LogFolder) :
    (openedFolder settings opening removed folder).kinds ⊆
      (settings.logname opening.yyyymmdd, true) :: folder.kinds := by
  have rotated := LogFolder.kinds_remove removed folder
  rw [openedFolder]
  split
  · rw [LogFolder.kinds_appendTo]
    exact List.Subset.trans (LogFolder.kinds_touch _ _) (List.cons_subset_cons _ rotated)
  · exact List.Subset.trans rotated (List.subset_cons_self _ _)

theorem openedFolder_holds {opening : DailyOpening} {removed : List (List Nat)} {folder : LogFolder}
    {name content : Bytes} (holds : folder.Holds name content) (stays : nameOrder name ∉ removed) :
    (openedFolder settings opening removed folder).Holds name content := by
  have rotated := holds.remove stays
  rw [openedFolder]
  split
  · exact (rotated.touch _).appendTo _ _
  · exact rotated

theorem write_folder (text : Bytes) (s : DailyLog Dir) (dir : Dir) :
    (s.write settings text).folders dir = s.folders dir ∨
      ∃ target, (s.write settings text).folders dir = (s.folders dir).appendTo target text := by
  rw [write]
  cases s.stream with
  | none => exact .inl rfl
  | some stream =>
      dsimp only
      by_cases same : dir = stream.1
      · subst same
        exact .inr ⟨_, Function.update_self _ _ _⟩
      · exact .inl (Function.update_of_ne same _ _)

theorem write_holds {s : DailyLog Dir} {dir : Dir} {name content : Bytes} (text : Bytes)
    (holds : (s.folders dir).Holds name content) : ((s.write settings text).folders dir).Holds name content := by
  obtain same | ⟨target, appended⟩ := write_folder settings text s dir
  · rw [same]
    exact holds
  · rw [appended]
    exact holds.appendTo target text

theorem write_kinds (text : Bytes) (s : DailyLog Dir) (dir : Dir) :
    ((s.write settings text).folders dir).kinds = (s.folders dir).kinds := by
  obtain same | ⟨target, appended⟩ := write_folder settings text s dir
  · rw [same]
  · rw [appended, LogFolder.kinds_appendTo]

/-- Opening a file changes one folder, unless the engine throws. -/
theorem openDailyLog_folder (s : DailyLog Dir) (dir other : Dir) (opening : DailyOpening) :
    (s.openDailyLog settings dir opening).folders other = s.folders other ∨
      other = dir ∧ ∃ removed, settings.rotated (s.folders dir) = some removed ∧
        (s.openDailyLog settings dir opening).folders dir = openedFolder settings opening removed (s.folders dir) := by
  rw [openDailyLog]
  cases rotated : settings.rotated (s.folders dir) with
  | none => exact .inl rfl
  | some removed =>
      dsimp only
      by_cases same : other = dir
      · exact .inr ⟨same, removed, rfl, Function.update_self _ _ _⟩
      · exact .inl (Function.update_of_ne same _ _)

/-- A file is as it was or longer, if the rotation that there may be does not remove it. -/
theorem step_holds {s : DailyLog Dir} {event : DailyEvent Dir} {dir : Dir} {name content : Bytes}
    (holds : (s.folders dir).Holds name content)
    (stays : ∀ opening, s.opensAt event = some (dir, opening) → nameOrder name ∉ settings.removed (s.folders dir)) :
    ((s.step settings event).folders dir).Holds name content := by
  obtain ⟨at_, opening, opens, -, stepped⟩ | ⟨-, ⟨-, stepped⟩ | ⟨stepped, -⟩⟩ := step_cases settings s event
  · rw [stepped]
    refine write_holds settings (queued event) ?_
    obtain same | ⟨rfl, removed, rotated, opened⟩ :=
      openDailyLog_folder settings { s with dailyRollover := true } at_ dir opening
    · rw [same]
      exact holds
    · rw [opened]
      refine openedFolder_holds settings holds fun member => stays opening opens ?_
      have all : settings.rotated (s.folders dir) = some removed := rotated
      rw [DailySettings.removed, all, Option.getD_some, List.mem_toFinset]
      exact member
  · rw [stepped]
    exact holds
  · rw [stepped]
    exact write_holds settings (queued event) holds

theorem mem_dailyFiles {settings : DailySettings} {folder : LogFolder} {a : List Nat} :
    a ∈ settings.dailyFiles folder ↔
      ∃ regexMatch, settings.engine (LogManager.regexTempl DailySettings.dailyDateRegex
          (settings.basename ++ ascii "_#.log")) = some regexMatch ∧
        ∃ name, (name, true) ∈ folder.kinds ∧ regexMatch name = true ∧ nameOrder name = a := by
  rw [DailySettings.dailyFiles]
  cases settings.engine (LogManager.regexTempl DailySettings.dailyDateRegex (settings.basename ++ ascii "_#.log")) with
  | none => simp
  | some regexMatch =>
      rw [List.mem_toFinset, LogManager.matchingPaths, List.mem_map]
      constructor
      · rintro ⟨entry, matched, rfl⟩
        obtain ⟨listed, fits⟩ := List.mem_filter.mp matched
        obtain ⟨file, member, rfl⟩ := List.mem_map.mp listed
        obtain ⟨regular, matched⟩ := Bool.and_eq_true_iff.mp fits
        have kind := List.mem_map_of_mem (f := fun file : LogFile => (file.filename, file.isRegularFile)) member
        rw [show file.isRegularFile = true from regular] at kind
        exact ⟨regexMatch, rfl, file.filename, kind, matched, rfl⟩
      · rintro ⟨found, compiled, name, kind, matched, rfl⟩
        obtain rfl := Option.some.inj compiled
        obtain ⟨file, member, same⟩ := List.mem_map.mp kind
        obtain ⟨rfl, regular⟩ := Prod.mk.inj same
        refine ⟨file.entry, List.mem_filter.mpr ⟨List.mem_map_of_mem member, ?_⟩, rfl⟩
        exact Bool.and_eq_true_iff.mpr ⟨regular, matched⟩

/-- Only the file of the day can be a new one. -/
theorem dailyFiles_subset {folder folder' : LogFolder} {day : Bytes}
    (sub : folder'.kinds ⊆ (settings.logname day, true) :: folder.kinds) :
    settings.dailyFiles folder' ⊆ insert (settings.dayFile day) (settings.dailyFiles folder) := by
  intro a member
  obtain ⟨regexMatch, compiled, name, kind, matched, rfl⟩ := mem_dailyFiles.mp member
  obtain fresh | old := List.mem_cons.mp (sub kind)
  · rw [Finset.mem_insert, (Prod.mk.inj fresh).1]
    exact .inl rfl
  · exact Finset.mem_insert_of_mem (mem_dailyFiles.mpr ⟨regexMatch, compiled, name, old, matched, rfl⟩)

theorem dailyFiles_write (text : Bytes) (s : DailyLog Dir) (dir : Dir) :
    settings.dailyFiles ((s.write settings text).folders dir) = settings.dailyFiles (s.folders dir) := by
  ext a
  rw [mem_dailyFiles, mem_dailyFiles, write_kinds]

/-- The day for which an event opens a file in a folder. -/
def openedDay (s : DailyLog Dir) (event : DailyEvent Dir) (dir : Dir) : Finset (List Nat) :=
  match s.opensAt event with
  | none => ∅
  | some (other, opening) => if other = dir then {settings.dayFile opening.yyyymmdd} else ∅

def openedDays (dir : Dir) : DailyLog Dir → List (DailyEvent Dir) → Finset (List Nat)
  | _, [] => ∅
  | s, event :: events => openedDay settings s event dir ∪ openedDays dir (s.step settings event) events

/-- The days with a file at the start, and those for which one was opened since. -/
def days (s : DailyLog Dir) (events : List (DailyEvent Dir)) (dir : Dir) : Finset (List Nat) :=
  settings.dailyFiles (s.folders dir) ∪ openedDays settings dir s events

theorem openedDay_eq {s : DailyLog Dir} {event : DailyEvent Dir} {dir : Dir} {opening : DailyOpening}
    (opens : s.opensAt event = some (dir, opening)) :
    openedDay settings s event dir = {settings.dayFile opening.yyyymmdd} := by
  rw [openedDay, opens]
  exact if_pos rfl

theorem dailyFiles_step (s : DailyLog Dir) (event : DailyEvent Dir) (dir : Dir) :
    settings.dailyFiles ((s.step settings event).folders dir) ⊆
      settings.dailyFiles (s.folders dir) ∪ openedDay settings s event dir := by
  obtain ⟨other, opening, opens, -, stepped⟩ | ⟨-, ⟨-, stepped⟩ | ⟨stepped, -⟩⟩ := step_cases settings s event
  · rw [stepped, dailyFiles_write]
    obtain same | ⟨rfl, removed, -, opened⟩ :=
      openDailyLog_folder settings { s with dailyRollover := true } other dir opening
    · rw [same]
      exact Finset.subset_union_left
    · rw [opened, openedDay_eq settings opens, Finset.union_comm]
      exact dailyFiles_subset settings (openedFolder_kinds settings opening removed _)
  · rw [stepped]
    exact Finset.subset_union_left
  · rw [stepped, dailyFiles_write]
    exact Finset.subset_union_left

theorem days_step (s : DailyLog Dir) (event : DailyEvent Dir) (events : List (DailyEvent Dir)) (dir : Dir) :
    days settings (s.step settings event) events dir ⊆ days settings s (event :: events) dir := by
  rw [days, days, openedDays, ← Finset.union_assoc]
  exact Finset.union_subset_union_left (dailyFiles_step settings s event dir)

theorem days_run (s : DailyLog Dir) (before after : List (DailyEvent Dir)) (dir : Dir) :
    days settings (s.run settings before) after dir ⊆ days settings s (before ++ after) dir := by
  induction before generalizing s with
  | nil => exact Finset.Subset.refl _
  | cons event before ih => exact (ih (s.step settings event)).trans (days_step settings s event _ dir)

/-- At each opening the rotation meets the condition. -/
def RunsRightly : DailyLog Dir → List (DailyEvent Dir) → Prop
  | _, [] => True
  | s, event :: events =>
      (∀ dir opening, s.opensAt event = some (dir, opening) →
        settings.RotatesRightly (s.folders dir) opening.yyyymmdd) ∧ RunsRightly (s.step settings event) events

theorem RunsRightly.of_append {s : DailyLog Dir} {before after : List (DailyEvent Dir)}
    (right : RunsRightly settings s (before ++ after)) : RunsRightly settings (s.run settings before) after := by
  induction before generalizing s with
  | nil => exact right
  | cons event before ih => exact ih right.2

variable {settings}

/-- What the rotation of a step removes has many days after it. -/
theorem kept_of_recent (positive : 1 ≤ settings.dailyLogLimit) {s : DailyLog Dir} {event : DailyEvent Dir}
    {events : List (DailyEvent Dir)} (right : RunsRightly settings s (event :: events)) {dir : Dir} {name : List Nat}
    (recent : (later (days settings s (event :: events) dir) name).card < settings.limit) (opening : DailyOpening)
    (opens : s.opensAt event = some (dir, opening)) : name ∉ settings.removed (s.folders dir) := by
  intro member
  have keeps := (DailySettings.rotatesRightly_iff positive _ _).mp (right.1 dir opening opens)
  have overtaken := (keeps name member).2
  refine (overtaken.trans (Finset.card_le_card (later_subset ?_ name))).not_gt recent
  rw [days, openedDays, openedDay_eq settings opens]
  intro a inside
  obtain rfl | old := Finset.mem_insert.mp inside
  · exact Finset.mem_union_right _ (Finset.mem_union_left _ (Finset.mem_singleton_self _))
  · exact Finset.mem_union_left _ old

/-- What a file of a recent day holds stays in it. -/
theorem run_holds (positive : 1 ≤ settings.dailyLogLimit) {s : DailyLog Dir} {events : List (DailyEvent Dir)}
    (right : RunsRightly settings s events) {dir : Dir} {name content : Bytes}
    (holds : (s.folders dir).Holds name content)
    (recent : (later (days settings s events dir) (nameOrder name)).card < settings.limit) :
    ((s.run settings events).folders dir).Holds name content := by
  induction events generalizing s with
  | nil => exact holds
  | cons event events ih =>
      refine ih right.2 (step_holds settings holds (kept_of_recent positive right recent)) ?_
      exact (Finset.card_le_card (later_subset (days_step settings s event events dir) _)).trans_lt recent

/-- The file that is open is there, and the service rolls over. -/
def Streams (settings : DailySettings) (s : DailyLog Dir) : Prop :=
  ∀ dir yyyymmdd, s.stream = some (dir, yyyymmdd) →
    (s.folders dir).has (settings.logname yyyymmdd) ∧ s.dailyRollover = true

theorem openDailyLog_streams (s : DailyLog Dir) (dir : Dir) (opening : DailyOpening) :
    (∀ other yyyymmdd, (s.openDailyLog settings dir opening).stream = some (other, yyyymmdd) →
      yyyymmdd = opening.yyyymmdd ∧
        ((s.openDailyLog settings dir opening).folders other).has (settings.logname yyyymmdd)) ∧
      (s.openDailyLog settings dir opening).dailyRollover = s.dailyRollover := by
  rw [openDailyLog]
  cases settings.rotated (s.folders dir) with
  | none => exact ⟨fun other yyyymmdd opened => (Option.some_ne_none _ opened.symm).elim, rfl⟩
  | some removed =>
      refine ⟨?_, rfl⟩
      dsimp only
      intro other yyyymmdd opened
      split at opened
      next there =>
        obtain ⟨rfl, rfl⟩ := Prod.mk.inj (Option.some.inj opened)
        rw [Function.update_self]
        exact ⟨rfl, there.2⟩
      next => exact (Option.some_ne_none _ opened.symm).elim

theorem write_stream (text : Bytes) (s : DailyLog Dir) :
    (s.write settings text).stream = s.stream ∧ (s.write settings text).dailyRollover = s.dailyRollover := by
  rw [write]
  split
  · exact ⟨rfl, rfl⟩
  · exact ⟨rfl, rfl⟩

/-- What is written while a file is open is at the end of it. -/
theorem write_written {s : DailyLog Dir} {dir : Dir} {yyyymmdd : Bytes} (opened : s.stream = some (dir, yyyymmdd))
    (there : (s.folders dir).has (settings.logname yyyymmdd)) (text : Bytes) :
    ∃ before, ((s.write settings text).folders dir).Holds (settings.logname yyyymmdd) (before ++ text) := by
  rw [write, opened]
  dsimp only
  rw [Function.update_self]
  exact LogFolder.appendTo_holds there text

/-- With an open file behind it, an event has written what it had into the file of its day. -/
def Wrote (settings : DailySettings) (s : DailyLog Dir) (event : DailyEvent Dir) : Prop :=
  ∀ dir yyyymmdd, (s.step settings event).stream = some (dir, yyyymmdd) →
    yyyymmdd = day event ∧
      ∃ before, ((s.step settings event).folders dir).Holds (settings.logname yyyymmdd) (before ++ queued event)

/-- A file was opened for the day and then written. -/
theorem wrote_of_opening {s : DailyLog Dir} {dir : Dir} {opening : DailyOpening} {text : Bytes} {other : Dir}
    {yyyymmdd : Bytes}
    (opened : ((s.openDailyLog settings dir opening).write settings text).stream = some (other, yyyymmdd)) :
    yyyymmdd = opening.yyyymmdd ∧
      ∃ before, (((s.openDailyLog settings dir opening).write settings text).folders other).Holds
        (settings.logname yyyymmdd) (before ++ text) := by
  rw [(write_stream text _).1] at opened
  obtain ⟨same, there⟩ := (openDailyLog_streams s dir opening).1 other yyyymmdd opened
  exact ⟨same, write_written opened there text⟩

theorem Streams.wrote {s : DailyLog Dir} (streams : Streams settings s) (event : DailyEvent Dir) :
    Wrote settings s event := by
  intro dir yyyymmdd opened
  obtain ⟨other, opening, -, same, stepped⟩ | ⟨-, ⟨rollover, stepped⟩ | ⟨stepped, today⟩⟩ :=
    step_cases settings s event
  · rw [stepped] at opened ⊢
    rw [← same]
    exact wrote_of_opening opened
  · rw [stepped] at opened
    rw [(streams dir yyyymmdd opened).2] at rollover
    cases rollover
  · rw [stepped] at opened ⊢
    rw [(write_stream (queued event) s).1] at opened
    obtain ⟨there, rollover⟩ := streams dir yyyymmdd opened
    exact ⟨today dir yyyymmdd opened rollover, write_written opened there (queued event)⟩

theorem Streams.step {s : DailyLog Dir} (streams : Streams settings s) (event : DailyEvent Dir) :
    Streams settings (s.step settings event) := by
  intro dir yyyymmdd opened
  obtain ⟨-, before, holds⟩ := streams.wrote event dir yyyymmdd opened
  refine ⟨holds.has, ?_⟩
  obtain ⟨other, opening, -, -, stepped⟩ | ⟨-, ⟨-, stepped⟩ | ⟨stepped, -⟩⟩ := step_cases settings s event
  · rw [stepped, (write_stream (queued event) _).2, (openDailyLog_streams _ other opening).2]
  · rw [stepped] at opened ⊢
    exact (streams dir yyyymmdd opened).2
  · rw [stepped, (write_stream (queued event) s).1] at opened
    rw [stepped, (write_stream (queued event) s).2]
    exact (streams dir yyyymmdd opened).2

theorem run_streams {s : DailyLog Dir} (stopped : s.stream = none) (events : List (DailyEvent Dir)) :
    Streams settings (s.run settings events) := by
  suffices all : ∀ s : DailyLog Dir, Streams settings s → Streams settings (s.run settings events) from
    all s fun dir yyyymmdd opened => (Option.some_ne_none _ (opened.symm.trans stopped)).elim
  induction events with
  | nil => exact fun s streams => streams
  | cons event events ih => exact fun s streams => ih (s.step settings event) (streams.step event)

theorem run_append (s : DailyLog Dir) (before after : List (DailyEvent Dir)) :
    s.run settings (before ++ after) = (s.run settings before).run settings after := List.foldl_append

/-- The daily log over the events that happen to it. -/
structure KeepsDays (settings : DailySettings) (s : DailyLog Dir) (events : List (DailyEvent Dir)) : Prop where
  /-- What the file of a day holds is still in it when it is opened for that day. -/
  opening : ∀ before event after, events = before ++ event :: after → ∀ dir opening,
    (s.run settings before).opensAt event = some (dir, opening) → ∀ content,
    ((s.run settings before).folders dir).Holds (settings.logname opening.yyyymmdd) content →
    ((s.run settings (before ++ [event])).folders dir).Holds (settings.logname opening.yyyymmdd) content
  /-- What is written on a day is in the file of the day as long as fewer days than the limit are later. -/
  entries : ∀ before event after, events = before ++ event :: after → ∀ dir yyyymmdd,
    (s.run settings (before ++ [event])).stream = some (dir, yyyymmdd) →
    yyyymmdd = day event ∧
      ((later (days settings s events dir) (settings.dayFile yyyymmdd)).card < settings.limit →
        ∃ earlier, ((s.run settings events).folders dir).Holds (settings.logname yyyymmdd) (earlier ++ queued event))
  /-- So is what a file held before. -/
  files : ∀ dir name content, (s.folders dir).Holds name content →
    (later (days settings s events dir) (nameOrder name)).card < settings.limit →
    ((s.run settings events).folders dir).Holds name content

theorem KeepsDays.of_runsRightly (positive : 1 ≤ settings.dailyLogLimit) {s : DailyLog Dir}
    {events : List (DailyEvent Dir)} (stopped : s.stream = none) (right : RunsRightly settings s events) :
    KeepsDays settings s events where
  opening := by
    rintro before event after rfl dir opening opens content holds
    rw [run_append]
    refine step_holds settings holds fun opening' opens' member => ?_
    obtain rfl : opening = opening' := (Prod.mk.inj (Option.some.inj (opens.symm.trans opens'))).2
    have keeps := (DailySettings.rotatesRightly_iff positive _ _).mp (right.of_append.1 dir opening opens)
    exact (keeps _ member).1 rfl
  entries := by
    rintro before event after rfl dir yyyymmdd opened
    have streams : Streams settings (s.run settings before) := run_streams stopped before
    rw [run_append] at opened
    obtain ⟨same, earlier, holds⟩ := streams.wrote event dir yyyymmdd opened
    refine ⟨same, fun recent => ⟨earlier, ?_⟩⟩
    rw [run_append]
    refine run_holds positive right.of_append.2 holds ?_
    have fewer := (days_step settings (s.run settings before) event after dir).trans
      (days_run settings s before (event :: after) dir)
    exact (Finset.card_le_card (later_subset fewer _)).trans_lt recent
  files := fun dir name content holds recent => run_holds positive right holds recent

end DailyLog

/-- An opening keeps the recent files exactly under the condition, and if all openings of a run meet it, the run keeps
what was written on the recent days. -/
theorem keepsDays_of_rotatesRightly (settings : DailySettings) (positive : 1 ≤ settings.dailyLogLimit) :
    (∀ folder yyyymmdd, settings.RotatesRightly folder yyyymmdd ↔ settings.KeepsRecent folder yyyymmdd) ∧
    ∀ (Dir : Type) [DecidableEq Dir] (s : DailyLog Dir) (events : List (DailyLog.DailyEvent Dir)), s.stream = none →
      DailyLog.RunsRightly settings s events → DailyLog.KeepsDays settings s events :=
  ⟨DailySettings.rotatesRightly_iff positive,
    fun _ _ _ _ stopped right => DailyLog.KeepsDays.of_runsRightly positive stopped right⟩

/-- What matches a date behind the default name. -/
def isDaily (filename : Bytes) : Bool :=
  filename.length = 22 ∧ filename.take 10 = ascii "RGBServer_" ∧
    (filename.drop 10).take 8 ⊆ ascii "0123456789" ∧ filename.drop 18 = ascii ".log"

/-- An engine for the daily files of the default name and for texts without symbols. -/
def dailyEngine : RegexEngine := fun text =>
  some fun filename =>
    if text = LogManager.regexTempl DailySettings.dailyDateRegex (ascii "RGBServer_#.log") then isDaily filename
    else text = ascii "^" ++ filename ++ ascii "$"

/-- Five daily logs are to be kept. -/
def fiveDays : DailySettings := ⟨dailyEngine, ascii "RGBServer", 5⟩

/-- No service has run yet. -/
def freshLog : DailyLog Unit := ⟨fun _ => .empty, false, none⟩

def firstOfMay : DailyOpening := ⟨ascii "20240501", ascii "RGB Server", true⟩

def startOfMay (queued : String) : DailyLog.DailyEvent Unit := .start () firstOfMay (ascii queued)

/-- A service that starts twice on a day loses what it logged at its first start. -/
theorem restart_loses_entries :
    1 ≤ fiveDays.dailyLogLimit ∧ freshLog.stream = none ∧
    ¬ DailyLog.KeepsDays fiveDays freshLog [startOfMay "Server started", startOfMay ""] := by
  refine ⟨by decide, rfl, fun keeps => ?_⟩
  have opened : (freshLog.run fiveDays ([] ++ [startOfMay "Server started"])).stream = some ((), ascii "20240501") := by
    decide
  have latest : (later (DailyLog.days fiveDays freshLog [startOfMay "Server started", startOfMay ""] ())
      (fiveDays.dayFile (ascii "20240501"))).card < fiveDays.limit := by decide
  obtain ⟨earlier, file, member, -, longer⟩ :=
    (keeps.entries [] (startOfMay "Server started") [startOfMay ""] rfl () _ opened).2 latest
  have contents : ((freshLog.run fiveDays [startOfMay "Server started", startOfMay ""]).folders ()).files.map
      (fun file => file.content.length) = [10] := by decide
  have short := List.mem_map_of_mem (f := fun file : LogFile => file.content.length) member
  rw [contents, List.mem_singleton] at short
  have long := longer.length_le
  rw [short, List.length_append] at long
  have text : (DailyLog.queued (startOfMay "Server started")).length = 14 := by decide
  omega

/-- Two daily logs are to be kept. -/
def twoDays : DailySettings := { fiveDays with dailyLogLimit := 2 }

/-- A service has run on the last of April. -/
def aprilLog : DailyLog Unit where
  folders _ := ⟨[⟨ascii "RGBServer_20240430.log", true, ascii "RGB Server, and more"⟩], by decide, by decide⟩
  dailyRollover := false
  stream := none

def opensOn (yyyymmdd : String) : DailyOpening := ⟨ascii yyyymmdd, ascii "RGB Server", true⟩

/-- It starts again on that day, and logs on into the first and the second of May. -/
def intoMay : List (DailyLog.DailyEvent Unit) :=
  [.start () (opensOn "20240430") (ascii "Restarted"), .append (opensOn "20240501") (ascii "First"),
    .append (opensOn "20240502") (ascii "Second")]

theorem keepsDays_of_rotatesRightly_two : DailyLog.KeepsDays twoDays aprilLog intoMay := by
  refine (keepsDays_of_rotatesRightly twoDays (by decide)).2 Unit aprilLog intoMay rfl ⟨?_, ?_, ?_, trivial⟩
  · intro dir opening opens
    cases opens
    exact .inr (.inl (by decide))
  · intro dir opening opens
    have first : (aprilLog.run twoDays (intoMay.take 1)).opensAt (.append (opensOn "20240501") (ascii "First")) =
        some ((), opensOn "20240501") := rfl
    cases first.symm.trans opens
    exact .inr (.inl (by decide))
  · intro dir opening opens
    have second : (aprilLog.run twoDays (intoMay.take 2)).opensAt (.append (opensOn "20240502") (ascii "Second")) =
        some ((), opensOn "20240502") := rfl
    cases second.symm.trans opens
    exact .inr (.inr ⟨by decide, by decide, by decide⟩)

end SyncRGB
