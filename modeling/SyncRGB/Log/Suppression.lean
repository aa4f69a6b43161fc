import SyncRGB.Log.LogManager

/-! What is kept back while suppressing, and what is emitted at once and at the end. -/
namespace SyncRGB
open ByteCodec

namespace LogManager

/-! An open log file has written all that was queued for it. -/

def Drained (s : LogManager) : Prop := s.isOpen = true → s.tempMessages = []

theorem flush_drained (s : LogManager) : s.flush.Drained := by
  intro opened
  by_cases isOpen : s.isOpen = true
  · rw [flush, if_pos isOpen]
  · rw [flush, if_neg isOpen] at opened
    exact absurd opened isOpen

theorem raise_isOpen (mes : LogMessage) (s : LogManager) : (s.raise mes).isOpen = s.isOpen := by
  rw [raise]
  split <;> rfl

theorem raise_tempMessages (mes : LogMessage) (s : LogManager) : (s.raise mes).tempMessages = s.tempMessages := by
  rw [raise]
  split <;> rfl

theorem Drained.raise {s : LogManager} (drained : s.Drained) (mes : LogMessage) : (s.raise mes).Drained := by
  intro opened
  rw [raise_tempMessages]
  exact drained (raise_isOpen mes s ▸ opened)

/-- A message is kept back, or the queue is flushed behind it. -/
theorem Drained.deliver {s : LogManager} (drained : s.Drained) (mes : LogMessage) : (s.deliver mes).Drained := by
  rw [LogManager.deliver]
  by_cases kept : (s.suppressMode && suppresses mes) = true
  · by_cases dialog : mes.level = LogLevel.dialog <;> simpa [kept, dialog, Drained] using drained
  · by_cases dialog : mes.level = LogLevel.dialog <;> simpa [kept, dialog] using flush_drained _

theorem print_suppressMode (mes : LogMessage) (s : LogManager) : (s.print mes).suppressMode = s.suppressMode := by
  rw [print]
  split <;> rfl

theorem flush_suppressMode (s : LogManager) : s.flush.suppressMode = s.suppressMode := by
  rw [flush]
  split <;> rfl

theorem deliver_suppressMode (mes : LogMessage) (s : LogManager) :
    (s.deliver mes).suppressMode = s.suppressMode := by
  rw [LogManager.deliver]
  by_cases dialog : mes.level = LogLevel.dialog
  all_goals
    simp only [dialog, if_true, if_false]
    split
    · rfl
    · rw [flush_suppressMode, enqueue, print_suppressMode]

theorem suppresses_removal (removal : LogRemoval) :
    suppresses removal.message = true ∧ removal.message.level ≠ LogLevel.dialog := by
  have levels : removal.message.level = LogLevel.verbose ∨ removal.message.level = LogLevel.warning := by
    rw [LogRemoval.message]
    cases removal.failure with
    | none => exact .inl rfl
    | some error => exact .inr rfl
  rw [suppresses]
  obtain level | level := levels
  all_goals
    rw [level]
    decide

/-- While suppressing, the rotation queues nothing: all that it logs is kept back. -/
theorem deliver_removal {s : LogManager} (suppressing : s.suppressMode = true) (removal : LogRemoval) :
    s.deliver removal.message = { s with suppressedMessages := s.suppressedMessages ++ [removal.message] } := by
  obtain ⟨kept, level⟩ := suppresses_removal removal
  simp only [LogManager.deliver, level, if_false, suppressing, kept, Bool.and_self, if_true]

theorem removals_suppressMode (removals : List LogRemoval) (s : LogManager) :
    (removals.foldl (fun s removal => s.deliver removal.message) s).suppressMode = s.suppressMode := by
  induction removals generalizing s with
  | nil => rfl
  | cons removal removals ih => rw [List.foldl_cons, ih, deliver_suppressMode]

theorem removals_tempMessages (removals : List LogRemoval) {s : LogManager} (suppressing : s.suppressMode = true) :
    (removals.foldl (fun s removal => s.deliver removal.message) s).tempMessages = s.tempMessages := by
  induction removals generalizing s with
  | nil => rfl
  | cons removal removals ih =>
      rw [List.foldl_cons, ih (by rw [deliver_suppressMode, suppressing]), deliver_removal suppressing]

/-- Behind a message that is not kept back the queue is flushed, whatever it held. -/
theorem deliver_drained_of_emitting {s : LogManager} (emitting : s.suppressMode = false) (mes : LogMessage) :
    (s.deliver mes).Drained := by
  rw [LogManager.deliver]
  by_cases dialog : mes.level = LogLevel.dialog <;> simpa [emitting, dialog] using flush_drained _

/-- The first message of a day may find what the rotation logged in the queue, but not while suppressing. -/
theorem Drained.append {s : LogManager} (drained : s.Drained) (newDay : Option LogOpening) (mes : LogMessage) :
    (s.append newDay mes).Drained := by
  have raised := drained.raise mes
  cases newDay with
  | none => exact raised.deliver mes
  | some opening =>
      rw [LogManager.append]
      by_cases isOpen : (s.raise mes).isOpen = true
      · rw [if_pos isOpen]
        by_cases suppressing : (s.raise mes).suppressMode = true
        · refine Drained.deliver ?_ mes
          intro _
          rw [reopen]
          dsimp only
          rw [removals_tempMessages opening.removals (s := { s.raise mes with isOpen := false }) suppressing]
          exact raised isOpen
        · refine deliver_drained_of_emitting ?_ mes
          rw [reopen]
          dsimp only
          rw [removals_suppressMode]
          exact Bool.eq_false_iff.mpr suppressing
      · rw [if_neg isOpen]
        exact raised.deliver mes

theorem Drained.call {s : LogManager} (drained : s.Drained) (logCall : LogCall) : (s.call logCall).Drained := by
  cases logCall with
  | configure opening loglevel logConsole => exact flush_drained _
  | setServiceLogDirectory opening => exact flush_drained _
  | reconfigureDailyLog opening => exact flush_drained _
  | append newDay mes => exact drained.append newDay mes
  | flush => exact flush_drained _
  | startSuppressing => exact drained
  | stopSuppressing flush =>
      cases flush with
      | false => exact drained
      | true => exact flush_drained _
  | setLoglevel newDay mes level => exact drained.append newDay mes
  | setVerbosity newDay mes level => exact drained.append newDay mes
  | setPrintSource newDay mes v => exact drained.append newDay mes
  | clearMessages => exact drained

/-- The log after some calls. -/
def run (calls : List LogCall) : LogManager := calls.foldl call new

theorem run_drained (calls : List LogCall) : (run calls).Drained := by
  suffices all : ∀ s : LogManager, s.Drained → (calls.foldl call s).Drained from
    all new fun _ => rfl
  induction calls with
  | nil => exact fun s drained => drained
  | cons first calls ih => exact fun s drained => ih (s.call first) (drained.call first)

/-! What messages do to a log that is open and has nothing queued. -/

/-- Some messages were emitted, in this order. -/
def receive (messages : List LogMessage) (s : LogManager) : LogManager :=
  { s with
    file := s.file ++ lines s.loglevel s.printSource messages
    screen := s.screen ++ lines s.verbosity s.printSource messages
    allMessages := s.allMessages ++ if s.logConsoleEnabled then messages else [] }

/-- Some messages were logged: the dialogs of them were shown. -/
def announce (messages : List LogMessage) (s : LogManager) : LogManager :=
  { s with dialogs := s.dialogs ++ messages.filter fun mes => mes.level = LogLevel.dialog }

/-- Some messages were kept back. -/
def keepBack (messages : List LogMessage) (s : LogManager) : LogManager :=
  { s with suppressedMessages := s.suppressedMessages ++ messages }

theorem lines_append (level : UInt32) (printSource : Bool) (a b : List LogMessage) :
    lines level printSource (a ++ b) = lines level printSource a ++ lines level printSource b := by
  rw [lines, List.filter_append, List.map_append]
  rfl

theorem receive_nil (s : LogManager) : s.receive [] = s := by
  cases s with
  | mk => simp [receive, lines]

theorem receive_append (a b : List LogMessage) (s : LogManager) :
    s.receive (a ++ b) = (s.receive a).receive b := by
  by_cases console : s.logConsoleEnabled = true <;>
    simp [receive, lines_append, console]

theorem announce_append (a b : List LogMessage) (s : LogManager) :
    s.announce (a ++ b) = (s.announce a).announce b := by
  simp [announce]

theorem keepBack_append (a b : List LogMessage) (s : LogManager) :
    s.keepBack (a ++ b) = (s.keepBack a).keepBack b := by
  simp [keepBack]

/-- A message goes to the screen and into the queue, or is replayed there. -/
theorem enqueue_print (mes : LogMessage) (s : LogManager) :
    (s.print mes).enqueue mes =
      { s with
        screen := s.screen ++ lines s.verbosity s.printSource [mes]
        tempMessages := s.tempMessages ++ [mes]
        allMessages := s.allMessages ++ if s.logConsoleEnabled then [mes] else [] } := by
  by_cases shown : emits s.verbosity mes = true <;> by_cases console : s.logConsoleEnabled = true <;>
    simp [print, enqueue, lines, shown, console]

theorem enqueue_print_all (messages : List LogMessage) (s : LogManager) :
    messages.foldl (fun s mes => (s.print mes).enqueue mes) s =
      { s with
        screen := s.screen ++ lines s.verbosity s.printSource messages
        tempMessages := s.tempMessages ++ messages
        allMessages := s.allMessages ++ if s.logConsoleEnabled then messages else [] } := by
  induction messages generalizing s with
  | nil => simp [lines]
  | cons mes messages ih =>
      rw [List.foldl_cons, ih, enqueue_print]
      have split := lines_append s.verbosity s.printSource [mes] messages
      by_cases console : s.logConsoleEnabled = true <;> simp_all

/-- What is queued on an open log with an empty queue is received when it is flushed. -/
theorem flush_replayed {s : LogManager} (opened : s.isOpen = true) (drained : s.tempMessages = [])
    (messages : List LogMessage) :
    (messages.foldl (fun s mes => (s.print mes).enqueue mes) s).flush = s.receive messages := by
  rw [enqueue_print_all]
  simp only [flush, opened, drained, List.nil_append, if_true, receive]

/-- What a log keeps back of some messages in its mode. -/
def keeps (suppressMode : Bool) (mes : LogMessage) : Bool := suppressMode && suppresses mes

/-- A message below a critical one is shown if it is a dialog, and kept back or received. -/
theorem append_eq {s : LogManager} (opened : s.isOpen = true) (drained : s.tempMessages = []) {mes : LogMessage}
    (below : mes.level ≠ LogLevel.fatal) :
    s.append none mes =
      if keeps s.suppressMode mes = true then (s.announce [mes]).keepBack [mes]
      else (s.announce [mes]).receive [mes] := by
  have announced : (if mes.level = LogLevel.dialog then { s with dialogs := s.dialogs ++ [mes] } else s) =
      s.announce [mes] := by
    by_cases dialog : mes.level = LogLevel.dialog <;> simp [announce, dialog]
  rw [append, raise, if_neg below, deliver, announced]
  refine if_congr Iff.rfl rfl ?_
  exact flush_replayed (s := s.announce [mes]) opened drained [mes]

/-- Log calls, with no day that begins. -/
def logCalls (s : LogManager) (messages : List LogMessage) : LogManager :=
  messages.foldl (fun s mes => s.append none mes) s

theorem logCalls_eq {s : LogManager} (opened : s.isOpen = true) (drained : s.tempMessages = [])
    {messages : List LogMessage} (below : ∀ mes ∈ messages, mes.level ≠ LogLevel.fatal) :
    s.logCalls messages =
      ((s.announce messages).receive (messages.filter fun mes => !keeps s.suppressMode mes)).keepBack
        (messages.filter (keeps s.suppressMode)) := by
  induction messages generalizing s with
  | nil => simp [logCalls, announce, receive_nil, keepBack]
  | cons mes messages ih =>
      have rest : ∀ mes ∈ messages, mes.level ≠ LogLevel.fatal := fun mes member => below mes (.tail _ member)
      have first : mes :: messages = [mes] ++ messages := rfl
      rw [logCalls, List.foldl_cons, append_eq opened drained (below mes List.mem_cons_self)]
      by_cases kept : keeps s.suppressMode mes = true
      · have others := List.filter_cons_of_neg (p := fun mes => !keeps s.suppressMode mes) (a := mes) (l := messages)
          (by simp [kept])
        rw [if_pos kept, ← logCalls, ih (s := (s.announce [mes]).keepBack [mes]) opened drained rest]
        rw [List.filter_cons_of_pos kept, others, first, announce_append]
        exact (keepBack_append [mes] (messages.filter (keeps s.suppressMode))
          (((s.announce [mes]).announce messages).receive _)).symm
      · have others := List.filter_cons_of_pos (p := fun mes => !keeps s.suppressMode mes) (a := mes) (l := messages)
          (by simp [kept])
        rw [if_neg kept, ← logCalls, ih (s := (s.announce [mes]).receive [mes]) opened drained rest]
        rw [List.filter_cons_of_neg kept, others, first, announce_append]
        exact congrArg (keepBack _) (receive_append [mes] (messages.filter fun mes => !keeps s.suppressMode mes)
          ((s.announce [mes]).announce messages)).symm

theorem logCalls_plain {s : LogManager} (opened : s.isOpen = true) (drained : s.tempMessages = [])
    (emitting : s.suppressMode = false) {messages : List LogMessage}
    (below : ∀ mes ∈ messages, mes.level ≠ LogLevel.fatal) :
    s.logCalls messages = (s.announce messages).receive messages := by
  have none_kept : messages.filter (keeps false) = [] := List.filter_eq_nil_iff.mpr fun mes _ => by simp [keeps]
  have all_received : (messages.filter fun mes => !keeps false mes) = messages :=
    List.filter_eq_self.mpr fun mes _ => by simp [keeps]
  rw [logCalls_eq opened drained below, emitting, none_kept, all_received]
  simp [keepBack]

/-- Errors and dialogs. -/
def isImmediate (mes : LogMessage) : Bool := mes.level = LogLevel.error || mes.level = LogLevel.dialog

def immediate (messages : List LogMessage) : List LogMessage := messages.filter isImmediate

def delayed (messages : List LogMessage) : List LogMessage := messages.filter fun mes => !isImmediate mes

theorem suppresses_eq {mes : LogMessage} (below : mes.level ≠ LogLevel.fatal) : suppresses mes = !isImmediate mes := by
  have least : LogLevel.error < mes.level ↔ mes.level ≠ LogLevel.error := by
    have zero : mes.level.toNat ≠ 0 := fun same => below (UInt32.toNat_inj.mp same)
    rw [UInt32.lt_iff_toNat_lt, ne_eq, ← UInt32.toNat_inj]
    change 1 < mes.level.toNat ↔ mes.level.toNat ≠ 1
    omega
  simp [suppresses, isImmediate, least]

theorem immediate_perm (messages : List LogMessage) : (immediate messages ++ delayed messages).Perm messages :=
  List.filter_append_perm isImmediate messages

theorem logCalls_suppressing {s : LogManager} (opened : s.isOpen = true) (drained : s.tempMessages = [])
    {messages : List LogMessage} (below : ∀ mes ∈ messages, mes.level ≠ LogLevel.fatal) :
    s.startSuppressing.logCalls messages =
      ((s.startSuppressing.announce messages).receive (immediate messages)).keepBack (delayed messages) := by
  have kept : ∀ mes ∈ messages, keeps true mes = !isImmediate mes := fun mes member => suppresses_eq (below mes member)
  have emitted : ∀ mes ∈ messages, (!keeps true mes) = isImmediate mes := fun mes member => by
    rw [kept mes member, Bool.not_not]
  rw [logCalls_eq (s := s.startSuppressing) opened drained below]
  exact congrArg₂ (fun a b => ((s.startSuppressing.announce messages).receive a).keepBack b)
    (List.filter_congr emitted) (List.filter_congr kept)

theorem stopSuppressing_true {s : LogManager} (opened : s.isOpen = true) (drained : s.tempMessages = []) :
    s.stopSuppressing true =
      { s.receive s.suppressedMessages with suppressMode := false, suppressedMessages := [] } := by
  rw [stopSuppressing]
  dsimp only
  rw [if_pos rfl, flush_replayed (s := { s with suppressMode := false }) opened drained]
  rfl

/-- A log has received these messages, in this order, after what it had before. -/
structure Received (before : LogManager) (messages : List LogMessage) (after : LogManager) : Prop where
  file : after.file = before.file ++ lines before.loglevel before.printSource messages
  screen : after.screen = before.screen ++ lines before.verbosity before.printSource messages
  console : after.allMessages = before.allMessages ++ if before.logConsoleEnabled then messages else []

theorem Received.perm {before after after' : LogManager} {messages messages' : List LogMessage}
    (received : Received before messages after) (received' : Received before messages' after')
    (perm : messages.Perm messages') :
    after.file.Perm after'.file ∧ after.screen.Perm after'.screen ∧ after.allMessages.Perm after'.allMessages := by
  have lines_perm : ∀ level, (lines level before.printSource messages).Perm
      (lines level before.printSource messages') := fun level => (perm.filter _).map _
  rw [received.file, received.screen, received.console, received'.file, received'.screen, received'.console]
  refine ⟨(lines_perm _).append_left _, (lines_perm _).append_left _, List.Perm.append_left _ ?_⟩
  split
  · exact perm
  · exact .rfl

/-- Some log calls between `StartSuppressing` and `StopSuppressing`. -/
structure Suppression (s : LogManager) (messages : List LogMessage) : Prop where
  /-- Errors and dialogs do not wait. -/
  atOnce : ∀ first later, messages = first ++ later →
    Received s (immediate first) (s.startSuppressing.logCalls first) ∧
      (s.startSuppressing.logCalls first).dialogs =
        s.dialogs ++ first.filter fun mes => mes.level = LogLevel.dialog
  plain : Received s messages ({ s with suppressMode := false }.logCalls messages)
  /-- The others follow in their order. -/
  flushed : Received s (immediate messages ++ delayed messages)
    ((s.startSuppressing.logCalls messages).stopSuppressing true)
  sameFile : ((s.startSuppressing.logCalls messages).stopSuppressing true).file.Perm
    ({ s with suppressMode := false }.logCalls messages).file
  sameScreen : ((s.startSuppressing.logCalls messages).stopSuppressing true).screen.Perm
    ({ s with suppressMode := false }.logCalls messages).screen
  sameConsole : ((s.startSuppressing.logCalls messages).stopSuppressing true).allMessages.Perm
    ({ s with suppressMode := false }.logCalls messages).allMessages
  dropped : Received s (immediate messages) ((s.startSuppressing.logCalls messages).stopSuppressing false)
  off : ∀ flush, ((s.startSuppressing.logCalls messages).stopSuppressing flush).suppressMode = false ∧
    ((s.startSuppressing.logCalls messages).stopSuppressing flush).suppressedMessages = []

/-- Whatever was called before, suppressing loses and duplicates nothing while the log file is open. -/
theorem suppression_run (setup : List LogCall) (opened : (run setup).isOpen = true) (messages : List LogMessage)
    (below : ∀ mes ∈ messages, mes.level ≠ LogLevel.fatal) : Suppression (run setup) messages := by
  have drained := run_drained setup opened
  generalize run setup = s at opened drained
  have suppressing := logCalls_suppressing opened drained below
  have plain : Received s messages ({ s with suppressMode := false }.logCalls messages) := by
    rw [logCalls_plain (s := { s with suppressMode := false }) opened drained rfl below]
    exact ⟨rfl, rfl, rfl⟩
  have stopped : (s.startSuppressing.logCalls messages).stopSuppressing true =
      { (s.announce messages).receive (immediate messages ++ delayed messages) with
        suppressMode := false, suppressedMessages := [] } := by
    rw [suppressing, receive_append]
    exact stopSuppressing_true
      (s := ((s.startSuppressing.announce messages).receive (immediate messages)).keepBack (delayed messages))
      opened drained
  have flushed : Received s (immediate messages ++ delayed messages)
      ((s.startSuppressing.logCalls messages).stopSuppressing true) := by
    rw [stopped]
    exact ⟨rfl, rfl, rfl⟩
  obtain ⟨sameFile, sameScreen, sameConsole⟩ := flushed.perm plain (immediate_perm messages)
  refine ⟨?_, plain, flushed, sameFile, sameScreen, sameConsole, ?_, ?_⟩
  · rintro first later rfl
    rw [logCalls_suppressing opened drained fun mes member => below mes (List.mem_append_left later member)]
    exact ⟨⟨rfl, rfl, rfl⟩, rfl⟩
  · rw [suppressing]
    exact ⟨rfl, rfl, rfl⟩
  · rintro (_ | _)
    · exact ⟨rfl, rfl⟩
    · rw [stopped]
      exact ⟨rfl, rfl⟩

def sampleMessage (level : UInt32) : LogMessage := ⟨⟨ascii "ResourceManager.cpp", 1541, 20⟩, ascii "scan", level⟩

/-- An information, an error and a dialog in a log that is open. -/
theorem suppression_run_three :
    (run [.configure (some ⟨[], true⟩) none (some true)]).isOpen = true ∧
    Suppression (run [.configure (some ⟨[], true⟩) none (some true)])
      [sampleMessage LogLevel.info, sampleMessage LogLevel.error, sampleMessage LogLevel.dialog] :=
  ⟨rfl, suppression_run _ rfl _ (by decide)⟩

end LogManager
end SyncRGB
