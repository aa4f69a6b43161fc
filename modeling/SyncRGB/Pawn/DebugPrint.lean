import SyncRGB.Pawn.NativeCalls
import SyncRGB.Pawn.PageArithmetic

/-! `debug_print` makes a format of what a program says and hands it to the kernel: which formats those are. -/
namespace SyncRGB.Amx
open Effect HostMemory ByteCodec
variable {w : Nat} {Ω : Type}

/-- `d i u o x X`. -/
def conversions : Bytes := [100, 105, 117, 111, 120, 88]

/-- `[PawnIO] debug_print: `. -/
def messageHead : Bytes :=
  [91, 80, 97, 119, 110, 73, 79, 93, 32, 100, 101, 98, 117, 103, 95, 112, 114, 105, 110, 116, 58, 32]

def messageSize : Nat := 1024

/-- What one character brings: the end, or text to append with how many arguments it asks for. -/
inductive Piece
  | leave
  | cat (text : Bytes) (arguments : Nat) (inEscape : Bool)

def piece (inEscape : Bool) (c : UInt8) : Option Piece :=
  if inEscape then
    if c = 37 then some (.cat [37, 37] 0 false)
    else if c ∈ conversions then some (.cat [37, 108, 108, c] 1 false)
    else none
  else if c = 37 then some (.cat [] 0 true)
  else if c = 0 then some .leave
  else some (.cat [c] 0 false)

section
variable (mem : MemoryManager w)

/-- The loop over the characters with so many turns at most. -/
def formatLoop (m : Machine w Ω) : Nat → (vit : Cell w) → (argCount : Nat) → (inEscape : Bool) → Bytes →
    Except Fault (Bytes × Nat)
  | 0, _, _, _, _ => .error .endless
  | turns + 1, vit, argCount, inEscape, message => do
      let c ← m.cellAt (mem.data vit)
      match piece inEscape (UInt8.ofNat c.toNat) with
      | none => .error (.error .invalidOperand)
      | some .leave => return (message, argCount)
      | some (.cat text arguments inEscape) =>
          -- what does not fit any more is left out, though it counts
          if messageSize ≤ message.length + text.length then return (message, argCount + arguments)
          else formatLoop m turns (vit + cellBytes w) (argCount + arguments) inEscape (message ++ text)

/-- The values behind the addresses that are passed, which have errors of their own. -/
def printArgument (m : Machine w Ω) (argv : Cell w) (i : Nat) : Except Fault (Cell w) :=
  match m.dataAt mem (argv + BitVec.ofNat w (i + 1) * cellBytes w) with
  | none => .error (.error .invalidOperand)
  | some p => do
      let c ← m.cellAt (some p)
      match mem.data c with
      | none => .error (.error .invalidOperand)
      | some q => m.cellAt (some q)

def maxArguments : Nat := 64

/-- Its format and the cells that go with it; `args` has all its cells from the beginning. -/
def debugMessage (m : Machine w Ω) (argc argv : Cell w) : Except Fault (Bytes × List (Cell w)) := do
  if argc = 0 then .error (.error .invalidOperand)
  else
    let vfmt ← m.cellAt (m.dataAt mem argv)
    let (message, argCount) ← formatLoop mem m (2 * messageSize) vfmt 0 false messageHead
    if (argc - 1).toNat < argCount then .error (.error .invalidOperand)
    else if maxArguments < argCount then .error (.error .invalidOperand)
    else
      let args ← (List.range argCount).mapM (printArgument mem m argv)
      return (message, args ++ List.replicate (maxArguments - argCount) 0)

/-- `vDbgPrintEx` is what prints. -/
def debugPrint (vDbgPrintEx : Bytes → List (Cell w) → Ω → Ω) (argc argv : Cell w) : Step w Ω Unit := fun m =>
  let m := { m with pri := 0 }
  match debugMessage mem m argc argv with
  | .error e => (.error e, m)
  | .ok (message, args) => (.ok (), { m with world := vDbgPrintEx message args m.world })

end

/-- Formats with so many conversions, each of which takes a cell: there is nothing else behind a percent sign. -/
inductive Format : Bytes → Nat → Prop
  | nil : Format [] 0
  | char {c : UInt8} {text : Bytes} {n : Nat} : c ≠ 37 → c ≠ 0 → Format text n → Format (c :: text) n
  | percent {text : Bytes} {n : Nat} : Format text n → Format (37 :: 37 :: text) n
  | conversion {c : UInt8} {text : Bytes} {n : Nat} : c ∈ conversions → Format text n →
      Format (37 :: 108 :: 108 :: c :: text) (n + 1)

theorem Format.append {first second : Bytes} {m n : Nat} (format : Format first m) (rest : Format second n) :
    Format (first ++ second) (m + n) := by
  induction format with
  | nil => exact (Nat.zero_add n).symm ▸ rest
  | char other some_ _ ih => exact .char other some_ ih
  | percent _ ih => exact .percent ih
  | conversion known _ ih => exact (Nat.add_right_comm _ 1 n).symm ▸ .conversion known ih

theorem format_messageHead : Format messageHead 0 := by
  unfold messageHead
  repeat' first | exact .nil | refine .char (by decide) (by decide) ?_

theorem piece_format {inEscape inEscape' : Bool} {c : UInt8} {text : Bytes} {arguments : Nat}
    (brings : piece inEscape c = some (.cat text arguments inEscape')) : Format text arguments := by
  unfold piece at brings
  split_ifs at brings with escaped percent known percent zero
  · cases brings
    exact .percent .nil
  · cases brings
    exact .conversion known .nil
  · cases brings
    exact .nil
  · cases brings
  · cases brings
    exact .char percent zero .nil

/-- Every second character at least makes the message longer. -/
theorem piece_grows {inEscape inEscape' : Bool} {c : UInt8} {text : Bytes} {arguments : Nat}
    (brings : piece inEscape c = some (.cat text arguments inEscape')) :
    inEscape.toNat + 1 ≤ inEscape'.toNat + 2 * text.length := by
  have bit : inEscape.toNat + 1 ≤ 2 := Nat.add_le_add_right (Bool.toNat_le inEscape) 1
  unfold piece at brings
  split_ifs at brings with escaped percent known percent zero
  · cases brings
    exact bit.trans (Nat.le_add_right 2 2)
  · cases brings
    exact bit.trans (Nat.le_add_right 2 6)
  · cases brings
    rw [Bool.eq_false_of_not_eq_true escaped]
    decide
  · cases brings
  · cases brings
    exact bit

section
variable {mem : MemoryManager w} {m : Machine w Ω}

theorem formatLoop_format {turns : Nat} {vit : Cell w} {argCount used count : Nat} {inEscape : Bool}
    {message text : Bytes} (format : Format message used) (counted : used ≤ argCount)
    (short : message.length < messageSize)
    (done : formatLoop mem m turns vit argCount inEscape message = .ok (text, count)) :
    ∃ n, Format text n ∧ n ≤ count ∧ text.length < messageSize ∧ message <+: text := by
  induction turns generalizing vit argCount used inEscape message with
  | zero => cases done
  | succ turns ih =>
      obtain ⟨c, _, done⟩ := except_bind_ok.mp done
      cases brings : piece inEscape (UInt8.ofNat c.toNat) with
      | none =>
          rw [brings] at done
          cases done
      | some next =>
          rw [brings] at done
          cases next with
          | leave =>
              cases done
              exact ⟨used, format, counted, short, List.prefix_refl _⟩
          | cat more arguments escape =>
              simp only at done
              split_ifs at done with full
              · cases done
                exact ⟨used, format, Nat.le_add_right_of_le counted, short, List.prefix_refl _⟩
              · have longer : (message ++ more).length < messageSize := by
                  rw [List.length_append]
                  exact Nat.not_le.mp full
                obtain ⟨n, whole, fits, room, extends_⟩ := ih (format.append (piece_format brings))
                  (Nat.add_le_add_right counted arguments) longer done
                exact ⟨n, whole, fits, room, (List.prefix_append _ _).trans extends_⟩

/-- The message is full before the turns run out. -/
theorem formatLoop_ends {turns : Nat} {vit : Cell w} {argCount : Nat} {inEscape : Bool} {message : Bytes}
    (backed : mem.Backed m.host) (short : message.length < messageSize)
    (enough : 2 * (messageSize - message.length) < turns + inEscape.toNat) {e : Fault}
    (fails : formatLoop mem m turns vit argCount inEscape message = .error e) : ∃ reason, e = .error reason := by
  induction turns generalizing vit argCount inEscape message with
  | zero =>
      have bit : inEscape.toNat ≤ 1 := Bool.toNat_le inEscape
      omega
  | succ turns ih =>
      rcases except_bind_error.mp fails with first | ⟨c, _, fails⟩
      · exact ⟨_, cellAt_error (backed.data _) first⟩
      · cases brings : piece inEscape (UInt8.ofNat c.toNat) with
        | none =>
            rw [brings] at fails
            cases fails
            exact ⟨_, rfl⟩
        | some next =>
            rw [brings] at fails
            cases next with
            | leave => cases fails
            | cat more arguments escape =>
                simp only at fails
                split_ifs at fails with full
                · cases fails
                · have grows := piece_grows brings
                  refine ih ?_ ?_ fails
                  · rw [List.length_append]
                    exact Nat.not_le.mp full
                  · rw [List.length_append]
                    omega

theorem printArgument_error {argv : Cell w} {i : Nat} {e : Fault} (backed : mem.Backed m.host)
    (fails : printArgument mem m argv i = .error e) : ∃ reason, e = .error reason := by
  unfold printArgument at fails
  cases place : m.dataAt mem (argv + BitVec.ofNat w (i + 1) * cellBytes w) with
  | none =>
      rw [place] at fails
      cases fails
      exact ⟨_, rfl⟩
  | some p =>
      rw [place] at fails
      rcases except_bind_error.mp fails with first | ⟨c, _, fails⟩
      · exact ⟨_, cellAt_error (fun q same => backed.data _ q (place.trans same)) first⟩
      · cases found : mem.data c with
        | none =>
            rw [found] at fails
            cases fails
            exact ⟨_, rfl⟩
        | some q =>
            rw [found] at fails
            exact ⟨_, cellAt_error (fun r same => backed.data c r (found.trans same)) fails⟩

theorem mapM_result {α β ε : Type} {f : α → Except ε β} {xs : List α} {ys : List β} (done : xs.mapM f = .ok ys) :
    ys.length = xs.length := by
  induction xs generalizing ys with
  | nil =>
      cases done
      rfl
  | cons x xs ih =>
      rw [List.mapM_cons] at done
      obtain ⟨_, _, done⟩ := except_bind_ok.mp done
      obtain ⟨_, others, done⟩ := except_bind_ok.mp done
      cases done
      exact congrArg (· + 1) (ih others)

theorem mapM_error {α β ε : Type} {f : α → Except ε β} {xs : List α} {e : ε} (fails : xs.mapM f = .error e) :
    ∃ x ∈ xs, f x = .error e := by
  induction xs with
  | nil => cases fails
  | cons x xs ih =>
      rw [List.mapM_cons] at fails
      rcases except_bind_error.mp fails with first | ⟨_, _, fails⟩
      · exact ⟨x, List.mem_cons_self, first⟩
      · rcases except_bind_error.mp fails with others | ⟨_, _, done⟩
        · obtain ⟨y, in_, here⟩ := ih others
          exact ⟨y, List.mem_cons_of_mem _ in_, here⟩
        · cases done

omit mem m in
theorem toNat_pred {x : Cell w} (some_ : x ≠ 0) : (x - 1).toNat = x.toNat - 1 := by
  have pos : x.toNat ≠ 0 := fun zero => some_ (BitVec.eq_of_toNat_eq zero)
  have wide : 0 < w := by
    rcases Nat.eq_zero_or_pos w with rfl | wide
    · exact absurd (Subsingleton.elim x 0) some_
    · exact wide
  have one : (1 : BitVec w).toNat = 1 := BitVec.toNat_one wide
  rw [BitVec.toNat_sub_of_le, one]
  rw [BitVec.le_def, one]
  omega

/-- What is printed asks for no more cells than there are, and it always comes to that or to an error. -/
theorem debugMessage_cases (backed : mem.Backed m.host) (argc argv : Cell w) :
    (∃ reason, debugMessage mem m argc argv = .error (.error reason)) ∨
      ∃ message args count, debugMessage mem m argc argv = .ok (message, args) ∧ message.length < messageSize ∧
        Format message count ∧ count ≤ args.length ∧ args.length = maxArguments ∧ count < argc.toNat := by
  unfold debugMessage
  by_cases none_ : argc = 0
  · rw [if_pos none_]
    exact .inl ⟨_, rfl⟩
  · rw [if_neg none_]
    cases first : m.cellAt (m.dataAt mem argv) with
    | error e =>
        obtain rfl := cellAt_error (backed.data _) first
        exact .inl ⟨_, rfl⟩
    | ok vfmt =>
        cases loop : formatLoop mem m (2 * messageSize) vfmt 0 false messageHead with
        | error e =>
            obtain ⟨reason, rfl⟩ := formatLoop_ends backed (by decide) (by decide) loop
            refine .inl ⟨reason, ?_⟩
            simp only [bind, Except.bind, loop]
        | ok formatted =>
            obtain ⟨message, argCount⟩ := formatted
            obtain ⟨count, format, fits, short, _⟩ :=
              formatLoop_format format_messageHead (Nat.le_refl 0) (by decide) loop
            simp only [bind, Except.bind, loop]
            split_ifs with many over_
            · exact .inl ⟨_, rfl⟩
            · exact .inl ⟨_, rfl⟩
            · cases values : (List.range argCount).mapM (printArgument mem m argv) with
              | error e =>
                  obtain ⟨i, _, fails⟩ := mapM_error values
                  obtain ⟨reason, rfl⟩ := printArgument_error backed fails
                  exact .inl ⟨reason, rfl⟩
              | ok args =>
                  have length := mapM_result values
                  rw [List.length_range] at length
                  refine .inr ⟨message, _, count, rfl, short, format, ?_, ?_, ?_⟩
                  · rw [List.length_append, length]
                    exact Nat.le_add_right_of_le fits
                  · rw [List.length_append, length, List.length_replicate]
                    exact Nat.add_sub_of_le (Nat.not_lt.mp over_)
                  · have some_ : argc.toNat ≠ 0 := fun zero => none_ (BitVec.eq_of_toNat_eq zero)
                    have enough : argCount ≤ argc.toNat - 1 := toNat_pred none_ ▸ Nat.not_lt.mp many
                    omega

theorem contained_debugPrint (vDbgPrintEx : Bytes → List (Cell w) → Ω → Ω) (argc argv : Cell w) :
    Contained mem (debugPrint mem vDbgPrintEx argc argv) := by
  intro m backed
  unfold Wp debugPrint
  rcases debugMessage_cases (m := { m with pri := 0 }) backed argc argv with
    ⟨reason, fails⟩ | ⟨message, args, _, done, _⟩
  · simp only [fails]
    exact ⟨nofun, rfl, rfl, .refl _ _⟩
  · simp only [done]
    exact ⟨rfl, rfl, .refl _ _⟩

/-- Whatever a program passes to `debug_print`, the kernel gets a format that ends within its buffer, in which no
text of the program is a directive, and which asks for cells that are there. -/
theorem debugPrint_formats_are_safe (vDbgPrintEx : Bytes → List (Cell w) → Ω → Ω) (backed : mem.Backed m.host)
    (argc argv : Cell w) :
    ((∃ reason, (debugPrint mem vDbgPrintEx argc argv m).1 = .error (.error reason)) ∧
        (debugPrint mem vDbgPrintEx argc argv m).2.world = m.world) ∨
      (debugPrint mem vDbgPrintEx argc argv m).1 = .ok () ∧ ∃ message args count,
        (debugPrint mem vDbgPrintEx argc argv m).2.world = vDbgPrintEx message args m.world ∧
          message.length < messageSize ∧ Format message count ∧ count ≤ args.length ∧ args.length = maxArguments ∧
            count < argc.toNat := by
  unfold debugPrint
  rcases debugMessage_cases (m := { m with pri := 0 }) backed argc argv with
    ⟨reason, fails⟩ | ⟨message, args, count, done, limits⟩
  · simp only [fails]
    exact .inl ⟨⟨reason, rfl⟩, trivial⟩
  · simp only [done]
    exact .inr ⟨trivial, message, args, count, rfl, limits⟩

end

/-- The addresses of a stack with the two arguments `%d` and 7. -/
def printed : ContiguousBuffer := ⟨some ⟨0, 0⟩, 48⟩

def printing : Machine 64 (List Bytes) := ⟨0, 0, 0, 0, 0, 0, 0, 0, 0, [[16, 40, 37, 100, 0, 7]], []⟩

theorem debugPrint_formats_are_safe_of_number :
    ∃ message count, (debugPrint ⟨fun _ => none, printed.translate⟩ (fun message _ => (message :: ·)) 2 0 printing).2.world =
      [message] ∧ Format message count ∧ count < 2 := by
  have backed : (⟨fun _ => none, printed.translate⟩ : MemoryManager 64).Backed printing.host := by
    refine ⟨fun _ _ none_ => (nomatch none_), fun v p at_ => ?_⟩
    obtain ⟨within, _, ⟨rfl⟩, rfl⟩ := ContiguousBuffer.translate_eq_some_iff.mp at_
    exact (Nat.zero_add _).trans_lt (Nat.div_lt_of_lt_mul within)
  rcases debugPrint_formats_are_safe (fun message _ => (message :: ·)) backed 2 0 with
    ⟨⟨reason, fails⟩, _⟩ | ⟨_, message, args, count, world, _, format, _, _, fits⟩
  · cases fails
  · exact ⟨message, count, world, format, fits⟩

end SyncRGB.Amx
