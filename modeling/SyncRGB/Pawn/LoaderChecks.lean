import SyncRGB.Effect.Outcome
import SyncRGB.Pawn.Loader
import SyncRGB.Pawn.Windows

/-! Which images the loader takes, and that it touches nothing but the image and its allocation, with one exception. -/
namespace SyncRGB.Amx
open Effect HostMemory ByteCodec

/-! ### Images -/

/-- So many bytes as a number. -/
def field (buf : Bytes) (count offset : Nat) : Nat := leValue ((buf.drop offset).take count)

def headerOf (buf : Bytes) : Header where
  size := field buf 4 0
  magic := field buf 2 4
  fileVersion := field buf 1 6
  amxVersion := field buf 1 7
  flags := field buf 2 8
  defsize := field buf 2 10
  cod := field buf 4 12
  dat := field buf 4 16
  hea := field buf 4 20
  stp := field buf 4 24
  cip := field buf 4 28
  publics := field buf 4 32
  natives := field buf 4 36
  libraries := field buf 4 40
  pubvars := field buf 4 44
  tags := field buf 4 48

structure GoodHeader (bufSize : Nat) (h : Header) : Prop where
  magic : h.magic = expectedMagic
  size : h.size ≤ bufSize
  fileVersion : h.fileVersion = 11
  amxVersion : h.amxVersion ≤ amxVersionSupported
  overlay : h.flags &&& flagOverlay = 0
  sleep : h.flags &&& flagSleep = 0
  defsize : 8 ≤ h.defsize

/-- Elements of a size between two offsets, of an image of a size. -/
structure Section (bufSize beginOffset endOffset entrySize : Nat) : Prop where
  ordered : beginOffset ≤ endOffset
  inside : endOffset ≤ bufSize
  whole : entrySize ∣ endOffset - beginOffset

/-- A terminated text at an offset. -/
def Named (buf : Bytes) (offset : Nat) (name : Bytes) : Prop := (0 : UInt8) ∉ name ∧ name ++ [0] <+: buf.drop offset

/-- The elements of a section one by one. -/
structure Table {α : Type} (bufSize beginOffset endOffset entrySize : Nat) (entry : Nat → α → Prop) (xs : List α) :
    Prop where
  within : Section bufSize beginOffset endOffset entrySize
  count : xs.length = (endOffset - beginOffset) / entrySize
  each : ∀ i x, xs[i]? = some x → entry (beginOffset + i * entrySize) x

def SymbolEntry (buf : Bytes) (p : Nat) (s : Bytes × Cell 64) : Prop :=
  Named buf (field buf 4 (p + 4)) s.1 ∧ s.2 = BitVec.ofNat 64 (field buf 4 p)

/-- The first native of the name. -/
def NativeEntry {ν : Type} (table : List (Bytes × ν)) (buf : Bytes) (p : Nat) (callback : ν) : Prop :=
  ∃ name, Named buf (field buf 4 (p + 4)) name ∧ (table.find? (·.1 = name)).map Prod.snd = some callback

structure WellFormed {ν : Type} (table : List (Bytes × ν)) (buf : Bytes) (h : Header) (t : Tables ν) : Prop where
  long : headerSize ≤ buf.length
  header : h = headerOf buf
  good : GoodHeader buf.length h
  code : Section buf.length h.cod h.dat 8
  codeCount : t.codeCount = (h.dat - h.cod) / 8
  data : Section buf.length h.dat h.hea 8
  dataCount : t.dataCount = (h.hea - h.dat) / 8
  publics : Table buf.length h.publics h.natives h.defsize (SymbolEntry buf) t.publics
  natives : Table buf.length h.natives h.libraries h.defsize (NativeEntry table buf) t.natives
  libraries : h.libraries = h.pubvars
  pubvars : Table buf.length h.pubvars h.tags h.defsize (SymbolEntry buf) t.pubvars

/-! ### Reading -/

theorem inBounds_eq {size offset count : Nat} (within : offset + count ≤ size) : inBounds size offset count = .ok () :=
  if_pos within

theorem readLe_eq {buf : Bytes} {count offset : Nat} (within : offset + count ≤ buf.length) :
    readLe buf count offset = .ok (field buf count offset) := by
  rw [readLe, inBounds_eq within]
  rfl

theorem readHeader_eq {buf : Bytes} (long : headerSize ≤ buf.length) : readHeader buf = .ok (headerOf buf) := by
  have inside {count offset : Nat} (small : offset + count ≤ 60) : readLe buf count offset = .ok (field buf count offset) :=
    readLe_eq (small.trans long)
  rw [readHeader, if_neg (Nat.not_lt.mpr long)]
  simp only [inside (by decide : 0 + 4 ≤ 60), inside (by decide : 4 + 2 ≤ 60), inside (by decide : 6 + 1 ≤ 60),
    inside (by decide : 7 + 1 ≤ 60), inside (by decide : 8 + 2 ≤ 60), inside (by decide : 10 + 2 ≤ 60),
    inside (by decide : 12 + 4 ≤ 60), inside (by decide : 16 + 4 ≤ 60), inside (by decide : 20 + 4 ≤ 60),
    inside (by decide : 24 + 4 ≤ 60), inside (by decide : 28 + 4 ≤ 60), inside (by decide : 32 + 4 ≤ 60),
    inside (by decide : 36 + 4 ≤ 60), inside (by decide : 40 + 4 ≤ 60), inside (by decide : 44 + 4 ≤ 60),
    inside (by decide : 48 + 4 ≤ 60)]
  rfl

/-- Each check has its error, and none is left out. -/
theorem checkHeader_cases (bufSize : Nat) (h : Header) :
    checkHeader bufSize h = .ok () ∧ GoodHeader bufSize h ∨
      ¬ GoodHeader bufSize h ∧ ∃ e, checkHeader bufSize h = refuse e := by
  unfold checkHeader
  split_ifs with magic known size fileVersion amxVersion flags defsize
  · exact .inr ⟨fun good => magic good.magic, _, rfl⟩
  · exact .inr ⟨fun good => magic good.magic, _, rfl⟩
  · exact .inr ⟨fun good => absurd good.size (Nat.not_le.mpr size), _, rfl⟩
  · exact .inr ⟨fun good => fileVersion good.fileVersion, _, rfl⟩
  · exact .inr ⟨fun good => absurd good.amxVersion (Nat.not_le.mpr amxVersion), _, rfl⟩
  · exact .inr ⟨fun good => flags.elim (· good.overlay) (· good.sleep), _, rfl⟩
  · exact .inr ⟨fun good => absurd good.defsize (Nat.not_le.mpr defsize), _, rfl⟩
  · obtain ⟨overlay, sleep⟩ := not_or.mp flags
    exact .inl ⟨rfl, not_not.mp magic, Nat.not_lt.mp size, not_not.mp fileVersion, Nat.not_lt.mp amxVersion,
      not_not.mp overlay, not_not.mp sleep, Nat.not_lt.mp defsize⟩

theorem cstr_prefix {d : Bytes} (inside : strlen d < d.length) : cstr d ++ [0] <+: d := by
  have split : cstr d ++ d.dropWhile (· != 0) = d := List.takeWhile_append_dropWhile
  cases rest : d.dropWhile (· != 0) with
  | nil =>
      rw [rest, List.append_nil] at split
      exact absurd inside (Nat.not_lt.mpr (Nat.le_of_eq (congrArg List.length split.symm)))
  | cons b after =>
      have zero := List.head?_dropWhile_not (· != 0) d
      rw [rest] at zero
      obtain rfl : b = 0 := by simpa using zero
      rw [rest] at split
      exact ⟨after, (List.append_assoc _ _ _).trans split⟩

/-- The loop finds the end of a text exactly where there is one. -/
theorem nameAt_ok_iff {buf name : Bytes} {offset : Nat} : nameAt buf offset = .ok name ↔ Named buf offset name := by
  unfold nameAt Named
  constructor
  · intro found
    split_ifs at found with inside
    · cases found
      refine ⟨cstr_no_nul _, cstr_prefix ?_⟩
      rw [List.length_drop]
      omega
    · cases found
  · rintro ⟨plain, rest, split⟩
    have text : cstr (buf.drop offset) = name := by
      have terminated := cstr_terminated name rest
      rw [cstr_of_no_nul plain] at terminated
      rw [← split, List.append_assoc]
      exact terminated
    have length := congrArg List.length split
    rw [List.length_append, List.length_append, List.length_drop, List.length_singleton] at length
    rw [if_pos, text]
    · rfl
    · rw [strlen, text]
      omega

theorem nameAt_error {buf : Bytes} {offset : Nat} {e : LoadFault} (fails : nameAt buf offset = .error e) :
    e ≠ .outside := by
  unfold nameAt at fails
  split_ifs at fails
  · cases fails
  · cases fails
    nofun

/-! ### Sections -/

section
variable {α : Type} {entrySize : Nat} {fn : Nat → Load α} {offset : Nat}

theorem entries_ok_iff {count : Nat} {xs : List α} :
    entries entrySize fn offset count = .ok xs ↔
      xs.length = count ∧ ∀ i x, xs[i]? = some x → fn (offset + i * entrySize) = .ok x := by
  induction count generalizing offset xs with
  | zero =>
      constructor
      · intro done
        cases done
        exact ⟨rfl, fun _ _ none_ => nomatch none_⟩
      · rintro ⟨empty, _⟩
        rw [List.eq_nil_of_length_eq_zero empty]
        rfl
  | succ count ih =>
      have shift (i : Nat) : offset + entrySize + i * entrySize = offset + (i + 1) * entrySize := by
        rw [Nat.add_assoc, Nat.succ_mul, Nat.add_comm entrySize]
      rw [entries, except_bind_ok]
      constructor
      · rintro ⟨x, first, done⟩
        obtain ⟨ys, others, done⟩ := except_bind_ok.mp done
        cases done
        obtain ⟨length, each⟩ := ih.mp others
        refine ⟨congrArg (· + 1) length, fun i y at_ => ?_⟩
        cases i with
        | zero =>
            cases at_
            rwa [Nat.zero_mul]
        | succ i => exact shift i ▸ each i y at_
      · rintro ⟨length, each⟩
        cases xs with
        | nil => cases length
        | cons x xs =>
            refine ⟨x, ?_, except_bind_ok.mpr ⟨xs, ih.mpr ⟨Nat.succ.inj length, fun i y at_ => ?_⟩, rfl⟩⟩
            · have first := each 0 x rfl
              rwa [Nat.zero_mul] at first
            · exact (shift i).symm ▸ each (i + 1) y at_

theorem entries_error {count : Nat} {e : LoadFault} (fails : entries entrySize fn offset count = .error e) :
    ∃ i, i < count ∧ fn (offset + i * entrySize) = .error e := by
  induction count generalizing offset with
  | zero => cases fails
  | succ count ih =>
      rcases except_bind_error.mp fails with first | ⟨_, _, fails⟩
      · refine ⟨0, Nat.succ_pos count, ?_⟩
        rwa [Nat.zero_mul]
      · rcases except_bind_error.mp fails with others | ⟨_, _, done⟩
        · obtain ⟨i, small, here⟩ := ih others
          refine ⟨i + 1, Nat.succ_lt_succ small, ?_⟩
          rwa [Nat.succ_mul, Nat.add_comm _ entrySize, ← Nat.add_assoc]
        · cases done

variable {bufSize beginOffset endOffset : Nat}

theorem iterValarray_cases (bufSize beginOffset endOffset entrySize : Nat) (fn : Nat → Load α) :
    Section bufSize beginOffset endOffset entrySize ∧ iterValarray bufSize beginOffset endOffset entrySize fn =
        entries entrySize fn beginOffset ((endOffset - beginOffset) / entrySize) ∨
      ¬ Section bufSize beginOffset endOffset entrySize ∧
        iterValarray bufSize beginOffset endOffset entrySize fn = refuse .invalidFile := by
  unfold iterValarray
  split_ifs with first last shape
  · refine .inr ⟨fun within => ?_, rfl⟩
    exact absurd (within.ordered.trans within.inside) (Nat.not_le.mpr first)
  · exact .inr ⟨fun within => absurd within.inside (Nat.not_le.mpr last), rfl⟩
  · refine .inr ⟨fun within => ?_, rfl⟩
    rcases shape with backwards | rest
    · exact absurd within.ordered (Nat.not_le.mpr backwards)
    · exact rest (Nat.mod_eq_zero_of_dvd within.whole)
  · obtain ⟨ordered, whole⟩ := not_or.mp shape
    refine .inl ⟨⟨Nat.not_lt.mp ordered, Nat.not_lt.mp last, Nat.dvd_of_mod_eq_zero (not_not.mp whole)⟩, rfl⟩

/-- An element of a section is inside of it. -/
theorem Section.element (within : Section bufSize beginOffset endOffset entrySize) (wide : 8 ≤ entrySize) {i : Nat}
    (small : i < (endOffset - beginOffset) / entrySize) : beginOffset + i * entrySize + 8 ≤ bufSize := by
  have upTo : (i + 1) * entrySize ≤ endOffset - beginOffset := by
    rw [← Nat.div_mul_cancel within.whole]
    exact Nat.mul_le_mul_right _ small
  have ordered := within.ordered
  have inside := within.inside
  rw [Nat.succ_mul] at upTo
  omega

/-- A section whose elements are looked at one by one. -/
theorem iterValarray_ok_iff (entry : Nat → α → Prop) {xs : List α} (wide : 8 ≤ entrySize)
    (exactly : ∀ p x, p + 8 ≤ bufSize → (fn p = .ok x ↔ entry p x)) :
    iterValarray bufSize beginOffset endOffset entrySize fn = .ok xs ↔
      Table bufSize beginOffset endOffset entrySize entry xs := by
  rcases iterValarray_cases bufSize beginOffset endOffset entrySize fn with ⟨within, is_⟩ | ⟨outside, is_⟩
  · rw [is_, entries_ok_iff]
    have same (length : xs.length = (endOffset - beginOffset) / entrySize) (i : Nat) (x : α) (at_ : xs[i]? = some x) :
        fn (beginOffset + i * entrySize) = .ok x ↔ entry (beginOffset + i * entrySize) x := by
      refine exactly _ x (within.element wide ?_)
      exact length ▸ (List.getElem?_eq_some_iff.mp at_).1
    constructor
    · rintro ⟨length, each⟩
      exact ⟨within, length, fun i x at_ => (same length i x at_).mp (each i x at_)⟩
    · rintro ⟨_, length, each⟩
      exact ⟨length, fun i x at_ => (same length i x at_).mpr (each i x at_)⟩
  · rw [is_]
    exact iff_of_false nofun fun table => outside table.within

theorem iterValarray_error {e : LoadFault} (wide : 8 ≤ entrySize)
    (fine : ∀ p e, p + 8 ≤ bufSize → fn p = .error e → e ≠ .outside)
    (fails : iterValarray bufSize beginOffset endOffset entrySize fn = .error e) : e ≠ .outside := by
  rcases iterValarray_cases bufSize beginOffset endOffset entrySize fn with ⟨within, is_⟩ | ⟨_, is_⟩
  · obtain ⟨i, small, here⟩ := entries_error (is_ ▸ fails)
    exact fine _ e (within.element wide small) here
  · rw [is_] at fails
    cases fails
    nofun

end

section
variable {buf : Bytes} {p : Nat} (within : p + 8 ≤ buf.length)
include within

theorem readAddress_eq : readLe buf 4 p = .ok (field buf 4 p) := readLe_eq (by omega)

theorem readNameofs_eq : readLe buf 4 (p + 4) = .ok (field buf 4 (p + 4)) := readLe_eq (by omega)

theorem symbolAt_ok_iff {s : Bytes × Cell 64} : symbolAt buf p = .ok s ↔ SymbolEntry buf p s := by
  simp only [symbolAt, readAddress_eq within, readNameofs_eq within, bind, Except.bind]
  constructor
  · intro done
    obtain ⟨name, found, done⟩ := except_bind_ok.mp done
    cases done
    exact ⟨nameAt_ok_iff.mp found, rfl⟩
  · rintro ⟨named, address⟩
    exact except_bind_ok.mpr ⟨s.1, nameAt_ok_iff.mpr named, congrArg Except.ok (Prod.ext rfl address.symm)⟩

theorem symbolAt_error {e : LoadFault} (fails : symbolAt buf p = .error e) : e ≠ .outside := by
  simp only [symbolAt, readAddress_eq within, readNameofs_eq within, bind, Except.bind] at fails
  rcases except_bind_error.mp fails with first | ⟨_, _, done⟩
  · exact nameAt_error first
  · cases done

variable {ν : Type} {table : List (Bytes × ν)}

theorem nativeAt_ok_iff {callback : ν} : nativeAt table buf p = .ok callback ↔ NativeEntry table buf p callback := by
  simp only [nativeAt, readNameofs_eq within, bind, Except.bind]
  constructor
  · intro done
    obtain ⟨name, found, done⟩ := except_bind_ok.mp done
    cases first : table.find? (·.1 = name) with
    | none =>
        rw [first] at done
        cases done
    | some entry =>
        rw [first] at done
        cases done
        exact ⟨name, nameAt_ok_iff.mp found, congrArg (Option.map Prod.snd) first⟩
  · rintro ⟨name, named, known⟩
    refine except_bind_ok.mpr ⟨name, nameAt_ok_iff.mpr named, ?_⟩
    cases first : table.find? (·.1 = name) with
    | none =>
        rw [first] at known
        cases known
    | some entry =>
        rw [first] at known
        cases known
        rfl

theorem nativeAt_error {e : LoadFault} (fails : nativeAt table buf p = .error e) : e ≠ .outside := by
  simp only [nativeAt, readNameofs_eq within, bind, Except.bind] at fails
  rcases except_bind_error.mp fails with first | ⟨name, _, fails⟩
  · exact nameAt_error first
  · cases first : table.find? (·.1 = name) with
    | none =>
        rw [first] at fails
        cases fails
        nofun
    | some entry =>
        rw [first] at fails
        cases fails

end

section
variable {bufSize beginOffset endOffset : Nat}

theorem countValarray_ok_iff {n : Nat} : countValarray bufSize beginOffset endOffset 8 = .ok n ↔
    Section bufSize beginOffset endOffset 8 ∧ n = (endOffset - beginOffset) / 8 := by
  unfold countValarray
  constructor
  · intro done
    obtain ⟨xs, found, done⟩ := except_bind_ok.mp done
    cases done
    have units := (iterValarray_ok_iff (fun _ _ => True) (Nat.le_refl 8) fun _ _ _ => iff_of_true rfl trivial).mp found
    exact ⟨units.within, units.count⟩
  · rintro ⟨within, rfl⟩
    refine except_bind_ok.mpr ⟨List.replicate ((endOffset - beginOffset) / 8) (), ?_, ?_⟩
    · refine (iterValarray_ok_iff (fun _ _ => True) (Nat.le_refl 8) fun _ _ _ => iff_of_true rfl trivial).mpr ?_
      exact ⟨within, List.length_replicate, fun _ _ _ => trivial⟩
    · exact congrArg Except.ok List.length_replicate

theorem countValarray_error {e : LoadFault} (fails : countValarray bufSize beginOffset endOffset 8 = .error e) :
    e ≠ .outside := by
  rcases except_bind_error.mp fails with first | ⟨_, _, done⟩
  · exact iterValarray_error (Nat.le_refl 8) (fun _ _ _ done => by cases done) first
  · cases done

end

section
variable {ν : Type} {table : List (Bytes × ν)} {buf : Bytes} {h : Header} (wide : 8 ≤ h.defsize)
include wide

theorem readTables_error {e : LoadFault} (fails : readTables table buf h = .error e) : e ≠ .outside := by
  rcases except_bind_error.mp fails with first | ⟨_, _, fails⟩
  · exact countValarray_error first
  rcases except_bind_error.mp fails with first | ⟨_, _, fails⟩
  · exact countValarray_error first
  rcases except_bind_error.mp fails with first | ⟨_, _, fails⟩
  · exact iterValarray_error wide (fun _ _ inside => symbolAt_error inside) first
  rcases except_bind_error.mp fails with first | ⟨_, _, fails⟩
  · exact iterValarray_error wide (fun _ _ inside => nativeAt_error inside) first
  split_ifs at fails
  · cases fails
    nofun
  · rcases except_bind_error.mp fails with first | ⟨_, _, done⟩
    · exact iterValarray_error wide (fun _ _ inside => symbolAt_error inside) first
    · cases done

theorem readTables_ok_iff {t : Tables ν} (long : headerSize ≤ buf.length) (header : h = headerOf buf)
    (good : GoodHeader buf.length h) : readTables table buf h = .ok t ↔ WellFormed table buf h t := by
  have symbols {b e : Nat} {xs : List (Bytes × Cell 64)} :
      iterValarray buf.length b e h.defsize (symbolAt buf) = .ok xs ↔ Table buf.length b e h.defsize (SymbolEntry buf) xs :=
    iterValarray_ok_iff (SymbolEntry buf) wide fun _ _ inside => symbolAt_ok_iff inside
  have natives {b e : Nat} {xs : List ν} : iterValarray buf.length b e h.defsize (nativeAt table buf) = .ok xs ↔
      Table buf.length b e h.defsize (NativeEntry table buf) xs :=
    iterValarray_ok_iff (NativeEntry table buf) wide fun _ _ inside => nativeAt_ok_iff inside
  constructor
  · intro done
    obtain ⟨codeCount, code, done⟩ := except_bind_ok.mp done
    obtain ⟨dataCount, data, done⟩ := except_bind_ok.mp done
    obtain ⟨publics, functions, done⟩ := except_bind_ok.mp done
    obtain ⟨callbacks, resolved, done⟩ := except_bind_ok.mp done
    split_ifs at done with libraries
    · cases done
    · obtain ⟨pubvars, variables_, done⟩ := except_bind_ok.mp done
      cases done
      obtain ⟨codeSection, codeIs⟩ := countValarray_ok_iff.mp code
      obtain ⟨dataSection, dataIs⟩ := countValarray_ok_iff.mp data
      exact ⟨long, header, good, codeSection, codeIs, dataSection, dataIs, symbols.mp functions, natives.mp resolved,
        not_not.mp libraries, symbols.mp variables_⟩
  · intro wellFormed
    refine except_bind_ok.mpr ⟨_, countValarray_ok_iff.mpr ⟨wellFormed.code, wellFormed.codeCount⟩, ?_⟩
    refine except_bind_ok.mpr ⟨_, countValarray_ok_iff.mpr ⟨wellFormed.data, wellFormed.dataCount⟩, ?_⟩
    refine except_bind_ok.mpr ⟨_, symbols.mpr wellFormed.publics, ?_⟩
    refine except_bind_ok.mpr ⟨_, natives.mpr wellFormed.natives, ?_⟩
    rw [if_neg (not_not.mpr wellFormed.libraries)]
    exact except_bind_ok.mpr ⟨_, symbols.mpr wellFormed.pubvars, rfl⟩

end

/-! ### The allocation -/

theorem touchAll_eq {size elementSize offset count : Nat} (start : offset ≤ size) :
    touchAll size elementSize offset count =
      if offset + count * elementSize ≤ size then .ok () else .error .outside := by
  induction count generalizing offset with
  | zero =>
      rw [Nat.zero_mul, Nat.add_zero, if_pos start]
      rfl
  | succ count ih =>
      have shift : offset + elementSize + count * elementSize = offset + (count + 1) * elementSize := by
        rw [Nat.add_assoc, Nat.succ_mul, Nat.add_comm elementSize]
      by_cases first : offset + elementSize ≤ size
      · rw [touchAll, inBounds_eq first]
        exact (ih first).trans (by rw [shift])
      · have beyond : ¬ offset + (count + 1) * elementSize ≤ size := fun all =>
          first (((Nat.le_add_right _ _).trans_eq shift).trans all)
        rw [touchAll, inBounds, if_neg first, if_neg beyond]
        rfl

theorem fillSymbols_eq {size elementOffset stringOffset : Nat} {symbols : List (Bytes × Cell 64)}
    (elements : elementOffset + symbols.length * 16 ≤ size) (strings : stringOffset + namesSize symbols ≤ size) :
    fillSymbols size elementOffset stringOffset symbols = .ok (stringOffset + namesSize symbols) := by
  induction symbols generalizing elementOffset stringOffset with
  | nil => rfl
  | cons s symbols ih =>
      have sum : namesSize (s :: symbols) = s.1.length + 1 + namesSize symbols := rfl
      rw [List.length_cons] at elements
      rw [sum] at strings ⊢
      rw [fillSymbols, inBounds_eq (by omega), inBounds_eq (by omega)]
      refine (ih (by omega) (by omega)).trans ?_
      rw [Nat.add_assoc]

theorem le_alignUp (n : Nat) : n ≤ alignUp n := by
  unfold alignUp
  omega

/-- What the natives are counted with too much is room for a name, and none where there is at most one. -/
theorem alignUp_natives (n : Nat) : alignUp (n * 16) = alignUp (n * 8) + n / 2 * 16 := by
  unfold alignUp
  omega

section
variable {ν : Type} {table : List (Bytes × ν)} {buf : Bytes} {h : Header} {t : Tables ν}

/-- The loop over the data with the count of the code stays in the allocation. -/
def CodeFits (h : Header) (t : Tables ν) : Prop := dataOffset t + t.codeCount * 8 ≤ allocSize h t

instance (h : Header) (t : Tables ν) : Decidable (CodeFits h t) := inferInstanceAs (Decidable (_ ≤ _))

def stringsEnd (h : Header) (t : Tables ν) : Nat := stringsOffset h t + stringBufferSize t

theorem allocSize_eq (h : Header) (t : Tables ν) : allocSize h t = stringsEnd h t + t.natives.length / 2 * 16 := by
  have natives := alignUp_natives t.natives.length
  unfold allocSize stringsEnd stringsOffset
  omega

variable (wellFormed : WellFormed table buf h t)
include wellFormed

theorem WellFormed.codeBytes : h.dat - h.cod = t.codeCount * 8 := by
  rw [wellFormed.codeCount, Nat.div_mul_cancel wellFormed.code.whole]

theorem WellFormed.dataBytes : h.hea - h.dat = t.dataCount * 8 := by
  rw [wellFormed.dataCount, Nat.div_mul_cancel wellFormed.data.whole]

theorem fillAllocation_eq : fillAllocation buf.length h t =
    if CodeFits h t then .ok (stringsEnd h t) else .error .outside := by
  have code : dataOffset t = alignUp (t.codeCount * 8) := rfl
  have data : publicsOffset h t = dataOffset t + alignUp (dataAllocCount h t * 8) := rfl
  have publics : pubvarsOffset h t = publicsOffset h t + alignUp (t.publics.length * 16) := rfl
  have pubvars : nativesOffset h t = pubvarsOffset h t + alignUp (t.pubvars.length * 16) := rfl
  have natives : stringsOffset h t = nativesOffset h t + alignUp (t.natives.length * 8) := rfl
  have strings : stringsEnd h t = stringsOffset h t + (namesSize t.publics + namesSize t.pubvars) := rfl
  have total := allocSize_eq h t
  have counted : t.dataCount ≤ dataAllocCount h t := Nat.le_add_right _ _
  have codeUp := le_alignUp (t.codeCount * 8)
  have dataUp := le_alignUp (dataAllocCount h t * 8)
  have publicsUp := le_alignUp (t.publics.length * 16)
  have pubvarsUp := le_alignUp (t.pubvars.length * 16)
  have nativesUp := le_alignUp (t.natives.length * 8)
  have codeInside := wellFormed.code.inside
  have codeOrdered := wellFormed.code.ordered
  have dataInside := wellFormed.data.inside
  have dataOrdered := wellFormed.data.ordered
  have codeBytes := wellFormed.codeBytes
  have dataBytes := wellFormed.dataBytes
  rw [fillAllocation]
  simp only [inBounds_eq (show h.cod + (h.dat - h.cod) ≤ buf.length by omega),
    inBounds_eq (show 0 + (h.dat - h.cod) ≤ allocSize h t by omega),
    inBounds_eq (show h.dat + (h.hea - h.dat) ≤ buf.length by omega),
    inBounds_eq (show dataOffset t + (h.hea - h.dat) ≤ allocSize h t by omega),
    touchAll_eq (show 0 ≤ allocSize h t by omega), if_pos (show 0 + t.codeCount * 8 ≤ allocSize h t by omega),
    touchAll_eq (show dataOffset t ≤ allocSize h t by omega)]
  by_cases fits : CodeFits h t
  · rw [if_pos fits]
    have fits' : dataOffset t + t.codeCount * 8 ≤ allocSize h t := fits
    simp only [if_pos fits', touchAll_eq (show nativesOffset h t ≤ allocSize h t by omega),
      if_pos (show nativesOffset h t + t.natives.length * 8 ≤ allocSize h t by omega),
      fillSymbols_eq (show publicsOffset h t + t.publics.length * 16 ≤ allocSize h t by omega)
        (show stringsOffset h t + namesSize t.publics ≤ allocSize h t by omega), bind, Except.bind]
    rw [fillSymbols_eq (by omega) (by omega), strings, Nat.add_assoc]
  · have beyond : ¬ dataOffset t + t.codeCount * 8 ≤ allocSize h t := fits
    rw [if_neg fits]
    simp only [if_neg beyond]
    rfl

theorem dataAlloc_fits : FitsPage 64 5 (dataAllocCount h t) := by
  have hea : h.hea < 2 ^ 32 := by
    have small := leValue_lt ((buf.drop 20).take 4)
    have short : ((buf.drop 20).take 4).length ≤ 4 := List.length_take_le 4 _
    rw [wellFormed.header]
    exact small.trans_le (Nat.pow_le_pow_right (by decide) short)
  have bytes := wellFormed.dataBytes
  have rest : (h.stp + 2 ^ 32 - h.hea) % 2 ^ 32 < 2 ^ 32 := Nat.mod_lt _ (by decide)
  have page : pageSize 64 5 = 2 ^ 59 := rfl
  unfold FitsPage dataAllocCount
  rw [page]
  omega

omit wellFormed in
theorem map_empty (buf : Pointer) {size : Nat} (fits : FitsPage 64 5 size) :
    ∃ data va, (PagedBuffers.empty : PagedBuffers 64 5).map buf size = some (some (data, va)) := by
  by_cases some_ : size = 0
  · subst some_
    exact ⟨_, _, rfl⟩
  · have free : Mapping.none_ ∈ (PagedBuffers.empty : PagedBuffers 64 5).mappings :=
      List.mem_replicate.mpr ⟨by decide, rfl⟩
    rcases map_cases driver_pages (by decide) fits some_ with ⟨taken, _⟩ | ⟨i, data, _, _, _, mapped⟩
    · cases taken _ free
    · exact ⟨data, _, mapped⟩

end

/-- What the loader leaves behind the blocks of the host. -/
def loadedFrom {ν : Type} (host : Blocks (Cell 64)) (h : Header) (t : Tables ν) (data : PagedBuffers 64 5) (dat : Cell 64) :
    Loaded ν where
  code := ⟨some ⟨host.length, 0⟩, sizeBytes 64 t.codeCount⟩
  data := data
  cod := 0
  dat := dat
  stk := stackTop h t
  stp := stackTop h t
  hea := BitVec.ofNat 64 (t.dataCount * 8)
  main := mainOf h
  publics := t.publics
  pubvars := t.pubvars
  natives := t.natives

section
variable {ν : Type} {table : List (Bytes × ν)} {buf : Bytes} {h : Header} {t : Tables ν} {host : Blocks (Cell 64)}

/-- An image with one native at most ends with the names' buffer at the end of the allocation. -/
theorem setUp_eq {data : PagedBuffers 64 5} {dat : Cell 64}
    (mapped : PagedBuffers.empty.map ⟨host.length + 1, 0⟩ (dataAllocCount h t) = some (some (data, dat))) :
    setUp host h t (stringsEnd h t) =
      if 2 ≤ t.natives.length then .ok (loadedFrom host h t data dat) else refuse .unknown := by
  have first : setUp host h t (stringsEnd h t) =
      setUpRegisters h t (stringsEnd h t) ⟨some ⟨host.length, 0⟩, sizeBytes 64 t.codeCount⟩ 0
        (PagedBuffers.empty.map ⟨host.length + 1, 0⟩ (dataAllocCount h t)) := rfl
  have total := allocSize_eq h t
  rw [first, mapped, setUpRegisters]
  by_cases many : 2 ≤ t.natives.length
  · rw [if_pos many, if_neg (by omega)]
    rfl
  · rw [if_neg many, if_pos (by omega)]

theorem loadAllocated_eq (wellFormed : WellFormed table buf h t) : loadAllocated host buf h t =
    if CodeFits h t then
      setUp host h t (stringsEnd h t) >>= fun l => .ok (l, host ++ [codeCells buf h t, dataCells buf h t])
    else .error .outside := by
  rw [loadAllocated, fillAllocation_eq wellFormed]
  split_ifs with fits
  · rw [ok_bind]
    rfl
  · rw [error_bind]

/-- What becomes of an image that is well formed, and of one that is not. -/
theorem loaderInit_cases (pool : Nat → Bool) (table : List (Bytes × ν)) (host : Blocks (Cell 64)) (buf : Bytes) :
    (∃ h t, WellFormed table buf h t ∧
      loaderInit pool table host buf = if pool (allocSize h t) then loadAllocated host buf h t else refuse .unknown) ∨
    (¬ ∃ h t, WellFormed table buf h t) ∧ ∃ e, loaderInit pool table host buf = refuse e := by
  rw [loaderInit]
  by_cases long : headerSize ≤ buf.length
  · rw [readHeader_eq long, ok_bind]
    rcases checkHeader_cases buf.length (headerOf buf) with ⟨fine, good⟩ | ⟨bad, e, is_⟩
    · rw [fine, ok_bind, loadImage]
      have exactly (t : Tables ν) : readTables table buf (headerOf buf) = .ok t ↔ WellFormed table buf (headerOf buf) t :=
        readTables_ok_iff good.defsize long rfl good
      cases read : readTables table buf (headerOf buf) with
      | error e =>
          refine .inr ⟨?_, ?_⟩
          · rintro ⟨h, t, wellFormed⟩
            obtain rfl := wellFormed.header
            rw [(exactly t).mpr wellFormed] at read
            cases read
          · cases e with
            | error reason => exact ⟨reason, error_bind _ _⟩
            | outside => exact absurd rfl (readTables_error good.defsize read)
      | ok t => exact .inl ⟨headerOf buf, t, (exactly t).mp read, ok_bind _ _⟩
    · refine .inr ⟨?_, e, ?_⟩
      · rintro ⟨h, t, wellFormed⟩
        exact bad (wellFormed.header ▸ wellFormed.good)
      · rw [is_]
        exact error_bind _ _
  · refine .inr ⟨fun ⟨_, _, wellFormed⟩ => long wellFormed.long, .invalidFile, ?_⟩
    rw [readHeader, if_pos (Nat.not_le.mp long)]
    exact error_bind _ _

theorem WellFormed.unique {h' : Header} {t' : Tables ν} (wellFormed : WellFormed table buf h t)
    (wellFormed' : WellFormed table buf h' t') : h' = h ∧ t' = t := by
  obtain rfl := wellFormed.header
  obtain rfl := wellFormed'.header
  have exactly (t : Tables ν) : readTables table buf (headerOf buf) = .ok t ↔ WellFormed table buf (headerOf buf) t :=
    readTables_ok_iff wellFormed.good.defsize wellFormed.long rfl wellFormed.good
  refine ⟨rfl, ?_⟩
  have first := (exactly t).mpr wellFormed
  rw [(exactly t').mpr wellFormed'] at first
  exact Except.ok.inj first

theorem loaderInit_spec (pool : Nat → Bool) (table : List (Bytes × ν)) (host : Blocks (Cell 64)) (buf : Bytes) :
    (∀ l host', loaderInit pool table host buf = .ok (l, host') ↔ ∃ h t, WellFormed table buf h t ∧
      pool (allocSize h t) = true ∧ CodeFits h t ∧ 2 ≤ t.natives.length ∧ ∃ data dat,
        PagedBuffers.empty.map ⟨host.length + 1, 0⟩ (dataAllocCount h t) = some (some (data, dat)) ∧
          l = loadedFrom host h t data dat ∧ host' = host ++ [codeCells buf h t, dataCells buf h t]) ∧
      (loaderInit pool table host buf = .error .outside ↔ ∃ h t, WellFormed table buf h t ∧
        pool (allocSize h t) = true ∧ ¬ CodeFits h t) := by
  rcases loaderInit_cases pool table host buf with ⟨h, t, wellFormed, is_⟩ | ⟨bad, e, is_⟩
  · obtain ⟨data, dat, mapped⟩ := map_empty ⟨host.length + 1, 0⟩ (dataAlloc_fits wellFormed)
    have only {P : Header → Tables ν → Prop} : (∃ h' t', WellFormed table buf h' t' ∧ P h' t') ↔ P h t := by
      constructor
      · rintro ⟨h', t', wellFormed', holds⟩
        obtain ⟨rfl, rfl⟩ := wellFormed.unique wellFormed'
        exact holds
      · exact fun holds => ⟨h, t, wellFormed, holds⟩
    rw [is_, loadAllocated_eq wellFormed, setUp_eq mapped]
    simp only [only]
    by_cases allocated : pool (allocSize h t) = true
    · rw [if_pos allocated]
      by_cases fits : CodeFits h t
      · rw [if_pos fits]
        by_cases many : 2 ≤ t.natives.length
        · rw [if_pos many, ok_bind]
          refine ⟨fun l host' => ?_, iff_of_false nofun fun both => both.2 fits⟩
          constructor
          · intro same
            cases same
            exact ⟨allocated, fits, many, data, dat, mapped, rfl, rfl⟩
          · rintro ⟨_, _, _, data', dat', mapped', rfl, rfl⟩
            rw [mapped] at mapped'
            cases mapped'
            rfl
        · rw [if_neg many]
          exact ⟨fun _ _ => iff_of_false nofun fun all => many all.2.2.1, iff_of_false nofun fun both => both.2 fits⟩
      · rw [if_neg fits]
        exact ⟨fun _ _ => iff_of_false nofun fun all => fits all.2.1, iff_of_true rfl ⟨allocated, fits⟩⟩
    · rw [if_neg allocated]
      exact ⟨fun _ _ => iff_of_false nofun fun all => allocated all.1, iff_of_false nofun fun both => allocated both.1⟩
  · rw [is_]
    refine ⟨fun _ _ => iff_of_false nofun ?_, iff_of_false nofun ?_⟩
    · exact fun ⟨h, t, wellFormed, _⟩ => bad ⟨h, t, wellFormed⟩
    · exact fun ⟨h, t, wellFormed, _⟩ => bad ⟨h, t, wellFormed⟩

/-- An image is loaded exactly where it is well formed, its code is no longer than all that follows it in the
allocation, and it has two natives at least; the loader touches memory that is not there exactly where the code is
longer. -/
theorem images_loaded_exactly (pool : Nat → Bool) (table : List (Bytes × ν)) (host : Blocks (Cell 64)) (buf : Bytes) :
    ((∃ l host', loaderInit pool table host buf = .ok (l, host')) ↔ ∃ h t, WellFormed table buf h t ∧
      pool (allocSize h t) = true ∧ CodeFits h t ∧ 2 ≤ t.natives.length) ∧
      (∀ l host', loaderInit pool table host buf = .ok (l, host') → ∃ h t, WellFormed table buf h t ∧
        l.publics = t.publics ∧ l.pubvars = t.pubvars ∧ l.natives = t.natives ∧
          host' = host ++ [codeCells buf h t, dataCells buf h t]) ∧
      (loaderInit pool table host buf = .error .outside ↔ ∃ h t, WellFormed table buf h t ∧
        pool (allocSize h t) = true ∧ ¬ CodeFits h t) := by
  obtain ⟨loaded, outside⟩ := loaderInit_spec pool table host buf
  refine ⟨⟨?_, ?_⟩, ?_, outside⟩
  · rintro ⟨l, host', done⟩
    obtain ⟨h, t, wellFormed, allocated, fits, many, _⟩ := (loaded l host').mp done
    exact ⟨h, t, wellFormed, allocated, fits, many⟩
  · rintro ⟨h, t, wellFormed, allocated, fits, many⟩
    obtain ⟨data, dat, mapped⟩ := map_empty ⟨host.length + 1, 0⟩ (dataAlloc_fits wellFormed)
    exact ⟨_, _, (loaded _ _).mpr ⟨h, t, wellFormed, allocated, fits, many, data, dat, mapped, rfl, rfl⟩⟩
  · intro l host' done
    obtain ⟨h, t, wellFormed, _, _, _, data, dat, _, rfl, rfl⟩ := (loaded l host').mp done
    exact ⟨h, t, wellFormed, rfl, rfl, rfl, rfl⟩

end
end SyncRGB.Amx
