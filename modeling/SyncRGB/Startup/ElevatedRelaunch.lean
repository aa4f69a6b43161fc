import SyncRGB.ByteCodec.CodePage
import SyncRGB.ByteCodec.QuotedWords

/-! The parameters with which the program starts itself again with elevated rights, and what the started program reads
as its arguments. -/
namespace SyncRGB
open ByteCodec

namespace Startup

/-- `QuoteCommandLineArgument` behind the opening quote; the backslashes are counted in an `unsigned int`. -/
def quoteRest : UInt32 → Bytes → Bytes
  | backslashes, [] => List.replicate (backslashes * 2).toNat 92 ++ [34]
  | backslashes, ch :: arg =>
      if ch = 92 then quoteRest (backslashes + 1) arg
      else if ch = 34 then List.replicate (backslashes * 2 + 1).toNat 92 ++ ch :: quoteRest 0 arg
      else List.replicate backslashes.toNat 92 ++ ch :: quoteRest 0 arg

/-- One of the characters that `find_first_of` looks for. -/
def isMark (ch : UInt8) : Bool := ch = 32 || ch = 9 || ch = 34

def needsQuotes (arg : Bytes) : Bool := arg.any isMark

/-- `QuoteCommandLineArgument`. -/
def quoteCommandLineArgument (arg : Bytes) : Bytes := if needsQuotes arg then 34 :: quoteRest 0 arg else arg

/-- One argument more, behind a blank when there are parameters already. -/
def appendArgument (parameters arg : Bytes) : Bytes :=
  (if parameters = [] then parameters else parameters ++ [32]) ++ quoteCommandLineArgument arg

/-- The parameters that `RelaunchElevated` builds. -/
def relaunchParameters (argv : List Bytes) : Bytes :=
  argv.tail.foldl appendArgument []

/-- The parameters behind `MultiByteToWideACP`, as they are handed on. -/
def relaunchParametersW (page : CodePage) (argv : List Bytes) : List UInt16 := page.decode (relaunchParameters argv)

/-- The marks by which Windows splits a command line. -/
def windowsMarks : Marks UInt16 where
  isBlank ch := ch = 32 || ch = 9
  quote := 34
  backslash := 92
  quote_ne := by decide
  quote_not_blank := by decide

/-! ### Arguments in the code page -/

/-- A character beyond ASCII. Only its last byte may be that of a backslash. -/
structure Foreign (page : CodePage) (ch : Bytes) : Prop extends page.Character ch where
  first : ∀ b ∈ ch.head?, 128 ≤ b
  inner : ∀ b ∈ ch.dropLast, isMark b = false ∧ b ≠ 92
  last : ∀ b ∈ ch.getLast?, isMark b = false
  wideSome : page.wide ch ≠ []
  wideForeign : ∀ u ∈ page.wide ch, 128 ≤ u

def Letter (page : CodePage) (ch : Bytes) : Prop := (∃ b : UInt8, b < 128 ∧ ch = [b]) ∨ Foreign page ch

/-- Whole characters of the code page, as the runtime hands over the arguments. -/
def Text (page : CodePage) (arg : Bytes) : Prop :=
  ∃ chars : List Bytes, chars.flatten = arg ∧ ∀ ch ∈ chars, Letter page ch

/-- The last byte is that of a backslash. -/
def trails (ch : Bytes) : Bool := ch.getLast? = some 92

/-- After that many backslash bytes, no count in the text and none of the doubled ones wraps. -/
def CountsFit : Nat → List Bytes → Prop
  | n, [] => n < 2 ^ 31
  | n, ch :: chars =>
      if ch = [92] then CountsFit (n + 1) chars
      else if ch = [34] then n < 2 ^ 31 ∧ CountsFit 0 chars
      else n < 2 ^ 32 ∧ CountsFit (trails ch).toNat chars

/-- No run of backslash bytes that begins in a foreign character goes on to a quote or the end. -/
def RunsApart : Bool → List Bytes → Prop
  | trail, [] => trail = false
  | trail, ch :: chars =>
      if ch = [92] then RunsApart trail chars
      else if ch = [34] then trail = false ∧ RunsApart false chars
      else RunsApart (trails ch) chars

/-- The counted backslashes of a quoted argument fit. -/
def Counted (page : CodePage) (arg : Bytes) : Prop :=
  needsQuotes arg = true → CountsFit 0 (page.characters [] arg)

/-- An argument that comes back. -/
def Kept (page : CodePage) (arg : Bytes) : Prop :=
  arg ≠ [] ∧ Counted page arg ∧ (needsQuotes arg = true → RunsApart false (page.characters [] arg))

/-- What the quoted characters are converted to, behind that many backslashes of which the last byte of a foreign
character may be one more: the quotes double it with them. -/
def quotedWide (page : CodePage) : Bool → Nat → List Bytes → List UInt16
  | trail, n, [] => windowsMarks.backslashes (n * 2 + trail.toNat) ++ [34]
  | trail, n, ch :: chars =>
      if ch = [92] then quotedWide page trail (n + 1) chars
      else if ch = [34] then
        windowsMarks.backslashes (n * 2 + 1 + trail.toNat) ++ 34 :: quotedWide page false 0 chars
      else windowsMarks.backslashes n ++ (page.wide ch ++ quotedWide page (trails ch) 0 chars)

section
variable {page : CodePage}

theorem Letter.character {ch : Bytes} (letter : Letter page ch) : page.Character ch := by
  rcases letter with ⟨b, ascii, rfl⟩ | foreign
  · exact CodePage.character_ascii ascii
  · exact foreign.toCharacter

theorem wide_backslash : page.wide [92] = [windowsMarks.backslash] := (page.ascii 92 (by decide)).2

theorem wide_quote : page.wide [34] = [windowsMarks.quote] := (page.ascii 34 (by decide)).2

theorem toUInt16_ne {b c : UInt8} (other : b ≠ c) : b.toUInt16 ≠ c.toUInt16 := fun same =>
  other (UInt8.toUInt16_inj.mp same)

theorem Letter.wide_ne_nil {ch : Bytes} (letter : Letter page ch) : page.wide ch ≠ [] := by
  rcases letter with ⟨b, ascii, rfl⟩ | foreign
  · rw [(page.ascii b ascii).2]
    exact List.cons_ne_nil _ _
  · exact foreign.wideSome

theorem ne_of_foreign {u c : UInt16} (foreign : 128 ≤ u) (ascii : c < 128) : u ≠ c := by
  rintro rfl
  exact absurd ascii (UInt16.not_lt.mpr foreign)

/-- Other characters than backslashes and quotes have neither among their units. -/
theorem Letter.wide_bare {ch : Bytes} (letter : Letter page ch) (slash : ch ≠ [92]) (quote : ch ≠ [34]) :
    ∀ u ∈ page.wide ch, u ≠ windowsMarks.backslash ∧ u ≠ windowsMarks.quote := by
  rcases letter with ⟨b, ascii, rfl⟩ | foreign
  · intro u member
    rw [(page.ascii b ascii).2, List.mem_singleton] at member
    subst member
    exact ⟨toUInt16_ne (c := 92) fun same => slash (same ▸ rfl), toUInt16_ne (c := 34) fun same => quote (same ▸ rfl)⟩
  · intro u member
    have beyond := foreign.wideForeign u member
    exact ⟨ne_of_foreign beyond (by decide), ne_of_foreign beyond (by decide)⟩

theorem Letter.wide_plain {ch : Bytes} (letter : Letter page ch) (bare : needsQuotes ch = false) :
    windowsMarks.Plain (page.wide ch) := by
  rcases letter with ⟨b, ascii, rfl⟩ | foreign
  · intro u member
    rw [(page.ascii b ascii).2, List.mem_singleton] at member
    subst member
    simp only [needsQuotes, isMark, List.any_cons, List.any_nil, Bool.or_false, Bool.or_eq_false_iff,
      decide_eq_false_iff_not] at bare
    obtain ⟨⟨blank, tab⟩, quote⟩ := bare
    refine ⟨toUInt16_ne (c := 34) quote, ?_⟩
    simp only [windowsMarks, Bool.or_eq_false_iff, decide_eq_false_iff_not]
    exact ⟨toUInt16_ne (c := 32) blank, toUInt16_ne (c := 9) tab⟩
  · intro u member
    have beyond := foreign.wideForeign u member
    refine ⟨ne_of_foreign beyond (by decide), ?_⟩
    simp only [windowsMarks, Bool.or_eq_false_iff, decide_eq_false_iff_not]
    exact ⟨ne_of_foreign beyond (by decide), ne_of_foreign beyond (by decide)⟩

/-! ### The conversion of a quoted argument -/

theorem toNat_twice {n : Nat} (fits : n < 2 ^ 31) : (UInt32.ofNat n * 2).toNat = n * 2 := by
  have product : (UInt32.ofNat n * 2).toNat = n % 2 ^ 32 * 2 % 2 ^ 32 := by
    rw [UInt32.toNat_mul, UInt32.toNat_ofNat']
    rfl
  omega

theorem toNat_twice_succ {n : Nat} (fits : n < 2 ^ 31) : (UInt32.ofNat n * 2 + 1).toNat = n * 2 + 1 := by
  have sum : (UInt32.ofNat n * 2 + 1).toNat = (n * 2 + 1) % 2 ^ 32 := by
    rw [UInt32.toNat_add, toNat_twice fits]
    rfl
  omega

theorem ofNat_succ (n : Nat) : UInt32.ofNat n + 1 = UInt32.ofNat (n + 1) := by
  rw [UInt32.ofNat_add]
  rfl

theorem quoteRest_bare {front : Bytes} (bare : ∀ b ∈ front, b ≠ 92 ∧ b ≠ 34) (some_ : front ≠ []) (n : UInt32)
    (arg : Bytes) : quoteRest n (front ++ arg) = List.replicate n.toNat 92 ++ (front ++ quoteRest 0 arg) := by
  induction front generalizing n with
  | nil => exact absurd rfl some_
  | cons b front ih =>
      obtain ⟨here, later⟩ := List.forall_mem_cons.mp bare
      rw [List.cons_append, quoteRest, if_neg here.1, if_neg here.2, List.cons_append]
      congr 2
      cases front with
      | nil => rfl
      | cons c front => exact ih later (List.cons_ne_nil _ _) 0

/-- The bytes of a foreign character that has begun, and that a backslash byte ends. -/
def Begun (page : CodePage) : Bool → Bytes → Prop
  | false, begun => begun = []
  | true, begun => Foreign page (begun ++ [92])

def begunWide (page : CodePage) (trail : Bool) (begun : Bytes) : List UInt16 :=
  if trail then page.wide (begun ++ [92]) else []

/-- The first of the backslash bytes ends the character that has begun. -/
theorem decode_backslashes {trail : Bool} {begun : Bytes} (started : Begun page trail begun) (n : Nat)
    (bytes : Bytes) :
    page.decodeBehind begun (List.replicate (n + trail.toNat) 92 ++ bytes) =
      begunWide page trail begun ++ (windowsMarks.backslashes n ++ page.decode bytes) := by
  cases trail with
  | false =>
      obtain rfl : begun = [] := started
      exact CodePage.decode_replicate (b := 92) (by decide) n bytes
  | true =>
      have foreign : Foreign page (begun ++ [92]) := started
      rw [Bool.toNat_true, List.replicate_succ, List.cons_append,
        CodePage.decodeBehind_last foreign.toCharacter, CodePage.decode_replicate (by decide)]
      rfl

theorem isMark_quote {b : UInt8} (bare : isMark b = false) : b ≠ 34 := by
  rintro rfl
  cases bare

theorem Foreign.bare {ch : Bytes} (foreign : Foreign page ch) (apart : trails ch = false) :
    ∀ b ∈ ch, b ≠ 92 ∧ b ≠ 34 := by
  intro b member
  rcases List.eq_nil_or_concat' ch with rfl | ⟨front, last, rfl⟩
  · cases member
  · rcases List.mem_append.mp member with inside | at_
    · have bare := foreign.inner b (by simpa using inside)
      exact ⟨bare.2, isMark_quote bare.1⟩
    · obtain rfl := List.mem_singleton.mp at_
      refine ⟨?_, isMark_quote (foreign.last b (by simp))⟩
      rintro rfl
      simp [trails] at apart

theorem Foreign.begun {ch : Bytes} (foreign : Foreign page ch) (trail : trails ch = true) :
    ∃ begun, ch = begun ++ [92] ∧ begun ≠ [] ∧ ∀ b ∈ begun, b ≠ 92 ∧ b ≠ 34 := by
  rcases List.eq_nil_or_concat' ch with rfl | ⟨begun, last, rfl⟩
  · cases trail
  · obtain rfl : last = 92 := by simpa [trails] using trail
    refine ⟨begun, by simp, ?_, ?_⟩
    · rintro rfl
      exact absurd (foreign.first 92 rfl) (by decide)
    · intro b member
      have bare := foreign.inner b (by simpa using member)
      exact ⟨bare.2, isMark_quote bare.1⟩

theorem decode_quoteRest {chars : List Bytes} (letters : ∀ ch ∈ chars, Letter page ch) {trail : Bool} {begun : Bytes}
    (started : Begun page trail begun) (n : Nat) (fits : CountsFit (n + trail.toNat) chars) (more : Bytes) :
    page.decodeBehind begun (quoteRest (UInt32.ofNat (n + trail.toNat)) chars.flatten ++ more) =
      begunWide page trail begun ++ (quotedWide page trail n chars ++ page.decode more) := by
  induction chars generalizing trail begun n with
  | nil =>
      have twice : (n + trail.toNat) * 2 = n * 2 + trail.toNat + trail.toNat := by omega
      rw [List.flatten_nil, quoteRest, toNat_twice fits, twice, List.append_assoc,
        decode_backslashes started, List.singleton_append, CodePage.decode_ascii (by decide), quotedWide,
        List.append_assoc]
      rfl
  | cons ch chars ih =>
      obtain ⟨here, later⟩ := List.forall_mem_cons.mp letters
      rw [CountsFit] at fits
      rw [quotedWide, List.flatten_cons]
      by_cases slash : ch = [92]
      · subst slash
        rw [if_pos rfl] at fits ⊢
        rw [List.singleton_append, quoteRest, if_pos rfl, ofNat_succ]
        rw [Nat.add_right_comm] at fits ⊢
        exact ih later started (n + 1) fits
      · rw [if_neg slash] at fits ⊢
        by_cases quote : ch = [34]
        · subst quote
          rw [if_pos rfl] at fits ⊢
          have twice : (n + trail.toNat) * 2 + 1 = n * 2 + 1 + trail.toNat + trail.toNat := by omega
          have rest := ih later (show Begun page false [] from rfl) 0 fits.2
          rw [List.singleton_append, quoteRest, if_neg (by decide), if_pos rfl, toNat_twice_succ fits.1, twice,
            List.append_assoc, decode_backslashes started, List.cons_append,
            CodePage.decode_ascii (by decide), List.append_assoc, List.cons_append]
          congr 3
        · rw [if_neg quote] at fits ⊢
          have whole : (UInt32.ofNat (n + trail.toNat)).toNat = n + trail.toNat := by
            rw [UInt32.toNat_ofNat']
            exact Nat.mod_eq_of_lt fits.1
          have bare (rest : Bytes) (front : Bytes) (unmarked : ∀ b ∈ front, b ≠ 92 ∧ b ≠ 34) (some_ : front ≠ []) :
              page.decodeBehind begun (quoteRest (UInt32.ofNat (n + trail.toNat)) (front ++ rest) ++ more) =
                begunWide page trail begun ++ (windowsMarks.backslashes n ++
                  page.decode (front ++ (quoteRest 0 rest ++ more))) := by
            rw [quoteRest_bare unmarked some_, whole, List.append_assoc, decode_backslashes started,
              List.append_assoc]
          rw [List.append_assoc, List.append_assoc]
          cases trail_ : trails ch with
          | false =>
              have unmarked : ∀ b ∈ ch, b ≠ 92 ∧ b ≠ 34 := by
                rcases here with ⟨b, ascii, rfl⟩ | foreign
                · intro c member
                  obtain rfl := List.mem_singleton.mp member
                  exact ⟨fun same => slash (same ▸ rfl), fun same => quote (same ▸ rfl)⟩
                · exact foreign.bare trail_
              have some_ : ch ≠ [] := by
                rintro rfl
                exact absurd here.character.alone (by simp [CodePage.characters])
              rw [trail_] at fits
              rw [bare _ ch unmarked some_, CodePage.decode_character here.character]
              congr 3
              exact ih later (show Begun page false [] from rfl) 0 fits.2
          | true =>
              rcases here with ⟨b, ascii, rfl⟩ | foreign
              · exact absurd (show [b] = [92] by simpa [trails] using trail_) slash
              · obtain ⟨front, rfl, some_, unmarked⟩ := foreign.begun trail_
                have counted : quoteRest 0 (92 :: chars.flatten) = quoteRest (UInt32.ofNat (0 + 1)) chars.flatten :=
                  rfl
                rw [trail_] at fits
                rw [List.append_assoc, List.singleton_append, bare _ front unmarked some_, counted,
                  CodePage.decode_begun foreign.toCharacter]
                congr 2
                exact ih later (show Begun page true front from foreign) 0 fits.2

/-! ### Reading it again -/

variable {words : List (List UInt16)}

/-- Where no such run goes on to a quote, the characters are read as they were. -/
theorem read_quotedWide {chars : List Bytes} (letters : ∀ ch ∈ chars, Letter page ch) {trail : Bool}
    (apart : RunsApart trail chars) (text : List UInt16) (n : Nat) :
    windowsMarks.read ⟨words, some (text, 0), true⟩ (quotedWide page trail n chars) =
      ⟨words, some (text ++ windowsMarks.backslashes n ++ chars.flatMap page.wide, 0), false⟩ := by
  induction chars generalizing trail text n with
  | nil =>
      obtain rfl : trail = false := apart
      refine (Marks.read_even text [] n).trans ?_
      rw [List.flatMap_nil, List.append_nil]
      rfl
  | cons ch chars ih =>
      obtain ⟨here, later⟩ := List.forall_mem_cons.mp letters
      rw [RunsApart] at apart
      rw [quotedWide, List.flatMap_cons]
      by_cases slash : ch = [92]
      · subst slash
        rw [if_pos rfl] at apart ⊢
        rw [ih later apart text (n + 1), Marks.backslashes_succ, wide_backslash]
        simp only [List.append_assoc]
      · rw [if_neg slash] at apart ⊢
        by_cases quote : ch = [34]
        · subst quote
          rw [if_pos rfl] at apart ⊢
          obtain ⟨rfl, apart⟩ := apart
          refine (Marks.read_odd text _ n).trans ?_
          rw [ih later apart _ 0, wide_quote]
          simp only [List.append_assoc]
          rfl
        · rw [if_neg quote] at apart ⊢
          rw [Marks.read_quoted_run (here.wide_bare slash quote) here.wide_ne_nil, ih later apart _ 0]
          simp only [List.append_assoc]
          rfl

variable (words) in
/-- Where one does, the word that is read begins in another way. -/
theorem read_quotedWide_apart {chars : List Bytes} (letters : ∀ ch ∈ chars, Letter page ch) {trail : Bool}
    (runs : ¬ RunsApart trail chars) (text : List UInt16) (n : Nat) :
    ∃ front, Marks.Begins (windowsMarks.read ⟨words, some (text, 0), true⟩ (quotedWide page trail n chars))
        words.length front ∧
      ¬ front <+: text ++ windowsMarks.backslashes n ++ chars.flatMap page.wide := by
  induction chars generalizing trail text n with
  | nil =>
      obtain rfl : trail = true := by simpa [RunsApart] using runs
      refine ⟨text ++ windowsMarks.backslashes n ++ [34], ?_, ?_⟩
      · have closing : quotedWide page true n [] = windowsMarks.backslashes (n * 2 + 1) ++ [windowsMarks.quote] := rfl
        rw [closing, Marks.read_odd text [] n]
        exact .inr ⟨rfl, _, _, rfl, List.prefix_rfl⟩
      · intro before
        have length := before.length_le
        simp at length
  | cons ch chars ih =>
      obtain ⟨here, later⟩ := List.forall_mem_cons.mp letters
      rw [RunsApart] at runs
      rw [quotedWide, List.flatMap_cons]
      by_cases slash : ch = [92]
      · subst slash
        rw [if_pos rfl] at runs ⊢
        obtain ⟨front, begins, other⟩ := ih later runs text (n + 1)
        refine ⟨front, begins, ?_⟩
        rw [Marks.backslashes_succ] at other
        rw [wide_backslash]
        simpa only [List.append_assoc] using other
      · rw [if_neg slash] at runs ⊢
        by_cases quote : ch = [34]
        · subst quote
          rw [if_pos rfl] at runs ⊢
          cases trail with
          | false =>
              obtain ⟨front, begins, other⟩ := ih later (fun apart => runs ⟨rfl, apart⟩)
                (text ++ windowsMarks.backslashes n ++ [windowsMarks.quote]) 0
              refine ⟨front, ?_, ?_⟩
              · exact (Marks.read_odd text _ n).symm ▸ begins
              · rw [wide_quote]
                rw [Marks.backslashes_zero, List.append_nil] at other
                simpa only [List.append_assoc] using other
          | true =>
              have doubled : n * 2 + 1 + true.toNat = (n + 1) * 2 := by
                rw [Bool.toNat_true, Nat.succ_mul]
              refine ⟨text ++ windowsMarks.backslashes (n + 1), ?_, ?_⟩
              · rw [doubled, show (34 : UInt16) = windowsMarks.quote from rfl, Marks.read_even text _ (n + 1)]
                exact Marks.begins_read windowsMarks (.inr ⟨rfl, _, _, rfl, List.prefix_rfl⟩) _
              · rw [wide_quote, Marks.backslashes_succ, ← List.append_assoc, List.prefix_append_right_inj]
                intro before
                exact absurd (List.cons_prefix_cons.mp before).1 (by decide)
        · rw [if_neg quote] at runs ⊢
          obtain ⟨front, begins, other⟩ := ih later runs (text ++ windowsMarks.backslashes n ++ page.wide ch) 0
          refine ⟨front, ?_, ?_⟩
          · rwa [Marks.read_quoted_run (here.wide_bare slash quote) here.wide_ne_nil]
          · rw [Marks.backslashes_zero, List.append_nil] at other
            simpa only [List.append_assoc] using other

/-- Characters that need no quotes are read as they are. -/
theorem flatMap_plain {chars : List Bytes} (letters : ∀ ch ∈ chars, Letter page ch)
    (bare : needsQuotes chars.flatten = false) : windowsMarks.Plain (chars.flatMap page.wide) := by
  intro u member
  obtain ⟨ch, inside, unit_⟩ := List.mem_flatMap.mp member
  refine (letters ch inside).wide_plain ?_ u unit_
  rw [needsQuotes, List.any_eq_false] at bare ⊢
  exact fun b at_ => bare b (List.mem_flatten.mpr ⟨ch, inside, at_⟩)

theorem flatMap_wide_ne_nil {chars : List Bytes} (letters : ∀ ch ∈ chars, Letter page ch)
    (some_ : chars.flatten ≠ []) : chars.flatMap page.wide ≠ [] := by
  cases chars with
  | nil => exact absurd rfl some_
  | cons ch chars =>
      have first := (letters ch List.mem_cons_self).wide_ne_nil
      rw [List.flatMap_cons]
      simp [first]

/-- The characters of an argument. -/
theorem Text.letters {arg : Bytes} (text : Text page arg) :
    (∀ ch ∈ page.characters [] arg, Letter page ch) ∧ (page.characters [] arg).flatten = arg ∧
      ∀ more, page.decode (arg ++ more) = (page.characters [] arg).flatMap page.wide ++ page.decode more := by
  obtain ⟨chars, rfl, letters⟩ := text
  have whole : ∀ ch ∈ chars, page.Character ch := fun ch inside => (letters ch inside).character
  rw [CodePage.characters_flatten whole]
  exact ⟨letters, rfl, CodePage.decode_flatten whole⟩

theorem Text.decode {arg : Bytes} (text : Text page arg) :
    page.Complete arg ∧ page.decode arg = (page.characters [] arg).flatMap page.wide :=
  CodePage.complete_of_decode text.letters.2.2

theorem decode_quoted {arg : Bytes} (text : Text page arg) (counted : Counted page arg)
    (marked : needsQuotes arg = true) :
    page.Complete (quoteCommandLineArgument arg) ∧
      page.decode (quoteCommandLineArgument arg) = 34 :: quotedWide page false 0 (page.characters [] arg) := by
  obtain ⟨letters, flat, -⟩ := text.letters
  apply CodePage.complete_of_decode
  intro more
  have rest := decode_quoteRest letters (show Begun page false [] from rfl) 0 (counted marked) more
  rw [flat] at rest
  rw [quoteCommandLineArgument, if_pos marked, List.cons_append, CodePage.decode_ascii (by decide)]
  exact congrArg _ rest

theorem complete_quoted {arg : Bytes} (text : Text page arg) (counted : Counted page arg) :
    page.Complete (quoteCommandLineArgument arg) := by
  by_cases marked : needsQuotes arg = true
  · exact (decode_quoted text counted marked).1
  · rw [quoteCommandLineArgument, if_neg marked]
    exact text.decode.1

theorem read_opened (units : List UInt16) :
    windowsMarks.read ⟨words, none, false⟩ (34 :: units) = windowsMarks.read ⟨words, some ([], 0), true⟩ units := by
  have opened : windowsMarks.step ⟨words, none, false⟩ 34 = ⟨words, some ([], 0), true⟩ := Marks.step_opening_quote
  rw [Marks.read_cons, opened]

variable (words) in
/-- A kept argument is read as a word of its own. -/
theorem read_kept {arg : Bytes} (text : Text page arg) (kept : Kept page arg) :
    windowsMarks.spelled (windowsMarks.read ⟨words, none, false⟩ (page.decode (quoteCommandLineArgument arg))) =
        words ++ [page.decode arg] ∧
      (windowsMarks.read ⟨words, none, false⟩ (page.decode (quoteCommandLineArgument arg))).quoted = false := by
  obtain ⟨some_, counted, apart⟩ := kept
  obtain ⟨letters, flat, -⟩ := text.letters
  by_cases marked : needsQuotes arg = true
  · rw [(decode_quoted text counted marked).2, read_opened, read_quotedWide letters (apart marked), text.decode.2]
    exact ⟨by simp [Marks.spelled], rfl⟩
  · have bare : needsQuotes (page.characters [] arg).flatten = false := by
      rw [flat]
      exact Bool.not_eq_true _ ▸ marked
    have plain := flatMap_plain letters bare
    have units := flatMap_wide_ne_nil letters (flat.symm ▸ some_)
    rw [quoteCommandLineArgument, if_neg marked, text.decode.2, Marks.read_begin plain units]
    exact Marks.spelled_read_plain plain [] 0

variable (words) in
/-- Any other argument that is not empty begins a word that is not its own. -/
theorem read_not_kept {arg : Bytes} (text : Text page arg) (counted : Counted page arg) (some_ : arg ≠ [])
    (lost : ¬ Kept page arg) :
    ∃ front, Marks.Begins (windowsMarks.read ⟨words, none, false⟩ (page.decode (quoteCommandLineArgument arg)))
        words.length front ∧ ¬ front <+: page.decode arg := by
  rw [Kept, not_and, not_and, Classical.not_imp] at lost
  obtain ⟨marked, runs⟩ := lost some_ counted
  obtain ⟨front, begins, other⟩ := read_quotedWide_apart words text.letters.1 runs [] 0
  refine ⟨front, ?_, ?_⟩
  · rwa [(decode_quoted text counted marked).2, read_opened]
  · rw [text.decode.2]
    exact other

end

/-! ### All the arguments -/

/-- Parameters that end with a character and outside of quotes. -/
structure Between (page : CodePage) (parameters : Bytes) : Prop where
  complete : page.Complete parameters
  closed : (windowsMarks.read ⟨[], none, false⟩ (page.decode parameters)).quoted = false

/-- The words of the parameters. -/
def wordsOf (page : CodePage) (parameters : Bytes) : List (List UInt16) := windowsMarks.split (page.decode parameters)

section
variable {page : CodePage} {parameters : Bytes}

theorem between_nil : Between page [] := ⟨fun _ => rfl, rfl⟩

/-- A blank ends the word before it. -/
theorem read_blank (between : Between page parameters) (units : List UInt16) :
    windowsMarks.read ⟨[], none, false⟩ (page.decode parameters ++ 32 :: units) =
      windowsMarks.read ⟨wordsOf page parameters, none, false⟩ units := by
  rw [Marks.read_append, wordsOf, Marks.split]
  rcases run : windowsMarks.read ⟨[], none, false⟩ (page.decode parameters) with ⟨words, word, quoted⟩
  have closed := between.closed
  rw [run] at closed
  subst closed
  have blank : windowsMarks.step ⟨words, word, false⟩ 32 =
      ⟨windowsMarks.spelled ⟨words, word, false⟩, none, false⟩ :=
    Marks.step_blank word (by decide) (by decide)
  rw [Marks.read_cons, blank]

theorem appendArgument_some (some_ : parameters ≠ []) (arg : Bytes) :
    appendArgument parameters arg = parameters ++ 32 :: quoteCommandLineArgument arg := by
  rw [appendArgument, if_neg some_, List.append_assoc]
  rfl

/-- An argument more, and whatever is behind it. -/
theorem read_appended (between : Between page parameters) (arg more : Bytes) :
    windowsMarks.read ⟨[], none, false⟩ (page.decode (appendArgument parameters arg ++ more)) =
      windowsMarks.read ⟨wordsOf page parameters, none, false⟩
        (page.decode (quoteCommandLineArgument arg ++ more)) := by
  by_cases first : parameters = []
  · subst first
    rfl
  · rw [appendArgument_some first, List.append_assoc, between.complete, List.cons_append,
      CodePage.decode_ascii (by decide)]
    exact read_blank between _

theorem complete_appended (between : Between page parameters) {arg : Bytes} (text : Text page arg)
    (counted : Counted page arg) : page.Complete (appendArgument parameters arg) := by
  have last := complete_quoted text counted
  by_cases first : parameters = []
  · subst first
    exact last
  · rw [appendArgument_some first]
    exact between.complete.append ((CodePage.complete_ascii (b := 32) (by decide)).append last)

/-- What the later arguments add stands behind. -/
theorem foldl_appendArgument (args : List Bytes) (parameters : Bytes) :
    ∃ more, args.foldl appendArgument parameters = parameters ++ more := by
  induction args generalizing parameters with
  | nil => exact ⟨[], (List.append_nil _).symm⟩
  | cons arg args ih =>
      obtain ⟨more, rest⟩ := ih (appendArgument parameters arg)
      rw [List.foldl_cons, rest]
      by_cases first : parameters = []
      · subst first
        exact ⟨_, rfl⟩
      · rw [appendArgument_some first, List.append_assoc]
        exact ⟨_, rfl⟩

/-- Later arguments leave the words before them alone. -/
theorem wordsOf_prefix (between : Between page parameters) (args : List Bytes) :
    wordsOf page parameters <+: wordsOf page (args.foldl appendArgument parameters) := by
  cases args with
  | nil => exact List.prefix_rfl
  | cons arg args =>
      obtain ⟨more, rest⟩ := foldl_appendArgument args (appendArgument parameters arg)
      have read := read_appended between arg more
      conv_rhs => rw [List.foldl_cons, rest, wordsOf, Marks.split, read]
      exact Marks.words_prefix_spelled ⟨wordsOf page parameters, none, false⟩ _

theorem kept_appended (between : Between page parameters) {arg : Bytes} (text : Text page arg)
    (kept : Kept page arg) :
    wordsOf page (appendArgument parameters arg) = wordsOf page parameters ++ [page.decode arg] ∧
      Between page (appendArgument parameters arg) := by
  have read := read_appended between arg []
  rw [List.append_nil, List.append_nil] at read
  obtain ⟨word, closed⟩ := read_kept (wordsOf page parameters) text kept
  refine ⟨?_, complete_appended between text kept.2.1, ?_⟩
  · rw [← word, ← read]
    rfl
  · rw [read]
    exact closed

/-- An argument that is not kept leaves a word that is not its own where its own had to be. -/
theorem not_kept_appended (between : Between page parameters) {arg : Bytes} (text : Text page arg)
    (counted : Counted page arg) (some_ : arg ≠ []) (lost : ¬ Kept page arg) (args : List Bytes) :
    ∃ front w, (wordsOf page (args.foldl appendArgument (appendArgument parameters arg)))[
        (wordsOf page parameters).length]? = some w ∧ front <+: w ∧ ¬ front <+: page.decode arg := by
  obtain ⟨more, rest⟩ := foldl_appendArgument args (appendArgument parameters arg)
  obtain ⟨front, begins, other⟩ := read_not_kept (wordsOf page parameters) text counted some_ lost
  have later := Marks.begins_read windowsMarks begins (page.decode more)
  rw [← Marks.read_append, ← complete_quoted text counted more, ← read_appended between, ← rest] at later
  obtain ⟨w, at_, before⟩ := Marks.begins_spelled later
  exact ⟨front, w, at_, before, other⟩

theorem empty_appended (between : Between page parameters) :
    wordsOf page (appendArgument parameters []) = wordsOf page parameters ∧
      Between page (appendArgument parameters []) := by
  have text : Text page [] := ⟨[], rfl, by simp⟩
  have counted : Counted page [] := fun marked => absurd marked (by decide)
  have read := read_appended between [] []
  rw [List.append_nil] at read
  refine ⟨?_, complete_appended between text counted, ?_⟩
  · rw [wordsOf, Marks.split, read]
    exact List.append_nil _
  · rw [read]
    rfl

/-- No later argument puts an empty word where an empty argument would have to be. -/
theorem next_word_ne_nil {args : List Bytes} (texts : ∀ arg ∈ args, Text page arg)
    (counted : ∀ arg ∈ args, Counted page arg) (between : Between page parameters) :
    (wordsOf page (args.foldl appendArgument parameters))[(wordsOf page parameters).length]? ≠ some [] := by
  induction args generalizing parameters with
  | nil =>
      rw [List.foldl_nil, List.getElem?_eq_none (Nat.le_refl _)]
      exact Option.some_ne_none _ |>.symm
  | cons arg args ih =>
      obtain ⟨text, laterTexts⟩ := List.forall_mem_cons.mp texts
      obtain ⟨here, laterCounted⟩ := List.forall_mem_cons.mp counted
      rw [List.foldl_cons]
      by_cases empty : arg = []
      · subst empty
        obtain ⟨same, between⟩ := empty_appended between
        rw [← same]
        exact ih laterTexts laterCounted between
      · by_cases kept : Kept page arg
        · obtain ⟨words, between⟩ := kept_appended between text kept
          have before := wordsOf_prefix between args
          rw [words] at before
          obtain ⟨later, all⟩ := before
          rw [← all, List.append_assoc, List.getElem?_append_right (Nat.le_refl _), Nat.sub_self]
          intro same
          obtain ⟨letters, flat, -⟩ := text.letters
          rw [text.decode.2] at same
          exact flatMap_wide_ne_nil letters (flat.symm ▸ empty) (Option.some.inj same)
        · obtain ⟨front, w, at_, before, other⟩ := not_kept_appended between text here empty kept args
          rw [at_]
          intro same
          obtain rfl := Option.some.inj same
          rw [List.prefix_nil.mp before] at other
          exact other List.nil_prefix

theorem words_of_kept {args : List Bytes} (texts : ∀ arg ∈ args, Text page arg) (kept : ∀ arg ∈ args, Kept page arg)
    (between : Between page parameters) :
    wordsOf page (args.foldl appendArgument parameters) = wordsOf page parameters ++ args.map page.decode := by
  induction args generalizing parameters with
  | nil => exact (List.append_nil _).symm
  | cons arg args ih =>
      obtain ⟨text, texts⟩ := List.forall_mem_cons.mp texts
      obtain ⟨here, kept⟩ := List.forall_mem_cons.mp kept
      obtain ⟨words, between⟩ := kept_appended between text here
      rw [List.foldl_cons, ih texts kept between, words, List.append_assoc]
      rfl

theorem kept_of_words {args : List Bytes} (texts : ∀ arg ∈ args, Text page arg)
    (counted : ∀ arg ∈ args, Counted page arg) (between : Between page parameters)
    (words : wordsOf page (args.foldl appendArgument parameters) =
      wordsOf page parameters ++ args.map page.decode) :
    ∀ arg ∈ args, Kept page arg := by
  induction args generalizing parameters with
  | nil => exact fun _ inside => absurd inside List.not_mem_nil
  | cons arg args ih =>
      obtain ⟨text, laterTexts⟩ := List.forall_mem_cons.mp texts
      obtain ⟨here, laterCounted⟩ := List.forall_mem_cons.mp counted
      have own : (wordsOf page (args.foldl appendArgument (appendArgument parameters arg)))[
          (wordsOf page parameters).length]? = some (page.decode arg) := by
        rw [List.foldl_cons] at words
        rw [words, List.getElem?_append_right (Nat.le_refl _), Nat.sub_self]
        rfl
      have some_ : arg ≠ [] := by
        rintro rfl
        obtain ⟨same, between⟩ := empty_appended between
        rw [← same] at own
        exact next_word_ne_nil laterTexts laterCounted between own
      have kept : Kept page arg := by
        by_contra lost
        obtain ⟨front, w, at_, before, other⟩ := not_kept_appended between text here some_ lost args
        rw [own] at at_
        cases at_
        exact other before
      obtain ⟨more, between⟩ := kept_appended between text kept
      refine List.forall_mem_cons.mpr ⟨kept, ih laterTexts laterCounted between ?_⟩
      rw [more, List.append_assoc]
      exact words

/-- The started program reads the arguments that the first one was given if none of them is empty, and in those with a
blank or a quote the counts of the backslashes fit and no run of them that begins in a foreign character goes on to a
quote or the end; and, when the counts fit, only then. -/
theorem relaunch_keeps_arguments_iff (page : CodePage) (argv : List Bytes)
    (texts : ∀ arg ∈ argv.tail, Text page arg) :
    ((∀ arg ∈ argv.tail, Kept page arg) →
        windowsMarks.split (relaunchParametersW page argv) = argv.tail.map page.decode) ∧
      ((∀ arg ∈ argv.tail, Counted page arg) →
        windowsMarks.split (relaunchParametersW page argv) = argv.tail.map page.decode →
        ∀ arg ∈ argv.tail, Kept page arg) :=
  ⟨fun kept => words_of_kept texts kept between_nil,
    fun counted words => kept_of_words texts counted between_nil words⟩

end

/-! ### Code page 932 -/

/-- The Japanese code page, with the characters 表 and ソ, whose last bytes are that of a backslash. -/
def japanese : CodePage where
  whole ch := match ch with
    | [b] => b < 0x81 || (0xA0 ≤ b && b < 0xE0) || 0xFD ≤ b
    | _ => true
  wide ch :=
    if ch = [0x95, 0x5C] then [0x8868]
    else if ch = [0x83, 0x5C] then [0x30BD]
    else match ch with
      | [b] => if b < 0x80 then [b.toUInt16] else if 0xA1 ≤ b && b < 0xE0 then [b.toUInt16 + 0xFEC0] else [0x30FB]
      | _ => [0x30FB]
  ascii b ascii := by
    constructor
    · have first : b < 0x81 := UInt8.lt_trans ascii (by decide)
      show (decide (b < 0x81) || _ || _) = true
      rw [decide_eq_true first, Bool.true_or, Bool.true_or]
    · rw [if_neg (by simp), if_neg (by simp)]
      exact if_pos ascii

theorem foreign_japanese {lead : UInt8} (one : lead = 0x95 ∨ lead = 0x83) : Foreign japanese [lead, 0x5C] := by
  have last : ∀ b ∈ [lead, 0x5C].getLast?, isMark b = false := by
    rintro b ⟨⟩
    rfl
  rcases one with rfl | rfl
  · refine ⟨⟨rfl, rfl⟩, ?_, List.forall_mem_singleton.mpr ⟨rfl, by decide⟩, last, by decide,
      List.forall_mem_singleton.mpr (by decide)⟩
    rintro b ⟨⟩
    decide
  · refine ⟨⟨rfl, rfl⟩, ?_, List.forall_mem_singleton.mpr ⟨rfl, by decide⟩, last, by decide,
      List.forall_mem_singleton.mpr (by decide)⟩
    rintro b ⟨⟩
    decide

/-- The arguments `a\\"b c\`, 表 and ` ソa` come back. -/
theorem relaunch_keeps_japanese :
    windowsMarks.split (relaunchParametersW japanese
        [[82], [97, 92, 92, 34, 98, 32, 99, 92], [0x95, 0x5C], [32, 0x83, 0x5C, 97]]) =
      [[97, 92, 92, 34, 98, 32, 99, 92], [0x8868], [32, 0x30BD, 97]] := by
  have texts : ∀ arg ∈ [[82], [97, 92, 92, 34, 98, 32, 99, 92], [0x95, 0x5C], [32, 0x83, 0x5C, 97]].tail,
      Text japanese arg := by
    rw [List.tail_cons, List.forall_mem_cons, List.forall_mem_cons, List.forall_mem_singleton]
    refine ⟨⟨[[97], [92], [92], [34], [98], [32], [99], [92]], rfl, ?_⟩, ⟨[[0x95, 0x5C]], rfl, ?_⟩,
      ⟨[[32], [0x83, 0x5C], [97]], rfl, ?_⟩⟩
    · simp [Letter]
    · simp [Letter, foreign_japanese]
    · simp [Letter, foreign_japanese]
  have first : japanese.characters [] [97, 92, 92, 34, 98, 32, 99, 92] =
      [[97], [92], [92], [34], [98], [32], [99], [92]] := rfl
  have third : japanese.characters [] [32, 0x83, 0x5C, 97] = [[32], [0x83, 0x5C], [97]] := rfl
  refine ((relaunch_keeps_arguments_iff japanese _ texts).1 ?_).trans (by decide)
  rw [List.tail_cons, List.forall_mem_cons, List.forall_mem_cons, List.forall_mem_singleton]
  refine ⟨⟨by decide, fun _ => ?_, fun _ => ?_⟩, ⟨by decide, fun marked => absurd marked (by decide),
    fun marked => absurd marked (by decide)⟩, by decide, fun _ => ?_, fun _ => ?_⟩
  · simp [first, CountsFit, trails]
  · simp [first, RunsApart, trails]
  · simp [third, CountsFit, trails]
  · simp [third, RunsApart, trails]

/-- An empty argument between two others is lost, and behind a character whose last byte is that of a backslash the
closing quote becomes one of the argument. -/
theorem relaunch_loses_arguments :
    windowsMarks.split (relaunchParametersW japanese [[82], [97], [], [98]]) ≠
        ([[97], [], [98]] : List Bytes).map japanese.decode ∧
      windowsMarks.split (relaunchParametersW japanese [[82], [97, 32, 0x95, 0x5C], [98]]) ≠
        [[97, 32, 0x95, 0x5C], [98]].map japanese.decode := by decide

end Startup
end SyncRGB
