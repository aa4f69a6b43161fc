import SyncRGB.Cli.ColorLists
import SyncRGB.JsonRpc.ColorChannels

/-! The tokens of a color list and the colors that are appended for them. -/
namespace SyncRGB
open ByteCodec
open JsonRpc (hexChannels hexDigit_other hexDigit_not_space dropHexPrefix_digits readHex_digits readHex_channels
  hexPair_eq_some)
namespace Cli

/-- A keyword of the table, in any case. -/
def Names (hc : HumanColors) (token : Bytes) : Prop :=
  ∃ keyword, hc.keyword = some keyword ∧ (ascii keyword).map toLower = token.map toLower

/-- The colors that a token is for. -/
inductive TokenColor : Bytes → Rgb → Prop
  | random {i : Nat} {hc : HumanColors} (other : 0 < i) (entry : humanColors[i]? = some hc)
      (named : hc.keyword ≠ none) : TokenColor (ascii "random") (rgbOf hc.rgb)
  | keyword {token : Bytes} {hc : HumanColors} (entry : hc ∈ humanColors) (names : Names hc token) :
      TokenColor token (rgbOf hc.rgb)
  | hex {token : Bytes} {r g b : Nat} (digits : hexChannels token = some (r, g, b)) :
      TokenColor token (UInt8.ofNat r, UInt8.ofNat g, UInt8.ofNat b)

def IsColor (token : Bytes) : Prop := ∃ rgb, TokenColor token rgb

/-- A token for a color gets one of its colors, and any other none. -/
structure Due (token : Bytes) (appended : Option Rgb) : Prop where
  color : IsColor token → ∃ rgb, appended = some rgb ∧ TokenColor token rgb
  other : ¬ IsColor token → appended = none

/-- A turn for "random" reads a named entry. -/
def ReadsNamed (rand : Nat → Nat) (turns : List (Bytes × Option Rgb)) : Prop :=
  ∀ i rgb, turns[i]? = some (ascii "random", rgb) →
    ∃ hc, humanColors[randomIndex (rand i)]? = some hc ∧ hc.keyword ≠ none

/-- All accesses are to named entries of the table, each token of the list gets what is due, and the options get these
colors in the order of their tokens. -/
def ParsesRightly (rand : Nat → Nat) (s : Bytes) (options : DeviceOptions) : Prop :=
  ∃ turns done, parseTurns rand 0 s = some turns ∧ parseColors rand s options = some done ∧
    ReadsNamed rand turns ∧
    (∀ (i : Nat) token, (s.splitOn 44)[i]? = some token → Due token (turns[i]?.bind Prod.snd)) ∧
    done.2.colors = options.colors ++ turns.filterMap Prod.snd

/-- A token that is for no color and looks like one to the C functions: a keyword or a number up to its first NUL, or
a number with white space, a sign or a mark in front. -/
def Stray (token : Bytes) : Prop :=
  ¬ IsColor token ∧ ((∃ hc ∈ humanColors, Names hc (cstr token)) ∨ (hexColor token).isSome)

/-- The index is that of a named entry, and the token no stray one. -/
structure TokenFits (rand : Nat) (token : Bytes) : Prop where
  named : token = ascii "random" → rand % 149 < 147
  clear : ¬ Stray token

/-- The tokens up to the first empty one fit, and there are no colors behind it. -/
structure ListFits (rand : Nat → Nat) (s : Bytes) : Prop where
  front (i : Nat) (token : Bytes) :
    ((s.splitOn 44).takeWhile (· ≠ []))[i]? = some token → TokenFits (rand i) token
  back (token : Bytes) : token ∈ (s.splitOn 44).dropWhile (· ≠ []) → ¬ IsColor token

/-! ### Turns of the loop -/

/-- The turns for the tokens that the loop gets to. -/
def readTokens (rand : Nat → Nat) : Nat → List Bytes → Option (List (Bytes × Option Rgb))
  | _, [] => some []
  | turn, color :: rest => do
      let rgb ← parseColor (rand turn) color
      return (color, rgb) :: (← readTokens rand (turn + 1) rest)

theorem split_alone {s : Bytes} (no : 44 ∉ s) : s.takeWhile (· ≠ 44) = s := by
  rw [List.takeWhile_eq_self_iff]
  intro b mem
  exact decide_eq_true (ne_of_mem_of_not_mem mem no)

theorem split_first {s : Bytes} (comma : 44 ∈ s) :
    s.splitOn 44 = s.takeWhile (· ≠ 44) :: (s.drop ((s.takeWhile (· ≠ 44)).length + 1)).splitOn 44 := by
  obtain ⟨front, back, rfl, none_⟩ := List.eq_append_cons_of_mem comma
  have first : (front ++ 44 :: back).takeWhile (· ≠ 44) = front := by
    rw [List.takeWhile_append_of_pos, List.takeWhile_cons_of_neg (by decide), List.append_nil]
    intro b mem
    exact decide_eq_true (ne_of_mem_of_not_mem mem none_)
  rw [first, List.splitOn_append_cons_self_of_not_mem none_, ← List.drop_drop, List.drop_left]
  rfl

/-- The loop cuts the list at its commas, up to the first empty token. -/
theorem parseTurns_eq (rand : Nat → Nat) (turn : Nat) (s : Bytes) :
    parseTurns rand turn s = readTokens rand turn ((s.splitOn 44).takeWhile (· ≠ [])) := by
  induction turn, s using parseTurns.induct with
  | case1 turn s empty =>
      have nil := List.length_eq_zero_iff.mp empty
      subst nil
      rw [parseTurns]
      rfl
  | case2 turn s some_ color empty =>
      rw [parseTurns, if_neg some_]
      dsimp only
      rw [if_pos empty]
      have comma : 44 ∈ s := by
        by_contra no
        rw [show color = s from split_alone no] at empty
        exact some_ empty
      have nil : s.takeWhile (· ≠ 44) = [] := List.length_eq_zero_iff.mp empty
      rw [split_first comma, nil, List.takeWhile_cons_of_neg (by decide)]
      rfl
  | case3 turn s some_ color full ih =>
      rw [parseTurns, if_neg some_]
      dsimp only
      rw [if_neg full]
      have here : s.takeWhile (· ≠ 44) ≠ [] := fun nil => full (List.length_eq_zero_iff.mpr nil)
      have kept (rest : List Bytes) : (s.takeWhile (· ≠ 44) :: rest).takeWhile (· ≠ []) =
          s.takeWhile (· ≠ 44) :: rest.takeWhile (· ≠ []) := List.takeWhile_cons_of_pos (decide_eq_true here)
      by_cases comma : 44 ∈ s
      · rw [split_first comma, kept, readTokens, ← ih]
        simp only [comma, not_true_eq_false, if_false]
        rfl
      · rw [split_alone comma] at kept ⊢
        rw [List.splitOn_eq_singleton comma, kept]
        simp only [comma, not_false_eq_true, if_true]
        rfl

theorem readTokens_eq_some {rand : Nat → Nat} {turn : Nat} {tokens : List Bytes}
    {turns : List (Bytes × Option Rgb)} :
    readTokens rand turn tokens = some turns ↔ turns.length = tokens.length ∧
      ∀ (i : Nat) (token : Bytes), tokens[i]? = some token →
        ∃ rgb, parseColor (rand (turn + i)) token = some rgb ∧ turns[i]? = some (token, rgb) := by
  induction tokens generalizing turn turns with
  | nil =>
      rw [readTokens]
      constructor
      · rintro ⟨⟩
        exact ⟨rfl, fun i token found => by cases found⟩
      · rintro ⟨length, -⟩
        rw [List.length_eq_zero_iff.mp length]
  | cons color rest ih =>
      rw [readTokens]
      constructor
      · intro run
        obtain ⟨rgb, first, run⟩ := Option.bind_eq_some_iff.mp run
        obtain ⟨behind, others, same⟩ := Option.bind_eq_some_iff.mp run
        cases same
        obtain ⟨length, each⟩ := ih.mp others
        refine ⟨congrArg (· + 1) length, ?_⟩
        intro i token found
        cases i with
        | zero =>
            cases found
            exact ⟨rgb, first, rfl⟩
        | succ i =>
            have here := each i token found
            rwa [Nat.add_right_comm, Nat.add_assoc] at here
      · rintro ⟨length, each⟩
        obtain ⟨rgb, first, head⟩ := each 0 color rfl
        cases turns with
        | nil => cases head
        | cons turn_ behind =>
            cases head
            have others : readTokens rand (turn + 1) rest = some behind := by
              refine ih.mpr ⟨Nat.succ.inj length, ?_⟩
              intro i token found
              have here := each (i + 1) token found
              rwa [Nat.add_assoc, Nat.add_comm 1 i]
            rw [Nat.add_zero] at first
            rw [first, Option.bind_eq_bind, Option.bind_some, others]
            rfl

theorem readTokens_isSome (rand : Nat → Nat) (turn : Nat) (tokens : List Bytes)
    (each : ∀ (i : Nat) (token : Bytes), tokens[i]? = some token → (parseColor (rand (turn + i)) token).isSome) :
    ∃ turns, readTokens rand turn tokens = some turns := by
  induction tokens generalizing turn with
  | nil => exact ⟨[], rfl⟩
  | cons color rest ih =>
      obtain ⟨rgb, first⟩ := Option.isSome_iff_exists.mp (each 0 color rfl)
      have behind (i : Nat) (token : Bytes) (found : rest[i]? = some token) :
          (parseColor (rand (turn + 1 + i)) token).isSome := by
        rw [Nat.add_assoc, Nat.add_comm 1 i]
        exact each (i + 1) token found
      obtain ⟨turns, others⟩ := ih (turn + 1) behind
      refine ⟨(color, rgb) :: turns, ?_⟩
      rw [Nat.add_zero] at first
      rw [readTokens, first, Option.bind_eq_bind, Option.bind_some, others]
      rfl

theorem foldl_addToken_colors (options : DeviceOptions) (turns : List (Bytes × Option Rgb)) :
    (turns.foldl addToken options).colors = options.colors ++ turns.filterMap Prod.snd := by
  induction turns generalizing options with
  | nil => exact (List.append_nil _).symm
  | cons turn turns ih =>
      rw [List.foldl_cons, ih, addToken, List.append_assoc]
      cases rgb : turn.2 with
      | none => rw [List.filterMap_cons_none rgb]; rfl
      | some rgb_ => rw [List.filterMap_cons_some rgb]; rfl

theorem parseColors_of_turns {rand : Nat → Nat} {s : Bytes} {turns : List (Bytes × Option Rgb)}
    (run : parseTurns rand 0 s = some turns) (options : DeviceOptions) :
    parseColors rand s options =
      some (decide ((turns.foldl addToken options).colors.length > 0), turns.foldl addToken options) := by
  rw [parseColors, run]
  rfl

/-! ### One token -/

/-- The keywords of the table have no NUL, and none is "random". -/
theorem keyword_plain {hc : HumanColors} (entry : hc ∈ humanColors) {keyword : String}
    (named : hc.keyword = some keyword) :
    0 ∉ ascii keyword ∧ 0 ∉ (ascii keyword).map toLower ∧ (ascii keyword).map toLower ≠ ascii "random" := by
  have all : ∀ hc ∈ humanColors, ∀ keyword ∈ hc.keyword,
      0 ∉ ascii keyword ∧ 0 ∉ (ascii keyword).map toLower ∧ (ascii keyword).map toLower ≠ ascii "random" := by
    decide +kernel
  exact all hc entry keyword named

/-- Only the last entry has no keyword. -/
theorem humanColors_ends : humanColors.dropWhile (fun hc => hc.keyword.isSome) = [⟨0, none⟩] := rfl

theorem names_cstr {hc : HumanColors} {token : Bytes} (entry : hc ∈ humanColors) (names : Names hc token) :
    cstr token = token := by
  obtain ⟨keyword, named, same⟩ := names
  apply cstr_of_no_nul
  intro nul
  have mapped : toLower 0 ∈ token.map toLower := List.mem_map_of_mem nul
  rw [← same] at mapped
  exact (keyword_plain entry named).2.1 mapped

/-- The loop finds an entry that the token's text names, if there is one. -/
theorem keywordColor_spec (token : Bytes) :
    (∀ rgb, keywordColor token humanColors = some rgb →
      ∃ hc ∈ humanColors, Names hc (cstr token) ∧ hc.rgb = rgb) ∧
    (keywordColor token humanColors = none → ∀ hc ∈ humanColors, ¬ Names hc (cstr token)) := by
  have walk (table : List HumanColors) (part : table ⊆ humanColors)
      (ends : ∀ hc ∈ table.dropWhile (fun hc => hc.keyword.isSome), hc.keyword = none) :
      (∀ rgb, keywordColor token table = some rgb → ∃ hc ∈ table, Names hc (cstr token) ∧ hc.rgb = rgb) ∧
      (keywordColor token table = none → ∀ hc ∈ table, ¬ Names hc (cstr token)) := by
    induction table with
    | nil => exact ⟨nofun, fun _ hc mem => absurd mem List.not_mem_nil⟩
    | cons hc rest ih =>
        rw [keywordColor]
        cases named : hc.keyword with
        | none =>
            refine ⟨nofun, ?_⟩
            rintro - hc' mem ⟨keyword, named', -⟩
            rw [List.dropWhile_cons_of_neg (by rw [named]; exact Bool.false_ne_true)] at ends
            rw [ends hc' mem] at named'
            cases named'
        | some keyword =>
            rw [List.dropWhile_cons_of_pos (by rw [named]; rfl)] at ends
            have plain := cstr_of_no_nul (keyword_plain (part List.mem_cons_self) named).1
            have here : strcasecmp (ascii keyword) token = true ↔ Names hc (cstr token) := by
              rw [strcasecmp, decide_eq_true_eq, plain]
              constructor
              · exact fun same => ⟨keyword, named, same⟩
              · rintro ⟨keyword', named', same⟩
                rw [named] at named'
                cases named'
                exact same
            have behind := ih (fun _ mem => part (List.mem_cons_of_mem hc mem)) ends
            dsimp only
            by_cases fits : strcasecmp (ascii keyword) token = true
            · rw [if_pos fits]
              constructor
              · rintro rgb ⟨⟩
                exact ⟨hc, List.mem_cons_self, here.mp fits, rfl⟩
              · rintro ⟨⟩
            · rw [if_neg fits]
              constructor
              · intro rgb found
                obtain ⟨hc', mem, names⟩ := behind.1 rgb found
                exact ⟨hc', List.mem_cons_of_mem hc mem, names⟩
              · intro none_
                exact List.forall_mem_cons.mpr ⟨fun names => fits (here.mpr names), behind.2 none_⟩
  apply walk humanColors (fun _ mem => mem)
  rw [humanColors_ends]
  exact fun hc last => by rw [List.mem_singleton.mp last]

theorem strtoulHex_digits {a b : UInt8} {va vb : UInt32} (first : hexDigit a = some va)
    (second : hexDigit b = some vb) (rest : Bytes) :
    strtoulHex (a :: b :: rest) = some
      (hexDigits 0 (a :: b :: rest), (a :: b :: rest).dropWhile fun b => (hexDigit b).isSome) := by
  have digit : ((a :: b :: rest).head?.bind hexDigit).isSome = true := by
    rw [List.head?_cons, Option.bind_some, first]
    rfl
  have number : hexNumber (a :: b :: rest) = some
      (hexDigits 0 (a :: b :: rest), (a :: b :: rest).dropWhile fun b => (hexDigit b).isSome) := by
    rw [hexNumber, dropHexPrefix_digits second]
    simp only [digit, if_true]
  unfold strtoulHex
  rw [List.dropWhile_cons_of_neg (by rw [hexDigit_not_space first]; exact Bool.false_ne_true)]
  split
  · rename_i minus
    cases minus
    exact absurd rfl (hexDigit_other first (by decide))
  · rename_i plus
    cases plus
    exact absurd rfl (hexDigit_other first (by decide))
  · exact number

theorem rgbOf_toRGBColor {r g b : Nat} (red : r ≤ 255) (green : g ≤ 255) (blue : b ≤ 255) :
    rgbOf (toRGBColor (UInt32.ofNat b) (UInt32.ofNat g) (UInt32.ofNat r)) =
      (UInt8.ofNat r, UInt8.ofNat g, UInt8.ofNat b) := by
  have bytes := channels_toRGBColor (r := UInt32.ofNat b) (g := UInt32.ofNat g) (b := UInt32.ofNat r)
    (by rwa [toNat_ofNat_byte blue]) (by rwa [toNat_ofNat_byte green]) (by rwa [toNat_ofNat_byte red])
  rw [toNat_ofNat_byte red, toNat_ofNat_byte green, toNat_ofNat_byte blue, channels, Prod.mk.injEq,
    Prod.mk.injEq] at bytes
  have byte {w : UInt32} {n : Nat} (value : w.toNat = n) : w.toUInt8 = UInt8.ofNat n := by
    rw [← value]
    rfl
  rw [rgbOf, byte bytes.1, byte bytes.2.1, byte bytes.2.2]

theorem digits_of_hexChannels {token : Bytes} {channels : Nat × Nat × Nat}
    (asked : hexChannels token = some channels) : ∀ b ∈ token, ∃ v, hexDigit b = some v := by
  unfold hexChannels at asked
  split at asked
  · obtain ⟨nr, pairR, asked⟩ := Option.bind_eq_some_iff.mp asked
    obtain ⟨ng, pairG, asked⟩ := Option.bind_eq_some_iff.mp asked
    obtain ⟨nb, pairB, asked⟩ := Option.bind_eq_some_iff.mp asked
    obtain ⟨v1, v2, at1, at2, -⟩ := hexPair_eq_some pairR
    obtain ⟨v3, v4, at3, at4, -⟩ := hexPair_eq_some pairG
    obtain ⟨v5, v6, at5, at6, -⟩ := hexPair_eq_some pairB
    intro b mem
    simp only [List.mem_cons, List.not_mem_nil, or_false] at mem
    rcases mem with rfl | rfl | rfl | rfl | rfl | rfl
    exacts [⟨v1, at1⟩, ⟨v2, at2⟩, ⟨v3, at3⟩, ⟨v4, at4⟩, ⟨v5, at5⟩, ⟨v6, at6⟩]
  · cases asked

/-- Six digits are read to their end, and are no text with a NUL. -/
theorem hexColor_of_channels {token : Bytes} {r g b : Nat} (asked : hexChannels token = some (r, g, b)) :
    cstr token = token ∧ ∃ v, hexColor token = some v ∧ rgbOf v = (UInt8.ofNat r, UInt8.ofNat g, UInt8.ofNat b) := by
  obtain ⟨red, green, blue, six, value⟩ := readHex_channels 0 asked
  have digits := digits_of_hexChannels asked
  have text : cstr token = token := by
    apply cstr_of_no_nul
    intro nul
    obtain ⟨v, digit⟩ := digits 0 nul
    cases digit
  refine ⟨text, toRGBColor (UInt32.ofNat b) (UInt32.ofNat g) (UInt32.ofNat r), ?_, rgbOf_toRGBColor red green blue⟩
  have ends : token.dropWhile (fun b => (hexDigit b).isSome) = [] := by
    rw [List.dropWhile_eq_nil_iff]
    intro b mem
    obtain ⟨v, digit⟩ := digits b mem
    rw [digit]
    rfl
  rw [hexColor, if_pos six, text]
  cases token with
  | nil => cases six
  | cons x rest =>
      cases rest with
      | nil => cases six
      | cons y rest =>
          obtain ⟨vx, first⟩ := digits x List.mem_cons_self
          obtain ⟨vy, second⟩ := digits y (List.mem_cons_of_mem x List.mem_cons_self)
          rw [readHex_digits 0 first second] at value
          rw [strtoulHex_digits first second, ends, value]

/-! ### Random colors -/

theorem random_no_keyword {hc : HumanColors} (entry : hc ∈ humanColors) : ¬ Names hc (ascii "random") := by
  rintro ⟨keyword, named, same⟩
  exact (keyword_plain entry named).2.2 same

/-- The named entries behind the first are not black. -/
theorem humanColors_lit {i : Nat} {hc : HumanColors} (other : 0 < i) (entry : humanColors[i]? = some hc)
    (named : hc.keyword ≠ none) : rgbOf hc.rgb ≠ (0, 0, 0) := by
  have all : ∀ hc ∈ humanColors.tail, hc.keyword ≠ none → rgbOf hc.rgb ≠ (0, 0, 0) := by decide +kernel
  cases i with
  | zero => cases other
  | succ i =>
      apply all hc ?_ named
      rw [← List.getElem?_tail] at entry
      exact List.mem_of_getElem? entry

theorem TokenColor.random_lit {token : Bytes} {rgb : Rgb} (is : TokenColor token rgb)
    (random : token = ascii "random") : rgb ≠ (0, 0, 0) := by
  cases is with
  | random other entry named => exact humanColors_lit other entry named
  | keyword entry names => exact absurd (random ▸ names) (random_no_keyword entry)
  | hex digits =>
      rw [random] at digits
      cases digits

theorem humanColors_named {i : Nat} (before : i < 148) :
    ∃ hc, humanColors[i]? = some hc ∧ hc.keyword ≠ none := by
  have length : humanColors.length = 149 := rfl
  have all : ∀ hc ∈ humanColors.take 148, hc.keyword ≠ none := by decide +kernel
  have entry := List.getElem?_eq_getElem (l := humanColors) (i := i) (by omega)
  refine ⟨_, entry, all _ ?_⟩
  rw [← List.getElem?_take_of_lt before] at entry
  exact List.mem_of_getElem? entry

/-- The index for "random" is that of a named entry. -/
theorem humanColors_read {rand : Nat} (before : rand % 149 < 147) :
    ∃ hc, humanColors[randomIndex rand]? = some hc ∧ hc.keyword ≠ none :=
  humanColors_named (Nat.succ_lt_succ before)

theorem random_isColor : IsColor (ascii "random") := by
  have navy : humanColors[1]? = some ⟨0x000080, some "navy"⟩ := rfl
  exact ⟨_, .random Nat.one_pos navy (Option.some_ne_none _)⟩

/-- A random color is that of a named entry behind the first exactly for the numbers of these entries. -/
theorem parseColor_random_iff (rand : Nat) :
    (∃ rgb, parseColor rand (ascii "random") = some rgb ∧ Due (ascii "random") rgb) ↔ rand % 149 < 147 := by
  have length : humanColors.length = 149 := rfl
  have index : randomIndex rand = rand % 149 + 1 := by rw [randomIndex, length]
  rw [parseColor, if_pos rfl, index]
  constructor
  · rintro ⟨rgb, read, due⟩
    obtain ⟨hc, entry, same⟩ := Option.map_eq_some_iff.mp read
    subst same
    obtain ⟨rgb, same, for_⟩ := due.color random_isColor
    cases same
    by_contra last
    have inside : rand % 149 + 1 < 149 := length ▸ (List.getElem?_eq_some_iff.mp entry).1
    have terminator : rand % 149 + 1 = 148 := by omega
    rw [terminator] at entry
    cases entry
    exact for_.random_lit rfl rfl
  · intro before
    obtain ⟨hc, entry, named⟩ := humanColors_read before
    rw [index] at entry
    rw [entry]
    exact ⟨_, rfl, fun _ => ⟨_, rfl, .random (Nat.succ_pos _) entry named⟩,
      fun other => absurd random_isColor other⟩

theorem cstr_of_isColor {token : Bytes} (random : token ≠ ascii "random") (color : IsColor token) :
    cstr token = token := by
  obtain ⟨_, for_⟩ := color
  cases for_ with
  | random => exact absurd rfl random
  | keyword entry names => exact names_cstr entry names
  | hex digits => exact (hexColor_of_channels digits).1

/-- A color without a keyword is read as a number. -/
theorem hexColor_of_isColor {token : Bytes} (random : token ≠ ascii "random")
    (misses : ∀ hc ∈ humanColors, ¬ Names hc (cstr token)) (color : IsColor token) :
    ∃ v, hexColor token = some v ∧ TokenColor token (rgbOf v) := by
  have text := cstr_of_isColor random color
  obtain ⟨_, for_⟩ := color
  cases for_ with
  | random => exact absurd rfl random
  | keyword entry names => exact absurd (text.symm ▸ names) (misses _ entry)
  | hex digits =>
      obtain ⟨-, v, read, bytes⟩ := hexColor_of_channels digits
      exact ⟨v, read, bytes ▸ .hex digits⟩

/-- The color of a keyword is due to a token that is a color. -/
theorem due_keyword_iff {token : Bytes} {hc : HumanColors} (random : token ≠ ascii "random")
    (entry : hc ∈ humanColors) (names : Names hc (cstr token)) : Due token (some (rgbOf hc.rgb)) ↔ IsColor token := by
  constructor
  · intro due
    by_contra other
    cases due.other other
  · intro color
    rw [cstr_of_isColor random color] at names
    exact ⟨fun _ => ⟨_, rfl, .keyword entry names⟩, fun other => absurd color other⟩

/-- Where no keyword is named, what is read of the number is due to a token that is a color, and nothing to others. -/
theorem due_hex_iff {token : Bytes} (random : token ≠ ascii "random")
    (misses : ∀ hc ∈ humanColors, ¬ Names hc (cstr token)) :
    Due token ((hexColor token).map rgbOf) ↔ IsColor token ∨ hexColor token = none := by
  by_cases color : IsColor token
  · refine iff_of_true ?_ (.inl color)
    obtain ⟨v, read, is⟩ := hexColor_of_isColor random misses color
    rw [read]
    exact ⟨fun _ => ⟨_, rfl, is⟩, fun other => absurd color other⟩
  · rw [or_iff_right color]
    constructor
    · exact fun due => Option.map_eq_none_iff.mp (due.other color)
    · intro none_
      rw [none_]
      exact ⟨fun is => absurd is color, fun _ => rfl⟩

/-- One token gets what is due to it, or not. -/
theorem parseColor_due_iff {rand : Nat} {token : Bytes} :
    (∃ rgb, parseColor rand token = some rgb ∧ Due token rgb) ↔ TokenFits rand token := by
  by_cases random : token = ascii "random"
  · subst random
    rw [parseColor_random_iff]
    constructor
    · exact fun before => ⟨fun _ => before, fun stray => stray.1 random_isColor⟩
    · exact fun fits => fits.named rfl
  · have clear : TokenFits rand token ↔ ¬ Stray token :=
      ⟨TokenFits.clear, fun clear => ⟨fun is => absurd is random, clear⟩⟩
    obtain ⟨finds, misses⟩ := keywordColor_spec token
    rw [clear, parseColor, if_neg random]
    cases keyword : keywordColor token humanColors with
    | some rgb =>
        obtain ⟨hc, entry, names, rfl⟩ := finds rgb keyword
        simp only [Option.some.injEq, exists_eq_left']
        rw [due_keyword_iff random entry names]
        constructor
        · exact fun color stray => stray.1 color
        · intro clear
          by_contra other
          exact clear ⟨other, .inl ⟨hc, entry, names⟩⟩
    | none =>
        simp only [Option.some.injEq, exists_eq_left']
        rw [due_hex_iff random (misses keyword), Stray, not_and, ← or_iff_not_imp_left, not_or,
          Option.not_isSome_iff_eq_none]
        refine or_congr_right (and_iff_right ?_).symm
        rintro ⟨hc, entry, names⟩
        exact misses keyword hc entry names

/-- The list, token by token. -/
theorem parsesRightly_iff {rand : Nat → Nat} {s : Bytes} {options : DeviceOptions} :
    ParsesRightly rand s options ↔
      (∀ (i : Nat) (token : Bytes), ((s.splitOn 44).takeWhile (· ≠ []))[i]? = some token →
        ∃ rgb, parseColor (rand i) token = some rgb ∧ Due token rgb) ∧
      ∀ token ∈ (s.splitOn 44).dropWhile (· ≠ []), ¬ IsColor token := by
  have parts : (s.splitOn 44).takeWhile (· ≠ []) ++ (s.splitOn 44).dropWhile (· ≠ []) = s.splitOn 44 :=
    List.takeWhile_append_dropWhile
  have loop := parseTurns_eq rand 0 s
  unfold ParsesRightly
  generalize (s.splitOn 44).takeWhile (· ≠ []) = front at parts loop ⊢
  generalize (s.splitOn 44).dropWhile (· ≠ []) = back at parts ⊢
  rw [← parts]
  constructor
  · rintro ⟨turns, done, run, -, -, due, -⟩
    obtain ⟨length, each⟩ := readTokens_eq_some.mp (loop.symm.trans run)
    constructor
    · intro i token found
      obtain ⟨rgb, parsed, turn⟩ := each i token found
      rw [Nat.zero_add] at parsed
      have inside : i < front.length := (List.getElem?_eq_some_iff.mp found).1
      have here := due i token (by rw [List.getElem?_append_left inside, found])
      rw [turn] at here
      exact ⟨rgb, parsed, here⟩
    · intro token mem color
      obtain ⟨k, found⟩ := List.mem_iff_getElem?.mp mem
      have here := due (front.length + k) token (by
        rw [List.getElem?_append_right (Nat.le_add_right _ _), Nat.add_sub_cancel_left, found])
      have behind : turns[front.length + k]? = none := List.getElem?_eq_none (by omega)
      rw [behind] at here
      obtain ⟨rgb, some_, -⟩ := here.color color
      cases some_
  · rintro ⟨right, behind⟩
    obtain ⟨turns, run⟩ := readTokens_isSome rand 0 front fun i token found => by
      obtain ⟨rgb, parsed, -⟩ := right i token found
      rw [Nat.zero_add, parsed]
      rfl
    obtain ⟨length, each⟩ := readTokens_eq_some.mp run
    refine ⟨turns, _, loop.trans run, parseColors_of_turns (loop.trans run) options, ?_, ?_,
      foldl_addToken_colors options turns⟩
    · intro i rgb turn
      have inside : i < front.length := length ▸ (List.getElem?_eq_some_iff.mp turn).1
      obtain ⟨rgb', -, same⟩ := each i _ (List.getElem?_eq_getElem inside)
      rw [turn] at same
      have is_random : front[i] = ascii "random" := (congrArg Prod.fst (Option.some.inj same)).symm
      obtain ⟨named, -⟩ := parseColor_due_iff.mp (right i _ (List.getElem?_eq_getElem inside))
      exact humanColors_read (named is_random)
    intro i token found
    by_cases inside : i < front.length
    · rw [List.getElem?_append_left inside] at found
      obtain ⟨rgb, parsed, turn⟩ := each i token found
      obtain ⟨rgb', parsed', due⟩ := right i token found
      rw [Nat.zero_add, parsed'] at parsed
      cases parsed
      rw [turn]
      exact due
    · rw [List.getElem?_append_right (Nat.le_of_not_lt inside)] at found
      rw [List.getElem?_eq_none (by omega)]
      exact ⟨fun color => absurd color (behind token (List.mem_of_getElem? found)), fun _ => rfl⟩

/-- `ParseColors` does what it is for exactly for the lists that fit. -/
theorem parseColors_right_iff (rand : Nat → Nat) (s : Bytes) (options : DeviceOptions) :
    ParsesRightly rand s options ↔ ListFits rand s := by
  rw [parsesRightly_iff]
  simp only [parseColor_due_iff]
  exact ⟨fun fits => ⟨fits.1, fits.2⟩, fun fits => ⟨fits.front, fits.back⟩⟩

/-- With the number 147, "random" reads the entry that ends the table, and is black. -/
theorem random_black : ¬ ParsesRightly (fun _ => 147) (ascii "random") (DeviceOptions.new 0) := by
  rw [parsesRightly_iff]
  rintro ⟨right, -⟩
  obtain ⟨rgb, read, due⟩ := right 0 (ascii "random") rfl
  obtain ⟨_, same, for_⟩ := due.color random_isColor
  subst same
  have black : parseColor 147 (ascii "random") = some (some (0, 0, 0)) := by decide +kernel
  rw [black] at read
  cases read
  exact for_.random_lit rfl rfl

end Cli
end SyncRGB
