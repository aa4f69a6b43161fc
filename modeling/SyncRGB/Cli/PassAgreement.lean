import Mathlib.Data.List.Forall2
import SyncRGB.Cli.Passes

/-! Where the two passes over the command line read the same words as options, and where one executes what is a value
for the other. -/
namespace SyncRGB.Cli
open ByteCodec

/-! The tables. -/

def wordsOf {Opt : Type} (table : List (String × Opt)) : List Bytes := table.map fun entry => ascii entry.1

theorem lookupWord_none {Opt : Type} {table : List (String × Opt)} {word : Bytes} (absent : word ∉ wordsOf table) :
    lookupWord table word = none := by
  rw [lookupWord, Option.map_eq_none_iff, List.find?_eq_none]
  intro entry member same
  exact absent (List.mem_map.mpr ⟨entry, member, of_decide_eq_true same⟩)

theorem mem_wordsOf_of_lookup {Opt : Type} {table : List (String × Opt)} {word : Bytes} {o : Opt}
    (found : lookupWord table word = some o) : word ∈ wordsOf table := by
  by_contra absent
  rw [lookupWord_none absent] at found
  exact Option.some_ne_none o found.symm

/-- `ProcessOptions` passes over the options of `cli_pre_detection`, each with as many words as that reads. -/
theorem ignoredOption_eq (word : Bytes) : ignoredOption word = (preOption word).map PreOption.takesValue := by
  by_cases known : word ∈ wordsOf preOptions
  · have each : ∀ word ∈ wordsOf preOptions, ignoredOption word = (preOption word).map PreOption.takesValue := by
      decide +kernel
    exact each word known
  · have same : wordsOf ignoredOptions ⊆ wordsOf preOptions := by decide +kernel
    rw [preOption, lookupWord_none known, ignoredOption, lookupWord_none fun member => known (same member)]
    rfl

/-- No word is an option of both. -/
theorem preOption_of_postOption {word : Bytes} {o : PostOption} (found : postOption word = some o) :
    preOption word = none := by
  have each : ∀ word ∈ wordsOf postOptions, preOption word = none := by decide +kernel
  exact each word (mem_wordsOf_of_lookup found)

/-! What the loops make of one word. -/

inductive PreStep : Option PreOption → Bytes → PreWord → Option PreOption → Prop where
  | value (o : PreOption) (word : Bytes) : PreStep (some o) word (.value o) none
  | unrecognized {word : Bytes} (none_ : preOption word = none) : PreStep none word .unrecognized none
  | option {word : Bytes} {o : PreOption} (found : preOption word = some o) :
      PreStep none word (.option o) (if o.takesValue then some o else none)

inductive PostStep : Next → Bytes → PostWord → Next → Prop where
  | value (o : PostOption) (word : Bytes) : PostStep (.value o) word (.value o) .option
  | ignoredValue (word : Bytes) : PostStep .ignoredValue word .ignoredValue .option
  | option {word : Bytes} {o : PostOption} (found : postOption word = some o) (other : o ≠ .listDevices) :
      PostStep .option word (.option o) (.value o)
  | ignored {word : Bytes} {withValue : Bool} (none_ : postOption word = none)
      (found : ignoredOption word = some withValue) :
      PostStep .option word .ignored (if withValue then .ignoredValue else .option)

/-- A loop that goes on behind a word. -/
theorem prepended {α σ : Type} {first : α} {loop : Option (List α × σ)} {words : List α} {s : σ}
    (looped : (loop.bind fun went => some (first :: went.1, went.2)) = some (words, s)) :
    ∃ later, words = first :: later ∧ loop = some (later, s) := by
  obtain ⟨⟨later, _⟩, went, same⟩ := Option.bind_eq_some_iff.mp looped
  obtain ⟨rfl, rfl⟩ := Prod.mk.inj (Option.some.inj same)
  exact ⟨later, rfl, went⟩

theorem preLoop_cons {env : CliEnvironment} {pending : Option PreOption} {s s' : PreDetection} {word : Bytes}
    {rest : List Bytes} {words : List PreWord} (looped : preLoop env pending s (word :: rest) = some (words, s')) :
    ∃ first later pending' s'', words = first :: later ∧ PreStep pending word first pending' ∧
      preLoop env pending' s'' rest = some (later, s') := by
  cases pending with
  | some o =>
      obtain ⟨later, rfl, loop⟩ := prepended looped
      exact ⟨_, later, none, s, rfl, .value o word, loop⟩
  | none =>
      rw [preLoop] at looped
      cases found : preOption word with
      | none =>
          rw [found] at looped
          obtain ⟨later, rfl, loop⟩ := prepended looped
          exact ⟨_, later, none, _, rfl, .unrecognized found, loop⟩
      | some o =>
          rw [found] at looped
          obtain ⟨executed, -, looped⟩ := Option.bind_eq_some_iff.mp looped
          obtain ⟨later, rfl, loop⟩ := prepended looped
          exact ⟨_, later, _, executed, rfl, .option found, loop⟩

theorem postLoop_cons {σ : Type} {handlers : PostHandlers σ} {next : Next} {s s' : σ} {word : Bytes}
    {rest : List Bytes} {words : List PostWord} (looped : postLoop handlers next s (word :: rest) = some (words, s')) :
    ∃ first later next' s'', words = first :: later ∧ PostStep next word first next' ∧
      postLoop handlers next' s'' rest = some (later, s') := by
  cases next with
  | value o =>
      obtain ⟨later, rfl, loop⟩ := prepended looped
      exact ⟨_, later, .option, s, rfl, .value o word, loop⟩
  | ignoredValue =>
      obtain ⟨later, rfl, loop⟩ := prepended looped
      exact ⟨_, later, .option, s, rfl, .ignoredValue word, loop⟩
  | option =>
      rw [postLoop] at looped
      cases found : postOption word with
      | none =>
          rw [found] at looped
          cases ignored : ignoredOption word with
          | none =>
              rw [ignored] at looped
              cases looped
          | some withValue =>
              rw [ignored] at looped
              obtain ⟨later, rfl, loop⟩ := prepended looped
              exact ⟨_, later, _, s, rfl, .ignored found ignored, loop⟩
      | some o =>
          rw [found] at looped
          cases o with
          | listDevices => cases looped
          | _ =>
              obtain ⟨s'', -, looped⟩ := Option.bind_eq_some_iff.mp looped
              obtain ⟨later, rfl, loop⟩ := prepended looped
              exact ⟨_, later, _, s'', rfl, .option found nofun, loop⟩

theorem postLoop_nil {σ : Type} {handlers : PostHandlers σ} {next : Next} {s s' : σ} {words : List PostWord}
    (looped : postLoop handlers next s [] = some (words, s')) : words = [] := by
  rw [postLoop] at looped
  split at looped
  · exact (Prod.mk.inj (Option.some.inj looped)).1.symm
  · cases looped

/-! The values of post-detection options. -/

/-- What an option makes of the next word. -/
def nextOf (option : Bytes) : Next :=
  match postOption option with
  | some o => .value o
  | none => if ignoredOption option = some true then .ignoredValue else .option

/-- The words behind post-detection options, of the words from here on. -/
def postValues : Next → List Bytes → List Bytes
  | _, [] => []
  | .value _, value :: rest => value :: postValues .option rest
  | .ignoredValue, _ :: rest => postValues .option rest
  | .option, option :: rest => postValues (nextOf option) rest

/-- The passes are both at an option, or the one that passes over a value is named. -/
inductive InStep : Option PreOption → Next → Prop where
  | options : InStep none .option
  | postValue (o : PostOption) : InStep none (.value o)
  | preValue (o : PreOption) : InStep (some o) .ignoredValue

/-- Behind an option that one pass executes and the other passes over. -/
theorem inStep_takesValue (o : PreOption) :
    InStep (if o.takesValue then some o else none) (if o.takesValue then .ignoredValue else .option) := by
  split
  · exact .preValue o
  · exact .options

section

variable {R : PreWord → PostWord → Prop} {passed : Prop}

/-- The passes agree on all words up to the first value of a post-detection option on which they do not, whatever
agreement is: the one reads it as its own option if it is one, and as unrecognized otherwise. -/
theorem loops_agree_iff (ignored : ∀ o, R (.option o) .ignored) (ignoredValue : ∀ o, R (.value o) .ignoredValue)
    (option : ∀ o, R .unrecognized (.option o)) (executed : ∀ o o', ¬ R (.option o) (.value o'))
    (unrecognized : ∀ o, R .unrecognized (.value o) ↔ passed) {env : CliEnvironment} {σ : Type}
    {handlers : PostHandlers σ} (args : List Bytes) {pending : Option PreOption} {next : Next}
    (inStep : InStep pending next) {s s' : PreDetection} {pre : List PreWord}
    (preLooped : preLoop env pending s args = some (pre, s')) {t t' : σ} {post : List PostWord}
    (postLooped : postLoop handlers next t args = some (post, t')) :
    List.Forall₂ R pre post ↔ ∀ value ∈ postValues next args, passed ∧ preOption value = none := by
  induction args generalizing pending next s t pre post with
  | nil =>
      obtain ⟨rfl, -⟩ := Prod.mk.inj (Option.some.inj preLooped)
      rw [postLoop_nil postLooped, postValues]
      exact iff_of_true .nil fun value member => absurd member List.not_mem_nil
  | cons word rest ih =>
      obtain ⟨first, later, pending', s'', rfl, preStep, preLoop⟩ := preLoop_cons preLooped
      obtain ⟨first', later', next', t'', rfl, postStep, postLoop⟩ := postLoop_cons postLooped
      rw [List.forall₂_cons]
      cases postStep with
      | value o =>
          rw [postValues, List.forall_mem_cons]
          cases preStep with
          | value => cases inStep
          | unrecognized none_ => rw [ih .options preLoop postLoop, unrecognized, and_iff_left none_]
          | option found =>
              refine iff_of_false (fun both => executed _ _ both.1) fun both => ?_
              exact Option.some_ne_none _ (found.symm.trans both.1.2)
      | ignoredValue =>
          cases preStep with
          | value o =>
              rw [ih .options preLoop postLoop]
              exact and_iff_right (ignoredValue o)
          | unrecognized => cases inStep
          | option => cases inStep
      | option found =>
          have none_ := preOption_of_postOption found
          cases preStep with
          | value => cases inStep
          | unrecognized =>
              rw [ih (.postValue _) preLoop postLoop, postValues, nextOf, found]
              exact and_iff_right (option _)
          | option same => exact absurd (same.symm.trans none_) (Option.some_ne_none _)
      | @ignored _ withValue none_ found =>
          have table := (ignoredOption_eq word).symm.trans found
          cases preStep with
          | value => cases inStep
          | unrecognized same =>
              rw [same] at table
              cases table
          | @option _ o same =>
              rw [same] at table
              obtain rfl : o.takesValue = withValue := Option.some.inj table
              rw [ih (inStep_takesValue o) preLoop postLoop, postValues, nextOf, none_, found]
              dsimp only
              rw [and_iff_right (ignored o)]
              cases o.takesValue <;> rfl

end

/-- A word is the value of an option for one pass, and the other executes it as an option. -/
inductive Crossed : PreWord → PostWord → Prop where
  | pre (o : PreOption) (o' : PostOption) : Crossed (.option o) (.value o')
  | post (o : PreOption) (o' : PostOption) : Crossed (.value o) (.option o')

/-- The words behind post-detection options, when the words behind pre-detection options with a value are passed
over. -/
def valuesOfOptions (args : List Bytes) : List Bytes := postValues .option args

/-- Where neither pass ends the program, they take the same words as options exactly if no post-detection option has a
word behind it, and neither executes a value of the other exactly if no word behind one is a pre-detection option. -/
theorem passes_agree_iff (env : CliEnvironment) {σ : Type} (handlers : PostHandlers σ) (args : List Bytes)
    {pre : List PreWord} {s : PreDetection} (detected : cliPreDetection env args = some (pre, s)) {t t' : σ}
    {post : List PostWord} (processed : processOptions handlers t args = some (post, t')) :
    (List.Forall₂ (fun p q => p.isOption = q.isOption) pre post ↔ valuesOfOptions args = []) ∧
    (List.Forall₂ (fun p q => ¬ Crossed p q) pre post ↔
      ∀ value ∈ valuesOfOptions args, preOption value = none) := by
  obtain ⟨⟨words, s'⟩, looped, same⟩ := Option.bind_eq_some_iff.mp detected
  obtain ⟨rfl, -⟩ := Prod.mk.inj (Option.some.inj same)
  constructor
  · have agree := loops_agree_iff (R := fun p q => p.isOption = q.isOption) (fun _ => rfl) (fun _ => rfl)
      (fun _ => rfl) (fun _ _ => Bool.noConfusion) (fun _ => iff_of_false Bool.noConfusion id) args .options looped
      processed
    rw [agree, List.eq_nil_iff_forall_not_mem]
    exact forall₂_congr fun value _ => ⟨fun both => both.1, False.elim⟩
  · have agree := loops_agree_iff (R := fun p q => ¬ Crossed p q) nofun nofun nofun
      (fun o o' apart => apart (.pre o o')) (fun _ => iff_of_true nofun trivial) args .options looped processed
    rw [agree]
    exact forall₂_congr fun value _ => and_iff_right trivial

/-- A program with a window that finds no directories. -/
def windowed : CliEnvironment := ⟨false, fun _ => false⟩

/-- Options that all succeed, as `--profile` and `--save-profile` do. -/
def willing : PostHandlers Unit := ⟨fun _ _ _ => some (), fun _ => true⟩

def loglevelArgs : List Bytes := [ascii "--loglevel", ascii "debug", ascii "--nodetect"]

/-- Without values of post-detection options the passes agree. -/
theorem passes_agree_loglevel :
    (∃ s, cliPreDetection windowed loglevelArgs =
      some ([.option .loglevel, .value .loglevel, .option .nodetect], s)) ∧
    processOptions willing () loglevelArgs = some ([.ignored, .ignoredValue, .ignored], ()) ∧
    List.Forall₂ (fun p q => p.isOption = q.isOption)
      [PreWord.option .loglevel, .value .loglevel, .option .nodetect] [PostWord.ignored, .ignoredValue, .ignored] ∧
    List.Forall₂ (fun p q => ¬ Crossed p q)
      [PreWord.option .loglevel, .value .loglevel, .option .nodetect] [PostWord.ignored, .ignoredValue, .ignored] := by
  obtain ⟨s, detected⟩ : ∃ s, cliPreDetection windowed loglevelArgs =
      some ([.option .loglevel, .value .loglevel, .option .nodetect], s) := ⟨_, rfl⟩
  have processed : processOptions willing () loglevelArgs = some ([.ignored, .ignoredValue, .ignored], ()) := rfl
  have no_values : valuesOfOptions loglevelArgs = [] := rfl
  obtain ⟨agree, apart⟩ := passes_agree_iff windowed willing loglevelArgs detected processed
  refine ⟨⟨s, detected⟩, processed, agree.mpr no_values, apart.mpr ?_⟩
  rw [no_values]
  exact fun value member => absurd member List.not_mem_nil

def profileArgs : List Bytes := [ascii "--profile", ascii "--nodetect"]

/-- The name of a profile turns the detection off. -/
theorem profile_nodetect_crosses :
    (∃ s, cliPreDetection windowed profileArgs = some ([.unrecognized, .option .nodetect], s) ∧
      s.retFlags &&& retFlagNoDetect ≠ 0) ∧
    processOptions willing () profileArgs = some ([.option .profile, .value .profile], ()) ∧
    ¬ List.Forall₂ (fun p q => p.isOption = q.isOption)
      [PreWord.unrecognized, .option .nodetect] [PostWord.option .profile, .value .profile] ∧
    ¬ List.Forall₂ (fun p q => ¬ Crossed p q)
      [PreWord.unrecognized, .option .nodetect] [PostWord.option .profile, .value .profile] := by
  refine ⟨⟨_, rfl, by decide⟩, rfl, fun agree => ?_, fun apart => ?_⟩
  · have second := (List.forall₂_cons.mp (List.forall₂_cons.mp agree).2).1
    cases second
  · have second := (List.forall₂_cons.mp (List.forall₂_cons.mp apart).2).1
    exact second (.pre .nodetect .profile)

end SyncRGB.Cli
