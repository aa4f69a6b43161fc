import SyncRGB.ByteCodec.Bytes

/-! Texts whose characters have one byte or several, and the UTF-16 units that they are converted to. -/
namespace ByteCodec

/-- The bytes that are a character together, and its units. The first 128 bytes are those of ASCII. -/
structure CodePage where
  whole : Bytes → Bool
  wide : Bytes → List UInt16
  ascii : ∀ b : UInt8, b < 128 → whole [b] = true ∧ wide [b] = [b.toUInt16]

namespace CodePage
variable (page : CodePage)

/-- The characters of a text behind the bytes of one that has begun. -/
def characters (begun : Bytes) : Bytes → List Bytes
  | [] => if begun = [] then [] else [begun]
  | b :: bytes =>
      if page.whole (begun ++ [b]) then (begun ++ [b]) :: characters [] bytes
      else characters (begun ++ [b]) bytes

def decodeBehind (begun bytes : Bytes) : List UInt16 := (page.characters begun bytes).flatMap page.wide

def decode (bytes : Bytes) : List UInt16 := page.decodeBehind [] bytes

/-- No front of the character is one. -/
structure Character (ch : Bytes) : Prop where
  whole : page.whole ch = true
  alone : page.characters [] ch = [ch]

/-- A text that ends with the end of a character. -/
def Complete (bytes : Bytes) : Prop := ∀ more, page.decode (bytes ++ more) = page.decode bytes ++ page.decode more

section
variable {page}

theorem characters_ne_nil {begun bytes : Bytes} (some_ : begun ++ bytes ≠ []) : page.characters begun bytes ≠ [] := by
  induction bytes generalizing begun with
  | nil =>
      rw [characters, if_neg (by simpa using some_)]
      exact List.cons_ne_nil _ _
  | cons b bytes ih =>
      rw [characters]
      split
      · exact List.cons_ne_nil _ _
      · exact ih (by simp)

/-- The bytes before the last one of a character only begin it. -/
theorem characters_begun {begun front : Bytes} {last : UInt8}
    (one : page.characters begun (front ++ [last]) = [begun ++ front ++ [last]]) (bytes : Bytes) :
    page.characters begun (front ++ bytes) = page.characters (begun ++ front) bytes := by
  induction front generalizing begun with
  | nil => simp
  | cons b front ih =>
      rw [List.cons_append, characters] at one ⊢
      by_cases whole : page.whole (begun ++ [b]) = true
      · rw [if_pos whole] at one
        have rest := (List.cons.inj one).2
        exact absurd rest (characters_ne_nil (by simp))
      · rw [if_neg whole] at one ⊢
        rw [ih (by simpa using one)]
        simp

theorem decode_begun {begun : Bytes} {last : UInt8} (character : page.Character (begun ++ [last])) (bytes : Bytes) :
    page.decode (begun ++ bytes) = page.decodeBehind begun bytes := by
  rw [decode, decodeBehind, characters_begun character.alone]
  rfl

theorem decodeBehind_last {begun : Bytes} {last : UInt8} (character : page.Character (begun ++ [last]))
    (bytes : Bytes) :
    page.decodeBehind begun (last :: bytes) = page.wide (begun ++ [last]) ++ page.decode bytes := by
  rw [decodeBehind, characters, if_pos character.whole, List.flatMap_cons]
  rfl

theorem decode_character {ch : Bytes} (character : page.Character ch) (bytes : Bytes) :
    page.decode (ch ++ bytes) = page.wide ch ++ page.decode bytes := by
  have some_ : ch ≠ [] := by
    rintro rfl
    exact absurd character.alone (by simp [characters])
  rw [← List.dropLast_concat_getLast some_] at character ⊢
  rw [List.append_assoc, decode_begun character]
  exact decodeBehind_last character bytes

theorem character_ascii {b : UInt8} (ascii : b < 128) : page.Character [b] := by
  have whole := (page.ascii b ascii).1
  constructor
  · exact whole
  · rw [characters, List.nil_append, if_pos whole]
    rfl

theorem decode_ascii {b : UInt8} (ascii : b < 128) (bytes : Bytes) :
    page.decode (b :: bytes) = b.toUInt16 :: page.decode bytes := by
  have first : page.decode ([b] ++ bytes) = page.wide [b] ++ page.decode bytes :=
    decode_character (character_ascii ascii) bytes
  rwa [(page.ascii b ascii).2] at first

theorem decode_replicate {b : UInt8} (ascii : b < 128) (n : Nat) (bytes : Bytes) :
    page.decode (List.replicate n b ++ bytes) = List.replicate n b.toUInt16 ++ page.decode bytes := by
  induction n with
  | zero => rfl
  | succ n ih =>
      rw [List.replicate_succ, List.replicate_succ, List.cons_append, List.cons_append, decode_ascii ascii, ih]

theorem decode_flatten {chars : List Bytes} (all : ∀ ch ∈ chars, page.Character ch) (bytes : Bytes) :
    page.decode (chars.flatten ++ bytes) = chars.flatMap page.wide ++ page.decode bytes := by
  induction chars with
  | nil => rfl
  | cons ch chars ih =>
      obtain ⟨here, later⟩ := List.forall_mem_cons.mp all
      rw [List.flatten_cons, List.append_assoc, decode_character here, ih later, List.flatMap_cons, List.append_assoc]

theorem characters_flatten {chars : List Bytes} (all : ∀ ch ∈ chars, page.Character ch) :
    page.characters [] chars.flatten = chars := by
  induction chars with
  | nil => rfl
  | cons ch chars ih =>
      obtain ⟨here, later⟩ := List.forall_mem_cons.mp all
      have some_ : ch ≠ [] := by
        rintro rfl
        exact absurd here.alone (by simp [characters])
      have split := List.dropLast_concat_getLast some_
      have alone := here.alone
      rw [← split] at alone
      have begun := characters_begun alone (ch.getLast some_ :: chars.flatten)
      rw [List.flatten_cons]
      conv_lhs => rw [← split, List.append_assoc]
      refine begun.trans ?_
      rw [characters, List.nil_append, split, if_pos here.whole, ih later]

theorem decode_nil : page.decode [] = [] := rfl

theorem Complete.append {front back : Bytes} (first : page.Complete front) (second : page.Complete back) :
    page.Complete (front ++ back) := by
  intro more
  rw [List.append_assoc, first, second, first, List.append_assoc]

theorem complete_ascii {b : UInt8} (ascii : b < 128) : page.Complete [b] := by
  intro more
  rw [List.singleton_append, decode_ascii ascii, decode_ascii ascii]
  rfl

/-- What is converted in one way whatever comes next ends with a character. -/
theorem complete_of_decode {bytes : Bytes} {units : List UInt16}
    (read : ∀ more, page.decode (bytes ++ more) = units ++ page.decode more) :
    page.Complete bytes ∧ page.decode bytes = units := by
  have all : page.decode bytes = units := by
    have none_ := read []
    rwa [List.append_nil, decode_nil, List.append_nil] at none_
  exact ⟨fun more => by rw [read more, all], all⟩

end

end CodePage
end ByteCodec
