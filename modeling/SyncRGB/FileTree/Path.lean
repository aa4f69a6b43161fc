import SyncRGB.ByteCodec.Bytes

/-! Path strings: how a child is joined to a base, and the components the operating system walks. -/
namespace FileTree
open ByteCodec

def separator : UInt8 := 47
def here : Bytes := [46]
def above : Bytes := [46, 46]

def IsAbsolute (path : Bytes) : Prop := path.head? = some separator

instance (path : Bytes) : Decidable (IsAbsolute path) :=
  inferInstanceAs (Decidable (path.head? = some separator))

/-- `path::operator/`: an absolute child replaces the base. -/
def join (base child : Bytes) : Bytes :=
  if IsAbsolute child ∨ base = [] then child
  else if base.getLast? = some separator then base ++ child
  else base ++ separator :: child

/-- A system call reads the string up to its first NUL and passes over empty components. -/
def components (path : Bytes) : List Bytes := ((cstr path).splitOn separator).filter (· ≠ [])

/-- A name under which a directory can hold a file. -/
def Ordinary (name : Bytes) : Prop :=
  name ≠ [] ∧ name ≠ here ∧ name ≠ above ∧ separator ∉ name ∧ 0 ∉ name

instance (name : Bytes) : Decidable (Ordinary name) :=
  inferInstanceAs (Decidable (name ≠ [] ∧ name ≠ here ∧ name ≠ above ∧ separator ∉ name ∧ 0 ∉ name))

theorem join_absolute {child : Bytes} (h : IsAbsolute child) (base : Bytes) : join base child = child :=
  if_pos (Or.inl h)

/-- A relative child stands behind the base and one separator. -/
theorem join_relative {base child : Bytes} (nonempty : base ≠ []) (h : ¬ IsAbsolute child) :
    ∃ front, join base child = front ++ separator :: child ∧
      (base = front ∨ base = front ++ [separator]) := by
  have neither : ¬ (IsAbsolute child ∨ base = []) := not_or.mpr ⟨h, nonempty⟩
  rw [join, if_neg neither]
  by_cases closed : base.getLast? = some separator
  · obtain ⟨front, rfl⟩ := List.getLast?_eq_some_iff.mp closed
    exact ⟨front, by rw [if_pos closed, List.append_assoc, List.singleton_append], Or.inr rfl⟩
  · exact ⟨base, if_neg closed, Or.inl rfl⟩

theorem cstr_append_cons {front : Bytes} (noNul : (0 : UInt8) ∉ front) (rest : Bytes) :
    cstr (front ++ separator :: rest) = front ++ separator :: cstr rest := by
  have kept : ∀ b ∈ front, (b != 0) = true := by
    intro b there
    exact bne_iff_ne.mpr fun zero => noNul (zero ▸ there)
  rw [cstr, List.takeWhile_append_of_pos kept]
  rfl

theorem components_append_cons {front : Bytes} (noNul : (0 : UInt8) ∉ front) (rest : Bytes) :
    components (front ++ separator :: rest) = components front ++ components rest := by
  have whole : cstr front = front :=
    List.takeWhile_eq_self_iff.mpr fun b there => bne_iff_ne.mpr fun zero => noNul (zero ▸ there)
  rw [components, cstr_append_cons noNul, List.splitOn_append_cons_self, List.filter_append,
    components, components, whole]

theorem components_join {base child : Bytes} (nonempty : base ≠ []) (noNul : (0 : UInt8) ∉ base)
    (h : ¬ IsAbsolute child) : components (join base child) = components base ++ components child := by
  obtain ⟨front, joined, rfl | rfl⟩ := join_relative nonempty h
  · rw [joined, components_append_cons noNul]
  · have cut : (0 : UInt8) ∉ front := fun there => noNul (List.mem_append_left _ there)
    have closing : components (front ++ [separator]) = components front := by
      rw [components_append_cons cut]
      exact List.append_nil _
    rw [joined, closing, components_append_cons cut]

theorem isAbsolute_join {base child : Bytes} (nonempty : base ≠ []) (h : ¬ IsAbsolute child) :
    IsAbsolute (join base child) ↔ IsAbsolute base := by
  obtain ⟨front, joined, rfl | rfl⟩ := join_relative nonempty h
  · cases base with
    | nil => exact absurd rfl nonempty
    | cons b front => rw [joined]; rfl
  · rw [joined, IsAbsolute, IsAbsolute]
    cases front with
    | nil => rfl
    | cons b front => rfl

theorem cstr_ne_nil_of_isAbsolute {path : Bytes} (h : IsAbsolute path) : cstr path ≠ [] := by
  cases path with
  | nil => cases h
  | cons b rest =>
      cases h
      exact List.cons_ne_nil _ _

theorem cstr_join_ne_nil {base child : Bytes} (nonempty : base ≠ []) (noNul : (0 : UInt8) ∉ base) :
    cstr (join base child) ≠ [] := by
  by_cases h : IsAbsolute child
  · rw [join_absolute h]
    exact cstr_ne_nil_of_isAbsolute h
  · obtain ⟨front, joined, same⟩ := join_relative nonempty h
    have cut : (0 : UInt8) ∉ front := by
      rcases same with rfl | rfl
      · exact noNul
      · exact fun there => noNul (List.mem_append_left _ there)
    rw [joined, cstr_append_cons cut]
    exact List.append_ne_nil_of_right_ne_nil _ (List.cons_ne_nil _ _)

/-- `path::concat` behind a joined name is a join with the longer name. -/
theorem join_append {suffix : Bytes} (h : ¬ IsAbsolute suffix) (base child : Bytes) :
    join base (child ++ suffix) = join base child ++ suffix := by
  have same : IsAbsolute (child ++ suffix) ↔ IsAbsolute child := by
    cases child with
    | nil => exact iff_of_false h fun none => nomatch none
    | cons b rest => rfl
  simp only [join, same]
  split
  · rfl
  · split
    · rw [List.append_assoc]
    · rw [List.append_assoc, List.cons_append]

theorem components_ordinary {name : Bytes} (h : Ordinary name) : components name = [name] := by
  have whole : cstr name = name :=
    List.takeWhile_eq_self_iff.mpr fun b there => bne_iff_ne.mpr fun zero => h.2.2.2.2 (zero ▸ there)
  rw [components, whole, List.splitOn_eq_singleton h.2.2.2.1]
  exact List.filter_cons_of_pos (by simpa using h.1)

theorem not_isAbsolute_of_ordinary {name : Bytes} (h : Ordinary name) : ¬ IsAbsolute name :=
  fun absolute => h.2.2.2.1 (List.mem_of_head? absolute)

end FileTree
