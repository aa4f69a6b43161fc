import SyncRGB.Effect.Outcome
import SyncRGB.Pawn.Confinement
import SyncRGB.Pawn.Natives

/-! Natives stay in the sandbox too, and when the wrapper of a function stores through a null pointer. -/
namespace SyncRGB.Amx
open Effect HostMemory
variable {w : Nat} {Ω : Type} {mem : MemoryManager w} {m : Machine w Ω}

/-! ### Arguments -/

theorem cellAt_error {p : Option Pointer} {e : Fault} (inside : ∀ q, p = some q → m.host.Inside q)
    (fails : m.cellAt p = .error e) : e = .error .accessViolation := by
  cases p with
  | none =>
      cases fails
      rfl
  | some p =>
      obtain ⟨c, at_⟩ := (inside p rfl).read
      simp only [Machine.cellAt, at_] at fails
      cases fails

section
variable (backed : mem.Backed m.host)
include backed

theorem argument_error {argv : Cell w} {index : Nat} {e : Fault} (fails : m.argument mem argv index = .error e) :
    e = .error .accessViolation := cellAt_error (backed.data _) fails

theorem elements_error {base : Cell w} {n : Nat} {e : Fault} (fails : m.elements mem base n = .error e) :
    e = .error .accessViolation := by
  induction n generalizing base with
  | zero => cases fails
  | succ n ih =>
      rw [Machine.elements] at fails
      cases found : mem.data base with
      | none =>
          rw [found] at fails
          cases fails
          rfl
      | some p =>
          rw [found] at fails
          rcases except_bind_error.mp fails with first | ⟨c, _, fails⟩
          · exact cellAt_error (fun q same => backed.data base q (found.trans same)) first
          · rcases except_bind_error.mp fails with rest | ⟨_, _, done⟩
            · exact ih rest
            · cases done

theorem init_error {argv : Cell w} {index : Nat} {p : Parameter} {e : Fault}
    (fails : p.init mem m argv index = .error e) : e = .error .accessViolation := by
  cases p with
  | value =>
      rcases except_bind_error.mp fails with first | ⟨_, _, done⟩
      · exact argument_error backed first
      · cases done
  | reference =>
      rcases except_bind_error.mp fails with first | ⟨c, _, rest⟩
      · exact argument_error backed first
      · cases found : mem.data c with
        | none =>
            rw [found] at rest
            cases rest
            rfl
        | some p =>
            rw [found] at rest
            cases rest
  | values n | references n =>
      rcases except_bind_error.mp fails with first | ⟨c, _, rest⟩
      · exact argument_error backed first
      · rcases except_bind_error.mp rest with elements | ⟨_, _, done⟩
        · exact elements_error backed elements
        · cases done

end

theorem elements_placed {base : Cell w} {n : Nat} {es : List (Pointer × Cell w)}
    (found : m.elements mem base n = .ok es) : es.length = n ∧ ∀ e ∈ es, mem.DataCell e.1 := by
  induction n generalizing base es with
  | zero =>
      cases found
      exact ⟨rfl, fun _ none_ => nomatch none_⟩
  | succ n ih =>
      rw [Machine.elements] at found
      cases at_ : mem.data base with
      | none =>
          rw [at_] at found
          cases found
      | some p =>
          rw [at_] at found
          obtain ⟨c, _, found⟩ := except_bind_ok.mp found
          obtain ⟨rest, others, done⟩ := except_bind_ok.mp found
          cases done
          obtain ⟨count, places⟩ := ih others
          refine ⟨congrArg (· + 1) count, fun e in_ => ?_⟩
          rcases List.mem_cons.mp in_ with rfl | later
          · exact ⟨base, at_⟩
          · exact places e later

theorem mem_zip_stores {es : List (Pointer × Cell w)} {s : Option Pointer × Cell w}
    (in_ : s ∈ (Wrapper.references (es.map fun e => some e.1) (es.map Prod.snd)).stores) : ∃ e ∈ es, s.1 = some e.1 := by
  obtain ⟨i, at_⟩ := List.mem_iff_getElem?.mp in_
  obtain ⟨place, _⟩ := List.getElem?_zip_eq_some.mp at_
  rw [List.getElem?_map] at place
  obtain ⟨e, here, same⟩ := Option.map_eq_some_iff.mp place
  exact ⟨e, List.mem_of_getElem? here, same.symm⟩

/-- What `init` makes has places for all that it will write. -/
theorem init_placed {argv : Cell w} {index : Nat} {p : Parameter} {x : Wrapper w}
    (made : p.init mem m argv index = .ok x) : ∀ s ∈ x.stores, ∃ q, s.1 = some q ∧ mem.DataCell q := by
  intro s in_
  cases p with
  | value =>
      obtain ⟨_, _, made⟩ := except_bind_ok.mp made
      cases made
      cases in_
  | values n =>
      obtain ⟨_, _, made⟩ := except_bind_ok.mp made
      obtain ⟨_, _, made⟩ := except_bind_ok.mp made
      cases made
      cases in_
  | reference =>
      obtain ⟨c, _, made⟩ := except_bind_ok.mp made
      cases found : mem.data c with
      | none =>
          rw [found] at made
          cases made
      | some q =>
          rw [found] at made
          cases made
          cases List.mem_singleton.mp in_
          exact ⟨q, rfl, c, found⟩
  | references n =>
      obtain ⟨_, _, made⟩ := except_bind_ok.mp made
      obtain ⟨es, found, made⟩ := except_bind_ok.mp made
      cases made
      obtain ⟨e, here, place⟩ := mem_zip_stores in_
      exact ⟨e.1, place, (elements_placed found).2 e here⟩

/-! ### Destructors -/

/-- It ends within the sandbox, and with a store through null exactly in one case. -/
def Finishes (mem : MemoryManager w) (Ω : Type) (c : Step w Ω Unit) (null : Prop) : Prop :=
  ∀ m : Machine w Ω, mem.Backed m.host → ∃ n, Sandboxed mem m n ∧
    (¬ null ∧ c m = (.ok (), n) ∨ null ∧ c m = (.error .nullWrite, n))

theorem Finishes.forM {α : Type} {f : α → Step w Ω Unit} {null : α → Prop} {xs : List α}
    (each : ∀ x ∈ xs, Finishes mem Ω (f x) (null x)) : Finishes mem Ω (xs.forM f) (∃ x ∈ xs, null x) := by
  induction xs with
  | nil => exact fun m _ => ⟨m, sandboxed_self m, .inl ⟨fun ⟨_, none_, _⟩ => (nomatch none_), rfl⟩⟩
  | cons x xs ih =>
      intro m backed
      obtain ⟨first, others⟩ := List.forall_mem_cons.mp each
      obtain ⟨n, within, ⟨fine, run⟩ | ⟨null, run⟩⟩ := first m backed
      · obtain ⟨k, later, rest⟩ := ih others n (backed.confined within.host)
        refine ⟨k, sandboxed_chains.trans _ _ _ within later, ?_⟩
        have on : (x :: xs).forM f m = xs.forM f n := bind_ok run
        have same : (∃ y ∈ x :: xs, null y) ↔ ∃ y ∈ xs, null y := by
          rw [List.exists_mem_cons_iff, or_iff_right fine]
        rw [on, same]
        exact rest
      · exact ⟨n, within, .inr ⟨⟨x, List.mem_cons_self, null⟩, bind_error run⟩⟩

theorem writeBack_finishes {s : Option Pointer × Cell w} (placed : ∀ p, s.1 = some p → mem.DataCell p) :
    Finishes mem Ω (writeBack s) (s.1 = none) := by
  rintro m backed
  rcases s with ⟨_ | p, c⟩
  · exact ⟨m, sandboxed_self m, .inr ⟨rfl, rfl⟩⟩
  · obtain ⟨v, at_⟩ := placed p rfl
    obtain ⟨host, stored⟩ := (backed.data v p at_).write c
    refine ⟨{ m with host }, ⟨rfl, rfl, .write ⟨v, at_⟩ stored⟩, .inl ⟨nofun, ?_⟩⟩
    simp only [writeBack, storeTo, stored]

def Wrapper.Null (x : Wrapper w) : Prop := ∃ s ∈ x.stores, s.1 = none

def Wrapper.Placed (mem : MemoryManager w) (x : Wrapper w) : Prop := ∀ s ∈ x.stores, ∀ p, s.1 = some p → mem.DataCell p

theorem destroyAll_finishes {xs : List (Wrapper w)} (placed : ∀ x ∈ xs, x.Placed mem) :
    Finishes mem Ω (xs.forM Wrapper.destroy) (∃ x ∈ xs, x.Null) :=
  .forM fun x in_ => .forM fun s here => writeBack_finishes (placed x in_ s here)

/-- Values do not change where they go. -/
theorem stores_after (x : Wrapper w) (new : List (Cell w)) : (x.after new).stores.map Prod.fst = x.stores.map Prod.fst := by
  cases x with
  | value v | values vs => rfl
  | reference p v => cases p <;> rfl
  | references ps vs =>
      apply List.ext_getElem?
      intro i
      simp only [Wrapper.after, Wrapper.stores, List.getElem?_map, List.zip, List.getElem?_zipWith, List.getElem?_mapIdx]
      cases ps[i]? with
      | none => rfl
      | some p =>
          cases vs[i]? with
          | none => rfl
          | some v => rfl

theorem forall_stores_after (holds : Option Pointer → Prop) {x : Wrapper w} {new : List (Cell w)} :
    (∀ s ∈ (x.after new).stores, holds s.1) ↔ ∀ s ∈ x.stores, holds s.1 := by
  have every (y : Wrapper w) : (∀ s ∈ y.stores, holds s.1) ↔ ∀ p ∈ y.stores.map Prod.fst, holds p := by
    rw [List.forall_mem_map]
  rw [every, every, stores_after]

/-! ### Calls -/

def Initialised (mem : MemoryManager w) (m : Machine w Ω) (argv : Cell w) (index : Nat) (params : List Parameter) :
    Prop := ∀ (i : Nat) (q : Parameter), params[i]? = some q → ∃ x, q.init mem m argv (index + i) = .ok x

theorem Initialised.cons {argv : Cell w} {index : Nat} {p : Parameter} {ps : List Parameter} {x : Wrapper w}
    (first : p.init mem m argv index = .ok x) (others : Initialised mem m argv (index + 1) ps) :
    Initialised mem m argv index (p :: ps) := by
  intro i q at_
  cases i with
  | zero =>
      cases at_
      exact ⟨x, first⟩
  | succ i =>
      rw [← Nat.add_assoc, Nat.add_right_comm]
      exact others i q at_

/-- The first argument that does not translate is the one of `p`. -/
structure FailsAt (mem : MemoryManager w) (m : Machine w Ω) (argv : Cell w) (index : Nat) (before : List Parameter)
    (p : Parameter) (e : Fault) : Prop where
  made : Initialised mem m argv index before
  fails : p.init mem m argv (index + before.length) = .error e

/-- An argument behind one that does not translate is not looked at. -/
theorem FailsAt.not_before {argv : Cell w} {index : Nat} {before before' : List Parameter} {p : Parameter}
    {e : Fault} (failsAt : FailsAt mem m argv index before p e) (made : Initialised mem m argv index before')
    (at_ : before'[before.length]? = some p) : False := by
  obtain ⟨x, fine⟩ := made _ p at_
  rw [failsAt.fails] at fine
  cases fine

theorem FailsAt.unique {argv : Cell w} {index : Nat} {before before' rest rest' : List Parameter} {p p' : Parameter}
    {e e' : Fault} (failsAt : FailsAt mem m argv index before p e) (failsAt' : FailsAt mem m argv index before' p' e')
    (same : before ++ p :: rest = before' ++ p' :: rest') : p :: rest = p' :: rest' := by
  have shorter {xs ys zs zs' : List Parameter} {q : Parameter} (same : xs ++ q :: zs = ys ++ zs')
      (less : xs.length < ys.length) : ys[xs.length]? = some q := by
    rw [← List.getElem?_append_left less, ← same, List.getElem?_append_right (Nat.le_refl _), Nat.sub_self]
    rfl
  rcases Nat.lt_trichotomy before.length before'.length with less | equal | more
  · exact (failsAt.not_before failsAt'.made (shorter same less)).elim
  · exact (List.append_inj same equal).2
  · exact (failsAt'.not_before failsAt.made (shorter same.symm more)).elim

/-- No place for at least one element. -/
def Parameter.Unplaced (p : Parameter) : Prop := ∃ n, p = .references (n + 1)

theorem unplaced_iff {p : Parameter} : (p.wrapper : Wrapper w).Null ↔ p.Unplaced := by
  cases p with
  | value | values n | reference =>
      constructor
      · rintro ⟨_, none_, _⟩
        cases none_
      · rintro ⟨_, other⟩
        cases other
  | references n =>
      cases n with
      | zero =>
          constructor
          · rintro ⟨_, none_, _⟩
            cases none_
          · rintro ⟨_, other⟩
            cases other
      | succ n => exact iff_of_true ⟨(none, 0), List.mem_cons_self, rfl⟩ ⟨n, rfl⟩

theorem wrapper_placed (p : Parameter) : (p.wrapper : Wrapper w).Placed mem := by
  intro s in_ q place
  cases p with
  | value | values n | reference => cases in_
  | references n =>
      obtain ⟨c, d⟩ := s
      rw [List.eq_of_mem_replicate (List.of_mem_zip in_).1] at place
      cases place

theorem initWrappers_ok {argv : Cell w} {index : Nat} {params : List Parameter} {xs : List (Wrapper w)} {u : Unit}
    (made : initWrappers mem m argv index params = (xs, .ok u)) :
    Initialised mem m argv index params ∧ ∀ x ∈ xs, ∀ s ∈ x.stores, ∃ q, s.1 = some q ∧ mem.DataCell q := by
  induction params generalizing index xs with
  | nil =>
      cases made
      exact ⟨fun _ _ none_ => (nomatch none_), fun _ none_ => nomatch none_⟩
  | cons p ps ih =>
      rw [initWrappers] at made
      cases first : p.init mem m argv index with
      | error e =>
          rw [first] at made
          cases made
      | ok x =>
          rw [first] at made
          rcases others : initWrappers mem m argv (index + 1) ps with ⟨rest, result⟩
          rw [others] at made
          cases made
          obtain ⟨initialised, placed⟩ := ih others
          refine ⟨.cons first initialised, fun y in_ => ?_⟩
          rcases List.mem_cons.mp in_ with rfl | later
          · exact init_placed first
          · exact placed y later

theorem initWrappers_error {argv : Cell w} {index : Nat} {params : List Parameter} {xs : List (Wrapper w)} {e : Fault}
    (made : initWrappers mem m argv index params = (xs, .error e)) :
    ∃ before p rest, params = before ++ p :: rest ∧ FailsAt mem m argv index before p e ∧
      (∀ x ∈ xs, x.Placed mem) ∧ ((∃ x ∈ xs, x.Null) ↔ ∃ q ∈ p :: rest, q.Unplaced) := by
  induction params generalizing index xs with
  | nil => cases made
  | cons p ps ih =>
      rw [initWrappers] at made
      cases first : p.init mem m argv index with
      | error d =>
          rw [first] at made
          cases made
          refine ⟨[], p, ps, rfl, ⟨fun _ _ none_ => (nomatch none_), first⟩, ?_, ?_⟩
          · rw [← List.map_cons, List.forall_mem_map]
            exact fun q _ => wrapper_placed q
          · simp only [← List.map_cons, List.mem_map, exists_exists_and_eq_and]
            exact exists_congr fun q => and_congr_right fun _ => unplaced_iff
      | ok x =>
          rw [first] at made
          rcases others : initWrappers mem m argv (index + 1) ps with ⟨others_, result⟩
          rw [others] at made
          cases made
          obtain ⟨before, q, rest, rfl, failsAt, placed, null⟩ := ih others
          have here := init_placed first
          refine ⟨p :: before, q, rest, rfl, ⟨.cons first failsAt.made, ?_⟩, ?_, ?_⟩
          · rw [List.length_cons, ← Nat.add_assoc, Nat.add_right_comm]
            exact failsAt.fails
          · intro y in_ s at_ r place
            rcases List.mem_cons.mp in_ with rfl | later
            · obtain ⟨q', same, cell⟩ := here s at_
              rw [same] at place
              cases place
              exact cell
            · exact placed y later s at_ r place
          · rw [List.exists_mem_cons_iff, or_iff_right, null]
            rintro ⟨s, at_, none_⟩
            obtain ⟨_, same, _⟩ := here s at_
            rw [none_] at same
            cases same

/-- How a call of a function of the driver ends, and which cells it may have written. -/
theorem callback_cases (f : Function w Ω) {reach : Pointer → Prop} (reaches : f.Reaches reach)
    (backed : mem.Backed m.host) (argc argv : Cell w) :
    ∃ result n, f.callback mem argc argv m = (result, n) ∧ n.dat = m.dat ∧ n.cod = m.cod ∧
      Blocks.Confined (fun p => mem.DataCell p ∨ reach p) m.host n.host ∧ result ≠ .error .outside ∧
      (result = .error .nullWrite ↔ argc = BitVec.ofNat w f.params.length ∧ ∃ before p rest e,
        f.params = before ++ p :: rest ∧ FailsAt mem m argv 0 before p e ∧ ∃ q ∈ p :: rest, q.Unplaced) := by
  unfold Function.callback
  by_cases count : argc = BitVec.ofNat w f.params.length
  · rw [if_neg (not_not.mpr count)]
    rcases made : initWrappers mem m argv 0 f.params with ⟨xs, e | u⟩
    · obtain ⟨before, p, rest, split, failsAt, placed, null⟩ := initWrappers_error made
      obtain rfl := init_error backed failsAt.fails
      obtain ⟨n, within, ⟨fine, run⟩ | ⟨wild, run⟩⟩ := destroyAll_finishes placed m backed
      · refine ⟨_, n, bind_ok run, within.dat, within.cod, within.host.mono fun _ => Or.inl, nofun,
          iff_of_false nofun ?_⟩
        rintro ⟨_, before', p', rest', e', split', failsAt', unplaced⟩
        rw [← failsAt.unique failsAt' (split.symm.trans split')] at unplaced
        exact fine (null.mpr unplaced)
      · refine ⟨.error .nullWrite, n, bind_error run, within.dat, within.cod, within.host.mono fun _ => Or.inl,
          nofun, ?_⟩
        exact iff_of_true rfl ⟨count, before, p, rest, _, split, failsAt, null.mp wild⟩
    · obtain ⟨initialised, placed⟩ := initWrappers_ok made
      have own := reaches (xs.map Wrapper.contents) m.host m.world
      rcases run : f.run (xs.map Wrapper.contents) m.host m.world with ⟨retval, new, host, world⟩
      rw [run] at own
      have places : ∀ x ∈ xs.mapIdx fun i x => x.after (new.getD i []), ∀ s ∈ x.stores, ∃ q, s.1 = some q ∧
          mem.DataCell q := by
        intro x in_
        obtain ⟨i, _, rfl⟩ := List.mem_mapIdx.mp in_
        exact (forall_stores_after fun p => ∃ q, p = some q ∧ mem.DataCell q).mpr (placed _ (List.getElem_mem _))
      have placed' : ∀ x ∈ xs.mapIdx fun i x => x.after (new.getD i []), x.Placed mem := by
        intro x in_ s at_ q place
        obtain ⟨q', same, cell⟩ := places x in_ s at_
        rw [same] at place
        cases place
        exact cell
      obtain ⟨n, within, ⟨_, done⟩ | ⟨⟨x, in_, s, at_, none_⟩, _⟩⟩ :=
        destroyAll_finishes placed' { m with pri := retval, host, world } (backed.confined own)
      · simp only [run]
        refine ⟨.ok (), n, done, within.dat, within.cod,
          (own.mono fun _ => Or.inr).trans (within.host.mono fun _ => Or.inl), nofun, iff_of_false nofun ?_⟩
        rintro ⟨_, before, p, rest, e, split, failsAt, _⟩
        refine failsAt.not_before initialised ?_
        rw [split, List.getElem?_append_right (Nat.le_refl _), Nat.sub_self]
        rfl
      · obtain ⟨_, same, _⟩ := places x in_ s at_
        rw [none_] at same
        cases same
  · rw [if_pos count]
    exact ⟨_, m, rfl, rfl, rfl, .refl _ _, nofun, iff_of_false nofun fun both => count both.1⟩

/-- The wrapper of a function of the driver accesses nothing outside of the blocks and writes only cells that addresses
of the data lead to, besides those that the function itself reaches. It stores through a null pointer exactly where
the number of arguments is right, one of them does not translate, and its parameter or a later one is an array of
references. -/
theorem call_stores_through_null_iff (f : Function w Ω) {reach : Pointer → Prop} (reaches : f.Reaches reach)
    (backed : mem.Backed m.host) (argc argv : Cell w) :
    (f.callback mem argc argv m).1 ≠ .error .outside ∧
      Blocks.Confined (fun p => mem.DataCell p ∨ reach p) m.host (f.callback mem argc argv m).2.host ∧
      ((f.callback mem argc argv m).1 = .error .nullWrite ↔ argc = BitVec.ofNat w f.params.length ∧
        ∃ before p rest e, f.params = before ++ p :: rest ∧ FailsAt mem m argv 0 before p e ∧
          ∃ q ∈ p :: rest, q.Unplaced) := by
  obtain ⟨result, n, run, _, _, written, inside, exactly⟩ := callback_cases f reaches backed argc argv
  rw [run]
  exact ⟨inside, written, exactly⟩

/-- The parameters of `cpuid`. -/
def cpuidParams : List Parameter := [.value, .value, .references 4]

/-- A function like `cpuid`, which leaves memory alone. -/
def cpuidLike : Function 64 Unit := ⟨cpuidParams, fun _ host world => ⟨0, [[], [], [1, 2, 3, 4]], host, world⟩⟩

/-- A program that passes addresses that lead nowhere to `cpuid`. -/
theorem cpuid_stores_through_null :
    (cpuidLike.callback ⟨fun _ => none, fun _ => none⟩ 3 0 ⟨0, 0, 0, 0, 0, 0, 0, 0, 0, [], ()⟩).1 =
      .error .nullWrite := by
  have backed : (⟨fun _ => none, fun _ => none⟩ : MemoryManager 64).Backed [] :=
    ⟨fun _ _ none_ => (nomatch none_), fun _ _ none_ => nomatch none_⟩
  have quiet : cpuidLike.Reaches fun _ => False := fun _ host _ => .refl _ host
  refine (call_stores_through_null_iff cpuidLike quiet backed 3 0).2.2.mpr
    ⟨rfl, [], .value, [.value, .references 4], .error .accessViolation, rfl, ?_, ?_⟩
  · exact ⟨fun _ _ none_ => (nomatch none_), rfl⟩
  · exact ⟨.references 4, by decide, 3, rfl⟩

theorem contained_functionCallback {f : Function w Ω} (quiet : f.Quiet) (argc argv : Cell w) :
    Contained mem (f.callback mem argc argv) := by
  intro m backed
  obtain ⟨result, n, run, dat, cod, written, inside, _⟩ := callback_cases f quiet backed argc argv
  have within : Sandboxed mem m n := ⟨dat, cod, written.mono fun _ either => either.resolve_right id⟩
  unfold Wp
  rw [run]
  cases result with
  | error e => exact ⟨fun wild => inside (congrArg Except.error wild), within⟩
  | ok u => exact within

/-- Natives that take their arguments on their own have to stay in the sandbox, and functions have to leave the memory
of the host alone. -/
def Native.Tame (mem : MemoryManager w) : Native w Ω → Prop
  | .plain callback => ∀ argc argv, Contained mem (callback argc argv)
  | .function f => f.Quiet
  | .callNative => True

section
variable {table : List (Native w Ω)} (tame : ∀ native ∈ table, native.Tame mem)
include tame

theorem contained_nativeCallback {depth : Nat} {native : Native w Ω} (here : native.Tame mem) (argc argv : Cell w) :
    Contained mem (native.callback mem table depth argc argv) := by
  have parts : Closed (Ω := Ω) mem (fun _ => Pure.pure ()) fun c => Contained mem c :=
    contained_closed fun _ => Relates.pure sandboxed_chains ()
  induction depth generalizing native argc argv with
  | zero =>
      cases native with
      | function f => exact contained_functionCallback here argc argv
      | plain callback => exact here argc argv
      | callNative => exact parts.bind (parts.setPri 0) fun _ => parts.fault _
  | succ depth ih =>
      cases native with
      | function f => exact contained_functionCallback here argc argv
      | plain callback => exact here argc argv
      | callNative =>
          refine parts.bind (parts.setPri 0) fun _ => parts.bind (parts.loadData argv) fun index => ?_
          cases found : table[index.toNat]? with
          | none => exact parts.fault _
          | some next => exact ih (tame next (List.mem_of_getElem? found)) _ _

theorem contained_amxCallback {natives : List (Native w Ω)} (every : ∀ native ∈ natives, native.Tame mem)
    (index : Cell w) : Contained mem (amxCallback mem table natives index) := by
  have parts : Closed (Ω := Ω) mem (fun _ => Pure.pure ()) fun c => Contained mem c :=
    contained_closed fun _ => Relates.pure sandboxed_chains ()
  unfold amxCallback
  split_ifs
  · exact parts.pure ()
  · cases found : natives[index.toNat]? with
    | none => exact parts.fault _
    | some native =>
        refine parts.getting Machine.stk fun stk => parts.bind (parts.loadData stk) fun size => ?_
        exact contained_nativeCallback tame (every native (List.mem_of_getElem? found)) _ _

end
end SyncRGB.Amx
