import SyncRGB.Pawn.Closure

/-! A program stays within the cells that its addresses lead to, whatever its code is. -/
namespace SyncRGB.Amx
open Effect HostMemory
variable {w : Nat} {Ω : Type} {mem : MemoryManager w} {callback : Callback w Ω}

/-- A cell that some address of the data leads to. -/
def MemoryManager.DataCell (mem : MemoryManager w) (p : Pointer) : Prop := ∃ v, mem.data v = some p

/-- Every address leads to a cell of the host or to none. -/
structure MemoryManager.Backed (mem : MemoryManager w) (host : Blocks (Cell w)) : Prop where
  code : ∀ v p, mem.code v = some p → host.Inside p
  data : ∀ v p, mem.data v = some p → host.Inside p

/-- What may differ after a program ran. -/
structure Sandboxed (mem : MemoryManager w) (m n : Machine w Ω) : Prop where
  dat : n.dat = m.dat
  cod : n.cod = m.cod
  host : Blocks.Confined mem.DataCell m.host n.host

def Contained (mem : MemoryManager w) {α : Type} (c : Step w Ω α) : Prop :=
  Relates (fun m => mem.Backed m.host) (Sandboxed mem) (· ≠ .outside) c

theorem MemoryManager.Backed.confined {host host' : Blocks (Cell w)} {reach : Pointer → Prop}
    (backed : mem.Backed host) (confined : Blocks.Confined reach host host') : mem.Backed host' :=
  ⟨fun v p at_ => confined.inside_iff.mpr (backed.code v p at_),
    fun v p at_ => confined.inside_iff.mpr (backed.data v p at_)⟩

theorem sandboxed_chains : Chains (fun m : Machine w Ω => mem.Backed m.host) (Sandboxed mem) where
  refl _ := ⟨rfl, rfl, .refl _ _⟩
  trans _ _ _ first second :=
    ⟨second.dat.trans first.dat, second.cod.trans first.cod, first.host.trans second.host⟩
  keeps _ _ backed within := backed.confined within.host

theorem sandboxed_self (m : Machine w Ω) : Sandboxed mem m m := sandboxed_chains.refl m

/-- Reading behind a pointer of a backing. -/
theorem wp_loadFrom {p : Option Pointer} {none_ : Error} {m n : Machine w Ω}
    (inside : ∀ q, p = some q → n.host.Inside q) (within : Sandboxed mem m n) :
    Wp (loadFrom p none_) (fun _ t => Sandboxed mem m t) (fun e t => e ≠ .outside ∧ Sandboxed mem m t) n := by
  cases p with
  | none => exact ⟨nofun, within⟩
  | some p =>
      obtain ⟨c, at_⟩ := (inside p rfl).read
      simp only [Wp, loadFrom, at_]
      exact within

theorem contained_storeData (v c : Cell w) : Contained mem (storeData mem v c : Step w Ω Unit) := by
  intro m backed
  unfold Wp storeData storeTo
  cases found : m.dataAt mem v with
  | none => exact ⟨nofun, sandboxed_self m⟩
  | some p =>
      obtain ⟨host, stored⟩ := (backed.data _ p found).write c
      simp only [stored]
      exact ⟨rfl, rfl, .write ⟨_, found⟩ stored⟩

theorem contained_checkData (v : Cell w) : Contained mem (checkData mem v : Step w Ω Unit) := by
  intro m backed
  unfold Wp checkData
  split_ifs
  · exact sandboxed_self m
  · exact ⟨nofun, sandboxed_self m⟩

theorem contained_fireCallback {index : Cell w} (contained : Contained mem (callback index)) :
    Contained mem (fireCallback callback index) := by
  intro m backed
  have once := contained m backed
  unfold Wp at once ⊢
  unfold fireCallback
  rcases run : callback index m with ⟨e | _, n⟩
  · rw [run] at once
    exact ⟨once.1, once.2.dat, once.2.cod, once.2.host⟩
  · rw [run] at once
    exact ⟨once.dat, once.cod, once.host⟩

/-- Whatever an instruction does, it does it through the parts. -/
theorem contained_closed (contained : ∀ index, Contained mem (callback index)) :
    Closed mem callback fun c => Contained mem c where
  pure := Relates.pure sandboxed_chains
  bind := Relates.bind sandboxed_chains
  reading := Relates.reading sandboxed_chains
  registers only := Relates.updating fun m => by
    obtain ⟨dat, cod, _, host, _⟩ := only m
    exact ⟨dat, cod, host ▸ .refl _ _⟩
  failing allowed := Relates.failing sandboxed_chains allowed
  checkData := contained_checkData
  loadData v m backed := wp_loadFrom (backed.data _) (sandboxed_self m)
  loadCode v m backed := wp_loadFrom (backed.code _) (sandboxed_self m)
  operand m backed := wp_loadFrom (n := { m with cip := m.cip + cellBytes w }) (backed.code _) ⟨rfl, rfl, .refl _ _⟩
  storeData := contained_storeData
  fireCallback index := contained_fireCallback (contained index)

/-- What a run leaves, and how it may end. -/
def Stays (mem : MemoryManager w) (m : Machine w Ω) (outcome : Except Fault Unit × Machine w Ω) : Prop :=
  outcome.1 ≠ .error .outside ∧ Sandboxed mem m outcome.2

theorem Contained.stays {c : Step w Ω Unit} (contained : Contained mem c) {m : Machine w Ω}
    (backed : mem.Backed m.host) : Stays mem m (c m) := by
  have once := contained m backed
  unfold Wp at once
  rcases run : c m with ⟨e | _, n⟩
  · rw [run] at once
    exact ⟨fun wild => once.1 (Except.error.inj wild), once.2⟩
  · rw [run] at once
    exact ⟨nofun, once⟩

theorem Stays.trans {m n : Machine w Ω} {outcome : Except Fault Unit × Machine w Ω} (first : Sandboxed mem m n)
    (rest : Stays mem n outcome) : Stays mem m outcome := ⟨rest.1, sandboxed_chains.trans _ _ _ first rest.2⟩

section
variable (contained : ∀ index, Contained mem (callback index))
include contained

theorem loop_stays {fuel : Nat} {m : Machine w Ω} {outcome : Except Fault Unit × Machine w Ω}
    (backed : mem.Backed m.host) (ends : loop mem callback fuel m = some outcome) : Stays mem m outcome := by
  induction fuel generalizing m with
  | zero => cases ends
  | succ fuel ih =>
      unfold loop at ends
      split at ends
      · cases ends
        exact ⟨nofun, sandboxed_self m⟩
      · have once := ((contained_closed contained).turn).stays backed
        rcases run : turn mem callback m with ⟨e | _, n⟩
        · rw [run] at once ends
          cases ends
          exact once
        · rw [run] at once ends
          exact .trans once.2 (ih (backed.confined once.2.host) ends)

theorem callRaw_stays {fuel : Nat} {cip : Cell w} {m : Machine w Ω} {outcome : Except Fault Unit × Machine w Ω}
    (backed : mem.Backed m.host) (ends : callRaw mem callback fuel cip m = some outcome) : Stays mem m outcome := by
  have once := ((contained_closed contained).push 0).stays backed
  unfold callRaw at ends
  rcases run : push mem 0 m with ⟨e | _, n⟩
  · rw [run] at once ends
    cases ends
    exact ⟨once.1, once.2.dat, once.2.cod, once.2.host⟩
  · rw [run] at once ends
    have moved : Sandboxed mem m { n with cip } := ⟨once.2.dat, once.2.cod, once.2.host⟩
    exact .trans moved (loop_stays contained (backed.confined moved.host) ends)

/-- No call leaves the sandbox: whatever the code, the data, the registers and the arguments are, no access goes
outside of a block of the host, and only cells that addresses of the data lead to may differ after it. -/
theorem call_stays {fuel : Nat} {cip : Cell w} {args : List (Cell w)} {m : Machine w Ω}
    {outcome : Except Fault Unit × Machine w Ω} (backed : mem.Backed m.host)
    (ends : call mem callback fuel cip args m = some outcome) : Stays mem m outcome := by
  have once := ((contained_closed contained).pushFrame args).stays backed
  unfold call at ends
  split at ends
  · rename_i n run
    rw [run] at once
    exact .trans once.2 (callRaw_stays contained (backed.confined once.2.host) ends)
  · rename_i e n run
    rw [run] at once
    cases ends
    exact once

end
end SyncRGB.Amx
