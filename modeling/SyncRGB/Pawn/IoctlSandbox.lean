import SyncRGB.Pawn.Ioctl

/-! Calls through the driver: whatever a program is and whatever it is called with, it stays within its data and the
buffer of the caller, and the pages are as they were before. -/
namespace SyncRGB.Amx
open Effect HostMemory ByteCodec Transition
variable {Ω : Type}

theorem Represents.unique {w indexBits : Nat} {pages pages' : PagedBuffers w indexBits} {live : List (Window w)}
    (first : Represents pages live) (second : Represents pages' live) : pages = pages' := by
  have same : pages.mappings = pages'.mappings := by
    apply List.ext_getElem?
    intro i
    by_cases small : i < 2 ^ indexBits
    · obtain ⟨m, found, page⟩ := first.page i small
      obtain ⟨m', found', page'⟩ := second.page i small
      rw [found, found']
      rcases page with ⟨rfl, none_⟩ | ⟨x, only, rfl⟩ <;> rcases page' with ⟨rfl, none_'⟩ | ⟨y, only', rfl⟩
      · rfl
      · rw [none_] at only'
        cases only'
      · rw [only] at none_'
        cases none_'
      · rw [only] at only'
        cases only'
        rfl
    · rw [List.getElem?_eq_none (by rw [pages.full]; omega), List.getElem?_eq_none (by rw [pages'.full]; omega)]
  cases pages
  cases pages'
  cases same
  rfl

/-- All cells of a window are in the host. -/
def Window.Inside (host : Blocks (Cell 64)) (x : Window 64) : Prop := ∀ k, k < x.size → host.Inside (x.buf.advance k)

section
variable {pages : PagedBuffers 64 5} {live : List (Window 64)} (represents : Represents pages live)
include represents

theorem Represents.shown {v : Cell 64} {p : Pointer} (at_ : pages.translate v = some p) :
    ∃ x ∈ live, ∃ k, k < x.size ∧ p = x.buf.advance k := by
  obtain ⟨x, in_, k, small, _, place⟩ := (represents.translate_iff driver_pages v p).mp at_
  exact ⟨x, in_, k, small, place⟩

theorem Represents.backed {vm : Vm Ω} {host : Blocks (Cell 64)} {b : Nat} (code : vm.code.buf = some ⟨b, 0⟩)
    (codeSize : vm.code.size ≤ (host.cells b).length * 8) (inside : ∀ x ∈ live, x.Inside host) :
    (vm.memory pages).Backed host where
  code v p at_ := by
    obtain ⟨within, buf, placed, rfl⟩ := ContiguousBuffer.translate_eq_some_iff.mp at_
    rw [code] at placed
    cases placed
    have small : v.toNat / (64 / 8) < (host.cells b).length :=
      Nat.div_lt_of_lt_mul (Nat.mul_comm _ 8 ▸ within.trans_le codeSize)
    exact (Nat.zero_add _).trans_lt small
  data v p at_ := by
    obtain ⟨x, in_, k, small, rfl⟩ := represents.shown at_
    exact inside x in_ k small

theorem Represents.reached {vm : Vm Ω} {p : Pointer} (cell : (vm.memory pages).DataCell p) :
    ∃ x ∈ live, p.block = x.buf.block := by
  obtain ⟨v, at_⟩ := cell
  obtain ⟨x, in_, k, _, rfl⟩ := represents.shown at_
  exact ⟨x, in_, rfl⟩

end

/-! ### One call -/

/-- Only cells of two blocks may differ. -/
structure Moved (b last : Nat) (m n : Machine 64 Ω) : Prop where
  dat : n.dat = m.dat
  cod : n.cod = m.cod
  host : Blocks.Confined (fun p => p.block = b ∨ p.block = last) m.host n.host

theorem Moved.refl (b last : Nat) (m : Machine 64 Ω) : Moved b last m m := ⟨rfl, rfl, .refl _ _⟩

/-- The window of the data. -/
def dataWindow (b cells : Nat) (base : Cell 64) : Window 64 := ⟨base, ⟨b + 1, 0⟩, cells⟩

/-- A program with its code in one block and its data in the next one. -/
structure Vm.Placed (k : Kernel Ω) (b cells : Nat) (base : Cell 64) (vm : Vm Ω) : Prop where
  code : vm.code.buf = some ⟨b, 0⟩
  codeSize : vm.code.size ≤ (vm.machine.host.cells b).length * 8
  data : Represents vm.data [dataWindow b cells base]
  dataSize : cells ≤ (vm.machine.host.cells (b + 1)).length
  blocks : b + 1 < vm.machine.host.length
  natives : ∀ native ∈ vm.natives, ∃ entry ∈ nativesOf k, entry.2 = native
  quiet : k.Quiet

section
variable {k : Kernel Ω} {vm : Vm Ω} {pages : PagedBuffers 64 5}

theorem contained_callback (quiet : k.Quiet)
    (natives : ∀ native ∈ vm.natives, ∃ entry ∈ nativesOf k, entry.2 = native) (index : Cell 64) :
    Contained (vm.memory pages) (vm.callback k pages index) := by
  refine contained_amxCallback ?_ ?_ index
  · intro native in_
    obtain ⟨entry, here, rfl⟩ := List.mem_map.mp in_
    exact nativesOf_tame quiet here _ _
  · intro native in_
    obtain ⟨f, here, rfl⟩ := List.mem_map.mp in_
    obtain ⟨entry, known, rfl⟩ := natives f here
    exact nativesOf_tame quiet known _ _

/-- A call that comes back left the pages alone, and one that does not was stopped by something else than an access
outside. -/
def Within (moved : Machine 64 Ω → Prop) (pages : PagedBuffers 64 5) (outcome : Outcome Ω) : Prop :=
  (∃ status n, outcome = .ok (status, n, pages) ∧ moved n) ∨ ∃ fault, outcome = .error fault ∧ fault ≠ .outside

/-- What comes of a call of a function, from addresses that are all backed. -/
theorem callFunction_within {fuel : Nat} {fn : Cell 64} {args : List (Cell 64)} {m : Machine 64 Ω} {outcome : Outcome Ω}
    (quiet : k.Quiet) (natives : ∀ native ∈ vm.natives, ∃ entry ∈ nativesOf k, entry.2 = native)
    (backed : (vm.memory pages).Backed m.host) (ends : callFunction k fuel vm pages fn args m = some outcome) :
    Within (Sandboxed (vm.memory pages) m) pages outcome := by
  unfold callFunction at ends
  rcases pre : k.precall fn m.world with ⟨status, world⟩
  simp only [pre] at ends
  by_cases fine : ntSuccess status = true
  · rw [if_pos fine] at ends
    cases run : call (vm.memory pages) (vm.callback k pages) fuel fn args { m with world } with
    | none =>
        rw [run] at ends
        cases ends
    | some result =>
        obtain ⟨inside, within⟩ := call_stays (m := { m with world }) (contained_callback quiet natives) backed run
        rw [run] at ends
        rcases result with ⟨_ | _, n⟩
        · rename_i fault
          cases fault with
          | error reason =>
              cases ends
              exact .inl ⟨_, _, rfl, within.dat, within.cod, within.host⟩
          | outside => exact absurd rfl inside
          | undefined | endless | nullWrite =>
              cases ends
              exact .inr ⟨_, rfl, nofun⟩
        · cases ends
          exact .inl ⟨_, _, rfl, within.dat, within.cod, within.host⟩
  · rw [if_neg fine] at ends
    cases ends
    exact .inl ⟨_, _, rfl, rfl, rfl, .refl _ _⟩

end

/-! ### The buffer of the caller -/

theorem cellsOf_length (bytes : Bytes) (count : Nat) : (cellsOf bytes count).length = count := by
  induction count generalizing bytes with
  | zero => rfl
  | succ count ih => exact congrArg (· + 1) (ih _)

theorem IoBuffer.cells_length (io : IoBuffer) : io.cells.length = max io.inSize io.outSize / 8 := by
  rw [IoBuffer.cells, cellsOf_length, io.covers]

theorem IoBuffer.fits (io : IoBuffer) {size : Nat} (small : size ≤ max io.inSize io.outSize / 8) : FitsPage 64 5 size := by
  have limit := io.small
  rw [io.covers] at limit
  have page : pageSize 64 5 = 2 ^ 59 := rfl
  unfold FitsPage
  rw [page]
  omega

section
variable {b cells last : Nat} {base : Cell 64} {k : Kernel Ω} {vm : Vm Ω} {io : IoBuffer} {m : Machine 64 Ω}

/-- The machine during a call: the program and behind it the buffer. -/
structure Ready (k : Kernel Ω) (b cells : Nat) (base : Cell 64) (vm : Vm Ω) (io : IoBuffer) (m : Machine 64 Ω) : Prop where
  placed : vm.Placed k b cells base
  host : m.host = vm.machine.host ++ [io.cells]
  long : 32 ≤ io.inSize

section
variable (ready : Ready k b cells base vm io m)
include ready

theorem Ready.cells_old {c : Nat} (old : c < vm.machine.host.length) : m.host.cells c = vm.machine.host.cells c := by
  rw [ready.host, Blocks.cells_append_of_lt old]

theorem Ready.cells_buffer : m.host.cells vm.machine.host.length = io.cells := by
  rw [ready.host, Blocks.cells_append_last]

theorem Ready.data_inside : (dataWindow b cells base).Inside m.host := by
  intro i small
  have enough := ready.placed.dataSize
  rw [← ready.cells_old ready.placed.blocks] at enough
  exact (Nat.zero_add _).trans_lt (small.trans_le enough)

theorem Ready.in_inside (va : Cell 64) : Window.Inside m.host ⟨va, ⟨vm.machine.host.length, 4⟩, io.inSize / 8 - 4⟩ := by
  intro i small
  have long := ready.long
  change 4 + i < (m.host.cells vm.machine.host.length).length
  rw [ready.cells_buffer, io.cells_length]
  change i < io.inSize / 8 - 4 at small
  omega

theorem Ready.out_inside (va : Cell 64) : Window.Inside m.host ⟨va, ⟨vm.machine.host.length, 0⟩, io.outSize / 8⟩ := by
  intro i small
  change 0 + i < (m.host.cells vm.machine.host.length).length
  rw [ready.cells_buffer, io.cells_length]
  change i < io.outSize / 8 at small
  omega

theorem Ready.backed {pages : PagedBuffers 64 5} {live : List (Window 64)} (represents : Represents pages live)
    (inside : ∀ x ∈ live, x.Inside m.host) : (vm.memory pages).Backed m.host := by
  refine represents.backed ready.placed.code ?_ inside
  have blocks := ready.placed.blocks
  rw [ready.cells_old (by omega)]
  exact ready.placed.codeSize

end

theorem Represents.map_more {pages both : PagedBuffers 64 5} {live : List (Window 64)} {va : Cell 64} {buf : Pointer}
    {size : Nat} (represents : Represents pages live) (fits : FitsPage 64 5 size)
    (mapped : pages.map buf size = some (some (both, va))) : Represents both (⟨va, buf, size⟩ :: live) := by
  have step : AddressSpace.Step ⟨pages, live⟩ (.map buf size) ⟨both, ⟨va, buf, size⟩ :: live⟩ := .mapped mapped
  exact step.represents driver_pages (by decide) fits represents

/-- A buffer that is mapped for the time of a call leaves the pages as they were. -/
theorem Represents.unmap_again {pages both : PagedBuffers 64 5} {live : List (Window 64)} {va : Cell 64} {buf : Pointer}
    {size : Nat} (represents : Represents pages live) (now : Represents both (⟨va, buf, size⟩ :: live))
    (fits : FitsPage 64 5 size) : both.unmap va size = some pages := by
  obtain ⟨pages', done⟩ := unmap_defined driver_pages (by decide) both (x := ⟨va, buf, size⟩) fits
  have step : AddressSpace.Step ⟨both, ⟨va, buf, size⟩ :: live⟩ (.unmap ⟨va, buf, size⟩)
      ⟨pages', (⟨va, buf, size⟩ :: live).erase ⟨va, buf, size⟩⟩ := .unmapped List.mem_cons_self done
  have back := step.represents driver_pages (by decide) trivial now
  rw [List.erase_cons_head] at back
  rw [← back.unique represents]
  exact done

theorem Sandboxed.moved {pages : PagedBuffers 64 5} {live : List (Window 64)} {n : Machine 64 Ω}
    (within : Sandboxed (vm.memory pages) m n) (represents : Represents pages live)
    (blocks : ∀ x ∈ live, x.buf.block = b + 1 ∨ x.buf.block = last) : Moved (b + 1) last m n := by
  refine ⟨within.dat, within.cod, within.host.mono fun p cell => ?_⟩
  obtain ⟨x, in_, same⟩ := represents.reached cell
  rw [same]
  exact blocks x in_

/-- A buffer is there for the time of a call, and the pages are as before behind it. -/
theorem whileMapped_within {pages : PagedBuffers 64 5} {live : List (Window 64)} {buf : Pointer} {size : Nat}
    {call_ : PagedBuffers 64 5 → Cell 64 → Option (Outcome Ω)} {moved : Machine 64 Ω → Prop} {outcome : Outcome Ω}
    (represents : Represents pages live) (fits : FitsPage 64 5 size) (still : moved m)
    (inside : ∀ both va result, Represents both (⟨va, buf, size⟩ :: live) → call_ both va = some result →
      Within moved both result)
    (ends : whileMapped pages buf size m call_ = some outcome) : Within moved pages outcome := by
  obtain ⟨served, mapped⟩ := map_defined driver_pages (by decide) pages buf fits
  rw [whileMapped, mapped] at ends
  rcases served with _ | ⟨both, va⟩
  · cases ends
    exact .inl ⟨_, m, rfl, still⟩
  · have now := represents.map_more fits mapped
    change unmapAfter va size (call_ both va) = some outcome at ends
    cases run : call_ both va with
    | none =>
        rw [run] at ends
        cases ends
    | some result =>
        rw [run] at ends
        rcases inside both va result now run with ⟨status, n, rfl, moved_⟩ | ⟨fault, rfl, other⟩
        · rw [unmapAfter, represents.unmap_again now fits] at ends
          cases ends
          exact .inl ⟨_, _, rfl, moved_⟩
        · cases ends
          exact .inr ⟨_, rfl, other⟩

theorem callWithBuffers_within {fuel : Nat} {fn : Cell 64} {outcome : Outcome Ω}
    (ready : Ready k b cells base vm io m) (ends : callWithBuffers k fuel vm io fn m = some outcome) :
    Within (Moved (b + 1) vm.machine.host.length m) vm.data outcome := by
  have inFits : FitsPage 64 5 (io.inSize / 8 - 4) :=
    io.fits ((Nat.sub_le _ _).trans (Nat.div_le_div_right (Nat.le_max_left _ _)))
  have outFits : FitsPage 64 5 (io.outSize / 8) := io.fits (Nat.div_le_div_right (Nat.le_max_right _ _))
  refine whileMapped_within ready.placed.data inFits (.refl _ _ _) (fun pages inVa result mapped run => ?_) ends
  refine whileMapped_within mapped outFits (.refl _ _ _) (fun both outVa result mapped run => ?_) run
  have backed := ready.backed mapped (List.forall_mem_cons.mpr ⟨ready.out_inside outVa, List.forall_mem_cons.mpr
    ⟨ready.in_inside inVa, List.forall_mem_singleton.mpr ready.data_inside⟩⟩)
  rcases callFunction_within ready.placed.quiet ready.placed.natives backed run with ⟨status, n, rfl, within⟩ | stopped
  · refine .inl ⟨_, _, rfl, within.moved mapped ?_⟩
    exact List.forall_mem_cons.mpr ⟨.inr rfl, List.forall_mem_cons.mpr ⟨.inr rfl, List.forall_mem_singleton.mpr (.inl rfl)⟩⟩
  · exact .inr stopped

/-- A call through the driver, of a program with its code in block `b`. -/
structure CallLeaves (b : Nat) (vm vm' : Vm Ω) : Prop where
  code : vm'.code = vm.code
  data : vm'.data = vm.data
  publics : vm'.publics = vm.publics
  natives : vm'.natives = vm.natives
  blocks : vm'.machine.host.length = vm.machine.host.length
  others : ∀ c, c ≠ b + 1 → vm'.machine.host.cells c = vm.machine.host.cells c
  size : (vm'.machine.host.cells (b + 1)).length = (vm.machine.host.cells (b + 1)).length

theorem CallLeaves.refl (b : Nat) (vm : Vm Ω) : CallLeaves b vm vm := ⟨rfl, rfl, rfl, rfl, rfl, fun _ _ => rfl, rfl⟩

theorem CallLeaves.trans {vm' vm'' : Vm Ω} (first : CallLeaves b vm vm') (second : CallLeaves b vm' vm'') :
    CallLeaves b vm vm'' where
  code := second.code.trans first.code
  data := second.data.trans first.data
  publics := second.publics.trans first.publics
  natives := second.natives.trans first.natives
  blocks := second.blocks.trans first.blocks
  others c other := (second.others c other).trans (first.others c other)
  size := second.size.trans first.size

theorem CallLeaves.placed {vm' : Vm Ω} (leaves : CallLeaves b vm vm') (placed : vm.Placed k b cells base) :
    vm'.Placed k b cells base where
  code := leaves.code ▸ placed.code
  codeSize := by
    rw [leaves.code, leaves.others b (Nat.ne_of_lt (Nat.lt_succ_self b))]
    exact placed.codeSize
  data := leaves.data ▸ placed.data
  dataSize := leaves.size ▸ placed.dataSize
  blocks := leaves.blocks ▸ placed.blocks
  natives := leaves.natives ▸ placed.natives
  quiet := placed.quiet

/-- Without the buffer again, only the data may differ. -/
theorem returned_leaves {n : Machine 64 Ω} (ready : Ready k b cells base vm io m)
    (moved : Moved (b + 1) vm.machine.host.length m n) :
    CallLeaves b vm { vm with machine := { n with host := n.host.dropLast }, data := vm.data } := by
  have total : n.host.length = vm.machine.host.length + 1 := by
    rw [moved.host.blocks, ready.host, List.length_append]
    rfl
  have kept (c : Nat) (old : c < vm.machine.host.length) : Blocks.cells n.host.dropLast c = n.host.cells c :=
    Blocks.cells_dropLast (by omega)
  have blocks := ready.placed.blocks
  refine ⟨rfl, rfl, rfl, rfl, ?_, fun c other => ?_, ?_⟩
  · change n.host.dropLast.length = _
    rw [List.length_dropLast, total, Nat.add_sub_cancel]
  · change Blocks.cells n.host.dropLast c = _
    by_cases old : c < vm.machine.host.length
    · rw [kept c old, ← ready.cells_old old]
      apply moved.host.cells_eq
      rintro p (same | same) rfl
      · exact other same
      · exact absurd old (same ▸ Nat.lt_irrefl _)
    · have beyond : n.host.dropLast.length ≤ c := by
        rw [List.length_dropLast]
        omega
      rw [Blocks.cells_of_le beyond, Blocks.cells_of_le (Nat.not_lt.mp old)]
  · change (Blocks.cells n.host.dropLast (b + 1)).length = _
    rw [kept _ blocks, moved.host.sizes, ready.cells_old blocks]

theorem executeFunction_cases {fuel : Nat} {result : Executed Ω} (placed : vm.Placed k b cells base)
    (ends : executeFunction k fuel vm io = some result) :
    (∃ status vm' buffer, result = .returned status vm' buffer ∧ CallLeaves b vm vm') ∨
      ∃ fault, result = .stopped fault ∧ fault ≠ .outside := by
  unfold executeFunction at ends
  cases name : ioctlName io with
  | none =>
      rw [name] at ends
      cases ends
      exact .inl ⟨_, _, _, rfl, .refl b vm⟩
  | some name_ =>
      rw [name] at ends
      dsimp only at ends
      split_ifs at ends with missing
      · cases ends
        exact .inl ⟨_, _, _, rfl, .refl b vm⟩
      · have long : 32 ≤ io.inSize := by
          unfold ioctlName at name
          split_ifs at name with short
          exact Nat.not_lt.mp short
        have ready : Ready k b cells base vm io { vm.machine with host := vm.machine.host ++ [io.cells] } :=
          ⟨placed, rfl, long⟩
        cases run : callWithBuffers k fuel vm io (publicOf name_ vm.publics)
            { vm.machine with host := vm.machine.host ++ [io.cells] } with
        | none =>
            rw [run] at ends
            cases ends
        | some outcome =>
            rw [run] at ends
            rcases callWithBuffers_within ready run with ⟨status, n, rfl, moved⟩ | ⟨fault, rfl, other⟩
            · cases ends
              exact .inl ⟨_, _, _, rfl, returned_leaves ready moved⟩
            · cases ends
              exact .inr ⟨_, rfl, other⟩

theorem run_leaves {ios : List IoBuffer} {vm' : Vm Ω} (placed : vm.Placed k b cells base)
    (run : Run (Executes k) vm ios vm') : CallLeaves b vm vm' ∧ vm'.Placed k b cells base := by
  have keeps (s : Vm Ω) (io : IoBuffer) (t : Vm Ω) (before : CallLeaves b vm s ∧ s.Placed k b cells base)
      (executes : Executes k s io t) : CallLeaves b vm t ∧ t.Placed k b cells base := by
    obtain ⟨fuel, status, buffer, ends⟩ := executes
    rcases executeFunction_cases before.2 ends with ⟨_, _, _, same, next⟩ | ⟨_, other, _⟩
    · cases same
      exact ⟨before.1.trans next, next.placed before.2⟩
    · cases other
  exact run.invariant keeps ⟨.refl b vm, placed⟩

end

/-! ### Programs as they are loaded -/

theorem loaded_placed {k : Kernel Ω} (quiet : k.Quiet) {pool : Nat → Bool} {host host' : Blocks (Cell 64)} {image : Bytes}
    {l : Loaded (NativeFn Ω)} (world : Ω) (loaded : loaderInit pool (nativesOf k) host image = .ok (l, host')) :
    ∃ cells, (vmOf l host' world).Placed k host.length cells l.dat := by
  obtain ⟨h, t, wellFormed, _, _, _, data, dat, mapped, rfl, rfl⟩ :=
    ((loaderInit_spec pool (nativesOf k) host image).1 l host').mp loaded
  have split : host ++ [codeCells image h t, dataCells image h t] = (host ++ [codeCells image h t]) ++ [dataCells image h t] :=
    List.append_cons ..
  have next : host.length + 1 = (host ++ [codeCells image h t]).length := by
    rw [List.length_append]
    rfl
  have code : Blocks.cells (host ++ [codeCells image h t, dataCells image h t]) host.length = codeCells image h t := by
    rw [split, Blocks.cells_append_of_lt (next ▸ Nat.lt_succ_self _), Blocks.cells_append_last]
  have data_ : Blocks.cells (host ++ [codeCells image h t, dataCells image h t]) (host.length + 1) = dataCells image h t := by
    rw [split, next, Blocks.cells_append_last]
  refine ⟨dataAllocCount h t, rfl, ?_, ?_, ?_, ?_, ?_, quiet⟩
  · change sizeBytes 64 t.codeCount ≤ (Blocks.cells (host ++ [_, _]) host.length).length * 8
    rw [code, codeCells, cellsOf_length]
    exact Nat.mod_le _ _
  · exact represents_empty.map_more (dataAlloc_fits wellFormed) mapped
  · change dataAllocCount h t ≤ (Blocks.cells (host ++ [_, _]) (host.length + 1)).length
    rw [data_, dataCells, List.length_append, cellsOf_length, List.length_replicate]
    omega
  · change host.length + 1 < (host ++ [_, _]).length
    rw [List.length_append]
    exact Nat.lt_succ_self _
  · intro native in_
    obtain ⟨i, at_⟩ := List.mem_iff_getElem?.mp in_
    obtain ⟨name, _, known⟩ := wellFormed.natives.each i native at_
    obtain ⟨entry, found, same⟩ := Option.map_eq_some_iff.mp known
    exact ⟨entry, List.mem_of_find?_eq_some found, same⟩

/-- An image with one function that returns at once, and a call of it. -/
def smallImage : Bytes := [
  152, 0, 0, 0, 225, 241, 11, 11, 0, 0, 8, 0, 104, 0, 0, 0, 144, 0, 0, 0, 152, 0, 0, 0, 24, 1, 0, 0, 255, 255,
  255, 255, 60, 0, 0, 0, 68, 0, 0, 0, 84, 0, 0, 0, 84, 0, 0, 0, 84, 0, 0, 0, 0, 0, 0, 0, 0, 0, 0, 0, 8, 0, 0, 0,
  84, 0, 0, 0, 0, 0, 0, 0, 92, 0, 0, 0, 0, 0, 0, 0, 92, 0, 0, 0, 105, 111, 99, 116, 108, 95, 97, 0, 103, 101, 116,
  95, 112, 117, 98, 108, 105, 99, 0, 0, 0, 0, 0, 0, 0, 0, 0, 0, 30, 0, 0, 0, 0, 0, 0, 0, 9, 0, 0, 0, 0, 0, 0, 0,
  0, 0, 0, 0, 0, 0, 0, 0, 32, 0, 0, 0, 0, 0, 0, 0, 0, 0, 0, 0, 0, 0, 0, 0]

def smallCall : IoBuffer where
  bytes := [105, 111, 99, 116, 108, 95, 97] ++ List.replicate 33 0
  inSize := 40
  outSize := 8
  covers := rfl
  small := by decide

def smallKernel : Kernel Unit where
  vDbgPrintEx _ _ world := world
  getProcAddress _ _ := 0
  callbackAlloc _ world := (0, world)
  callbackFree _ world := world
  functions := [("cpuid".toUTF8.toList, cpuidLike)]
  precall _ world := (statusSuccess, world)
  postcall world := world

theorem smallKernel_quiet : smallKernel.Quiet := by
  intro f known
  obtain rfl := List.mem_singleton.mp known
  exact fun _ host _ => .refl _ host

/-- What becomes of the call. -/
def smallRun : Option (Executed Unit) :=
  match loaderInit (fun _ => true) (nativesOf smallKernel) [] smallImage with
  | .ok (l, host') => executeFunction smallKernel 20 (vmOf l host' ()) smallCall
  | .error _ => none

def Executed.succeeds : Executed Ω → Bool
  | .returned status _ _ => ntSuccess status
  | .stopped _ => false

end SyncRGB.Amx
