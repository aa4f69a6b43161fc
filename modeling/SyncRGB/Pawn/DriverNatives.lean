import SyncRGB.Pawn.DebugPrint
import SyncRGB.Pawn.Loader

/-! The natives of the driver, which all stay in the sandbox of the program that calls them. -/
namespace SyncRGB.Amx
open Effect HostMemory ByteCodec
variable {w : Nat} {Ω : Type}

section
variable (mem : MemoryManager w)

/-- `amx_strcpy` into a buffer of a size, and `none` for -1; the last byte of the buffer is the end of the text. -/
def amxStrcpy (m : Machine w Ω) : (left : Nat) → (vit : Cell w) → Bytes → Except Fault (Option Bytes)
  | 0, _, text => return some text
  | left + 1, vit, text =>
      match mem.data vit with
      | none => return none
      | some p => do
          let c ← m.cellAt (some p)
          if UInt8.ofNat c.toNat = 0 then return some text
          else if left = 0 then return some text
          else amxStrcpy m left (vit + cellBytes w) (text ++ [UInt8.ofNat c.toNat])

def readText (size : Nat) (vfmt : Cell w) : Step w Ω (Option Bytes) := fun m => (amxStrcpy mem m size vfmt [], m)

/-- What a native that is called with a text answers. -/
def textNative (size : Nat) (answer : Bytes → Ω → Cell w) (argc argv : Cell w) : Step w Ω Unit := do
  setPri 0
  if argc = 0 then fault .invalidOperand
  else
    match ← readText mem size (← loadData mem argv) with
    | none => fault .accessViolation
    | some [] => fault .invalidOperand
    | some text => do setPri (answer text (← reading Machine.world))

def getProcAddressWrap (getProcAddress : Bytes → Ω → Cell w) : (argc argv : Cell w) → Step w Ω Unit :=
  textNative mem 1024 getProcAddress

def getNative (names : List Bytes) : (argc argv : Cell w) → Step w Ω Unit :=
  textNative mem 33 fun name _ =>
    match names.findIdx? (· = name) with
    | none => -1
    | some i => BitVec.ofNat w i

def callbackAllocWrap (alloc : Cell w → Ω → Cell w × Ω) (argc argv : Cell w) : Step w Ω Unit :=
  if argc ≠ 1 then fault .invalidOperand
  else do
    let cip ← loadData mem argv
    let slot ← reading fun m => (alloc cip m.world).1
    updating fun m => { m with world := (alloc cip m.world).2 }
    setPri slot

def callbackFreeWrap (free : Cell w → Ω → Ω) (argc argv : Cell w) : Step w Ω Unit := do
  setPri 0
  if argc ≠ 1 then fault .invalidOperand
  else
    let pfn ← loadData mem argv
    updating fun m => { m with world := free pfn m.world }

end

def getPublic (mem : MemoryManager 64) (publics : List (Bytes × Cell 64)) : (argc argv : Cell 64) → Step 64 Ω Unit :=
  textNative mem 33 fun name _ => publicOf name publics

/-- What the driver has from the kernel and from other drivers. -/
structure Kernel (Ω : Type) where
  vDbgPrintEx : Bytes → List (Cell 64) → Ω → Ω
  getProcAddress : Bytes → Ω → Cell 64
  callbackAlloc : Cell 64 → Ω → Cell 64 × Ω
  callbackFree : Cell 64 → Ω → Ω
  functions : List (Bytes × Function 64 Ω)
  precall : Cell 64 → Ω → BitVec 32 × Ω
  postcall : Ω → Ω

/-- The functions of the driver leave the memory of the host alone. -/
def Kernel.Quiet (k : Kernel Ω) : Prop := ∀ f ∈ k.functions, f.2.Quiet

/-- A native for the addresses and the public functions of the program. -/
abbrev NativeFn (Ω : Type) := MemoryManager 64 → List (Bytes × Cell 64) → Native 64 Ω

/-- The names of the natives that take their arguments on their own. -/
def ownNames : List Bytes :=
  ["debug_print", "get_proc_address", "get_public", "callback_alloc", "callback_free", "get_native",
    "call_native"].map fun name => name.toUTF8.toList

def nativeNames (k : Kernel Ω) : List Bytes := ownNames ++ k.functions.map Prod.fst

/-- `NATIVES`. -/
def nativesOf (k : Kernel Ω) : List (Bytes × NativeFn Ω) :=
  ownNames.zip [
    fun mem _ => .plain (debugPrint mem k.vDbgPrintEx),
    fun mem _ => .plain (getProcAddressWrap mem k.getProcAddress),
    fun mem publics => .plain (getPublic mem publics),
    fun mem _ => .plain (callbackAllocWrap mem k.callbackAlloc),
    fun mem _ => .plain (callbackFreeWrap mem k.callbackFree),
    fun mem _ => .plain (getNative mem (nativeNames k)),
    fun _ _ => .callNative] ++
  k.functions.map fun f => (f.1, fun _ _ => .function f.2)

section
variable {mem : MemoryManager w} {m : Machine w Ω}

theorem amxStrcpy_error {left : Nat} {vit : Cell w} {text : Bytes} {e : Fault} (backed : mem.Backed m.host)
    (fails : amxStrcpy mem m left vit text = .error e) : e = .error .accessViolation := by
  induction left generalizing vit text with
  | zero => cases fails
  | succ left ih =>
      rw [amxStrcpy] at fails
      cases found : mem.data vit with
      | none =>
          rw [found] at fails
          cases fails
      | some p =>
          rw [found] at fails
          rcases except_bind_error.mp fails with first | ⟨c, _, fails⟩
          · exact cellAt_error (fun q same => backed.data vit q (found.trans same)) first
          · split_ifs at fails
            · cases fails
            · cases fails
            · exact ih fails

theorem contained_readText (size : Nat) (vfmt : Cell w) :
    Contained mem (readText mem size vfmt : Step w Ω (Option Bytes)) := by
  intro m backed
  unfold Wp readText
  cases read : amxStrcpy mem m size vfmt [] with
  | error e =>
      obtain rfl := amxStrcpy_error backed read
      exact ⟨nofun, sandboxed_self m⟩
  | ok text => exact sandboxed_self m

theorem contained_world (f : Ω → Ω) :
    Contained mem (updating fun m : Machine w Ω => { m with world := f m.world }) :=
  Relates.updating fun _ => ⟨rfl, rfl, .refl _ _⟩

/-- The parts that no native is a part of. -/
theorem contained_parts (mem : MemoryManager w) (Ω : Type) :
    Closed (Ω := Ω) mem (fun _ => Pure.pure ()) fun c => Contained mem c :=
  contained_closed fun _ => Relates.pure sandboxed_chains ()

theorem contained_textNative (size : Nat) (answer : Bytes → Ω → Cell w) (argc argv : Cell w) :
    Contained mem (textNative mem size answer argc argv) := by
  have parts := contained_parts mem Ω
  refine parts.bind (parts.setPri 0) fun _ => Closed.either (P := fun c => Contained mem c) (parts.fault _) ?_
  refine parts.bind (parts.loadData argv) fun vfmt => parts.bind (contained_readText size vfmt) fun text => ?_
  rcases text with _ | _ | ⟨c, text⟩
  · exact parts.fault _
  · exact parts.fault _
  · exact parts.bind (parts.reading _) fun _ => parts.setPri _

theorem contained_callbackAllocWrap (alloc : Cell w → Ω → Cell w × Ω) (argc argv : Cell w) :
    Contained mem (callbackAllocWrap mem alloc argc argv) := by
  have parts := contained_parts mem Ω
  refine Closed.either (P := fun c => Contained mem c) (parts.fault _) (parts.bind (parts.loadData argv) fun cip => ?_)
  refine parts.bind (parts.reading _) fun slot => parts.bind (contained_world fun world => (alloc cip world).2) fun _ => ?_
  exact parts.setPri slot

theorem contained_callbackFreeWrap (free : Cell w → Ω → Ω) (argc argv : Cell w) :
    Contained mem (callbackFreeWrap mem free argc argv) := by
  have parts := contained_parts mem Ω
  refine parts.bind (parts.setPri 0) fun _ => Closed.either (P := fun c => Contained mem c) (parts.fault _) ?_
  exact parts.bind (parts.loadData argv) fun pfn => contained_world _

end

theorem nativesOf_tame {k : Kernel Ω} (quiet : k.Quiet) {entry : Bytes × NativeFn Ω} (in_ : entry ∈ nativesOf k)
    (mem : MemoryManager 64) (publics : List (Bytes × Cell 64)) : (entry.2 mem publics).Tame mem := by
  obtain ⟨name, native⟩ := entry
  rcases List.mem_append.mp in_ with own | function
  · have known := (List.of_mem_zip own).2
    simp only [List.mem_cons, List.not_mem_nil, or_false] at known
    rcases known with rfl | rfl | rfl | rfl | rfl | rfl | rfl
    · exact contained_debugPrint k.vDbgPrintEx
    · exact contained_textNative 1024 k.getProcAddress
    · exact contained_textNative 33 _
    · exact contained_callbackAllocWrap k.callbackAlloc
    · exact contained_callbackFreeWrap k.callbackFree
    · exact contained_textNative 33 _
    · trivial
  · obtain ⟨f, known, same⟩ := List.mem_map.mp function
    cases same
    exact quiet f known

end SyncRGB.Amx
