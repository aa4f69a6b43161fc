import SyncRGB.Keyboard.Keymap

/-! The keyboards that the constructor of `KeyboardLayoutManager` assembles: its base maps, its regional layouts, and
what it fixes for a size. The base size of a layout is not read. -/
namespace SyncRGB
open ByteCodec

def utf8 (s : String) : Bytes := s.toList.flatMap String.utf8EncodeChar

/-- An entry of a base map: row, column and name. -/
def insertion (entry : UInt8 × UInt8 × String) : KeyboardLed :=
  { zone := 0
    row := entry.1
    col := entry.2.1
    value := 0
    name := utf8 entry.2.2
    altName := []
    opcode := .insertShiftRight }

/-- An entry of a regional layout that names a key anew: row, column, name and alternate name. -/
def alternate (entry : UInt8 × UInt8 × String × String) : KeyboardLed :=
  { zone := 0
    row := entry.1
    col := entry.2.1
    value := 0
    name := utf8 entry.2.2.1
    altName := utf8 entry.2.2.2
    opcode := .addAltName }

def keyboardZoneMain : List KeyboardLed :=
  List.map insertion [
    (1, 0, "Key: `"), (1, 1, "Key: 1"), (1, 2, "Key: 2"), (1, 3, "Key: 3"), (1, 4, "Key: 4"), (1, 5, "Key: 5"),
    (1, 6, "Key: 6"), (1, 7, "Key: 7"), (1, 8, "Key: 8"), (1, 9, "Key: 9"), (1, 10, "Key: 0"), (1, 11, "Key: -"),
    (1, 12, "Key: ="), (1, 13, "Key: Backspace"), (2, 0, "Key: Tab"), (2, 1, "Key: Q"), (2, 2, "Key: W"),
    (2, 3, "Key: E"), (2, 4, "Key: R"), (2, 5, "Key: T"), (2, 6, "Key: Y"), (2, 7, "Key: U"), (2, 8, "Key: I"),
    (2, 9, "Key: O"), (2, 10, "Key: P"), (2, 11, "Key: ["), (2, 12, "Key: ]"), (2, 13, "Key: \\ (ANSI)"),
    (3, 0, "Key: Caps Lock"), (3, 1, "Key: A"), (3, 2, "Key: S"), (3, 3, "Key: D"), (3, 4, "Key: F"),
    (3, 5, "Key: G"), (3, 6, "Key: H"), (3, 7, "Key: J"), (3, 8, "Key: K"), (3, 9, "Key: L"), (3, 10, "Key: ;"),
    (3, 11, "Key: '"), (3, 12, "Key: #"), (3, 13, "Key: Enter"), (4, 0, "Key: Left Shift"), (4, 1, "Key: \\ (ISO)"),
    (4, 2, "Key: Z"), (4, 3, "Key: X"), (4, 4, "Key: C"), (4, 5, "Key: V"), (4, 6, "Key: B"), (4, 7, "Key: N"),
    (4, 8, "Key: M"), (4, 9, "Key: ,"), (4, 10, "Key: ."), (4, 11, "Key: /"), (4, 13, "Key: Right Shift"),
    (5, 0, "Key: Left Control"), (5, 1, "Key: Left Windows"), (5, 2, "Key: Left Alt"), (5, 6, "Key: Space"),
    (5, 10, "Key: Right Alt"), (5, 11, "Key: Right Fn"), (5, 12, "Key: Menu"), (5, 13, "Key: Right Control")]

def keyboardZoneFnRow : List KeyboardLed :=
  List.map insertion [
    (0, 0, "Key: Escape"), (0, 2, "Key: F1"), (0, 3, "Key: F2"), (0, 4, "Key: F3"), (0, 5, "Key: F4"),
    (0, 6, "Key: F5"), (0, 7, "Key: F6"), (0, 8, "Key: F7"), (0, 9, "Key: F8"), (0, 10, "Key: F9"),
    (0, 11, "Key: F10"), (0, 12, "Key: F11"), (0, 13, "Key: F12")]

def keyboardZoneExtras : List KeyboardLed :=
  List.map insertion [
    (0, 14, "Key: Print Screen"), (0, 15, "Key: Scroll Lock"), (0, 16, "Key: Pause/Break"), (1, 14, "Key: Insert"),
    (1, 15, "Key: Home"), (1, 16, "Key: Page Up"), (2, 14, "Key: Delete"), (2, 15, "Key: End"),
    (2, 16, "Key: Page Down"), (4, 15, "Key: Up Arrow"), (5, 14, "Key: Left Arrow"), (5, 15, "Key: Down Arrow"),
    (5, 16, "Key: Right Arrow")]

def keyboardZoneNumpad : List KeyboardLed :=
  List.map insertion [
    (1, 17, "Key: Num Lock"), (1, 18, "Key: Number Pad /"), (1, 19, "Key: Number Pad *"),
    (1, 20, "Key: Number Pad -"), (2, 17, "Key: Number Pad 7"), (2, 18, "Key: Number Pad 8"),
    (2, 19, "Key: Number Pad 9"), (2, 20, "Key: Number Pad +"), (3, 17, "Key: Number Pad 4"),
    (3, 18, "Key: Number Pad 5"), (3, 19, "Key: Number Pad 6"), (4, 17, "Key: Number Pad 1"),
    (4, 18, "Key: Number Pad 2"), (4, 19, "Key: Number Pad 3"), (4, 20, "Key: Number Pad Enter"),
    (5, 18, "Key: Number Pad 0"), (5, 19, "Key: Number Pad .")]

def isoAzerty : List KeyboardLed :=
  List.map alternate [
    (3, 12, "", "Key: *"), (4, 1, "", "Key: < >"), (1, 0, "", "Key: ²"), (1, 1, "", "Key: &"), (1, 2, "", "Key: é"),
    (1, 3, "", "Key: \""), (1, 4, "", "Key: '"), (1, 5, "", "Key: ("), (1, 6, "", "Key: -"), (1, 7, "", "Key: è"),
    (1, 8, "", "Key: _"), (1, 9, "", "Key: ç"), (1, 10, "", "Key: à"), (1, 11, "", "Key: )"), (2, 1, "", "Key: A"),
    (2, 2, "", "Key: Z"), (2, 11, "", "Key: ^"), (2, 12, "", "Key: $"), (2, 13, "", ""), (3, 1, "", "Key: Q"),
    (3, 10, "", "Key: M"), (3, 11, "", "Key: ù"), (4, 2, "", "Key: W"), (4, 8, "", "Key: ,"), (4, 9, "", "Key: ;"),
    (4, 10, "", "Key: :"), (4, 11, "", "Key: !")]

def ansiQwerty : List KeyboardLed :=
  [⟨0, 3, 12, 0, [], [], .swapOnly⟩, ⟨0, 4, 1, 0, [], [], .swapOnly⟩]

def isoQwerty : List KeyboardLed :=
  [⟨0, 2, 13, 0, [], [], .swapOnly⟩]

def isoQwertz : List KeyboardLed :=
  List.map alternate [
    (3, 12, "", "Key: #"), (4, 1, "", "Key: < >"), (1, 0, "", "Key: ^"), (1, 11, "", "Key: ß"),
    (1, 12, "", "Key: `"), (2, 6, "", "Key: Z"), (2, 11, "", "Key: Ü"), (2, 12, "", "Key: +"), (2, 13, "", ""),
    (3, 10, "", "Key: Ö"), (3, 11, "", "Key: Ä"), (4, 2, "", "Key: Y"), (4, 11, "", "Key: -")]

def jis : List KeyboardLed :=
  List.map alternate [
    (3, 12, "Key: ]", ""), (4, 12, "Key: \\", ""), (1, 12, "Key: ^", ""), (2, 11, "Key: @", ""),
    (2, 12, "Key: [", ""), (3, 11, "Key: :", ""), (2, 13, "", "")]

def abnt2 : List KeyboardLed :=
  [alternate (1, 0, "", "Key: '"), alternate (2, 11, "", "Key: ´ `"), alternate (2, 12, "", "Key: ["),
    alternate (3, 10, "", "Key: ç"), alternate (3, 11, "", "Key: ~"), alternate (3, 12, "", "Key: ]"),
    insertion (4, 11, "Key: ;"), ⟨0, 2, 13, 0, [], [], .swapOnly⟩, ⟨0, 4, 13, 0, [], [], .removeShiftLeft⟩]

inductive KeyboardLayout where
  | default
  | ansiQwerty
  | isoQwerty
  | isoQwertz
  | isoAzerty
  | jis
  | abnt2
  deriving DecidableEq

/-- The edits of a regional layout. -/
def KeyboardLayout.editKeys : KeyboardLayout → Option (List KeyboardLed)
  | default => none
  | ansiQwerty => some SyncRGB.ansiQwerty
  | isoQwerty => some SyncRGB.isoQwerty
  | isoAzerty => some SyncRGB.isoAzerty
  | isoQwertz => some SyncRGB.isoQwertz
  | jis => some SyncRGB.jis
  | abnt2 => some SyncRGB.abnt2

def keyboardZoneMainBit : UInt32 := 1
def keyboardZoneFnRowBit : UInt32 := 2
def keyboardZoneExtraBit : UInt32 := 4
def keyboardZoneNumpadBit : UInt32 := 8

def keyboardSizeEmpty : UInt32 := 0
def keyboardSizeSixty : UInt32 := keyboardZoneMainBit

structure LayoutValues where
  defaultValues : List UInt32
  regionalOverlay : KeyboardLayout → Option (List KeyboardLed)

namespace KeyboardLayoutManager

/-- The values for the keys in turn, as long as there are both. -/
def setValues : List UInt32 → Keymap → Keymap
  | value :: values, key :: keymap => { key with value } :: setValues values keymap
  | _, keymap => keymap

/-- `KeyboardLayoutManager::InsertKeys`. -/
def insertKeys (insKeys : List KeyboardLed) (s : KeyboardLayoutManager) : Option KeyboardLayoutManager := do
  let keymap ← insKeys.foldlM (fun keymap insKey => Keymap.insertKey insKey keymap) s.keymap
  return updateDimensions { s with keymap }

/-- `KeyboardLayoutManager::SwapKeys`. -/
def swapKeys (swpKeys : List KeyboardLed) (s : KeyboardLayoutManager) : Option KeyboardLayoutManager := do
  let keymap ← swpKeys.foldlM (fun keymap swpKey => Keymap.swapKey swpKey keymap) s.keymap
  return { s with keymap }

/-- A section of the keyboard that belongs to the size. -/
def insertZone (size bit : UInt32) (insKeys : List KeyboardLed) (s : KeyboardLayoutManager) :
    Option KeyboardLayoutManager :=
  if size &&& bit ≠ 0 then s.insertKeys insKeys else some s

def new : KeyboardLayoutManager := ⟨0, 0, []⟩

/-- The constructor up to its fixes for the size. -/
def assemble (layout : KeyboardLayout) (size : UInt32) (values : LayoutValues) : Option KeyboardLayoutManager := do
  let s ← new.insertZone size keyboardZoneMainBit keyboardZoneMain
  let s ← s.insertZone size keyboardZoneFnRowBit keyboardZoneFnRow
  let s ← s.insertZone size keyboardZoneExtraBit keyboardZoneExtras
  let s ← s.insertZone size keyboardZoneNumpadBit keyboardZoneNumpad
  let s := { s with keymap := setValues values.defaultValues s.keymap }
  let s ← match layout.editKeys with
    | some editKeys => s.opCodeSwitch editKeys
    | none => some s
  match values.regionalOverlay layout with
  | some swpKeys => s.swapKeys swpKeys
  | none => some s

/-- A sixty percent keyboard loses its function row and gets the escape key. -/
def fixSize (size : UInt32) (s : KeyboardLayoutManager) : Option KeyboardLayoutManager :=
  if size = keyboardSizeSixty then do
    let s ← s.removeRow 0
    s.onKeymap (Keymap.swapKey (insertion (0, 0, "Key: Escape")))
  else some s

/-- `KeyboardLayoutManager::KeyboardLayoutManager`. -/
def construct (layout : KeyboardLayout) (size : UInt32) (values : LayoutValues) : Option KeyboardLayoutManager :=
  if size = keyboardSizeEmpty then some new
  else do
    let s ← assemble layout size values
    let s ← s.fixSize size
    return s.updateDimensions

end KeyboardLayoutManager
end SyncRGB
