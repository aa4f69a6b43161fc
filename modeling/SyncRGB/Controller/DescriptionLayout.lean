import SyncRGB.ByteCodec.Layout
import SyncRGB.Controller.Description

/-! The layout of a controller description, and that `ReadDeviceDescription` follows it. -/
namespace SyncRGB
open ByteCodec Reader

namespace Layouts
open Layout

def word : Layout := fixed 4

def mode (v : Nat) : Layout :=
  seq [text, word, word, word, word, since 3 v word, since 3 v word, word, word, word, since 3 v word,
    word, word, counted word]

/-- Two dimensions, then as many cells as their product in 32 bits. -/
def matrixMap : Layout :=
  field 4 u32Value fun height => field 4 u32Value fun width => word.times (height * width).toNat

/-- The matrix length only tells whether there is a matrix. -/
def matrix (len : Nat) : Layout := if 0 < len then matrixMap else empty

def segment : Layout := seq [text, word, word, word]

def zone (v : Nat) : Layout :=
  seq [text, word, word, word, word, field 2 leValue matrix, since 4 v (counted segment),
    since 5 v word]

def led : Layout := seq [text, word]

/-- The size in front is passed over; the active mode stands between the mode count and the modes. -/
def description (v : Nat) : Layout :=
  seq [skipped 4, word, text, since 1 v text, text, text, text, text,
    field 2 leValue fun modes => seq [word, (mode v).times modes, counted (zone v), counted led,
      counted word, since 5 v (counted text), since 5 v word]]

end Layouts

theorem follows_word : Follows u32 Layouts.word := Follows.u32
theorem follows_int : Follows i32 Layouts.word := Follows.i32

theorem follows_mode (v : Nat) : Follows (readMode v) (Layouts.mode v) := by
  apply Follows.bind Follows.string
  intro name
  apply Follows.bind follows_int
  intro value
  apply Follows.bind follows_word
  intro flags
  apply Follows.bind follows_word
  intro speedMin
  apply Follows.bind follows_word
  intro speedMax
  apply Follows.bind (Follows.since 3 v _ follows_word)
  intro brightnessMin
  apply Follows.bind (Follows.since 3 v _ follows_word)
  intro brightnessMax
  apply Follows.bind follows_word
  intro colorsMin
  apply Follows.bind follows_word
  intro colorsMax
  apply Follows.bind follows_word
  intro speed
  apply Follows.bind (Follows.since 3 v _ follows_word)
  intro brightness
  apply Follows.bind follows_word
  intro direction
  apply Follows.bind follows_word
  intro colorMode
  exact Follows.counted follows_word fun numColors colors => Follows.pure _

theorem follows_matrixMap : Follows readMatrixMap Layouts.matrixMap := by
  apply Follows.field
  intro height
  apply Follows.field
  intro width
  exact (follows_word.vector _).map _

theorem follows_matrix (len : Nat) : Follows (readMatrix len) (Layouts.matrix len) := by
  unfold readMatrix Layouts.matrix
  split_ifs
  · exact follows_matrixMap.map some
  · exact Follows.pure none

theorem follows_segment : Follows readSegment Layouts.segment := by
  apply Follows.bind Follows.string
  intro name
  apply Follows.bind follows_int
  intro type
  apply Follows.bind follows_word
  intro startIdx
  exact Follows.bind follows_word fun ledsCount => Follows.pure _

theorem follows_segments : Follows readSegments (.counted Layouts.segment) :=
  Follows.field follows_segment.many

theorem follows_zone (v : Nat) : Follows (readZone v) (Layouts.zone v) := by
  apply Follows.bind Follows.string
  intro name
  apply Follows.bind follows_int
  intro type
  apply Follows.bind follows_word
  intro ledsMin
  apply Follows.bind follows_word
  intro ledsMax
  apply Follows.bind follows_word
  intro ledsCount
  apply Follows.sized follows_matrix
  intro matrixLen matrixMap
  apply Follows.bind (Follows.since 4 v _ follows_segments)
  intro segments
  exact Follows.bind (Follows.since 5 v _ follows_word) fun flags => Follows.pure _

theorem follows_led : Follows readLed Layouts.led := by
  apply Follows.bind Follows.string
  intro name
  exact Follows.bind follows_word fun value => Follows.pure _

theorem follows_altNames : Follows readAltNames (.counted .text) :=
  Follows.field Follows.string.many

/-- `ReadDeviceDescription` needs exactly the bytes of the layout. -/
theorem follows_description (v : Nat) (c : RGBController) :
    Follows (readDeviceDescription v c) (Layouts.description v) := by
  apply Follows.bind (Follows.skip 4)
  intro _
  apply Follows.bind follows_int
  intro type
  apply Follows.bind Follows.string
  intro name
  apply Follows.bind (Follows.since 1 v _ Follows.string)
  intro vendor
  apply Follows.bind Follows.string
  intro description
  apply Follows.bind Follows.string
  intro version
  apply Follows.bind Follows.string
  intro serial
  apply Follows.bind Follows.string
  intro location
  rw [Layout.seq_singleton]
  apply Follows.field
  intro numModes
  apply Follows.bind follows_int
  intro activeMode
  apply Follows.bind ((follows_mode v).many numModes)
  intro modes
  apply Follows.counted (follows_zone v)
  intro numZones zones
  apply Follows.counted follows_led
  intro numLeds leds
  apply Follows.counted follows_word
  intro numColors colors
  apply Follows.bind (Follows.since 5 v _ follows_altNames)
  intro altNames
  exact Follows.bind (Follows.since 5 v _ follows_word) fun flags => Follows.pure _

end SyncRGB
