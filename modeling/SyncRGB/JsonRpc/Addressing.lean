import SyncRGB.JsonRpc.IndexedRefusals
import SyncRGB.JsonRpc.Numbers

/-! Which device, and which zone, LED or mode of it, a request is done on. The indices are cut to 32 bits in
front of their range tests. -/
namespace SyncRGB
open ByteCodec Effect RGBController

namespace Json

/-- A number that is sent is exactly that index. -/
def Denotes (j : Json) (n : Nat) : Prop := ∀ q, j.number = some q → q = n

/-- A number that is sent is an integer from 0 to 2^32 - 1. -/
def IsWord (j : Json) : Prop := ∀ q, j.number = some q → ∃ n : Nat, n < 2 ^ 32 ∧ q = n

/-- The conversion to 32 bits keeps these numbers and no others. -/
theorem denotes_iff_isWord {j : Json} {w : UInt32} (converted : j.toWord = .ok w) :
    j.Denotes w.toNat ↔ j.IsWord := by
  constructor
  · intro denotes q number
    exact ⟨w.toNat, w.toNat_lt, denotes q number⟩
  · intro fits q number
    obtain ⟨n, small, rfl⟩ := fits q number
    have given : j.number = some ((n : Int) : Rat) := number
    have same := (JsonRpc.toWord_of_number given).symm.trans converted
    cases same
    rw [ofInt_toNat (by omega) (by omega), Int.toNat_natCast]

end Json

namespace JsonRpc

/-! ### What a request selects -/

/-- The value sent as the index of a zone, a LED or a mode. -/
def sentPart (params : Json) : IndexedMethod → Option Json
  | .control .setLEDColor => params.find "ledIndex"
  | .control .setZoneColor | .control .setZoneMultipleLed | .control .resizeZone
  | .control .clearSegments | .control .addSegment => params.find "zoneIndex"
  | .control .setMode => params.find "modeIndex"
  | .control .updateMode => (params.find "mode").bind (Json.find "index")
  | _ => none

/-- A value sent as an index, with the index that the method goes on with: for the device `i`, for a part of
it, and for the LED of an item. The items whose LED is out of range are passed over. -/
inductive Selects (params : Json) (i : Nat) (part : UInt32) (c : RGBController) :
    IndexedMethod → Json → Nat → Prop where
  | device {method j} (sent : params.find "deviceIndex" = some j) : Selects params i part c method j i
  | part {method j} (sent : sentPart params method = some j) : Selects params i part c method j part.toNat
  | item {items item j ledIdx} (parsed : multipleColorsParams params = .ok items) (mem : item ∈ items)
      (colored : item.contains "color" = true) (sent : item.find "ledIndex" = some j)
      (converted : j.toWord = .ok ledIdx) (inside : ledIdx.toNat < c.leds.length) :
      Selects params i part c (.control .setMultipleColors) j ledIdx.toNat

section
variable (vectorTooLong : Bytes) (p : Platform) (params : Json)

/-- The request is refused, or is done on the device, and the zone, LED or mode of it, whose index is exactly
the number sent; another controller is not even changed by a request that is refused. -/
structure Addresses (method : IndexedMethod) (cs : List RGBController) : Prop where
  exact_ : Refusal (callIndexed vectorTooLong p params method cs) ∨
    ∃ part i c, partIndex p params method = .ok part ∧ (device params cs).1 = .ok (i, c) ∧
      callIndexed vectorTooLong p params method cs =
        ((act vectorTooLong p params i part method c).1,
          cs.set i (act vectorTooLong p params i part method c).2) ∧
      ∀ j n, Selects params i part c method j n → j.Denotes n
  others (k : Nat) : (callIndexed vectorTooLong p params method cs).2[k]? ≠ cs[k]? →
    ∀ j, params.find "deviceIndex" = some j → j.Denotes k

/-- Every index that a method goes on with is a 32-bit integer; a request that is refused by another test
need only have such a device index, and only if the device has been changed by then. -/
def SendsWords (method : IndexedMethod) (cs : List RGBController) : Prop :=
  ∀ part i c, partIndex p params method = .ok part → (device params cs).1 = .ok (i, c) →
    (¬ Refuses p params i part c method → ∀ j n, Selects params i part c method j n → j.IsWord) ∧
    (WritesFirst p params i part c method → ∀ j, params.find "deviceIndex" = some j → j.IsWord)

end

/-! ### Indices -/

section
variable {p : Platform} {params : Json} {i : Nat} {part : UInt32} {c : RGBController}

theorem word_of_find {key : String} {j value : Json} {w : UInt32} (converted : word key j = .ok w)
    (sent : j.find key = some value) : value.toWord = .ok w := by
  rw [word, Json.get_of_find sent] at converted
  exact converted

theorem device_converted {cs : List RGBController} {j : Json} (found : (device params cs).1 = .ok (i, c))
    (sent : params.find "deviceIndex" = some j) : ∃ w, j.toWord = .ok w ∧ w.toNat = i := by
  have read : (get : Change (List RGBController) (List RGBController)) cs = (.ok cs, cs) := rfl
  rw [device, Json.get_of_find sent] at found
  have same : (Except.ok j >>= Json.toWord : Handled UInt32) = j.toWord := rfl
  rw [same] at found
  cases converted : j.toWord with
  | error e =>
      rw [converted] at found
      cases found
  | ok w =>
      rw [converted] at found
      have given : (liftM (.ok w : Handled UInt32) : Change (List RGBController) UInt32) cs = (.ok w, cs) := rfl
      rw [bind_ok given, bind_ok read] at found
      cases entry : cs[w.toNat]? with
      | none =>
          rw [entry] at found
          cases found
      | some d =>
          rw [entry] at found
          cases found
          exact ⟨w, rfl, rfl⟩

theorem ledColorParams_word {uninitialized : UInt32} {b : UInt32 × RGBColor}
    (given : ledColorParams uninitialized params = .ok b) : word "ledIndex" params = .ok b.1 := by
  obtain ⟨_, -, given⟩ := Handled.bind_eq_ok.mp given
  obtain ⟨ledIdx, index, given⟩ := Handled.bind_eq_ok.mp given
  obtain ⟨color, -, given⟩ := Handled.bind_eq_ok.mp given
  obtain ⟨value, -, given⟩ := Handled.bind_eq_ok.mp given
  cases given
  exact index

theorem zoneColorParams_word {uninitialized : UInt32} {b : UInt32 × RGBColor}
    (given : zoneColorParams uninitialized params = .ok b) : word "zoneIndex" params = .ok b.1 := by
  obtain ⟨_, -, given⟩ := Handled.bind_eq_ok.mp given
  obtain ⟨zoneIdx, index, given⟩ := Handled.bind_eq_ok.mp given
  obtain ⟨color, -, given⟩ := Handled.bind_eq_ok.mp given
  obtain ⟨value, -, given⟩ := Handled.bind_eq_ok.mp given
  cases given
  exact index

theorem zoneMultipleLedParams_word {request : ZoneRequest} (given : zoneMultipleLedParams params = .ok request) :
    word "zoneIndex" params = .ok request.zoneIdx := by
  obtain ⟨_, -, given⟩ := Handled.bind_eq_ok.mp given
  obtain ⟨force, -, given⟩ := Handled.bind_eq_ok.mp given
  obtain ⟨color, -, given⟩ := Handled.bind_eq_ok.mp given
  split at given
  · obtain ⟨colors, -, given⟩ := Handled.bind_eq_ok.mp given
    obtain ⟨deviceIdx, -, given⟩ := Handled.bind_eq_ok.mp given
    obtain ⟨zoneIdx, index, given⟩ := Handled.bind_eq_ok.mp given
    cases given
    exact index
  · cases given

theorem modeParams_word {b : Json × UInt32} (given : modeParams params = .ok b) :
    params.get "mode" = .ok b.1 ∧ word "index" b.1 = .ok b.2 := by
  obtain ⟨_, -, given⟩ := Handled.bind_eq_ok.mp given
  obtain ⟨modeObj, obj, given⟩ := Handled.bind_eq_ok.mp given
  obtain ⟨_, -, given⟩ := Handled.bind_eq_ok.mp given
  obtain ⟨modeIdx, index, given⟩ := Handled.bind_eq_ok.mp given
  cases given
  exact ⟨obj, index⟩

theorem resizeZoneParams_word {b : UInt32 × UInt32} (given : resizeZoneParams params = .ok b) :
    word "zoneIndex" params = .ok b.1 := by
  obtain ⟨_, -, given⟩ := Handled.bind_eq_ok.mp given
  obtain ⟨zoneIdx, index, given⟩ := Handled.bind_eq_ok.mp given
  obtain ⟨newSize, -, given⟩ := Handled.bind_eq_ok.mp given
  cases given
  exact index

theorem addSegmentParams_word {uninitialized : Int32} {b : UInt32 × Segment}
    (given : addSegmentParams uninitialized params = .ok b) : word "zoneIndex" params = .ok b.1 := by
  obtain ⟨_, -, given⟩ := Handled.bind_eq_ok.mp given
  obtain ⟨zoneIdx, index, given⟩ := Handled.bind_eq_ok.mp given
  obtain ⟨segmentObj, -, given⟩ := Handled.bind_eq_ok.mp given
  obtain ⟨startIdx, -, given⟩ := Handled.bind_eq_ok.mp given
  obtain ⟨ledsCount, -, given⟩ := Handled.bind_eq_ok.mp given
  obtain ⟨name, -, given⟩ := Handled.bind_eq_ok.mp given
  cases given
  exact index

theorem part_converted {method : IndexedMethod} {j : Json} (tested : partIndex p params method = .ok part)
    (sent : sentPart params method = some j) : j.toWord = .ok part := by
  cases method with
  | getControllerData => cases sent
  | getControllerInfo => cases sent
  | control method =>
      cases method with
      | setLEDColor =>
          obtain ⟨b, given, same⟩ := Handled.bind_eq_ok.mp tested
          cases same
          exact word_of_find (ledColorParams_word given) sent
      | setZoneColor =>
          obtain ⟨b, given, same⟩ := Handled.bind_eq_ok.mp tested
          cases same
          exact word_of_find (zoneColorParams_word given) sent
      | setZoneMultipleLed =>
          obtain ⟨request, given, same⟩ := Handled.bind_eq_ok.mp tested
          cases same
          exact word_of_find (zoneMultipleLedParams_word given) sent
      | setMode =>
          obtain ⟨_, -, index⟩ := Handled.bind_eq_ok.mp tested
          exact word_of_find index sent
      | updateMode =>
          obtain ⟨b, given, same⟩ := Handled.bind_eq_ok.mp tested
          cases same
          obtain ⟨mode, found, sent⟩ := Option.bind_eq_some_iff.mp sent
          obtain ⟨obj, index⟩ := modeParams_word given
          cases (Json.get_of_find found).symm.trans obj
          exact word_of_find index sent
      | resizeZone =>
          obtain ⟨b, given, same⟩ := Handled.bind_eq_ok.mp tested
          cases same
          exact word_of_find (resizeZoneParams_word given) sent
      | clearSegments =>
          obtain ⟨_, -, index⟩ := Handled.bind_eq_ok.mp tested
          exact word_of_find index sent
      | addSegment =>
          obtain ⟨b, given, same⟩ := Handled.bind_eq_ok.mp tested
          cases same
          exact word_of_find (addSegmentParams_word given) sent
      | _ => cases sent

/-- Every index that a method goes on with is the conversion of the value sent. -/
theorem selects_converted {cs : List RGBController} {method : IndexedMethod} {j : Json} {n : Nat}
    (tested : partIndex p params method = .ok part) (found : (device params cs).1 = .ok (i, c))
    (selects : Selects params i part c method j n) : ∃ w, j.toWord = .ok w ∧ w.toNat = n := by
  cases selects with
  | device sent => exact device_converted found sent
  | part sent => exact ⟨part, part_converted tested sent, rfl⟩
  | item parsed mem colored sent converted inside => exact ⟨_, converted, rfl⟩

end

section
variable {vectorTooLong : Bytes} {p : Platform} {params : Json} {method : IndexedMethod} {cs : List RGBController}

theorem callIndexed_run {part : UInt32} {i : Nat} {c : RGBController}
    (tested : partIndex p params method = .ok part) (found : (device params cs).1 = .ok (i, c)) :
    callIndexed vectorTooLong p params method cs =
      ((act vectorTooLong p params i part method c).1,
        cs.set i (act vectorTooLong p params i part method c).2) := by
  rcases callIndexed_works params cs p vectorTooLong method with
    ⟨e, failed | ⟨_, _, failed⟩, _⟩ | ⟨part', i', c', tested', found', run⟩
  · rw [tested] at failed
    cases failed
  · rw [found] at failed
    cases failed
  · rw [tested] at tested'
    cases tested'
    rw [found'] at found
    cases found
    exact run

/-- The device is the only one that a method can change. -/
theorem changed_found {i k : Nat} {d : RGBController} (changed : (cs.set i d)[k]? ≠ cs[k]?) : k = i := by
  by_contra other
  rw [List.getElem?_set_ne (Ne.symm other)] at changed
  exact changed rfl

theorem sendsWords_of_addresses (addresses : Addresses vectorTooLong p params method cs) :
    SendsWords p params method cs := by
  intro part i c tested found
  have run : callIndexed vectorTooLong p params method cs = _ := callIndexed_run tested found
  constructor
  · intro passes j n selects
    rcases addresses.exact_ with ⟨e, counts, failed⟩ | ⟨part', i', c', tested', found', _, exact_⟩
    · rw [run] at failed
      exact absurd ((act_refusal vectorTooLong tested).mp ⟨e, counts, failed⟩) passes
    · rw [tested] at tested'
      cases tested'
      rw [found] at found'
      cases found'
      obtain ⟨w, converted, rfl⟩ := selects_converted tested found selects
      exact (Json.denotes_iff_isWord converted).mp (exact_ j _ selects)
  · intro writes j sent
    obtain ⟨w, converted, rfl⟩ := device_converted found sent
    apply (Json.denotes_iff_isWord converted).mp
    refine addresses.others _ ?_ j sent
    intro same
    apply (act_failsClean vectorTooLong tested).mp _ writes
    intro e t failed _
    have entry := device_found found
    have inside := List.getElem?_eq_some_iff.mp entry |>.1
    rw [run, failed, List.getElem?_set_self inside, entry] at same
    exact Option.some.inj same

theorem addresses_of_sendsWords (words : SendsWords p params method cs) :
    Addresses vectorTooLong p params method cs := by
  rcases callIndexed_works params cs p vectorTooLong method with
    ⟨e, _, run⟩ | ⟨part, i, c, tested, found, run⟩
  · constructor
    · rw [run]
      exact .inl (refusal_failure e cs)
    · intro k changed
      rw [run] at changed
      exact absurd rfl changed
  · dsimp only at run
    have found : (device params cs).1 = .ok (i, c) := congrArg Prod.fst found
    obtain ⟨passes, writes⟩ := words part i c tested found
    by_cases refused : Refuses p params i part c method
    · have refusal := (act_refusal vectorTooLong tested).mpr refused
      constructor
      · rw [run]
        exact .inl refusal
      · intro k changed j sent
        obtain ⟨e, counts, failed⟩ := refusal
        rw [run] at changed
        have write : WritesFirst p params i part c method := by
          by_contra harmless
          have same : (act vectorTooLong p params i part method c).2 = c :=
            (act_failsClean vectorTooLong tested).mpr harmless e _ (Prod.ext failed rfl) counts
          rw [same, set_same (device_found found)] at changed
          exact changed rfl
        obtain ⟨w, converted, here⟩ := device_converted found sent
        rw [changed_found changed, ← here]
        exact (Json.denotes_iff_isWord converted).mpr (writes write j sent)
    · constructor
      · refine .inr ⟨part, i, c, tested, found, run, ?_⟩
        intro j n selects
        obtain ⟨w, converted, rfl⟩ := selects_converted tested found selects
        exact (Json.denotes_iff_isWord converted).mpr (passes refused j _ selects)
      · intro k changed j sent
        rw [run] at changed
        obtain ⟨w, converted, here⟩ := device_converted found sent
        rw [changed_found changed, ← here]
        exact (Json.denotes_iff_isWord converted).mpr (passes refused j i (.device sent))

end

/-- A request is refused or done exactly where its numbers say, exactly when the indices that are gone on
with are integers of 32 bits. -/
theorem addresses_iff (vectorTooLong : Bytes) (p : Platform) (method : IndexedMethod) (params : Json)
    (cs : List RGBController) :
    Addresses vectorTooLong p params method cs ↔ SendsWords p params method cs :=
  ⟨sendsWords_of_addresses, addresses_of_sendsWords⟩

def modeRequest (deviceIdx modeIdx : UInt64) : Json :=
  .object [(ascii "deviceIndex", .unsigned deviceIdx), (ascii "modeIndex", .unsigned modeIdx)]

/-- The low 32 bits of 2^32 are those of the first device, whose mode is set. -/
theorem cut_device_index : ¬ Addresses [] fixedSizes (modeRequest 4294967296 1) (.control .setMode)
    [{ RGBController.new 0 with modes := [Mode.new, Mode.new] }] := by
  intro addresses
  have changed : (callIndexed [] fixedSizes (modeRequest 4294967296 1) (.control .setMode)
      [{ RGBController.new 0 with modes := [Mode.new, Mode.new] }]).2[0]? ≠
      [{ RGBController.new 0 with modes := [Mode.new, Mode.new] }][0]? := by decide
  have denotes := addresses.others 0 changed (.unsigned 4294967296) rfl
  exact absurd (denotes 4294967296 rfl) (by decide)

end JsonRpc
end SyncRGB
