import SyncRGB.Controller.Partition
import SyncRGB.JsonRpc.Reports

/-! The position that is reported for a LED, and the zone that the LED belongs to. -/
namespace SyncRGB
open ByteCodec

/-- The value at a column and a row of the map, with the offset in 32 bits. -/
def MatrixMap.cell (m : MatrixMap) (x y : Nat) : Option UInt32 :=
  if x < m.width.toNat ∧ y < m.height.toNat then
    m.map.toList[(UInt32.ofNat y * m.width + UInt32.ofNat x).toNat]?
  else none

namespace Zone

/-- A matrix zone with the LED in that cell. -/
def HasCellAt (z : Zone) (ledIdx : UInt32) (x y : Nat) : Prop :=
  z.type = JsonRpc.zoneTypeMatrix ∧ ∃ m, z.matrixMap = some m ∧ m.cell x y = some (ledIdx - z.startIdx)

/-- The first of the cells, row by row. -/
def FirstCellAt (z : Zone) (ledIdx : UInt32) (x y : Nat) : Prop :=
  z.HasCellAt ledIdx x y ∧ ∀ x' y', z.HasCellAt ledIdx x' y' → y < y' ∨ y = y' ∧ x ≤ x'

/-- The LED count of the zone, which may be larger than its window, reaches over the LED and not over 2^32. -/
def Reaches (z : Zone) (ledIdx : UInt32) : Prop :=
  z.startIdx.toNat ≤ ledIdx.toNat ∧ ledIdx.toNat < z.startIdx.toNat + z.ledsCount.toNat ∧
    z.startIdx.toNat + z.ledsCount.toNat < 2 ^ 32

end Zone

namespace JsonRpc

/-! ### The search -/

theorem findSome?_range_eq_some_iff {α : Type} {f : Nat → Option α} {n : Nat} {a : α} :
    (List.range n).findSome? f = some a ↔ ∃ i < n, f i = some a ∧ ∀ j < i, f j = none := by
  induction n generalizing a with
  | zero => exact iff_of_false (by rintro ⟨⟩) fun ⟨i, below, _⟩ => absurd below (Nat.not_lt_zero i)
  | succ n ih =>
      rw [List.range_succ, List.findSome?_append, List.findSome?_singleton]
      cases earlier : (List.range n).findSome? f with
      | some b =>
          obtain ⟨i, below, at_, before⟩ := ih.mp earlier
          rw [Option.some_or]
          constructor
          · rintro ⟨⟩
            exact ⟨i, Nat.lt_succ_of_lt below, at_, before⟩
          · rintro ⟨j, -, there, first⟩
            rcases Nat.lt_trichotomy i j with less | rfl | greater
            · rw [first i less] at at_
              cases at_
            · exact at_.symm.trans there
            · rw [before j greater] at there
              cases there
      | none =>
          have none_ (j : Nat) (below : j < n) : f j = none :=
            List.findSome?_eq_none_iff.mp earlier j (List.mem_range.mpr below)
          rw [Option.none_or]
          constructor
          · exact fun last => ⟨n, Nat.lt_succ_self n, last, none_⟩
          · rintro ⟨j, below, there, -⟩
            rcases Nat.lt_succ_iff_lt_or_eq.mp below with below | rfl
            · rw [none_ j below] at there
              cases there
            · exact there

section
variable {m : MatrixMap} {v : UInt32} {x y : Nat}

theorem cell_of_row (inRow : y < m.height.toNat) (inCol : x < m.width.toNat) :
    m.cell x y = m.map.toList[(UInt32.ofNat y * m.width + UInt32.ofNat x).toNat]? := if_pos ⟨inCol, inRow⟩

theorem cell_inside (found : m.cell x y = some v) : x < m.width.toNat ∧ y < m.height.toNat := by
  rw [MatrixMap.cell] at found
  split at found
  · assumption
  · cases found

theorem findCell_eq_none_iff : findCell m v = none ↔ ∀ x y, m.cell x y ≠ some v := by
  rw [findCell, List.findSome?_eq_none_iff]
  constructor
  · intro none_ x y found
    obtain ⟨inCol, inRow⟩ := cell_inside found
    have row := Option.map_eq_none_iff.mp (none_ y (List.mem_range.mpr inRow))
    have here := List.find?_eq_none.mp row x (List.mem_range.mpr inCol)
    rw [← cell_of_row inRow inCol, decide_eq_true_eq] at here
    exact here found
  · intro none_ y inRow
    rw [Option.map_eq_none_iff, List.find?_eq_none]
    intro x inCol
    rw [← cell_of_row (List.mem_range.mp inRow) (List.mem_range.mp inCol), decide_eq_true_eq]
    exact none_ x y

theorem findCell_eq_some_iff :
    findCell m v = some (x, y) ↔
      m.cell x y = some v ∧ ∀ x' y', m.cell x' y' = some v → y < y' ∨ y = y' ∧ x ≤ x' := by
  rw [findCell, findSome?_range_eq_some_iff]
  constructor
  · rintro ⟨y', inRow, found, before⟩
    obtain ⟨x', first, same⟩ := Option.map_eq_some_iff.mp found
    cases same
    obtain ⟨here, inCol, earlier⟩ := List.find?_range_eq_some.mp first
    rw [← cell_of_row inRow (List.mem_range.mp inCol), decide_eq_true_eq] at here
    refine ⟨here, ?_⟩
    intro x' y' there
    obtain ⟨inCol', inRow'⟩ := cell_inside there
    rcases Nat.lt_trichotomy y y' with below | rfl | above
    · exact .inl below
    · refine .inr ⟨rfl, Nat.le_of_not_lt fun left => ?_⟩
      have other := earlier x' left
      rw [← cell_of_row inRow' inCol', there] at other
      simp at other
    · have row := List.find?_eq_none.mp (Option.map_eq_none_iff.mp (before y' above)) x' (List.mem_range.mpr inCol')
      rw [← cell_of_row inRow' inCol', there] at row
      simp at row
  · rintro ⟨found, first⟩
    obtain ⟨inCol, inRow⟩ := cell_inside found
    refine ⟨y, inRow, Option.map_eq_some_iff.mpr ⟨x, ?_, rfl⟩, ?_⟩
    · refine List.find?_range_eq_some.mpr ⟨?_, List.mem_range.mpr inCol, ?_⟩
      · rw [← cell_of_row inRow inCol, found]
        exact decide_eq_true rfl
      · intro x' left
        rw [← cell_of_row inRow (left.trans inCol), Bool.not_eq_true', decide_eq_false_iff_not]
        intro there
        have order := first x' y there
        omega
    · intro y' above
      rw [Option.map_eq_none_iff, List.find?_eq_none]
      intro x' inCol'
      rw [← cell_of_row (above.trans inRow) (List.mem_range.mp inCol'), decide_eq_true_eq]
      intro there
      have order := first x' y' there
      omega

end

/-- What one zone contributes to the search for a LED. -/
def zonePosition (ledIdx : UInt32) (z : Zone) : Option (Nat × Nat) :=
  if z.type ≠ zoneTypeMatrix ∨ ledIdx < z.startIdx ∨ z.startIdx + z.ledsCount ≤ ledIdx then none
  else z.matrixMap.bind (findCell · (ledIdx - z.startIdx))

theorem ledPosition_eq (c : RGBController) (ledIdx : UInt32) :
    ledPosition c ledIdx = c.zones.findSome? (zonePosition ledIdx) := rfl

theorem reaches_iff {z : Zone} {ledIdx : UInt32} :
    z.Reaches ledIdx ↔ ¬ (ledIdx < z.startIdx ∨ z.startIdx + z.ledsCount ≤ ledIdx) := by
  have start := z.startIdx.toNat_lt
  have count := z.ledsCount.toNat_lt
  have index := ledIdx.toNat_lt
  rw [Zone.Reaches, UInt32.lt_iff_toNat_lt, UInt32.le_iff_toNat_le, UInt32.toNat_add]
  omega

theorem zonePosition_of_reaches {z : Zone} {ledIdx : UInt32} (matrix : z.type = zoneTypeMatrix)
    (reaches : z.Reaches ledIdx) :
    zonePosition ledIdx z = z.matrixMap.bind (findCell · (ledIdx - z.startIdx)) := by
  apply if_neg
  rintro (other | outside)
  · exact other matrix
  · exact reaches_iff.mp reaches outside

theorem zonePosition_outside {z : Zone} {ledIdx : UInt32} (outside : ¬ (z.type = zoneTypeMatrix ∧ z.Reaches ledIdx)) :
    zonePosition ledIdx z = none := by
  apply if_pos
  rw [reaches_iff] at outside
  tauto

theorem zonePosition_eq_some_iff {z : Zone} {ledIdx : UInt32} {x y : Nat} :
    zonePosition ledIdx z = some (x, y) ↔ z.Reaches ledIdx ∧ z.FirstCellAt ledIdx x y := by
  by_cases inside : z.type = zoneTypeMatrix ∧ z.Reaches ledIdx
  · obtain ⟨matrix, reaches⟩ := inside
    rw [zonePosition_of_reaches matrix reaches, Option.bind_eq_some_iff, Zone.FirstCellAt, and_iff_right reaches]
    constructor
    · rintro ⟨m, map, found⟩
      obtain ⟨here, first⟩ := findCell_eq_some_iff.mp found
      refine ⟨⟨matrix, m, map, here⟩, ?_⟩
      rintro x' y' ⟨-, m', map', there⟩
      obtain rfl := Option.some.inj (map.symm.trans map')
      exact first x' y' there
    · rintro ⟨⟨-, m, map, here⟩, first⟩
      exact ⟨m, map, findCell_eq_some_iff.mpr ⟨here, fun x' y' there => first x' y' ⟨matrix, m, map, there⟩⟩⟩
  · rw [zonePosition_outside inside]
    exact iff_of_false (by rintro ⟨⟩) fun both => inside ⟨both.2.1.1, both.1⟩

theorem zonePosition_eq_none_iff {z : Zone} {ledIdx : UInt32} :
    zonePosition ledIdx z = none ↔ (z.Reaches ledIdx → ∀ x y, ¬ z.HasCellAt ledIdx x y) := by
  by_cases inside : z.type = zoneTypeMatrix ∧ z.Reaches ledIdx
  · obtain ⟨matrix, reaches⟩ := inside
    rw [zonePosition_of_reaches matrix reaches, Option.bind_eq_none_iff, forall_prop_of_true reaches]
    constructor
    · rintro none_ x y ⟨-, m, map, here⟩
      exact findCell_eq_none_iff.mp (none_ m map) x y here
    · intro none_ m map
      exact findCell_eq_none_iff.mpr fun x y here => none_ x y ⟨matrix, m, map, here⟩
  · rw [zonePosition_outside inside]
    exact iff_of_true rfl fun reaches x y here => inside ⟨here.1, reaches⟩

/-! ### The report -/

theorem find_position (c : RGBController) (led : Led) (ledIdx : Nat) :
    (ledToJSON c led ledIdx).find "position" =
      (ledPosition c (UInt32.ofNat ledIdx)).map fun (x, y) => .array [.ofSize x, .ofSize y] := by
  rw [ledToJSON]
  cases ledPosition c (UInt32.ofNat ledIdx) with
  | none => rfl
  | some position => rfl

/-- The LED is in the window of the zone. -/
def Owns (c : RGBController) (ledIdx : UInt32) (z : Zone) : Prop := z ∈ c.zones ∧ ledIdx.toNat ∈ z.slots

/-- A zone reports a position for the LED where no zone in front of it does. -/
structure Reports (c : RGBController) (ledIdx : UInt32) (x y : Nat) (z : Zone) : Prop where
  reaches : z.Reaches ledIdx
  cell : z.FirstCellAt ledIdx x y
  first : ∃ front back, c.zones = front ++ z :: back ∧
    ∀ a ∈ front, a.Reaches ledIdx → ∀ x' y', ¬ a.HasCellAt ledIdx x' y'

/-- The position of a LED is right: one zone at most has the LED in its window, and the LED has a position exactly if
that zone has a cell for it, which the position then is. -/
structure RightlyPlaced (c : RGBController) (ledIdx : UInt32) : Prop where
  one : ∀ z z', Owns c ledIdx z → Owns c ledIdx z' → z = z'
  nowhere : (∀ z, ¬ Owns c ledIdx z) → ledPosition c ledIdx = none
  placed : ∀ z, Owns c ledIdx z → ((∃ x y, ledPosition c ledIdx = some (x, y)) ↔ ∃ x y, z.HasCellAt ledIdx x y)
  there : ∀ z x y, Owns c ledIdx z → ledPosition c ledIdx = some (x, y) → z.HasCellAt ledIdx x y

/-- The windows do not overlap at the LED. A zone that reports a position for a LED outside of its window does so for
a cell that the owner has for the LED, and an owner with a cell for the LED reaches it. -/
structure PositionFits (c : RGBController) (ledIdx : UInt32) : Prop where
  one : ∀ z z', Owns c ledIdx z → Owns c ledIdx z' → z = z'
  foreign : ∀ x y z, Reports c ledIdx x y z → ledIdx.toNat ∉ z.slots → ∃ o, Owns c ledIdx o ∧ o.HasCellAt ledIdx x y
  owner : ∀ o x y, Owns c ledIdx o → o.HasCellAt ledIdx x y →
    o.Reaches ledIdx ∨ ∃ x' y' z, Reports c ledIdx x' y' z ∧ ledIdx.toNat ∉ z.slots

section
variable {c : RGBController} {ledIdx : UInt32} {x y : Nat}

theorem ledPosition_eq_some_iff : ledPosition c ledIdx = some (x, y) ↔ ∃ z, Reports c ledIdx x y z := by
  rw [ledPosition_eq, List.findSome?_eq_some_iff]
  simp only [zonePosition_eq_some_iff, zonePosition_eq_none_iff]
  constructor
  · rintro ⟨front, z, back, split, ⟨reaches, cell⟩, first⟩
    exact ⟨z, reaches, cell, front, back, split, first⟩
  · rintro ⟨z, reaches, cell, front, back, split, first⟩
    exact ⟨front, z, back, split, ⟨reaches, cell⟩, first⟩

theorem ledPosition_eq_none_iff :
    ledPosition c ledIdx = none ↔ ∀ z ∈ c.zones, z.Reaches ledIdx → ∀ x y, ¬ z.HasCellAt ledIdx x y := by
  rw [ledPosition_eq, List.findSome?_eq_none_iff]
  simp only [zonePosition_eq_none_iff]

theorem Reports.member {z : Zone} (reports : Reports c ledIdx x y z) : z ∈ c.zones := by
  obtain ⟨front, back, split, -⟩ := reports.first
  rw [split]
  exact List.mem_append_right _ List.mem_cons_self

/-- A zone that reaches a LED that it has a cell for is not passed over without a position. -/
theorem exists_reports {z : Zone} (member : z ∈ c.zones) (reaches : z.Reaches ledIdx)
    (here : z.HasCellAt ledIdx x y) : ∃ x' y' z', Reports c ledIdx x' y' z' := by
  cases found : ledPosition c ledIdx with
  | none => exact absurd here (ledPosition_eq_none_iff.mp found z member reaches x y)
  | some position =>
      obtain ⟨x', y'⟩ := position
      obtain ⟨z', reports⟩ := ledPosition_eq_some_iff.mp found
      exact ⟨x', y', z', reports⟩

theorem rightlyPlaced_iff : RightlyPlaced c ledIdx ↔ PositionFits c ledIdx := by
  constructor
  · intro right
    refine ⟨right.one, ?_, ?_⟩
    · intro x y z reports _
      have found := ledPosition_eq_some_iff.mpr ⟨z, reports⟩
      by_cases owned : ∃ o, Owns c ledIdx o
      · obtain ⟨o, owns⟩ := owned
        exact ⟨o, owns, right.there o x y owns found⟩
      · have none_ := right.nowhere (not_exists.mp owned)
        rw [found] at none_
        cases none_
    · intro o x y owns here
      obtain ⟨x', y', found⟩ := (right.placed o owns).mpr ⟨x, y, here⟩
      obtain ⟨z, reports⟩ := ledPosition_eq_some_iff.mp found
      by_cases inside : ledIdx.toNat ∈ z.slots
      · have same := right.one z o ⟨reports.member, inside⟩ owns
        exact .inl (same ▸ reports.reaches)
      · exact .inr ⟨x', y', z, reports, inside⟩
  · intro fits
    have there (z : Zone) (x y : Nat) (owns : Owns c ledIdx z) (found : ledPosition c ledIdx = some (x, y)) :
        z.HasCellAt ledIdx x y := by
      obtain ⟨z', reports⟩ := ledPosition_eq_some_iff.mp found
      by_cases inside : ledIdx.toNat ∈ z'.slots
      · have same := fits.one z' z ⟨reports.member, inside⟩ owns
        exact same ▸ reports.cell.1
      · obtain ⟨o, owner, here⟩ := fits.foreign x y z' reports inside
        exact fits.one o z owner owns ▸ here
    refine ⟨fits.one, ?_, ?_, there⟩
    · intro unowned
      cases found : ledPosition c ledIdx with
      | none => rfl
      | some position =>
          obtain ⟨x, y⟩ := position
          obtain ⟨z, reports⟩ := ledPosition_eq_some_iff.mp found
          obtain ⟨o, owns, -⟩ := fits.foreign x y z reports fun inside => unowned z ⟨reports.member, inside⟩
          exact absurd owns (unowned o)
    · intro z owns
      constructor
      · rintro ⟨x, y, found⟩
        exact ⟨x, y, there z x y owns found⟩
      · rintro ⟨x, y, here⟩
        have reported : ∃ x' y' z', Reports c ledIdx x' y' z' := by
          rcases fits.owner z x y owns here with reaches | ⟨x', y', z', reports, -⟩
          · exact exists_reports owns.1 reaches here
          · exact ⟨x', y', z', reports⟩
        obtain ⟨x', y', z', reports⟩ := reported
        exact ⟨x', y', ledPosition_eq_some_iff.mpr ⟨z', reports⟩⟩

end

/-- One cell holds one LED. -/
theorem eq_of_hasCellAt {z : Zone} {i j : UInt32} {x y : Nat} (here : z.HasCellAt i x y) (there : z.HasCellAt j x y) :
    i = j := by
  obtain ⟨-, m, map, atI⟩ := here
  obtain ⟨-, m', map', atJ⟩ := there
  obtain rfl := Option.some.inj (map.symm.trans map')
  exact (UInt32.sub_left_inj z.startIdx).mp (Option.some.inj (atI.symm.trans atJ))

/-- Where the windows do not wrap, only a matrix zone with fewer LEDs in its window than it counts misplaces a LED. -/
theorem positionFits_of_whole {c : RGBController} (windowed : c.Windowed) (small : ledSum c.zones < 2 ^ 32)
    (whole : ∀ z ∈ c.zones, z.type = zoneTypeMatrix → z.getLEDsInZone = z.ledsCount) (ledIdx : UInt32) :
    PositionFits c ledIdx := by
  have tiled := windowed.tiled small
  refine ⟨?_, ?_, ?_⟩
  · rintro z z' ⟨member, low, high⟩ ⟨member', low', high'⟩
    obtain ⟨k, found⟩ := List.getElem?_of_mem member
    obtain ⟨k', found'⟩ := List.getElem?_of_mem member'
    rcases Nat.lt_trichotomy k k' with before | rfl | behind
    · have apart := tiled.before found found' before
      omega
    · exact Option.some.inj (found.symm.trans found')
    · have apart := tiled.before found' found behind
      omega
  · intro x y z reports outside
    have count := whole z reports.member reports.cell.1.1
    obtain ⟨low, high, -⟩ := reports.reaches
    rw [← count] at high
    exact absurd ⟨low, high⟩ outside
  · rintro o x y ⟨member, low, high⟩ here
    obtain ⟨k, found⟩ := List.getElem?_of_mem member
    have inside := tiled.inside found
    rw [← tiled.total] at inside
    rw [whole o member here.1] at high inside
    exact .inl ⟨low, high, by omega⟩

/-- `LEDToJSON`: where the position is in the report; that all LEDs are placed rightly, and those of one zone apart,
exactly if every LED fits; and that they do where no matrix zone counts more LEDs than its window has. -/
theorem ledToJSON_position_iff (c : RGBController) :
    (∀ led ledIdx, (ledToJSON c led ledIdx).find "position" =
      (ledPosition c (UInt32.ofNat ledIdx)).map fun (x, y) => .array [.ofSize x, .ofSize y]) ∧
    (((∀ ledIdx : UInt32, ledIdx.toNat < c.leds.length → RightlyPlaced c ledIdx) ∧
        ∀ z i j position, Owns c i z → Owns c j z → i.toNat < c.leds.length → j.toNat < c.leds.length →
          ledPosition c i = some position → ledPosition c j = some position → i = j) ↔
      ∀ ledIdx : UInt32, ledIdx.toNat < c.leds.length → PositionFits c ledIdx) ∧
    (ledSum c.zones < 2 ^ 32 →
      (∀ z ∈ c.setupColors.zones, z.type = zoneTypeMatrix → z.getLEDsInZone = z.ledsCount) →
      ∀ ledIdx, PositionFits c.setupColors ledIdx) := by
  refine ⟨find_position c, ?_, ?_⟩
  · constructor
    · rintro ⟨right, -⟩ ledIdx inside
      exact rightlyPlaced_iff.mp (right ledIdx inside)
    · intro fits
      have right (ledIdx : UInt32) (inside : ledIdx.toNat < c.leds.length) : RightlyPlaced c ledIdx :=
        rightlyPlaced_iff.mpr (fits ledIdx inside)
      refine ⟨right, ?_⟩
      rintro z i j ⟨x, y⟩ ownsI ownsJ insideI insideJ atI atJ
      exact eq_of_hasCellAt ((right i insideI).there z x y ownsI atI) ((right j insideJ).there z x y ownsJ atJ)
  · intro small whole ledIdx
    have total : ledSum c.setupColors.zones = ledSum c.zones := RGBController.setupZones_ledSum _ _ _ _
    exact positionFits_of_whole (RGBController.windowed_setupColors c) (by rwa [total]) whole ledIdx

/-- A capped matrix of two columns in front of a strip. -/
def cappedMatrix : RGBController :=
  { RGBController.new 0 with
    leds := [⟨[], 0⟩, ⟨[], 0⟩, ⟨[], 0⟩]
    zones :=
      [{ Zone.new with
          type := zoneTypeMatrix
          ledsCount := 2
          flags := 1
          matrixMap := some ⟨1, 2, ⟨[0, 1], rfl⟩⟩ },
        { Zone.new with ledsCount := 2 }] }

/-- The first LED of the strip gets the place of the second LED of the matrix. -/
theorem cappedMatrix_misplaces :
    ∃ strip, Owns cappedMatrix.setupColors 1 strip ∧ strip.matrixMap = none ∧
      ledPosition cappedMatrix.setupColors 1 = some (1, 0) ∧ ¬ RightlyPlaced cappedMatrix.setupColors 1 := by
  have found : ledPosition cappedMatrix.setupColors 1 = some (1, 0) := by decide
  have owns : Owns cappedMatrix.setupColors 1
      { Zone.new with startIdx := 1, ledsCount := 2, leds := some 1, colors := some 1 } :=
    ⟨by decide, by decide, by decide⟩
  refine ⟨_, owns, rfl, found, ?_⟩
  intro right
  exact absurd (right.there _ 1 0 owns found).1 (by decide)

end JsonRpc
end SyncRGB
