import IspcShader.Proofs.Dispatch.Refinement

/-!
Where the arithmetic of a grid leaves the 64-bit words. A total or a number is refused just when its
exact value has no word; nothing on the way to a value that fits goes beyond a word, and no divisor
on the way is zero.
-/
namespace IspcShader

inductive ArithmeticFault where
  | overflow (fault : Overflow)
  | zeroDivisor
  deriving DecidableEq, Repr

namespace Checked

def lift {α : Type} (result : Except Overflow α) : Except ArithmeticFault α :=
  result.mapError .overflow

def div (a b : UInt64) : Except ArithmeticFault UInt64 :=
  if b = 0 then .error .zeroDivisor else .ok (a / b)

def rem (a b : UInt64) : Except ArithmeticFault UInt64 :=
  if b = 0 then .error .zeroDivisor else .ok (a % b)

theorem ok_bind {ε α β : Type} (found : α) (next : α → Except ε β) :
    (Except.ok found >>= next) = next found := rfl

theorem lift_ok {α : Type} (found : α) : lift (.ok found) = .ok found := rfl

theorem lift_ne_zeroDivisor {α : Type} (result : Except Overflow α) :
    lift result ≠ .error .zeroDivisor := by
  intro same
  cases result with
  | ok found => cases same
  | error fault => cases Except.error.inj same

theorem div_of_ne_zero {b : UInt64} (nonzero : b ≠ 0) (a : UInt64) : div a b = .ok (a / b) :=
  if_neg nonzero

theorem rem_of_ne_zero {b : UInt64} (nonzero : b ≠ 0) (a : UInt64) : rem a b = .ok (a % b) :=
  if_neg nonzero

/-- A result against the exact value that it depends on: it is refused just when the value has no
64-bit word, and it is right otherwise. -/
structure IsExact {α : Type} (result : Except Overflow α) (value : Nat)
    (right : α → Prop) : Prop where
  refused_iff : (∃ fault, result = .error fault) ↔ UInt64.size ≤ value
  answer : value < UInt64.size → ∃ found, result = .ok found ∧ right found

namespace IsExact

variable {α β : Type} {value : Nat}

theorem of_ok_iff {result : Except Overflow UInt64}
    (computed : ∀ word, result = .ok word ↔ value = word.toNat) :
    IsExact result value fun word => word.toNat = value where
  refused_iff := by
    constructor
    · rintro ⟨fault, refused⟩
      apply Nat.le_of_not_lt
      intro fits
      have word := (computed (.ofNat value)).mpr (UInt64.toNat_ofNat_of_lt' fits).symm
      rw [refused] at word
      cases word
    · intro large
      cases result with
      | error fault => exact ⟨fault, rfl⟩
      | ok word =>
        have small := (computed word).mp rfl ▸ word.toNat_lt_size
        exact absurd large (Nat.not_le_of_lt small)
  answer fits := by
    have word : value = (UInt64.ofNat value).toNat := (UInt64.toNat_ofNat_of_lt' fits).symm
    exact ⟨.ofNat value, (computed _).mpr word, word.symm⟩

/-- What is computed from an exact result, and never refused on its own account, is exact as
well. -/
theorem bind {first : Except Overflow α} {right : α → Prop} (exact : IsExact first value right)
    {next : α → Except Overflow β} {last : β → Prop}
    (continues : ∀ found, right found → ∃ result, next found = .ok result ∧ last result) :
    IsExact (first >>= next) value last where
  refused_iff := by
    rw [← exact.refused_iff]
    constructor
    · rintro ⟨fault, refused⟩
      by_cases fits : value < UInt64.size
      · obtain ⟨found, given, holds⟩ := exact.answer fits
        obtain ⟨result, ends, -⟩ := continues found holds
        rw [given] at refused
        exact absurd (ends.symm.trans refused) (by simp)
      · exact exact.refused_iff.mpr (Nat.le_of_not_lt fits)
    · rintro ⟨fault, refused⟩
      exact ⟨fault, by rw [refused]; rfl⟩
  answer fits := by
    obtain ⟨found, given, holds⟩ := exact.answer fits
    obtain ⟨result, ends, correct⟩ := continues found holds
    exact ⟨result, by rw [given]; exact ends, correct⟩

end IsExact
end Checked

def Coordinate.values (point : Coordinate) : Nat × Nat × Nat :=
  (point.x.toNat, point.y.toNat, point.z.toNat)

namespace Grid

variable {grid : Grid} {index : UInt64}

/-- The point with a number, in whole numbers: a remainder for each of the faster axes. -/
def place (grid : Grid) (number : Nat) : Nat × Nat × Nat :=
  (number % grid.x.toNat, number / grid.x.toNat % grid.y.toNat,
    number / (grid.x.toNat * grid.y.toNat))

/-- `pointAt` with every step checked, in the order in which the steps are made. -/
def stepwisePoint (grid : Grid) (index : UInt64) : Except ArithmeticFault Coordinate := do
  let x ← Checked.rem index grid.x.toUInt64
  let row ← Checked.div index grid.x.toUInt64
  let y ← Checked.rem row grid.y.toUInt64
  let layer ← Checked.lift (Checked.mul grid.x.toUInt64 grid.y.toUInt64)
  let z ← Checked.div index layer
  return ⟨x.toUInt32, y.toUInt32, z.toUInt32⟩

/-- `coordinate?` with every step checked: no division is made for a number that is out of range. -/
def stepwiseCoordinate? (grid : Grid) (index : UInt64) :
    Except ArithmeticFault (Option Coordinate) := do
  let total ← Checked.lift grid.total
  if index < total then return some (← grid.stepwisePoint index) else return none

def stepwiseInvocations (grid : Grid) : Except ArithmeticFault (List Coordinate) := do
  let total ← Checked.lift grid.total
  let found ← (List.range total.toNat).mapM fun index => grid.stepwiseCoordinate? index.toUInt64
  return found.filterMap id

theorem values_pointAt (below : index.toNat < grid.size) :
    (grid.pointAt index).values = grid.place index.toNat := by
  rw [Coordinate.values, toNat_pointAt_x below, toNat_pointAt_y below, toNat_pointAt_z below, place]

theorem isExact_total (grid : Grid) :
    Checked.IsExact grid.total grid.size fun total => total.toNat = grid.size :=
  .of_ok_iff fun _ => total_eq_ok_iff

theorem isExact_index (grid : Grid) (point : Coordinate) :
    Checked.IsExact (grid.index point) (grid.number point) fun index =>
      index.toNat = grid.number point :=
  .of_ok_iff fun _ => index_eq_ok_iff

theorem isExact_coordinate? (grid : Grid) (index : UInt64) :
    Checked.IsExact (grid.coordinate? index) grid.size fun found =>
      found.map Coordinate.values =
        if index.toNat < grid.size then some (grid.place index.toNat) else none := by
  refine grid.isExact_total.bind ?_
  intro total sized
  refine ⟨_, rfl, ?_⟩
  simp only [UInt64.lt_iff_toNat_lt, sized]
  split
  · next below => exact congrArg some (values_pointAt below)
  · rfl

theorem isExact_invocations (grid : Grid) :
    Checked.IsExact grid.invocations grid.size fun points =>
      points.map Coordinate.values = (List.range grid.size).map grid.place := by
  refine grid.isExact_total.bind ?_
  intro total sized
  have computed := total_eq_ok_iff.mpr sized.symm
  have all : grid.firstInvocations total.toNat = grid.invocations := by
    rw [invocations, computed]
    rfl
  refine ⟨_, all.trans (invocations_eq computed), ?_⟩
  rw [List.map_map, ← sized]
  apply List.map_congr_left
  intro number member
  obtain ⟨word, below⟩ := toNat_of_mem_range sized.symm member
  rw [Function.comp_apply, values_pointAt below, word]

theorem toUInt64_ne_zero {extent : UInt32} (positive : 0 < extent.toNat) : extent.toUInt64 ≠ 0 := by
  rw [Ne, ← UInt64.toNat_inj]
  exact Nat.ne_of_gt positive

theorem stepwisePoint_eq (below : index.toNat < grid.size) :
    grid.stepwisePoint index = .ok (grid.pointAt index) := by
  obtain ⟨x, y, -⟩ := extents_pos below
  have layer :
      Checked.mul grid.x.toUInt64 grid.y.toUInt64 = .ok (grid.x.toUInt64 * grid.y.toUInt64) :=
    Checked.mul_eq_ok_iff.mpr ⟨grid.layer_lt, rfl⟩
  have columns := toUInt64_ne_zero x
  have rows := toUInt64_ne_zero y
  have cells : grid.x.toUInt64 * grid.y.toUInt64 ≠ 0 := by
    rw [Ne, ← UInt64.toNat_inj, ← Checked.mul_eq_ok_iff_toNat.mp layer]
    exact Nat.ne_of_gt (Nat.mul_pos x y)
  simp only [stepwisePoint, Checked.rem_of_ne_zero columns, Checked.div_of_ne_zero columns,
    Checked.rem_of_ne_zero rows, layer, Checked.lift_ok, Checked.div_of_ne_zero cells,
    Checked.ok_bind]
  rfl

theorem stepwiseCoordinate?_eq (grid : Grid) (index : UInt64) :
    grid.stepwiseCoordinate? index = Checked.lift (grid.coordinate? index) := by
  cases computed : grid.total with
  | error fault =>
    rw [stepwiseCoordinate?, coordinate?, computed]
    rfl
  | ok total =>
    rw [stepwiseCoordinate?, coordinate?_eq computed, computed, Checked.lift_ok, Checked.ok_bind]
    split
    · next lt =>
      have below : index.toNat < grid.size := by
        rw [total_eq_ok_iff.mp computed]
        exact UInt64.lt_iff_toNat_lt.mp lt
      rw [stepwisePoint_eq below]
      rfl
    · rfl

theorem stepwiseInvocations_eq (grid : Grid) :
    grid.stepwiseInvocations = Checked.lift grid.invocations := by
  cases computed : grid.total with
  | error fault =>
    rw [stepwiseInvocations, invocations, computed]
    rfl
  | ok total =>
    have sized := total_eq_ok_iff.mp computed
    have found :
        (List.range total.toNat).mapM (fun index => grid.stepwiseCoordinate? index.toUInt64) =
        .ok ((List.range total.toNat).map fun index => some (grid.pointAt index.toUInt64)) := by
      apply Dispatch.mapM_eq_pure_map
      intro number member
      have below := (toNat_of_mem_range sized member).2
      have inside : number.toUInt64 < total := by rwa [UInt64.lt_iff_toNat_lt, ← sized]
      rw [stepwiseCoordinate?_eq, coordinate?_eq computed, if_pos inside, Checked.lift_ok]
      rfl
    rw [stepwiseInvocations, computed, invocations_eq computed, Checked.lift_ok,
      Checked.ok_bind, found, Checked.ok_bind, List.filterMap_map, Checked.lift_ok]
    exact congrArg Except.ok (congrFun List.filterMap_eq_map _)

/-- The total of a grid, the look-up of a point and the list of all points are refused just when the
grid has 2^64 points or more, and the number of a point, which may lie outside the grid, just when
it is 2^64 or more. All other answers are those of whole numbers. Nothing changes if the steps of
the look-up are checked one by one, so none of them overflows and none divides by zero. -/
theorem refused_iff_no_word (grid : Grid) :
    Checked.IsExact grid.total grid.size (fun total => total.toNat = grid.size) ∧
      (∀ index, Checked.IsExact (grid.coordinate? index) grid.size fun found =>
        found.map Coordinate.values =
          if index.toNat < grid.size then some (grid.place index.toNat) else none) ∧
      Checked.IsExact grid.invocations grid.size
        (fun points => points.map Coordinate.values = (List.range grid.size).map grid.place) ∧
      (∀ point, Checked.IsExact (grid.index point) (grid.number point)
        fun index => index.toNat = grid.number point) ∧
      (∀ index, grid.stepwiseCoordinate? index = Checked.lift (grid.coordinate? index) ∧
        grid.stepwiseCoordinate? index ≠ .error .zeroDivisor) ∧
      grid.stepwiseInvocations = Checked.lift grid.invocations := by
  refine ⟨isExact_total grid, isExact_coordinate? grid, isExact_invocations grid,
    isExact_index grid, ?_, stepwiseInvocations_eq grid⟩
  intro index
  have same := grid.stepwiseCoordinate?_eq index
  exact ⟨same, same ▸ Checked.lift_ne_zeroDivisor _⟩

end Grid
end IspcShader
