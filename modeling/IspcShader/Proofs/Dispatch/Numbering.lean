import IspcShader.Dispatch.Grid

/-!
The numbering of a grid's points. It is done in 64-bit words, on extents of 32 bits; as long as the
number of points fits into a word, so does every value on the way, and the numbers are those that
the formulas give in `Nat`.
-/
namespace IspcShader

namespace Checked

theorem bind_eq_ok_iff {α β : Type} {first : Except Overflow α} {next : α → Except Overflow β}
    {result : β} :
    first >>= next = .ok result ↔ ∃ value, first = .ok value ∧ next value = .ok result := by
  cases first with
  | error fault =>
    constructor
    · intro h
      cases h
    · rintro ⟨value, h, -⟩
      cases h
  | ok value =>
    constructor
    · intro h
      exact ⟨value, rfl, h⟩
    · rintro ⟨other, h, result⟩
      cases h
      exact result

/-- A product is computed just when some word has its value. -/
theorem mul_eq_ok_iff_toNat {a b c : UInt64} : mul a b = .ok c ↔ a.toNat * b.toNat = c.toNat := by
  rw [mul_eq_ok_iff]
  constructor
  · rintro ⟨fits, rfl⟩
    rw [UInt64.toNat_mul]
    exact (Nat.mod_eq_of_lt fits).symm
  · intro same
    have fits : a.toNat * b.toNat < UInt64.size := same ▸ c.toNat_lt
    refine ⟨fits, UInt64.toNat_inj.mp ?_⟩
    rw [UInt64.toNat_mul, ← same]
    exact Nat.mod_eq_of_lt fits

theorem add_eq_ok_iff_toNat {a b c : UInt64} : add a b = .ok c ↔ a.toNat + b.toNat = c.toNat := by
  rw [add_eq_ok_iff]
  constructor
  · rintro ⟨fits, rfl⟩
    rw [UInt64.toNat_add]
    exact (Nat.mod_eq_of_lt fits).symm
  · intro same
    have fits : a.toNat + b.toNat < UInt64.size := same ▸ c.toNat_lt
    refine ⟨fits, UInt64.toNat_inj.mp ?_⟩
    rw [UInt64.toNat_add, ← same]
    exact Nat.mod_eq_of_lt fits

end Checked

/-- The order of the dispatch: by `z`, then by `y`, then by `x`. -/
def Coordinate.Before (p q : Coordinate) : Prop :=
  p.z < q.z ∨ p.z = q.z ∧ (p.y < q.y ∨ p.y = q.y ∧ p.x < q.x)

theorem Coordinate.before_or_eq_or_before (p q : Coordinate) : p.Before q ∨ p = q ∨ q.Before p := by
  obtain ⟨x, y, z⟩ := p
  obtain ⟨x', y', z'⟩ := q
  simp only [Before, Coordinate.mk.injEq, UInt32.lt_iff_toNat_lt, ← UInt32.toNat_inj]
  omega

namespace Grid

variable {grid : Grid} {index total : UInt64} {point : Coordinate}

def size (grid : Grid) : Nat :=
  grid.x.toNat * grid.y.toNat * grid.z.toNat

/-- The number of a point, without a limit. -/
def number (grid : Grid) (point : Coordinate) : Nat :=
  point.x.toNat + grid.x.toNat * (point.y.toNat + grid.y.toNat * point.z.toNat)

structure Holds (grid : Grid) (point : Coordinate) : Prop where
  x : point.x < grid.x
  y : point.y < grid.y
  z : point.z < grid.z

theorem layer_lt (grid : Grid) : grid.x.toNat * grid.y.toNat < UInt64.size :=
  Nat.mul_lt_mul'' grid.x.toNat_lt grid.y.toNat_lt

/-- The total is computed just when a word has its value: the layer in between always fits. -/
theorem total_eq_ok_iff : grid.total = .ok total ↔ grid.size = total.toNat := by
  simp only [Grid.total, Checked.bind_eq_ok_iff, Checked.mul_eq_ok_iff_toNat, UInt32.toNat_toUInt64]
  constructor
  · rintro ⟨layer, first, second⟩
    rw [size, first, second]
  · intro same
    refine ⟨.ofNat (grid.x.toNat * grid.y.toNat), ?_, ?_⟩
    · exact (UInt64.toNat_ofNat_of_lt' grid.layer_lt).symm
    · rw [UInt64.toNat_ofNat_of_lt' grid.layer_lt]
      exact same

/-- The number of a point is computed just when a word has its value. Only the last two steps can go
beyond a word, and each of them gives a part of the number. -/
theorem index_eq_ok_iff : grid.index point = .ok index ↔ grid.number point = index.toNat := by
  simp only [Grid.index, Checked.bind_eq_ok_iff, Checked.mul_eq_ok_iff_toNat,
    Checked.add_eq_ok_iff_toNat, UInt32.toNat_toUInt64]
  constructor
  · rintro ⟨layers, first, rows, second, cells, third, fourth⟩
    rw [number, first, second, third, fourth]
  · intro same
    have layers : grid.y.toNat * point.z.toNat < UInt64.size :=
      Nat.mul_lt_mul'' grid.y.toNat_lt point.z.toNat_lt
    have rows : point.y.toNat + grid.y.toNat * point.z.toNat < UInt64.size := by
      have most : grid.y.toNat * point.z.toNat ≤ (2 ^ 32 - 1) * (2 ^ 32 - 1) :=
        Nat.mul_le_mul (Nat.le_sub_one_of_lt grid.y.toNat_lt)
          (Nat.le_sub_one_of_lt point.z.toNat_lt)
      have row := point.y.toNat_lt
      unfold UInt64.size
      omega
    have cells : grid.x.toNat * (point.y.toNat + grid.y.toNat * point.z.toNat) < UInt64.size := by
      have whole := index.toNat_lt
      rw [← same, number] at whole
      unfold UInt64.size
      omega
    refine ⟨.ofNat (grid.y.toNat * point.z.toNat), (UInt64.toNat_ofNat_of_lt' layers).symm,
      .ofNat (point.y.toNat + grid.y.toNat * point.z.toNat), ?_,
      .ofNat (grid.x.toNat * (point.y.toNat + grid.y.toNat * point.z.toNat)), ?_, ?_⟩
    · rw [UInt64.toNat_ofNat_of_lt' layers, UInt64.toNat_ofNat_of_lt' rows]
    · rw [UInt64.toNat_ofNat_of_lt' rows, UInt64.toNat_ofNat_of_lt' cells]
    · rw [UInt64.toNat_ofNat_of_lt' cells]
      exact same

theorem coordinate?_eq (computed : grid.total = .ok total) (index : UInt64) :
    grid.coordinate? index = .ok (if index < total then some (grid.pointAt index) else none) := by
  rw [coordinate?, computed]
  rfl

theorem invocations_eq (computed : grid.total = .ok total) :
    grid.invocations = .ok ((List.range total.toNat).map fun index =>
      grid.pointAt index.toUInt64) := by
  have all : grid.firstInvocations total.toNat =
      .ok ((List.range (min total.toNat total.toNat)).map fun index =>
        grid.pointAt index.toUInt64) := by
    rw [firstInvocations, computed]
    rfl
  rw [Nat.min_self] at all
  rw [invocations, computed]
  exact all

section Below

variable (below : index.toNat < grid.size)

include below

/-- No extent is zero where there is a number at all, so nothing is divided by zero. -/
theorem extents_pos : 0 < grid.x.toNat ∧ 0 < grid.y.toNat ∧ 0 < grid.z.toNat := by
  have positive : 0 < grid.x.toNat * grid.y.toNat * grid.z.toNat := Nat.zero_lt_of_lt below
  exact ⟨Nat.pos_of_mul_pos_right (Nat.pos_of_mul_pos_right positive),
    Nat.pos_of_mul_pos_left (Nat.pos_of_mul_pos_right positive), Nat.pos_of_mul_pos_left positive⟩

theorem layer_index_lt : index.toNat / (grid.x.toNat * grid.y.toNat) < grid.z.toNat := by
  have positive := extents_pos below
  rw [Nat.div_lt_iff_lt_mul (Nat.mul_pos positive.1 positive.2.1), Nat.mul_comm]
  exact below

theorem toNat_pointAt_x : (grid.pointAt index).x.toNat = index.toNat % grid.x.toNat := by
  have narrow := Nat.lt_trans (Nat.mod_lt index.toNat (extents_pos below).1) grid.x.toNat_lt
  simp only [pointAt, UInt64.toNat_toUInt32, UInt64.toNat_mod, UInt32.toNat_toUInt64]
  exact Nat.mod_eq_of_lt narrow

theorem toNat_pointAt_y :
    (grid.pointAt index).y.toNat = index.toNat / grid.x.toNat % grid.y.toNat := by
  have narrow := Nat.lt_trans (Nat.mod_lt (index.toNat / grid.x.toNat) (extents_pos below).2.1)
    grid.y.toNat_lt
  simp only [pointAt, UInt64.toNat_toUInt32, UInt64.toNat_mod, UInt64.toNat_div,
    UInt32.toNat_toUInt64]
  exact Nat.mod_eq_of_lt narrow

theorem toNat_pointAt_z :
    (grid.pointAt index).z.toNat = index.toNat / (grid.x.toNat * grid.y.toNat) := by
  have narrow := Nat.lt_trans (layer_index_lt below) grid.z.toNat_lt
  have layer : grid.x.toNat * grid.y.toNat % 2 ^ 64 = grid.x.toNat * grid.y.toNat :=
    Nat.mod_eq_of_lt grid.layer_lt
  simp only [pointAt, UInt64.toNat_toUInt32, UInt64.toNat_div, UInt64.toNat_mul,
    UInt32.toNat_toUInt64, layer]
  exact Nat.mod_eq_of_lt narrow

theorem holds_pointAt : grid.Holds (grid.pointAt index) := by
  have positive := extents_pos below
  constructor
  · rw [UInt32.lt_iff_toNat_lt, toNat_pointAt_x below]
    exact Nat.mod_lt _ positive.1
  · rw [UInt32.lt_iff_toNat_lt, toNat_pointAt_y below]
    exact Nat.mod_lt _ positive.2.1
  · rw [UInt32.lt_iff_toNat_lt, toNat_pointAt_z below]
    exact layer_index_lt below

theorem number_pointAt : grid.number (grid.pointAt index) = index.toNat := by
  rw [number, toNat_pointAt_x below, toNat_pointAt_y below, toNat_pointAt_z below,
    ← Nat.div_div_eq_div_mul, Nat.mod_add_div, Nat.mod_add_div]

end Below

section Held

variable (held : grid.Holds point)

include held

theorem number_lt_size : grid.number point < grid.size := by
  obtain ⟨hx, hy, hz⟩ := held
  rw [UInt32.lt_iff_toNat_lt] at hx hy hz
  have rows : point.y.toNat + grid.y.toNat * point.z.toNat < grid.y.toNat * grid.z.toNat := by
    have layers := Nat.mul_le_mul_left grid.y.toNat (Nat.succ_le_of_lt hz)
    rw [Nat.mul_succ] at layers
    omega
  have cells := Nat.mul_le_mul_left grid.x.toNat (Nat.succ_le_of_lt rows)
  rw [Nat.mul_succ, ← Nat.mul_assoc] at cells
  unfold number size
  omega

theorem pointAt_of_number (numbered : grid.number point = index.toNat) :
    grid.pointAt index = point := by
  have below : index.toNat < grid.size := numbered ▸ number_lt_size held
  have positive := extents_pos below
  obtain ⟨hx, hy, -⟩ := held
  rw [UInt32.lt_iff_toNat_lt] at hx hy
  have row : index.toNat / grid.x.toNat = point.y.toNat + grid.y.toNat * point.z.toNat := by
    rw [← numbered, number, Nat.add_mul_div_left _ _ positive.1, Nat.div_eq_of_lt hx, Nat.zero_add]
  have x : (grid.pointAt index).x = point.x := by
    rw [← UInt32.toNat_inj, toNat_pointAt_x below, ← numbered, number, Nat.add_mul_mod_self_left,
      Nat.mod_eq_of_lt hx]
  have y : (grid.pointAt index).y = point.y := by
    rw [← UInt32.toNat_inj, toNat_pointAt_y below, row, Nat.add_mul_mod_self_left,
      Nat.mod_eq_of_lt hy]
  have z : (grid.pointAt index).z = point.z := by
    rw [← UInt32.toNat_inj, toNat_pointAt_z below, ← Nat.div_div_eq_div_mul, row,
      Nat.add_mul_div_left _ _ positive.2.1, Nat.div_eq_of_lt hy, Nat.zero_add]
  cases point
  simp only at x y z
  rw [← x, ← y, ← z]

/-- An earlier point has a smaller number: what is missing to the end of a row or a layer is less
than the row or the layer. -/
theorem number_lt_of_before {later : Coordinate} (before : point.Before later) :
    grid.number point < grid.number later := by
  obtain ⟨hx, hy, -⟩ := held
  simp only [Coordinate.Before, UInt32.lt_iff_toNat_lt, ← UInt32.toNat_inj] at hx hy before
  have inRow {row row' : Nat} (h : row < row') :
      point.x.toNat + grid.x.toNat * row < later.x.toNat + grid.x.toNat * row' := by
    have rows := Nat.mul_le_mul_left grid.x.toNat (Nat.succ_le_of_lt h)
    rw [Nat.mul_succ] at rows
    omega
  unfold number
  rcases before with z | ⟨z, y | ⟨y, x⟩⟩
  · apply inRow
    have layers := Nat.mul_le_mul_left grid.y.toNat (Nat.succ_le_of_lt z)
    rw [Nat.mul_succ] at layers
    omega
  · apply inRow
    rw [z]
    omega
  · rw [z, y]
    omega

end Held

theorem before_of_number_lt {p q : Coordinate} (hq : grid.Holds q)
    (h : grid.number p < grid.number q) : p.Before q := by
  rcases Coordinate.before_or_eq_or_before p q with before | same | after
  · exact before
  · rw [same] at h
    exact absurd h (Nat.lt_irrefl _)
  · exact absurd (number_lt_of_before hq after) (Nat.lt_asymm h)

section Points

variable (sized : grid.size = total.toNat)

include sized

theorem toNat_of_mem_range {n : Nat} (member : n ∈ List.range total.toNat) :
    n.toUInt64.toNat = n ∧ n.toUInt64.toNat < grid.size := by
  have lt := List.mem_range.mp member
  have word : n.toUInt64.toNat = n := UInt64.toNat_ofNat_of_lt' (Nat.lt_trans lt total.toNat_lt)
  rw [word, sized]
  exact ⟨rfl, lt⟩

theorem mem_points_iff :
    (point ∈ (List.range total.toNat).map fun n => grid.pointAt n.toUInt64) ↔ grid.Holds point := by
  rw [List.mem_map]
  constructor
  · rintro ⟨n, member, rfl⟩
    exact holds_pointAt (toNat_of_mem_range sized member).2
  · intro held
    have lt : grid.number point < total.toNat := sized ▸ number_lt_size held
    have member := List.mem_range.mpr lt
    exact ⟨grid.number point, member,
      pointAt_of_number held (toNat_of_mem_range sized member).1.symm⟩

theorem pairwise_points :
    ((List.range total.toNat).map fun n => grid.pointAt n.toUInt64).Pairwise Coordinate.Before := by
  rw [List.pairwise_map]
  refine List.Pairwise.imp_of_mem ?_ List.pairwise_lt_range
  intro n m hn hm lt
  obtain ⟨wordN, belowN⟩ := toNat_of_mem_range sized hn
  obtain ⟨wordM, belowM⟩ := toNat_of_mem_range sized hm
  apply before_of_number_lt (holds_pointAt belowM)
  rw [number_pointAt belowN, number_pointAt belowM, wordN, wordM]
  exact lt

end Points

/-- The numbers below `total` and the points of the grid belong together one to one, and `points`
lists the points in the order of their numbers. -/
structure IsNumbered (grid : Grid) (total : UInt64) (points : List Coordinate) : Prop where
  /-- The numbers that stand for a point are those below the total. -/
  coordinate : ∀ index, ∃ found, grid.coordinate? index = .ok found ∧
    (found.isSome = true ↔ index < total)
  /-- Such a point lies in the grid, its coordinates are the 64-bit values in full, and its number
  is the one it was found by. -/
  point : ∀ index point, grid.coordinate? index = .ok (some point) → grid.Holds point ∧
    point.x.toUInt64 = index % grid.x.toUInt64 ∧
    point.y.toUInt64 = index / grid.x.toUInt64 % grid.y.toUInt64 ∧
    point.z.toUInt64 = index / (grid.x.toUInt64 * grid.y.toUInt64) ∧ grid.index point = .ok index
  /-- Every point of the grid has a number below the total and is found by it. -/
  index : ∀ point, grid.Holds point → ∃ index, grid.index point = .ok index ∧ index < total ∧
    grid.coordinate? index = .ok (some point)
  sorted : points.Pairwise Coordinate.Before
  nodup : points.Nodup
  mem_iff : ∀ point, point ∈ points ↔ grid.Holds point
  empty : grid.x = 0 ∨ grid.y = 0 ∨ grid.z = 0 → points = []

theorem coordinate?_eq_some_iff (computed : grid.total = .ok total) :
    grid.coordinate? index = .ok (some point) ↔ index < total ∧ grid.pointAt index = point := by
  rw [coordinate?_eq computed]
  by_cases lt : index < total
  · simp [lt]
  · simp [lt]

theorem toUInt64_pointAt (below : index.toNat < grid.size) :
    (grid.pointAt index).x.toUInt64 = index % grid.x.toUInt64 ∧
      (grid.pointAt index).y.toUInt64 = index / grid.x.toUInt64 % grid.y.toUInt64 ∧
      (grid.pointAt index).z.toUInt64 = index / (grid.x.toUInt64 * grid.y.toUInt64) := by
  have layer : grid.x.toNat * grid.y.toNat % 2 ^ 64 = grid.x.toNat * grid.y.toNat :=
    Nat.mod_eq_of_lt grid.layer_lt
  simp only [← UInt64.toNat_inj, UInt32.toNat_toUInt64, UInt64.toNat_mod, UInt64.toNat_div,
    UInt64.toNat_mul, layer]
  exact ⟨toNat_pointAt_x below, toNat_pointAt_y below, toNat_pointAt_z below⟩

theorem nodup_of_pairwise_before {points : List Coordinate}
    (sorted : points.Pairwise Coordinate.Before) : points.Nodup := by
  apply sorted.imp
  rintro p q before rfl
  simp [Coordinate.Before] at before

/-- A grid with fewer than 2^64 points is numbered without overflow. -/
theorem exists_isNumbered (fits : grid.size < UInt64.size) :
    ∃ total points, grid.total = .ok total ∧ total.toNat = grid.size ∧
      grid.invocations = .ok points ∧ grid.IsNumbered total points := by
  have word : (UInt64.ofNat grid.size).toNat = grid.size := UInt64.toNat_ofNat_of_lt' fits
  generalize UInt64.ofNat grid.size = total at word
  have sized := word.symm
  have computed := total_eq_ok_iff.mpr sized
  refine ⟨total, _, computed, word, invocations_eq computed, ?_⟩
  constructor
  · intro index
    refine ⟨_, coordinate?_eq computed index, ?_⟩
    by_cases lt : index < total
    · simp [lt]
    · simp [lt]
  · intro index point found
    obtain ⟨lt, rfl⟩ := (coordinate?_eq_some_iff computed).mp found
    have below : index.toNat < grid.size := sized ▸ UInt64.lt_iff_toNat_lt.mp lt
    obtain ⟨x, y, z⟩ := toUInt64_pointAt below
    exact ⟨holds_pointAt below, x, y, z, index_eq_ok_iff.mpr (number_pointAt below)⟩
  · intro point held
    have lt := number_lt_size held
    have numbered : grid.number point = (UInt64.ofNat (grid.number point)).toNat :=
      (UInt64.toNat_ofNat_of_lt' (Nat.lt_trans lt fits)).symm
    have inside : UInt64.ofNat (grid.number point) < total := by
      rw [UInt64.lt_iff_toNat_lt, ← numbered, word]
      exact lt
    refine ⟨.ofNat (grid.number point), index_eq_ok_iff.mpr numbered, inside, ?_⟩
    exact (coordinate?_eq_some_iff computed).mpr ⟨inside, pointAt_of_number held numbered⟩
  · exact pairwise_points sized
  · exact nodup_of_pairwise_before (pairwise_points sized)
  · intro point
    exact mem_points_iff sized
  · intro zero
    have none : grid.size = 0 := by
      rcases zero with zero | zero | zero <;> simp [size, zero]
    rw [word, none]
    rfl

theorem exists_isNumbered_cube :
    let grid : Grid := ⟨2642245, 2642245, 2642245⟩
    grid.size < UInt64.size ∧ ∃ total points, grid.total = .ok total ∧ total.toNat = grid.size ∧
      grid.invocations = .ok points ∧ grid.IsNumbered total points := by
  intro grid
  have fits : grid.size < UInt64.size := by decide
  exact ⟨fits, exists_isNumbered fits⟩

end Grid
end IspcShader
