import IspcShader.Proofs.Dispatch.Numbering
import IspcShader.Proofs.Dispatch.Reading

/-!
The dispatch loop against the grid. The loop computes in 32-bit words that wrap, the grid in 64-bit
words that do not; they visit the same points in the same order just when the number of points fits
into 32 bits. The loop never divides by zero, since an extent or a layer that is zero leaves it
nothing to visit.
-/
namespace IspcShader.Dispatch

def valuation (grid : Grid) (invocation : UInt32) : Quantity → UInt32
  | .invocation => invocation
  | .extentX => grid.x
  | .extentY => grid.y
  | .extentZ => grid.z

namespace Loop

def pointAt? (loop : Loop) (grid : Grid) (invocation : UInt32) : Option Coordinate := do
  let value := valuation grid invocation
  return ⟨← loop.x.eval? value, ← loop.y.eval? value, ← loop.z.eval? value⟩

/-- The points of all invocations, from the first to the last one below the bound, unless a divisor
is zero on the way. No invocation has a part in the bound. -/
def visits? (loop : Loop) (grid : Grid) : Option (List Coordinate) := do
  let total ← loop.total.eval? (valuation grid 0)
  (List.range total.toNat).mapM fun index => loop.pointAt? grid index.toUInt32

end Loop

def narrowPoint (grid : Grid) (invocation : UInt32) : Coordinate where
  x := invocation % grid.x
  y := invocation / grid.x % grid.y
  z := invocation / (grid.x * grid.y)

def narrowTotal (grid : Grid) : UInt32 :=
  grid.x * grid.y * grid.z

theorem toNat_narrowTotal (grid : Grid) : (narrowTotal grid).toNat = grid.size % UInt32.size := by
  rw [narrowTotal, UInt32.toNat_mul, UInt32.toNat_mul, Nat.mod_mul_mod, Grid.size]

/-- Where the loop runs at all, none of its divisors is zero: each of them is a factor of the
bound. -/
theorem divisors_ne_zero {grid : Grid} (runs : narrowTotal grid ≠ 0) :
    grid.x ≠ 0 ∧ grid.y ≠ 0 ∧ grid.x * grid.y ≠ 0 := by
  refine ⟨?_, ?_, ?_⟩
  · intro zero
    simp [narrowTotal, zero] at runs
  · intro zero
    simp [narrowTotal, zero] at runs
  · intro zero
    simp [narrowTotal, zero] at runs

section Emitted

variable {grid : Grid}

theorem pointAt?_emitted (runs : narrowTotal grid ≠ 0) (invocation : UInt32) :
    Loop.pointAt? ⟨totalFormula, xFormula, yFormula, zFormula⟩ grid invocation =
      some (narrowPoint grid invocation) := by
  obtain ⟨x, y, layer⟩ := divisors_ne_zero runs
  simp [Loop.pointAt?, xFormula, yFormula, zFormula, Formula.eval?, Operator.apply?,
    valuation, narrowPoint, x, y, layer]

theorem mapM_eq_pure_map {m : Type → Type} [Monad m] [LawfulMonad m] {α β : Type}
    {f : α → m β} {g : α → β} {list : List α} (each : ∀ a ∈ list, f a = pure (g a)) :
    list.mapM f = pure (list.map g) := by
  induction list with
  | nil => rw [List.mapM_nil, List.map_nil]
  | cons a list ih =>
    rw [List.mapM_cons, each a List.mem_cons_self, pure_bind,
      ih fun b member => each b (List.mem_cons_of_mem a member), pure_bind, List.map_cons]

/-- The loop goes through all its invocations, whatever the extents. -/
theorem visits?_emitted (grid : Grid) :
    Loop.visits? ⟨totalFormula, xFormula, yFormula, zFormula⟩ grid =
      some ((List.range (narrowTotal grid).toNat).map fun index =>
        narrowPoint grid index.toUInt32) := by
  have total : totalFormula.eval? (valuation grid 0) = some (narrowTotal grid) := rfl
  have points : (List.range (narrowTotal grid).toNat).mapM (fun index =>
      Loop.pointAt? ⟨totalFormula, xFormula, yFormula, zFormula⟩ grid index.toUInt32) =
      some ((List.range (narrowTotal grid).toNat).map fun index =>
        narrowPoint grid index.toUInt32) := by
    apply mapM_eq_pure_map
    intro index member
    have below := List.mem_range.mp member
    apply pointAt?_emitted
    intro zero
    rw [zero] at below
    exact Nat.not_lt_zero index below
  rw [Loop.visits?, total]
  exact points

/-- A grid with fewer than 2^32 points has no layer beyond 32 bits, unless there are no layers. -/
theorem layer_lt_of_size_lt (small : grid.size < UInt32.size) (layers : 0 < grid.z.toNat) :
    grid.x.toNat * grid.y.toNat < UInt32.size :=
  Nat.lt_of_le_of_lt (Nat.le_mul_of_pos_right _ layers) small

theorem narrowPoint_eq_pointAt (small : grid.size < UInt32.size) {index : Nat}
    (below : index < grid.size) :
    narrowPoint grid index.toUInt32 = grid.pointAt index.toUInt64 := by
  have narrow : index.toUInt32.toNat = index := UInt32.toNat_ofNat_of_lt' (Nat.lt_trans below small)
  have wide : index.toUInt64.toNat = index :=
    UInt64.toNat_ofNat_of_lt' (Nat.lt_trans below (Nat.lt_trans small (by decide)))
  have inside : index.toUInt64.toNat < grid.size := by rwa [wide]
  have layer : grid.x.toNat * grid.y.toNat % 2 ^ 32 = grid.x.toNat * grid.y.toNat :=
    Nat.mod_eq_of_lt (layer_lt_of_size_lt small (Grid.extents_pos inside).2.2)
  have x := Grid.toNat_pointAt_x inside
  have y := Grid.toNat_pointAt_y inside
  have z := Grid.toNat_pointAt_z inside
  rw [wide] at x y z
  cases point : grid.pointAt index.toUInt64
  simp only [point] at x y z
  simp only [narrowPoint, Coordinate.mk.injEq, ← UInt32.toNat_inj, UInt32.toNat_mod,
    UInt32.toNat_div, UInt32.toNat_mul, narrow, layer]
  exact ⟨x.symm, y.symm, z.symm⟩

/-- Below 2^32 points nothing wraps and the lists agree; from there on the loop's list is too
short. -/
theorem invocations_eq_visited_iff (grid : Grid) :
    grid.invocations =
        .ok ((List.range (narrowTotal grid).toNat).map fun index =>
          narrowPoint grid index.toUInt32) ↔
      grid.size < UInt32.size := by
  constructor
  · intro same
    obtain ⟨total, computed, -⟩ := Checked.bind_eq_ok_iff.mp same
    have sized := Grid.total_eq_ok_iff.mp computed
    rw [Grid.invocations_eq computed] at same
    have lengths := congrArg List.length (Except.ok.inj same)
    simp only [List.length_map, List.length_range, toNat_narrowTotal, ← sized] at lengths
    rw [lengths]
    exact Nat.mod_lt _ (by decide)
  · intro small
    have fits : grid.size < UInt64.size := Nat.lt_trans small (by decide)
    have word : grid.size = (UInt64.ofNat grid.size).toNat := (UInt64.toNat_ofNat_of_lt' fits).symm
    rw [Grid.invocations_eq (Grid.total_eq_ok_iff.mpr word), ← word, toNat_narrowTotal,
      Nat.mod_eq_of_lt small]
    congr 1
    apply List.map_congr_left
    intro index member
    exact (narrowPoint_eq_pointAt small (List.mem_range.mp member)).symm

end Emitted

/-- The coordinate lines of every wrapper spell a loop that visits a list of points whatever the
extents, and so never divides by zero. This is the list of the grid's invocations exactly for the
grids with fewer than 2^32 points. -/
theorem loop_visits_invocations_iff :
    ∃ loop, Loop.read? coordinateLines = some loop ∧
      (∀ main resources args policy, coordinateLines <:+: wrapper main resources args policy) ∧
      ∀ grid, ∃ points, loop.visits? grid = some points ∧
        (grid.invocations = .ok points ↔
          grid.x.toNat * grid.y.toNat * grid.z.toNat < UInt32.size) := by
  refine ⟨_, read?_coordinateLines, ?_, ?_⟩
  · intro main resources args policy
    refine ⟨[signature main resources] ++ bindings resources policy,
      args.map argLine ++ [callLine main resources args, "    \x7d", "\x7d"], ?_⟩
    simp only [wrapper, List.append_assoc]
  · intro grid
    exact ⟨_, visits?_emitted grid, invocations_eq_visited_iff grid⟩

end IspcShader.Dispatch
