import IspcShader.Text.Basic

/-!
The grid of a compute dispatch. Invocations are numbered with `x` running fastest and `z` slowest,
in 64-bit words; a value that does not fit is an error.
-/
namespace IspcShader

/-- An arithmetic step whose exact result does not fit into 64 bits. -/
inductive Overflow where
  | multiply
  | add
  deriving DecidableEq, Repr

def Overflow.message : Overflow → Text
  | multiply => "attempt to multiply with overflow"
  | add => "attempt to add with overflow"

namespace Checked

def mul (a b : UInt64) : Except Overflow UInt64 :=
  if a.toNat * b.toNat < UInt64.size then .ok (a * b) else .error .multiply

def add (a b : UInt64) : Except Overflow UInt64 :=
  if a.toNat + b.toNat < UInt64.size then .ok (a + b) else .error .add

theorem mul_eq_ok_iff {a b c : UInt64} :
    mul a b = .ok c ↔ a.toNat * b.toNat < UInt64.size ∧ a * b = c := by
  by_cases fits : a.toNat * b.toNat < UInt64.size <;> simp [mul, fits]

theorem add_eq_ok_iff {a b c : UInt64} :
    add a b = .ok c ↔ a.toNat + b.toNat < UInt64.size ∧ a + b = c := by
  by_cases fits : a.toNat + b.toNat < UInt64.size <;> simp [add, fits]

end Checked

structure Coordinate where
  x : UInt32
  y : UInt32
  z : UInt32
  deriving DecidableEq, Repr

structure Grid where
  x : UInt32
  y : UInt32
  z : UInt32
  deriving DecidableEq, Repr

namespace Grid

/-- The number of invocations, multiplied from left to right. -/
def total (grid : Grid) : Except Overflow UInt64 := do
  let layer ← Checked.mul grid.x.toUInt64 grid.y.toUInt64
  Checked.mul layer grid.z.toUInt64

/-- The point with a given number, for a number below the total. -/
def pointAt (grid : Grid) (index : UInt64) : Coordinate where
  x := (index % grid.x.toUInt64).toUInt32
  y := (index / grid.x.toUInt64 % grid.y.toUInt64).toUInt32
  z := (index / (grid.x.toUInt64 * grid.y.toUInt64)).toUInt32

/-- The point with a given number, if the grid has that many invocations. -/
def coordinate? (grid : Grid) (index : UInt64) : Except Overflow (Option Coordinate) := do
  let total ← grid.total
  return if index < total then some (grid.pointAt index) else none

/-- The number of a point, which may lie outside the grid. -/
def index (grid : Grid) (point : Coordinate) : Except Overflow UInt64 := do
  let layers ← Checked.mul grid.y.toUInt64 point.z.toUInt64
  let rows ← Checked.add point.y.toUInt64 layers
  let cells ← Checked.mul grid.x.toUInt64 rows
  Checked.add point.x.toUInt64 cells

/-- The first invocations in the order of their numbers, at most `limit` of them. -/
def firstInvocations (grid : Grid) (limit : Nat) : Except Overflow (List Coordinate) := do
  let total ← grid.total
  return (List.range (min limit total.toNat)).map fun index => grid.pointAt index.toUInt64

def invocations (grid : Grid) : Except Overflow (List Coordinate) := do
  let total ← grid.total
  grid.firstInvocations total.toNat

end Grid
end IspcShader
