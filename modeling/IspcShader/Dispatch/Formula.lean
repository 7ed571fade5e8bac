import IspcShader.Dispatch.Grid

/-!
The coordinate arithmetic of the dispatch loop as expressions, with their ISPC text and their value
in 32-bit words. The formulas are those of `Grid.pointAt`, computed with half the width.
-/
namespace IspcShader.Dispatch

inductive Quantity where
  | invocation
  | extentX
  | extentY
  | extentZ
  deriving DecidableEq, Repr

def Quantity.name : Quantity → Text
  | invocation => "invocation"
  | extentX => "dispatch_x"
  | extentY => "dispatch_y"
  | extentZ => "dispatch_z"

inductive Operator where
  | times
  | quotient
  | remainder
  deriving DecidableEq, Repr

def Operator.symbol : Operator → Text
  | times => "*"
  | quotient => "/"
  | remainder => "%"

/-- The operation on 32-bit words: products wrap, and there is no division by zero. -/
def Operator.apply? : Operator → UInt32 → UInt32 → Option UInt32
  | times, a, b => some (a * b)
  | quotient, a, b => if b = 0 then none else some (a / b)
  | remainder, a, b => if b = 0 then none else some (a % b)

inductive Formula where
  | quantity (name : Quantity)
  | binary (operator : Operator) (left right : Formula)
  deriving DecidableEq, Repr

namespace Formula

/-- An operand in parentheses, unless it is a single name or continues a chain of one operator on
its left side. -/
def operand (chained : Option Operator) : Formula → Text → Text
  | quantity _, text => text
  | binary operator _ _, text => if chained = some operator then text else "(" ++ text ++ ")"

def render : Formula → Text
  | quantity name => name.name
  | binary operator left right =>
    operand (some operator) left left.render ++ " " ++ operator.symbol ++ " " ++
      operand none right right.render

def eval? (value : Quantity → UInt32) : Formula → Option UInt32
  | quantity name => some (value name)
  | binary operator left right => do
    operator.apply? (← left.eval? value) (← right.eval? value)

end Formula

open Formula Quantity Operator

def totalFormula : Formula :=
  binary times (binary times (quantity extentX) (quantity extentY)) (quantity extentZ)

def xFormula : Formula :=
  binary remainder (quantity invocation) (quantity extentX)

def yFormula : Formula :=
  binary remainder (binary quotient (quantity invocation) (quantity extentX)) (quantity extentY)

def zFormula : Formula :=
  binary quotient (quantity invocation) (binary times (quantity extentX) (quantity extentY))

end IspcShader.Dispatch
