import IspcShader.Text.Utf8

/-!
Paths are bytes, which need not be text; their components are separated by slashes.
-/
namespace IspcShader

structure Path where
  bytes : List UInt8
  deriving DecidableEq, Repr

namespace Path

abbrev Name := List UInt8

def ofText (text : Text) : Path :=
  ⟨Text.utf8 text⟩

instance : Coe Text Path := ⟨ofText⟩

def display (path : Path) : Text :=
  Text.ofUtf8Lossy path.bytes

def slash : UInt8 := '/'.toUInt8

/-- All components, empty ones included: a slash at the end leaves an empty last component. -/
def components (path : Path) : List Name :=
  path.bytes.splitOn slash

def isAbsolute (path : Path) : Bool :=
  path.bytes.head? == some slash

def isHere (name : Name) : Bool :=
  name.isEmpty || decide (name = Text.utf8 ".")

def isUp (name : Name) : Bool :=
  decide (name = Text.utf8 "..")

/-- Whether a component is longer than the 255 bytes that a directory can hold. -/
def isLongName (name : Name) : Bool :=
  decide (255 < name.length)

/-- Whether a path is too long to be handed to the system: with its end mark it has to fit into 4096
bytes. -/
def isTooLong (path : Path) : Bool :=
  decide (4096 ≤ path.bytes.length)

def hasNul (path : Path) : Bool :=
  path.bytes.contains 0

/-- The name of the file that a path leads to. Slashes and single dots at the end do not count; a
path that ends in two dots, or has no component, names no file. -/
def fileName? (path : Path) : Option Name := do
  let last ← (path.components.filter (!isHere ·)).getLast?
  if isUp last then none else some last

end Path
end IspcShader
