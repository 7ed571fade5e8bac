import IspcShader.Compilation.Header
import IspcShader.File.Fault

/-!
Files in memory, with the working directory of a program. Paths are followed component by component,
so that `sub/../file` needs a directory `sub`.
-/
namespace IspcShader

inductive Content where
  | text (text : Text)
  | binary
  deriving DecidableEq, Repr

def Content.ofBytes (bytes : List UInt8) : Content :=
  match Text.ofUtf8? bytes with
  | some decoded => .text decoded
  | none => .binary

inductive Node where
  | directory
  | file (content : Content)
  deriving DecidableEq, Repr

abbrev Location := List Path.Name

/-- The nodes of a file system, the latest first. The root and the directories above the working
directory are always there. -/
structure Store where
  workDir : Location := [Text.utf8 "tmp", Text.utf8 "work"]
  nodes : List (Location × Node) := []
  deriving DecidableEq, Repr

namespace Store

def node? (store : Store) (place : Location) : Option Node :=
  if place.isPrefixOf store.workDir then some .directory
  else (store.nodes.find? fun entry => decide (entry.1 = place)).map (·.2)

def put (store : Store) (place : Location) (node : Node) : Store :=
  { store with nodes := (place, node) :: store.nodes }

def startOf (store : Store) (path : Path) : Location :=
  if path.isAbsolute then [] else store.workDir

/-- Refuses what cannot be a path, before any component is looked at. -/
def checkPath (path : Path) : Except FileFault Unit :=
  if path.hasNul then .error .nulInPath
  else if path.bytes.isEmpty then .error .notFound
  else if path.isTooLong then .error .nameTooLong
  else .ok ()

/-- Follows components from a place. Each needs a directory to start from. -/
def follow (store : Store) (place : Location) : List Path.Name → Except FileFault Location
  | [] => .ok place
  | component :: rest =>
    if store.node? place = some .directory then
      if Path.isHere component then store.follow place rest
      else if Path.isUp component then store.follow place.dropLast rest
      else if Path.isLongName component then .error .nameTooLong
      else
        let next := place ++ [component]
        if (store.node? next).isSome then store.follow next rest else .error .notFound
    else .error .notDirectory

def read (store : Store) (path : Path) : Except FileFault Text := do
  checkPath path
  let place ← store.follow (store.startOf path) path.components
  match store.node? place with
  | none => throw .notFound
  | some .directory => throw .isDirectory
  | some (.file .binary) => throw .notText
  | some (.file (.text text)) => return text

/-- The components in front of the last one that is not empty, that one, and whether a slash follows
it. -/
def lastComponent? (components : List Path.Name) : Option (List Path.Name × Path.Name × Bool) :=
  match components.reverse.dropWhile (·.isEmpty) with
  | [] => none
  | last :: front => some (front.reverse, last, (components.getLast?.getD []).isEmpty)

/-- Writes a file, which is made if its directory exists. Nothing is written over a directory, and a
path with a slash at its end is taken for one, however long its last name is. -/
def write (store : Store) (path : Path) (text : Text) : Except FileFault Store := do
  checkPath path
  match lastComponent? path.components with
  | none => throw .isDirectory
  | some (front, last, slashed) =>
    let parent ← store.follow (store.startOf path) front
    if store.node? parent ≠ some .directory then throw .notDirectory
    if slashed || Path.isHere last || Path.isUp last then throw .isDirectory
    if Path.isLongName last then throw .nameTooLong
    let place := parent ++ [last]
    if store.node? place = some .directory then throw .isDirectory
    return store.put place (.file (.text text))

def ensureDirectory (store : Store) (place : Location) : Store :=
  if (store.node? place).isSome then store else store.put place .directory

/-- Follows components from a place and makes the directories that are missing on the way, also
those that the path leaves again. -/
def makeDirectories (store : Store) (place : Location) : List Path.Name → Store × Location
  | [] => (store, place)
  | component :: rest =>
    if Path.isHere component then store.makeDirectories place rest
    else if Path.isUp component then store.makeDirectories place.dropLast rest
    else
      let next := place ++ [component]
      (store.ensureDirectory next).makeDirectories next rest

/-- Makes a node and the directories on the way to it. A file takes the place of one that is
there. -/
def install (store : Store) (path : Path) : Node → Store
  | .directory => (store.makeDirectories (store.startOf path) path.components).1
  | .file content =>
    match lastComponent? path.components with
    | none => store
    | some (front, last, _) =>
      let (store, parent) := store.makeDirectories (store.startOf path) front
      store.put (parent ++ [last]) (.file content)

/-- Access to a store that programs change as they go. The bundled header is no part of it and can
always be read. -/
def access : FileAccess (StateM Store) where
  read path := do return (← get).read path
  write path text := do
    match (← get).write path text with
    | .ok store => set store; return .ok ()
    | .error fault => return .error fault
  bundledPath := "includes/ispc.h"
  readBundled := return .ok Header.bundled.text

end Store
end IspcShader
