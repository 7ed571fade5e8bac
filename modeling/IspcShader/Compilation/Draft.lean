import IspcShader.EntryPoint.Basic
import IspcShader.Marker
import IspcShader.Struct

/-!
What becomes of a single source line. A line is drafted, passed through the rules one after the
other, and handed out when no rule is left. The rules look at the line as it was read; the draft
holds the text that takes its place. Each rule says what follows from a search of the line, whose
result is its last argument.
-/
namespace IspcShader.Compilation

structure State where
  mode : BlockMode := .outside
  resources : List Resource := []
  entry : Option EntryPoint := none
  deriving DecidableEq, Repr

/-- A line being compiled: the state so far, the text in place of the line, the accessor definitions
to be put in front of it, and the events. -/
structure Draft where
  state : State
  line : Text
  accessors : List Text := []
  events : List Event := []
  deriving DecidableEq, Repr

namespace Draft

def warn (draft : Draft) (source : NumberedLine) (fault : Declaration.Malformed) : Draft :=
  { draft with events := draft.events ++ [.malformed fault source.number source.file] }

def expand (draft : Draft) (expansion : Expansion) : Draft :=
  { draft with
    accessors := draft.accessors ++ [expansion.accessor]
    line := expansion.declaration }

/-- Opens a block on `STRUCT`. Semantics count only in the structs of the entry point's
interface. -/
def openStruct (job : Job) (source : NumberedLine) (draft : Draft)
    (read : Option (Except Declaration.Malformed Declaration.Struct) :=
      Declaration.Struct.read source.text) : Draft :=
  match read with
  | none => draft
  | some (.error fault) => draft.warn source fault
  | some (.ok declaration) =>
    { draft with
      state := { draft.state with
        mode := .inside declaration.name (!job.shader.isInterface declaration.name) }
      line := declaration.openingLine source.text }

/-- Turns `DATA` into a member, or into nothing at all. -/
def member? (job : Job) (source : NumberedLine) (draft : Draft)
    (read : Option (Except Declaration.Malformed Declaration.Field) :=
      Declaration.Field.read source.text) : Option Draft :=
  match read with
  | none => some draft
  | some (.error fault) => some (draft.warn source fault)
  | some (.ok field) =>
    (field.memberLine? (Text.leadingBlanks source.text) draft.state.mode.ignoresSemantics
      job.binary.capabilities).map fun line => { draft with line }

def declareResource (job : Job) (source : NumberedLine) (draft : Draft)
    (read : Option (Except Declaration.Malformed Declaration.Resource) :=
      Declaration.Resource.read source.text) : Draft :=
  match read with
  | none => draft
  | some (.error fault) => draft.warn source fault
  | some (.ok declaration) =>
    let resource := Resource.ofDeclaration declaration
    { draft.expand (.ofResource resource source.text job.options.policy) with
      state := { draft.state with resources := draft.state.resources ++ [resource] }
      events := draft.events ++
        [.resourceFound source.number resource.name resource.declaredType resource.isReadonly] }

def declareShared (source : NumberedLine) (draft : Draft)
    (read : Option (Except Declaration.Malformed Declaration.Shared) :=
      Declaration.Shared.read source.text) : Draft :=
  match read with
  | none => draft
  | some (.error fault) => draft.warn source fault
  | some (.ok declaration) => draft.expand (.ofShared declaration)

/-- The text of a return statement. Where a value is returned, the parentheses around it stay. -/
def returnLine (shader : Shader) (line : Text) : Text :=
  match shader.returnType with
  | some _ => Text.replaceFirst "RETURN" "return " line
  | none => Text.replaceFirst "RETURN()" "return" line

/-- The first entry point is lowered, a later one is left as it is, and a line without one may be a
return statement. -/
def enter (job : Job) (source : NumberedLine) (draft : Draft)
    (lower : EntryMarker → List Resource → EntryPoint × List Event := fun marker resources =>
      EntryPoint.ofMarker marker source.number job.shader resources job.mangle?
        job.options.policy) : Draft :=
  match EntryMarker.find? source.text with
  | none =>
    if Marker.isReturn source.text then
      { draft with line := returnLine job.shader source.text }
    else draft
  | some marker =>
    match draft.state.entry with
    | some _ =>
      { draft with events := draft.events ++ [.secondEntry marker.name source.number] }
    | none =>
      let (entry, events) := lower marker draft.state.resources
      { draft with
        state := { draft.state with entry := some entry }
        line := entry.line
        events := draft.events ++ events }

def hideHint (source : NumberedLine) (draft : Draft) : Draft :=
  if Marker.hasOutputHint source.text then { draft with line := "//" ++ draft.line } else draft

end Draft
end IspcShader.Compilation
