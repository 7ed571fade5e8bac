import IspcShader.Proofs.Compilation.Diagnosis
import IspcShader.Proofs.Macro.Nesting

/-!
A declaring macro that was written out is read back. Its arguments may nest brackets of both kinds,
and anything may follow the closing parenthesis; what comes out is the declaration with just these
arguments, or a fault that counts them.
-/
namespace IspcShader

open Text

namespace Declaration

inductive Declared where
  | struct (declaration : Struct)
  | field (declaration : Field)
  | resource (declaration : Resource)
  | shared (declaration : Shared)
  deriving DecidableEq, Repr

def Declared.kind : Declared → Kind
  | struct _ => .struct
  | field _ => .field
  | resource _ => .resource
  | shared _ => .shared

/-- The declaration that is made of these arguments, each in its place. The third argument of a
member is its semantic, unless it is empty or spelled `none`. -/
inductive Spells : List Text → Declared → Prop
  | struct (name : Text) : Spells [name] (.struct ⟨name⟩)
  | field (type name : Text) : Spells [type, name] (.field ⟨type, name, none⟩)
  | unmarked (type name : Text) {written : Text}
      (absent : written = [] ∨ written.map Char.toLower = "none".toList) :
      Spells [type, name, written] (.field ⟨type, name, none⟩)
  | marked (type name : Text) {written : Text} (nonempty : written ≠ [])
      (real : written.map Char.toLower ≠ "none".toList) :
      Spells [type, name, written] (.field ⟨type, name, some written⟩)
  | resource (type name frequency register binding : Text) :
      Spells [type, name, frequency, register, binding]
        (.resource ⟨type, name, frequency, register, binding⟩)
  | shared (type name : Text) : Spells [type, name] (.shared ⟨type, name⟩)

theorem Field.semantic?_eq_none_iff {written : Text} :
    semantic? written = none ↔ written = [] ∨ written.map Char.toLower = "none".toList := by
  have lowered : "none".toList.map Char.toLower = "none".toList := by decide
  unfold semantic? sameIgnoringCase
  rw [lowered, ite_eq_left_iff, Bool.or_eq_true, List.isEmpty_iff, decide_eq_true_eq]
  constructor
  · intro gone
    apply Classical.not_not.mp
    intro other
    cases gone other
  · intro absent other
    exact absurd absent other

theorem Field.semantic?_eq_self {written : Text} (nonempty : written ≠ [])
    (real : written.map Char.toLower ≠ "none".toList) : semantic? written = some written := by
  have kept : semantic? written ≠ none := fun gone =>
    (semantic?_eq_none_iff.mp gone).elim nonempty real
  unfold semantic? at kept ⊢
  split at kept
  · exact absurd rfl kept
  · next other => rw [if_neg other]

theorem spells_semantic (type name written : Text) :
    Spells [type, name, written] (.field ⟨type, name, Field.semantic? written⟩) := by
  by_cases absent : written = [] ∨ written.map Char.toLower = "none".toList
  · rw [Field.semantic?_eq_none_iff.mpr absent]
    exact .unmarked type name absent
  · obtain ⟨nonempty, real⟩ := not_or.mp absent
    rw [Field.semantic?_eq_self nonempty real]
    exact .marked type name nonempty real

namespace Kind

def readAs : Kind → Text → Option (Except Malformed Declared)
  | struct, line => (Struct.read line).map (Except.map .struct)
  | field, line => (Field.read line).map (Except.map .field)
  | resource, line => (Resource.read line).map (Except.map .resource)
  | shared, line => (Shared.read line).map (Except.map .shared)

def build : Kind → List Text → Option Declared
  | struct, args => (Struct.ofArgs? args).map .struct
  | field, args => (Field.ofArgs? args).map .field
  | resource, args => (Resource.ofArgs? args).map .resource
  | shared, args => (Shared.ofArgs? args).map .shared

def printed (kind : Kind) (indent : Text) (args : List Text) (tail : Text) : Text :=
  indent ++ kind.keyword ++ "(" ++ List.intercalate ", " args ++ ")" ++ tail

theorem map_read {α β : Type} (kind : Kind) (wrap : α → β) (ofArgs? : List Text → Option α)
    (line : Text) : (kind.read ofArgs? line).map (Except.map wrap) =
    kind.read (fun args => (ofArgs? args).map wrap) line := by
  unfold read
  rw [Option.map_map]
  congr 1
  funext args
  cases built : ofArgs? args <;> simp [check, built, Except.map]

theorem readAs_eq (kind : Kind) (line : Text) : kind.readAs line = kind.read kind.build line := by
  cases kind <;> exact map_read _ _ _ line

theorem isSome_build (kind : Kind) (args : List Text) :
    (kind.build args).isSome = true ↔ args.length ∈ kind.counts := by
  rw [← takes_iff]
  cases kind <;> simp [build, takes]

/-- A kind builds just the declarations of its own that the arguments spell. -/
theorem build_eq_some_iff {kind : Kind} {args : List Text} {declared : Declared} :
    kind.build args = some declared ↔ declared.kind = kind ∧ Spells args declared := by
  constructor
  · intro built
    cases kind <;> obtain ⟨declaration, taken, rfl⟩ := Option.map_eq_some_iff.mp built
    case struct =>
      unfold Struct.ofArgs? at taken
      split at taken <;> cases taken
      exact ⟨rfl, .struct _⟩
    case field =>
      unfold Field.ofArgs? at taken
      split at taken <;> cases taken
      · exact ⟨rfl, .field _ _⟩
      · next type name written => exact ⟨rfl, spells_semantic type name written⟩
    case resource =>
      unfold Resource.ofArgs? at taken
      split at taken <;> cases taken
      exact ⟨rfl, .resource _ _ _ _ _⟩
    case shared =>
      unfold Shared.ofArgs? at taken
      split at taken <;> cases taken
      exact ⟨rfl, .shared _ _⟩
  · rintro ⟨rfl, spelled⟩
    cases spelled with
    | struct | field | resource | shared => rfl
    | unmarked type name absent =>
      exact congrArg (fun semantic => some (Declared.field ⟨type, name, semantic⟩))
        (Field.semantic?_eq_none_iff.mpr absent)
    | marked type name nonempty real =>
      exact congrArg (fun semantic => some (Declared.field ⟨type, name, semantic⟩))
        (Field.semantic?_eq_self nonempty real)

theorem args?_printed (kind : Kind) {indent : Text} {args : List Text} (tail : Text)
    (blank : ∀ c ∈ indent, isBlank c = true) (each : ∀ arg ∈ args, Macro.IsArgument arg)
    (several : args ≠ [[]]) : kind.args? (kind.printed indent args tail) = some args := by
  rw [args?_eq_some_iff]
  refine ⟨List.intercalate ", " args ++ ')' :: tail, List.intercalate ", " args, tail, ?_, ?_, ?_⟩
  · have shape : kind.printed indent args tail =
        indent ++ (kind.keyword ++ '(' :: (List.intercalate ", " args ++ ')' :: tail)) := by
      simp [printed]
    rw [shape, trimStart, List.dropWhile_append_of_pos blank]
    cases kind <;> rfl
  · exact Macro.readInside_intercalate (fun arg listed => (each arg listed).closed) tail
  · exact Macro.arguments_intercalate each several

end Kind

namespace Malformed

theorem getElem?_message (fault : Malformed) : fault.message[10]? = fault.kind.keyword.head? := by
  obtain ⟨kind, count⟩ := fault
  cases kind <;> rfl

/-- A message tells which macro is malformed, and how many arguments it has. -/
theorem message_injective : Function.Injective message := by
  rintro ⟨kind, count⟩ ⟨other, number⟩ same
  have initials : kind.keyword.head? = other.keyword.head? := by
    rw [← getElem?_message ⟨kind, count⟩, same, getElem?_message]
  obtain rfl := Kind.eq_of_head?_eq initials
  have digits : Text.ofNat count = Text.ofNat number := List.append_cancel_left same
  have counts := congrArg (Nat.ofDigitChars 10 · 0) digits
  simp only [Text.ofNat, Nat.ofDigitChars_toDigits (b := 10) (by decide) (by decide)] at counts
  rw [counts]

end Malformed

/-- A declaring macro that was written out is read back: with a number of arguments that it takes,
as the declaration that they spell, and otherwise as a fault that gives their number, in a message
that no other fault has. -/
theorem readAs_printed (kind : Kind) {indent : Text} {args : List Text} (tail : Text)
    (blank : ∀ c ∈ indent, isBlank c = true) (trimmed : ∀ arg ∈ args, trim arg = arg)
    (nests : ∀ arg ∈ args, Macro.Nests 0 arg 0) (several : args ≠ [[]]) :
    let result := kind.readAs (kind.printed indent args tail)
    ((∃ declared, result = some (.ok declared)) ↔ args.length ∈ kind.counts) ∧
      (∀ declared, result = some (.ok declared) ↔ declared.kind = kind ∧ Spells args declared) ∧
      (args.length ∉ kind.counts → result = some (.error ⟨kind, args.length⟩)) ∧
      ∀ fault : Malformed, fault.message = Malformed.message ⟨kind, args.length⟩ ↔
        fault = ⟨kind, args.length⟩ := by
  intro result
  have each : ∀ arg ∈ args, Macro.IsArgument arg := fun arg listed =>
    ⟨trimmed arg listed, Macro.depthAfter_eq_some_iff.mpr (nests arg listed)⟩
  have found := kind.args?_printed tail blank each several
  have read : ∀ declared, result = some (.ok declared) ↔ kind.build args = some declared := by
    intro declared
    rw [show result = _ from kind.readAs_eq _, Kind.read_eq_ok_iff, found]
    simp
  refine ⟨?_, ?_, ?_, fun fault => Malformed.message_injective.eq_iff⟩
  · rw [← kind.isSome_build, Option.isSome_iff_exists]
    exact exists_congr read
  · intro declared
    rw [read, Kind.build_eq_some_iff]
  · intro other
    rw [← kind.isSome_build] at other
    exact (kind.readAs_eq _).trans (Kind.read_eq_error found other)

theorem readAs_printed_nested :
    let args : List Text := ["Tex2D(float4, [2])", "gMap[(N)]", "", "t0", "binding = f(1, 2)"]
    let resource : Text := "\t RES(Tex2D(float4, [2]), gMap[(N)], , t0, binding = f(1, 2))); RES(a"
    let member : Text := "DATA(Tex2D(float4, [2]), gMap[(N)], , t0, binding = f(1, 2));"
    (∀ arg ∈ args, trim arg = arg) ∧ (∀ arg ∈ args, Macro.Nests 0 arg 0) ∧ args ≠ [[]] ∧
      Kind.resource.readAs resource =
        some (.ok (.resource ⟨"Tex2D(float4, [2])", "gMap[(N)]", "", "t0", "binding = f(1, 2)"⟩)) ∧
      Kind.field.readAs member = some (.error ⟨.field, 5⟩) := by
  intro args resource member
  have trimmed : ∀ arg ∈ args, trim arg = arg := by decide +kernel
  have nests : ∀ arg ∈ args, Macro.Nests 0 arg 0 := by decide +kernel
  have several : args ≠ [[]] := by decide
  have blank : ∀ c ∈ "\t ".toList, isBlank c = true := List.all_eq_true.mp (by decide)
  have bare : ∀ c ∈ ([] : Text), isBlank c = true := List.forall_mem_nil _
  have taken := (readAs_printed .resource "); RES(a" blank trimmed nests several).2.1
  have refused := (readAs_printed .field ";" bare trimmed nests several).2.2.1
  have first : Kind.resource.printed "\t " args "); RES(a" = resource := by decide +kernel
  have second : Kind.field.printed [] args ";" = member := by decide +kernel
  rw [first] at taken
  rw [second] at refused
  exact ⟨trimmed, nests, several, (taken _).mpr ⟨rfl, .resource _ _ _ _ _⟩, refused (by decide)⟩

end Declaration

end IspcShader
