import IspcShader.Resource
import IspcShader.Proofs.Declaration.Reading
import IspcShader.Proofs.Macro.Split

/-!
The parameter that stands for a resource. It holds the element type, which is what unwrapping leaves
of the declared type, between words of its own; so it counts for as many arguments as the element
type does. A macro layer with several arguments gives an element type with commas, and then a single
resource is declared as several parameters.
-/
namespace IspcShader

open Text Macro

/-- A declared name: a word, with or without a size in brackets behind it. -/
inductive Declaration.IsDeclaredName : Text → Prop
  | single {base : Text} (isWord : IsWord base) : IsDeclaredName base
  | array {base : Text} (isWord : IsWord base) (size : Text) :
      IsDeclaredName (base ++ "[" ++ size ++ "]")

theorem Declaration.IsDeclaredName.isWord_arrayBase {name : Text} (named : IsDeclaredName name) :
    IsWord (arrayBase name) := by
  have pass {base : Text} (isWord : IsWord base) : ∀ c ∈ base, (c != '[') = true := by
    intro c member
    rw [bne_iff_ne]
    rintro rfl
    exact isWord.not_mem (by decide) member
  cases named with
  | single isWord =>
    rw [arrayBase, List.takeWhile_eq_self_iff.mpr (pass isWord), isWord.trim]
    exact isWord
  | @array base isWord size =>
    have shape : base ++ "[" ++ size ++ "]" = base ++ '[' :: (size ++ "]") := by simp
    rw [arrayBase, shape, List.takeWhile_append_of_pos (pass isWord)]
    simpa [isWord.trim] using isWord

theorem Macro.unwrap_of_bare {text : Text} (trimmed : trim text = text)
    (bare : '(' ∉ text ∨ text.getLast? ≠ some ')') : unwrap text = text := by
  unfold unwrap
  rw [trimmed]
  dsimp only
  split
  · rfl
  · next mark tail found =>
    have split := List.takeWhile_append_dropWhile (p := (· != '(')) (l := text)
    rw [found] at split
    have opens : mark = '(' := by
      have stop := List.head?_dropWhile_not (· != '(') text
      rw [found] at stop
      simpa using stop
    rw [if_neg]
    intro closes
    rcases bare with unopened | unclosed
    · apply unopened
      rw [← split, opens]
      simp
    · apply unclosed
      rw [← split, List.getLast?_append, List.getLast?_cons, closes]
      rfl

theorem Declaration.Kind.isArgument_of_args? {kind : Kind} {line arg : Text} {args : List Text}
    (h : kind.args? line = some args) (listed : arg ∈ args) : IsArgument arg := by
  obtain ⟨rest, inside, after, -, read, rfl⟩ := args?_eq_some_iff.mp h
  exact isArgument_of_mem_arguments read listed

theorem Declaration.Resource.isArgument_type {line : Text} {declaration : Declaration.Resource}
    (h : Declaration.Resource.read line = some (.ok declaration)) :
    IsArgument declaration.type := by
  obtain ⟨args, called, built⟩ := Kind.read_eq_ok_iff.mp h
  unfold ofArgs? at built
  split at built <;> cases built
  exact Kind.isArgument_of_args? called List.mem_cons_self

namespace Resource

/-- Two texts that can stand around an element type: neither is blank at its outer end, and neither
leaves a bracket open or separates anything. -/
structure Frames (front back : Text) : Prop where
  opens : front.head? = some 'u'
  plain : ∀ c ∈ front, Macro.isPlain c = true
  closed : ∀ depth, depthAfter depth back = some depth
  ends : ∃ c, back.getLast? = some c ∧ isBlank c = false

variable {resource : Resource} {suffix : Text}

theorem exists_frames (named : IsWord resource.baseName)
    (chars : ∀ c ∈ suffix, isWordChar c = true) :
    ∃ front back, Frames front back ∧
      resource.parameter suffix = front ++ resource.baseType ++ back := by
  have word := named.append chars
  have plain : ∀ c ∈ resource.baseName ++ suffix, Macro.isPlain c = true :=
    fun c member => isPlain_of_isWordChar (word.chars c member)
  by_cases reference : resource.isByReference = true
  · refine ⟨"uniform const ", "& " ++ (resource.baseName ++ suffix), ⟨rfl, ?_, ?_, ?_⟩, ?_⟩
    · exact List.all_eq_true.mp (by decide)
    · intro depth
      rw [depthAfter_append_plain (List.all_eq_true.mp (by decide))]
      exact depthAfter_plain plain depth
    · obtain ⟨c, last⟩ := List.getLast?_isSome.mpr word.ne_nil |> Option.isSome_iff_exists.mp
      refine ⟨c, by rw [List.getLast?_append, last]; rfl, ?_⟩
      exact isBlank_of_isWordChar (word.chars c (List.mem_of_getLast? last))
    · simp [parameter, reference]
  · refine ⟨"uniform " ++ resource.qualifier, " " ++ (resource.baseName ++ suffix) ++ "[]",
      ⟨rfl, ?_, ?_, ?_⟩, ?_⟩
    · apply List.all_eq_true.mp
      unfold qualifier
      split <;> decide
    · intro depth
      rw [List.append_assoc, depthAfter_append_plain (List.all_eq_true.mp (by decide)),
        depthAfter_append_plain plain]
      simp [depthAfter, isOpening, isClosing]
    · exact ⟨']', by rw [List.getLast?_append]; rfl, by decide⟩
    · simp [parameter, reference]

section Framed

variable {front back type : Text}

theorem Frames.visible (frames : Frames front back) : front.all isBlank = false := by
  obtain ⟨rest, rfl⟩ := List.head?_eq_some_iff.mp frames.opens
  rfl

theorem Frames.depthAfter_eq (frames : Frames front back) (type : Text) :
    depthAfter 0 (front ++ type ++ back) = depthAfter 0 type := by
  rw [List.append_assoc, depthAfter_append_plain frames.plain, depthAfter_append_bind]
  simp [frames.closed]

theorem Frames.trim_eq (frames : Frames front back) (type : Text) :
    trim (front ++ type ++ back) = front ++ type ++ back := by
  obtain ⟨rest, rfl⟩ := List.head?_eq_some_iff.mp frames.opens
  obtain ⟨last, ends, visible⟩ := frames.ends
  refine trim_eq_self ?_ ?_
  · rintro c ⟨⟩
    decide
  · intro c final
    rw [List.getLast?_append, ends] at final
    cases final
    exact visible

end Framed

/-- A parameter is one argument just when its element type closes its brackets and keeps its commas
inside them. -/
theorem isArgument_parameter_iff (named : IsWord resource.baseName)
    (chars : ∀ c ∈ suffix, isWordChar c = true) :
    IsArgument (resource.parameter suffix) ↔ depthAfter 0 resource.baseType = some 0 := by
  obtain ⟨front, back, frames, shape⟩ := exists_frames named chars
  rw [shape]
  constructor
  · intro argument
    rw [← frames.depthAfter_eq]
    exact argument.closed
  · intro closed
    refine ⟨frames.trim_eq _, ?_⟩
    rw [frames.depthAfter_eq]
    exact closed

theorem parameter_ne_nil (resource : Resource) (suffix : Text) :
    resource.parameter suffix ≠ [] := by
  unfold parameter
  split <;> simp

/-- The parameter of a declared resource counts for as many arguments as its element type, at least
for one, and is a single one just when the element type holds at most one. A type without a macro
layer is never cut, and the call passes a single argument in either case. -/
theorem parameter_single_iff {line : Text} {declaration : Declaration.Resource}
    (read : Declaration.Resource.read line = some (.ok declaration))
    (named : Declaration.IsDeclaredName declaration.name)
    (chars : ∀ c ∈ suffix, isWordChar c = true) :
    let resource := ofDeclaration declaration
    let parameter := resource.parameter suffix
    let passed := resource.handleName ++ suffix
    (split? parameter).map (·.1.length) = (split? resource.baseType).map (max 1 ·.1.length) ∧
    (split? parameter = some ([parameter], []) ↔
      ∃ args, split? resource.baseType = some (args, []) ∧ args.length ≤ 1) ∧
    ('(' ∉ declaration.type ∨ declaration.type.getLast? ≠ some ')' →
      split? parameter = some ([parameter], [])) ∧
    split? passed = some ([passed], []) := by
  intro resource parameter passed
  have word : IsWord resource.baseName := named.isWord_arrayBase
  have whole (closed : depthAfter 0 resource.baseType = some 0) :
      split? parameter = some ([parameter], []) :=
    ((isArgument_parameter_iff word chars).mpr closed).split?_eq (resource.parameter_ne_nil suffix)
  obtain ⟨front, back, frames, shape⟩ :
      ∃ front back, Frames front back ∧ parameter = front ++ resource.baseType ++ back :=
    exists_frames word chars
  refine ⟨?_, ⟨?_, ?_⟩, ?_, ?_⟩
  · have counted : arity (parameter ++ ")") = (arity (resource.baseType ++ ")")).map (max 1) := by
      rw [shape]
      exact arity_between (depthAfter_plain frames.plain 0) frames.visible frames.closed
    rw [length_split?, counted, ← length_split?, Option.map_map]
    rfl
  · intro single
    rw [exists_split?_iff_closed, ← frames.depthAfter_eq, ← shape]
    exact exists_split?_iff_closed.mp ⟨[parameter], single, le_rfl⟩
  · intro few
    exact whole (exists_split?_iff_closed.mp few)
  · intro bare
    apply whole
    have argument := Declaration.Resource.isArgument_type read
    have kept : resource.baseType = declaration.type := unwrap_of_bare argument.trimmed bare
    rw [kept]
    exact argument.closed
  · have wordPassed : IsWord passed := word.append chars
    exact (IsArgument.of_isWord wordPassed).split?_eq wordPassed.ne_nil

/-- A wrapped element type is one parameter in both signatures, with or without a comma inside
it. -/
theorem parameter_single_iff_nested :
    let declaration : Declaration.Resource :=
      ⟨"RWBuffer(Pair(float4, int))", "gPairs[8]", "UPDATE_FREQ_NONE", "u0", "binding = 0"⟩
    let resource := ofDeclaration declaration
    let parameter := resource.parameter "_arg"
    Declaration.Resource.read
        "RES(RWBuffer(Pair(float4, int)), gPairs[8], UPDATE_FREQ_NONE, u0, binding = 0);" =
      some (.ok declaration) ∧
    parameter = "uniform Pair(float4, int) gPairs_arg[]".toList ∧
    split? parameter = some ([parameter], []) := by
  intro declaration resource parameter
  have read : Declaration.Resource.read
      "RES(RWBuffer(Pair(float4, int)), gPairs[8], UPDATE_FREQ_NONE, u0, binding = 0);" =
        some (.ok declaration) :=
    Declaration.Kind.read_eq_ok_iff.mpr
      ⟨["RWBuffer(Pair(float4, int))", "gPairs[8]", "UPDATE_FREQ_NONE", "u0",
      "binding = 0"], by decide +kernel, rfl⟩
  have named : Declaration.IsDeclaredName declaration.name :=
    .array (show IsWord "gPairs" by decide) "8"
  have chars : ∀ c ∈ ("_arg" : Text), isWordChar c = true := List.all_eq_true.mp (by decide)
  have single := parameter_single_iff read named chars
  exact ⟨read, by decide +kernel, single.2.1.mpr ⟨["Pair(float4, int)"], by decide +kernel, le_rfl⟩⟩

/-- The arguments of a macro layer come apart: one resource, and a list of two parameters, the
second of which is no declaration. -/
theorem resource_declared_as_two :
    let declaration : Declaration.Resource :=
      ⟨"Tex2DMS(float4, 4)", "gTex", "UPDATE_FREQ_NONE", "t0", "binding = 0"⟩
    Declaration.Resource.read "RES(Tex2DMS(float4, 4), gTex, UPDATE_FREQ_NONE, t0, binding = 0);" =
      some (.ok declaration) ∧
    Declaration.IsDeclaredName declaration.name ∧
    split? ((ofDeclaration declaration).parameter "") =
      some (["uniform const float4".toList, "4 gTex[]".toList], []) := by
  refine ⟨?_, .single (by decide), by decide +kernel⟩
  exact Declaration.Kind.read_eq_ok_iff.mpr
    ⟨["Tex2DMS(float4, 4)", "gTex", "UPDATE_FREQ_NONE", "t0", "binding = 0"], by
      decide +kernel, rfl⟩

end Resource

end IspcShader
