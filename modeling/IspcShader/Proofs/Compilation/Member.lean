import IspcShader.Proofs.Compilation.Closing

/-!
Members of struct blocks as they are written, and what is read off their lines: the type, the name
with its size, and the semantic unless it is spelled `none`.
-/
namespace IspcShader

open Text

structure Member where
  indent : Text := []
  type : Text
  base : Text
  size : Option Text := none
  semantic : Option Text := none
  all_isBlank : indent.all isBlank = true := by decide
  isWord_type : IsWord type := by decide
  isWord_base : IsWord base := by decide
  isWord_size : ∀ word ∈ size, IsWord word := by decide
  isWord_semantic : ∀ word ∈ semantic, IsWord word := by decide

namespace Member

def name (member : Member) : Text :=
  match member.size with
  | none => member.base
  | some size => member.base ++ "[" ++ size ++ "]"

def args (member : Member) : List Text :=
  member.type :: member.name :: member.semantic.toList

def written (member : Member) : Text :=
  member.indent ++ "DATA(" ++ List.intercalate ", " member.args ++ ");"

def realSemantic? (member : Member) : Option Text :=
  member.semantic.filter fun word => !sameIgnoringCase word "none"

/-- A member stays where it has no real semantic, and in every struct that is neither passed to the
entry point nor returned from it. -/
def IsKept (member : Member) (shader : Shader) (struct : Text) : Prop :=
  member.realSemantic? = none ∨
    (∀ param ∈ shader.structParams, param.type ≠ struct) ∧ shader.returnType ≠ some struct

instance (member : Member) (shader : Shader) (struct : Text) :
    Decidable (member.IsKept shader struct) :=
  inferInstanceAs (Decidable (_ ∨ _ ∧ _))

def IsPrecise (member : Member) (capabilities : Capabilities) : Prop :=
  capabilities.isInvariant = true ∧
    ∃ word ∈ member.semantic, sameIgnoringCase word "SV_Position" = true

instance (member : Member) (capabilities : Capabilities) :
    Decidable (member.IsPrecise capabilities) :=
  inferInstanceAs (Decidable (_ ∧ _))

def transcribed (member : Member) (capabilities : Capabilities) : Text :=
  member.indent ++ (if member.IsPrecise capabilities then "precise " else "" : Text) ++
    member.type ++ " " ++ member.name ++ ";"

variable (member : Member)

theorem isBlank_indent : ∀ c ∈ member.indent, isBlank c = true :=
  List.all_eq_true.mp member.all_isBlank

theorem isArgument_name : Macro.IsArgument member.name := by
  unfold name
  split
  · exact .of_isWord member.isWord_base
  · next size sized =>
    have plain {word : Text} (isWord : IsWord word) : ∀ c ∈ word, Macro.isPlain c = true :=
      fun c inside =>
      Macro.isPlain_of_isWordChar (isWord.chars c inside)
    constructor
    · apply trim_eq_self
      · intro c first
        rw [List.append_assoc, List.append_assoc, List.head?_append,
          List.head?_eq_some_head member.isWord_base.ne_nil, Option.some_or] at first
        cases first
        exact isBlank_of_isWordChar (member.isWord_base.chars _ (List.head_mem _))
      · intro c last
        rw [List.getLast?_append] at last
        cases last
        decide
    · rw [List.append_assoc, List.append_assoc,
        Macro.depthAfter_append_plain (plain member.isWord_base)]
      change Macro.depthAfter 1 (size ++ "]") = some 0
      rw [Macro.depthAfter_append_plain (plain (member.isWord_size size sized))]
      rfl

theorem isArgument_of_mem_args : ∀ arg ∈ member.args, Macro.IsArgument arg := by
  intro arg listed
  rcases List.mem_cons.mp listed with rfl | listed
  · exact .of_isWord member.isWord_type
  rcases List.mem_cons.mp listed with rfl | listed
  · exact member.isArgument_name
  · exact .of_isWord (member.isWord_semantic arg (Option.mem_toList.mp listed))

theorem isWordChar_or_bracket {arg : Text} {c : Char} (listed : arg ∈ member.args)
    (inside : c ∈ arg) : isWordChar c = true ∨ c = '[' ∨ c = ']' := by
  rcases List.mem_cons.mp listed with rfl | listed
  · exact .inl (member.isWord_type.chars c inside)
  rcases List.mem_cons.mp listed with rfl | listed
  · unfold name at inside
    split at inside
    · exact .inl (member.isWord_base.chars c inside)
    · next size sized =>
      rw [List.mem_append, List.mem_append, List.mem_append] at inside
      rcases inside with ((base | opening) | inner) | closing
      · exact .inl (member.isWord_base.chars c base)
      · exact .inr (.inl (List.mem_singleton.mp opening))
      · exact .inl ((member.isWord_size size sized).chars c inner)
      · exact .inr (.inr (List.mem_singleton.mp closing))
  · exact .inl ((member.isWord_semantic arg (Option.mem_toList.mp listed)).chars c inside)

theorem not_mem_intercalate_args {c : Char} (off : isWordChar c = false)
    (unlisted : c ∉ [',', ' ', '[', ']']) : c ∉ List.intercalate ", " member.args := by
  intro inside
  rcases Macro.mem_of_mem_intercalate inside with separator | ⟨arg, listed, inner⟩
  · exact unlisted (List.mem_append_left ['[', ']'] separator)
  · rcases member.isWordChar_or_bracket listed inner with on | rfl | rfl
    · rw [off] at on
      cases on
    · exact unlisted (by decide)
    · exact unlisted (by decide)

def field : Declaration.Field :=
  ⟨member.type, member.name, member.realSemantic?⟩

theorem ofArgs?_args : Declaration.Field.ofArgs? member.args = some member.field := by
  unfold args field realSemantic?
  cases written : member.semantic with
  | none => rfl
  | some word =>
    have nonempty : word.isEmpty = false := by
      rw [List.isEmpty_eq_false_iff]
      exact (member.isWord_semantic word written).ne_nil
    change some (Declaration.Field.mk _ _ (Declaration.Field.semantic? word)) = _
    rw [Declaration.Field.semantic?, nonempty, Bool.false_or, Option.filter_some]
    cases sameIgnoringCase word "none" <;> rfl

theorem written_eq : member.written =
    member.indent ++ (Declaration.Kind.field.keyword ++ '(' ::
      (List.intercalate ", " member.args ++ ");")) := by
  rw [written, List.append_assoc, List.append_assoc]
  rfl

theorem leadingBlanks_written : leadingBlanks member.written = member.indent := by
  rw [written_eq, leadingBlanks, List.takeWhile_append_of_pos member.isBlank_indent]
  exact List.append_nil member.indent

theorem read_written : Declaration.Field.read member.written = some (.ok member.field) := by
  rw [Declaration.Field.read, Declaration.Kind.read_eq_ok_iff]
  refine ⟨member.args, ?_, member.ofArgs?_args⟩
  rw [Declaration.Kind.args?_eq_some_iff]
  refine ⟨List.intercalate ", " member.args ++ ");", List.intercalate ", " member.args,
    ";", ?_, ?_, ?_⟩
  · rw [written_eq, trimStart, List.dropWhile_append_of_pos member.isBlank_indent]
    rfl
  · exact Macro.readInside_intercalate
      (fun arg listed => (member.isArgument_of_mem_args arg listed).closed) ";"
  · apply Macro.arguments_intercalate member.isArgument_of_mem_args
    intro same
    cases (List.cons.inj same).2

theorem not_mem_behind {c : Char} (mark : c = '(' ∨ c = '\x7d') :
    c ∉ List.intercalate ", " member.args ++ ");" := by
  have off : isWordChar c = false := by rcases mark with rfl | rfl <;> decide
  have unlisted : c ∉ [',', ' ', '[', ']'] := by rcases mark with rfl | rfl <;> decide
  have unended : c ∉ (");" : Text) := by rcases mark with rfl | rfl <;> decide
  rw [List.mem_append, not_or]
  exact ⟨member.not_mem_intercalate_args off unlisted, unended⟩

theorem closesStruct_written : Marker.closesStruct member.written = false := by
  apply Marker.closesStruct_of_not_mem
  rw [written_eq]
  intro inside
  rcases List.mem_append.mp inside with lead | inside
  · exact absurd (member.isBlank_indent _ lead) (by decide)
  rcases List.mem_append.mp inside with spelled | inside
  · exact absurd spelled (by decide)
  rcases List.mem_cons.mp inside with same | inside
  · exact absurd same (by decide)
  · exact member.not_mem_behind (.inr rfl) inside

theorem isPosition_field : member.field.isPosition = true ↔
    ∃ word ∈ member.semantic, sameIgnoringCase word "SV_Position" = true := by
  unfold Declaration.Field.isPosition field realSemantic?
  cases written : member.semantic with
  | none => simp
  | some word =>
    rw [Option.filter_some]
    cases same : sameIgnoringCase word "none" with
    | false => simp
    | true =>
      have different : ¬ sameIgnoringCase word "SV_Position" = true := by
        intro position
        rw [sameIgnoringCase, decide_eq_true_eq] at same position
        exact absurd (same.symm.trans position) (by decide)
      simpa using different

theorem memberLine?_field (ignores : Bool) (capabilities : Capabilities) :
    member.field.memberLine? member.indent ignores capabilities =
      if member.realSemantic? = none ∨ ignores = true then some (member.transcribed capabilities)
      else none := by
  have precise : (capabilities.isInvariant && member.field.isPosition) = true ↔
      member.IsPrecise capabilities := by
    rw [Bool.and_eq_true, isPosition_field]
    rfl
  by_cases kept : member.realSemantic? = none ∨ ignores = true
  · have stays : ¬ (member.field.semantic.isSome && !ignores) = true := by
      rw [← Compilation.memberLine?_eq_none_iff member.field member.indent ignores capabilities,
        Declaration.Field.memberLine?_eq_none_iff_carries]
      exact fun dropped => dropped kept
    rw [if_pos kept, Declaration.Field.memberLine?, if_neg stays]
    simp only [precise]
    rfl
  · rw [if_neg kept, Declaration.Field.memberLine?_eq_none_iff_carries]
    exact kept

theorem isKept_iff (shader : Shader) (struct : Text) :
    member.IsKept shader struct ↔
      member.realSemantic? = none ∨ (!shader.isInterface struct) = true := by
  simp [IsKept, Shader.isInterface]

end Member

end IspcShader
