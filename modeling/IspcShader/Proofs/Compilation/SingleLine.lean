import IspcShader.Proofs.Compilation.Output
import IspcShader.Proofs.Declaration.Reading
import IspcShader.Proofs.EntryPoint.Lookup

/-!
No rule breaks a line. What a line is replaced by is made of parts of it, of fixed wording, and, on
the line of the entry point, of parts of earlier lines; so a shader of single lines is compiled to
single lines.
-/
namespace IspcShader

open Text

namespace Text

def IsLine (text : Text) : Prop :=
  '\n' ∉ text

instance (text : Text) : Decidable (IsLine text) :=
  inferInstanceAs (Decidable (¬ _))

theorem isLine_append {a b : Text} : IsLine (a ++ b) ↔ IsLine a ∧ IsLine b := by
  unfold IsLine
  rw [List.mem_append, not_or]

theorem IsLine.append {a b : Text} (ha : IsLine a) (hb : IsLine b) : IsLine (a ++ b) :=
  isLine_append.mpr ⟨ha, hb⟩

theorem IsLine.of_subset {a b : Text} (h : IsLine b) (part : a ⊆ b) : IsLine a :=
  fun member => h (part member)

theorem IsLine.of_words {text : Text} (chars : ∀ c ∈ text, isWordChar c = true) : IsLine text := by
  intro member
  exact absurd (chars _ member) (by decide)

theorem IsLine.replaced {needle new a b : Text} (made : IsLine needle → IsLine new)
    (h : Replaced needle new a b) (single : IsLine a) : IsLine b := by
  induction h with
  | refl text => exact single
  | next before rest ih =>
    obtain ⟨front, behind⟩ := isLine_append.mp single
    obtain ⟨first, old⟩ := isLine_append.mp front
    exact (first.append (made old)).append (ih behind)

theorem IsLine.replaceFirst {needle new text : Text} (made : IsLine new) (single : IsLine text) :
    IsLine (replaceFirst needle new text) := by
  unfold Text.replaceFirst
  split
  · exact single
  · next before after found =>
    rw [← append_of_cut? found, isLine_append, isLine_append] at single
    exact (single.1.1.append made).append single.2

theorem IsLine.intercalate {separator : Text} (mark : IsLine separator) {texts : List Text}
    (single : ∀ text ∈ texts, IsLine text) : IsLine (List.intercalate separator texts) := by
  intro member
  rcases Macro.mem_of_mem_intercalate member with between | ⟨text, listed, inside⟩
  · exact mark between
  · exact single text listed inside

end Text

namespace Lowering

def KeepsLine (rule : WordRule) : Prop :=
  ∀ {word behind new covered}, rule word behind = some (new, covered) → IsLine new

theorem isLine_mapWords {rule : WordRule} (keeps : KeepsLine rule) {text : Text}
    (single : IsLine text) : IsLine (mapWords rule text) := by
  fun_induction mapWords rule text with
  | case1 => exact single
  | case2 c rest on word behind quiet ih =>
    have split : c :: rest = word ++ behind := by simp [word, behind]
    rw [split, isLine_append] at single
    exact single.1.append (ih single.2)
  | case3 c rest on word behind new covered replaced ih =>
    have part : behind.drop covered ⊆ c :: rest := fun d member =>
      List.mem_cons_of_mem c ((List.dropWhile_sublist isWordChar).subset
        (List.drop_subset _ _ member))
    exact (keeps replaced).append (ih (single.of_subset part))
  | case4 c rest off ih =>
    unfold IsLine at single ⊢
    rw [List.mem_cons, not_or] at single ⊢
    exact ⟨single.1, ih single.2⟩

theorem isLine_lower {line : Text} (single : IsLine line) : IsLine (lower line) := by
  have types : KeepsLine typeRule := by
    intro word behind new covered replaced
    obtain ⟨⟨kind, width⟩, -, same⟩ := Option.map_eq_some_iff.mp replaced
    cases same
    cases kind <;> cases width <;> decide
  have constructors : KeepsLine constructorRule := by
    intro word behind new covered replaced
    unfold constructorRule at replaced
    split at replaced
    · next kind digit tail _ =>
      obtain ⟨width, -, same⟩ := Option.map_eq_some_iff.mp replaced
      cases same
      cases kind <;> cases width <;> decide
    · cases replaced
  have casts : KeepsLine castRule := by
    intro word behind new covered replaced
    unfold castRule at replaced
    split at replaced
    · next kind tail _ =>
      split at replaced
      · cases replaced
        cases kind <;> decide
      · cases replaced
    · cases replaced
  exact isLine_mapWords casts (isLine_mapWords constructors (isLine_mapWords types single))

end Lowering

structure Resource.IsSingle (resource : Resource) : Prop where
  baseType : IsLine resource.baseType
  baseName : IsLine resource.baseName

theorem Resource.IsSingle.parameter {resource : Resource} (single : resource.IsSingle)
    {suffix : Text} (chars : IsLine suffix) : IsLine (resource.parameter suffix) := by
  obtain ⟨type, name⟩ := single
  unfold Resource.parameter Resource.qualifier
  split
  · simp only [isLine_append, type, name, chars]
    decide
  · split <;> simp only [isLine_append, type, name, chars] <;> decide

theorem Resource.isSingle_of_mem_written {line : Text} {resource : Resource} (single : IsLine line)
    (h : resource ∈ Compilation.written line) : resource.IsSingle := by
  unfold Compilation.written at h
  split at h
  · next declaration read =>
    obtain ⟨type, name⟩ := Declaration.Resource.subset_of_read read
    rw [List.mem_singleton.mp h]
    exact ⟨(single.of_subset type).of_subset (Macro.unwrap_subset _),
      (single.of_subset name).of_subset (Macro.arrayBase_subset _)⟩
  · cases h

structure CoordinateArg.IsSingle (arg : CoordinateArg) : Prop where
  type : IsLine arg.type
  name : IsLine arg.name

structure BuiltinScan.IsSingle (scan : BuiltinScan) : Prop where
  params : IsLine scan.params
  args : ∀ arg ∈ scan.args, arg.IsSingle

namespace EntryPoint

theorem isLine_unwrapStructs (structs : List Parameter) {params : Text} (single : IsLine params) :
    IsLine (unwrapStructs structs params) := by
  unfold unwrapStructs
  induction structs generalizing params with
  | nil => exact single
  | cons param more ih =>
    refine ih (single.replaced ?_ (replaced_replaceAll _ _ params))
    intro old
    simp only [isLine_append] at old ⊢
    exact ⟨⟨old.1.1.1, by decide⟩, old.1.2⟩

theorem isSingle_visit (entryLine : Text) (number : Nat) {scan : BuiltinScan} (param : Parameter)
    (single : scan.IsSingle) : (scan.visit entryLine number param).IsSingle := by
  unfold BuiltinScan.visit BuiltinScan.record
  split
  · exact ⟨single.params, single.args⟩
  · next before after located =>
    obtain ⟨blanks, shape, -⟩ := Parameter.append_of_locate? located
    have whole := single.params
    rw [shape] at whole
    simp only [isLine_append] at whole
    obtain ⟨⟨front, ⟨type, -⟩, var⟩, behind⟩ := whole
    have base : IsLine (Macro.unwrap param.type) := type.of_subset (Macro.unwrap_subset _)
    have made : IsLine (before ++ Macro.unwrap param.type ++ " " ++ param.var ++ after) := by
      simp only [isLine_append]
      exact ⟨⟨⟨⟨front, base⟩, by decide⟩, var⟩, behind⟩
    dsimp only
    split
    · refine ⟨made, ?_⟩
      intro arg member
      rcases List.mem_append.mp member with earlier | here
      · exact single.args arg earlier
      · rw [List.mem_singleton.mp here]
        exact ⟨base, var⟩
    · exact ⟨made, single.args⟩

theorem isSingle_scan (entryLine : Text) (number : Nat) (builtins : List Parameter)
    {scan : BuiltinScan} (single : scan.IsSingle) :
    (builtins.foldl (BuiltinScan.visit entryLine number) scan).IsSingle := by
  induction builtins generalizing scan with
  | nil => exact single
  | cons param more ih => exact ih (isSingle_visit entryLine number param single)

theorem isSingle_run {marker : EntryMarker} (number : Nat) (shader : Shader)
    (entry : IsLine marker.line) : (BuiltinScan.run marker.line number shader.builtinParams
      (unwrapStructs shader.structParams marker.params)).IsSingle := by
  have params : IsLine marker.params := (isLine_append.mp entry).2
  exact isSingle_scan marker.line number shader.builtinParams
    ⟨isLine_unwrapStructs shader.structParams params, List.forall_mem_nil _⟩

theorem isLine_withResources {resources : List Resource}
    (single : ∀ resource ∈ resources, resource.IsSingle) {params : Text} (own : IsLine params) :
    IsLine (withResources resources params) := by
  unfold withResources
  refine (IsLine.append (IsLine.intercalate (by decide) ?_) ?_).append own
  · intro text listed
    obtain ⟨resource, declared, rfl⟩ := List.mem_map.mp listed
    exact (single resource declared).parameter (by decide)
  · split <;> decide

theorem isLine_exportName {name : Text} (single : IsLine name) {suffix : Option Text}
    (chars : ∀ text ∈ suffix, IsLine text) : IsLine (exportName name suffix) := by
  cases suffix with
  | none => exact single
  | some text => exact (single.append (by decide)).append (chars text rfl)

theorem isLine_ofMarker {marker : EntryMarker} (number : Nat) (shader : Shader)
    {resources : List Resource} {suffix : Option Text} (policy : ResourcePolicy)
    (entry : IsLine marker.line) (single : ∀ resource ∈ resources, resource.IsSingle)
    (chars : ∀ text ∈ suffix, IsLine text) :
    IsLine (ofMarker marker number shader resources suffix policy).1.line := by
  have scanned := isSingle_run number shader entry
  simp only [EntryMarker.line, isLine_append] at entry
  obtain ⟨⟨⟨before, name⟩, opening⟩, -⟩ := entry
  have main := isLine_exportName name chars
  exact ((before.append (main.append (by decide))).append opening).append
    (isLine_withResources single scanned.params)

end EntryPoint

theorem Binary.isWordChar_mangleChar (c : Char) : isWordChar (mangleChar c) = true := by
  unfold mangleChar
  split
  · next alphanumeric =>
    rcases toUpper_eq_self_or c with same | ⟨n, letter, rfl⟩
    · rw [same]
      exact isWordChar_of_isAlphanum alphanumeric
    · have letters : ∀ n ∈ List.range' 97 26, isWordChar (Char.ofNat n).toUpper = true := by
        decide +kernel
      exact letters n letter
  · decide

theorem Job.isWordChar_mangle (job : Job) :
    ∀ text ∈ job.mangle?, ∀ c ∈ text, isWordChar c = true := by
  intro text given c member
  unfold Job.mangle? at given
  split at given
  · cases given
    obtain ⟨d, -, rfl⟩ := List.mem_map.mp member
    exact Binary.isWordChar_mangleChar d
  · cases given

namespace Compilation

theorem isLine_originComment (source : NumberedLine) : IsLine (originComment source) := by
  refine IsLine.append (by decide) ?_
  intro member
  have digit := Nat.isDigit_of_mem_toDigits (by decide) (by decide) member
  exact absurd digit (by decide)

section Step

variable {job : Job} {state : State} {source : NumberedLine}

theorem isLine_openedLine {line : Text} (single : IsLine line) : IsLine (openedLine line) := by
  unfold openedLine
  split
  · next declaration read =>
    have name := single.of_subset (Declaration.Struct.subset_of_read read)
    have rest : trimEnd ((line.dropWhile (· != ')')).drop 1) ⊆ line := fun c member =>
      (List.dropWhile_sublist _).subset (List.drop_subset 1 _ (trimEnd_subset _ member))
    exact (((single.of_subset (leadingBlanks_subset line)).append (by decide)).append name).append
      (single.of_subset rest)
  · exact single

theorem isLine_memberLine (mode : BlockMode) {line before : Text} (single : IsLine line)
    (own : IsLine before) : IsLine (memberLine job mode line before) := by
  unfold memberLine
  split
  · next field read =>
    obtain ⟨type, name⟩ := Declaration.Field.subset_of_read read
    unfold Declaration.Field.memberLine?
    split
    · exact own
    · simp only [Option.getD_some, isLine_append]
      refine ⟨⟨⟨⟨⟨single.of_subset (leadingBlanks_subset line), ?_⟩,
        single.of_subset type⟩, by decide⟩, single.of_subset name⟩, by decide⟩
      split <;> decide
  · exact own

theorem isLine_blockDraft (single : IsLine source.text) :
    IsLine (blockDraft job state source).line := by
  unfold blockDraft
  dsimp only
  split
  · exact isLine_memberLine _ single (isLine_openedLine single)
  · exact isLine_openedLine single

theorem isLine_accessorFor {name : Text} (single : IsLine name) :
    IsLine (Expansion.accessorFor name) :=
  ((IsLine.append (by decide) single).append (by decide)).append single

theorem isLine_handle {declaration : Declaration.Resource} (type : IsLine declaration.type)
    (name : IsLine declaration.name) : IsLine (Resource.ofDeclaration declaration).handle := by
  have baseType : IsLine (Resource.ofDeclaration declaration).baseType :=
    type.of_subset (Macro.unwrap_subset _)
  have baseName : IsLine (Resource.ofDeclaration declaration).baseName :=
    name.of_subset (Macro.arrayBase_subset _)
  have whole : IsLine (Resource.ofDeclaration declaration).name := name
  unfold Resource.handle Resource.qualifier
  split
  · simp only [isLine_append, baseType, whole]
    decide
  · split <;> simp only [isLine_append, baseType, baseName] <;> decide

theorem isLine_expansion {line : Text} {expansion : Expansion} (single : IsLine line)
    (declared : expansion? job line = some expansion) :
    IsLine expansion.accessor ∧ IsLine expansion.declaration := by
  have remark : IsLine ("// " ++ trimStart line) :=
    IsLine.append (by decide) (single.of_subset (trimStart_subset line))
  unfold expansion? at declared
  split at declared
  · next declaration read =>
    cases declared
    obtain ⟨type, name⟩ := Declaration.Resource.subset_of_read read
    have base := (single.of_subset name).of_subset (Macro.arrayBase_subset declaration.name)
    refine ⟨isLine_accessorFor base, ?_⟩
    have handle := isLine_handle (single.of_subset type) (single.of_subset name)
    unfold Expansion.ofResource
    cases job.options.policy with
    | comment => exact remark
    | «alias» => exact (handle.append (by decide)).append remark
  · split at declared
    · next declaration read =>
      cases declared
      obtain ⟨type, name⟩ := Declaration.Shared.subset_of_read read
      have base := (single.of_subset name).of_subset (Macro.arrayBase_subset declaration.name)
      refine ⟨isLine_accessorFor base, ?_⟩
      simp only [Expansion.ofShared, isLine_append, single.of_subset type, single.of_subset name]
      decide
    · cases declared

theorem isLine_entered {resources : List Resource} {entry : EntryPoint}
    (single : IsLine source.text) (declared : ∀ resource ∈ resources, resource.IsSingle)
    (found : entered job source resources = some entry) : IsLine entry.line := by
  obtain ⟨marker, marked, rfl⟩ := Option.map_eq_some_iff.mp found
  rw [← EntryMarker.line_of_find? marked] at single
  exact EntryPoint.isLine_ofMarker source.number job.shader job.options.policy single declared
    fun text given => .of_words (job.isWordChar_mangle text given)

theorem isLine_returnLine (shader : Shader) {line : Text} (single : IsLine line) :
    IsLine (Draft.returnLine shader line) := by
  unfold Draft.returnLine
  split
  all_goals
    apply IsLine.replaceFirst _ single
    decide

theorem isLine_keptLine {draft : Draft} (single : IsLine source.text) (own : IsLine draft.line)
    (declared : ∀ resource ∈ draft.state.resources ++ written source.text, resource.IsSingle) :
    IsLine (keptLine job source draft) := by
  have before :
      IsLine (((expansion? job source.text).map Expansion.declaration).getD draft.line) := by
    cases found : expansion? job source.text with
    | none => exact own
    | some expansion => exact (isLine_expansion single found).2
  have line : IsLine (enteredLine job source
      { draft.state with resources := draft.state.resources ++ written source.text }
      (((expansion? job source.text).map Expansion.declaration).getD draft.line)) := by
    unfold enteredLine
    split
    · next entry _ found _ => exact isLine_entered single declared found
    · exact before
    · split
      · exact isLine_returnLine job.shader single
      · exact before
  unfold keptLine
  dsimp only
  split
  · exact IsLine.append (by decide) line
  · exact line

theorem isSingle_step_resources (single : IsLine source.text)
    (declared : ∀ resource ∈ state.resources, resource.IsSingle) :
    ∀ resource ∈ (step job state source).state.resources, resource.IsSingle := by
  rw [step_state]
  cases fate job state.mode source.text with
  | dropped => exact declared
  | closing => exact declared
  | kept =>
    intro resource member
    rcases List.mem_append.mp member with earlier | here
    · exact declared resource earlier
    · exact Resource.isSingle_of_mem_written single here

theorem isLine_of_mem_step (single : IsLine source.text)
    (declared : ∀ resource ∈ state.resources, resource.IsSingle) :
    ∀ line ∈ (step job state source).lines, IsLine line := by
  have own := @isLine_blockDraft job state source single
  have origin := isLine_originComment source
  rw [step_eq]
  cases fate job state.mode source.text with
  | dropped => exact List.forall_mem_nil _
  | closing =>
    simp only [Draft.close, List.forall_mem_cons]
    exact ⟨origin, Lowering.isLine_lower own, List.forall_mem_nil _⟩
  | kept =>
    have kept : IsLine (Lowering.lower (keptLine job source (blockDraft job state source))) := by
      refine Lowering.isLine_lower (isLine_keptLine single own ?_)
      intro resource member
      rcases List.mem_append.mp member with earlier | here
      · exact declared resource earlier
      · exact Resource.isSingle_of_mem_written single here
    dsimp only
    rw [Draft.finish_lines job source _ rfl]
    cases found : expansion? job source.text with
    | none =>
      simp only [List.forall_mem_cons]
      exact ⟨kept, List.forall_mem_nil _⟩
    | some expansion =>
      simp only [List.forall_mem_cons]
      exact ⟨(isLine_expansion single found).1, kept, origin, List.forall_mem_nil _⟩

end Step

theorem isLine_of_mem_run {job : Job} {state : State} {lines : List NumberedLine}
    (single : ∀ source ∈ lines, IsLine source.text)
    (declared : ∀ resource ∈ state.resources, resource.IsSingle) :
    ∀ line ∈ (run job state lines).lines, IsLine line := by
  induction lines generalizing state with
  | nil => exact fun line member => nomatch member
  | cons source rest ih =>
    have here := single source List.mem_cons_self
    intro line member
    rcases List.mem_append.mp member with first | others
    · exact isLine_of_mem_step here declared line first
    · exact ih (fun other later => single other (List.mem_cons_of_mem source later))
        (isSingle_step_resources here declared) line others

end Compilation

end IspcShader
