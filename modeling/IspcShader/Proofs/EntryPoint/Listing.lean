import Mathlib.Data.List.Nodup
import IspcShader.Proofs.EntryPoint.Coordinate
import IspcShader.Proofs.EntryPoint.Marker

/-!
Dispatch coordinates that a shader lists in another order than its entry line declares them. Each is
found and lowered in its own place, so the implementation declares them as the entry line does; but
they are recorded in the order of the listing, and this is the order in which the wrapper passes
them.
-/
namespace IspcShader

open Text

/-- A coordinate between the commas of an entry line, with the blanks around and inside it. -/
structure CoordinateSlot where
  lead : Text
  param : CoordinateParam
  gap : Text
  trail : Text
  proper : param.IsProper
  isGap : CoordinateParam.IsGap gap
  blank_lead : ∀ c ∈ lead, isBlank c = true
  blank_trail : ∀ c ∈ trail, isBlank c = true

namespace CoordinateSlot

open CoordinateParam

def written (slot : CoordinateSlot) : Text :=
  slot.lead ++ (slot.param.declaredType ++ slot.gap ++ slot.param.var) ++ slot.trail

def lowered (slot : CoordinateSlot) : Text :=
  slot.lead ++ slot.param.lowered ++ slot.trail

def text (done : List CoordinateParam) (slot : CoordinateSlot) : Text :=
  if slot.param ∈ done then slot.lowered else slot.written

def joined (slots : List CoordinateSlot) (done : List CoordinateParam) (after : Text) : Text :=
  List.intercalate "," (slots.map (text done)) ++ ')' :: after

variable {slot : CoordinateSlot} {done : List CoordinateParam}

/-- A slot can be passed in the search for another coordinate, be it lowered or not. -/
theorem passes_text {var : Text} (different : slot.param.var ≠ var) :
    Passes var (slot.text done ++ ",") := by
  have bare : '(' ∉ slot.lead ∧ '(' ∉ slot.trail ++ "," := by
    rw [List.mem_append, not_or]
    exact ⟨not_mem_of_blank slot.blank_lead (by decide),
      not_mem_of_blank slot.blank_trail (by decide), by decide⟩
  unfold text
  split
  · apply Passes.of_not_mem
    rw [lowered, List.append_assoc, List.append_assoc, List.mem_append, List.mem_append]
    rintro (leading | lowered | trailing)
    · exact bare.1 leading
    · exact slot.proper.not_mem_lowered lowered
    · exact bare.2 trailing
  · have shape : slot.written ++ "," = slot.lead ++ slot.param.builtin ++
        '(' :: (slot.param.type ++ ')' :: (slot.gap ++ slot.param.var ++ (slot.trail ++ ","))) := by
      simp [written, declaredType]
    have builtin := slot.proper.isWord_builtin
    rw [shape]
    refine .of_declares ?_ ?_ slot.proper.var different
      ⟨slot.param.type, slot.gap, slot.trail ++ ",", rfl, slot.proper.type, slot.isGap, by simp, ?_⟩
    · rw [List.mem_append, not_or]
      exact ⟨bare.1, builtin.not_mem (by decide)⟩
    · simp only [List.mem_append, List.mem_cons, not_or] at bare ⊢
      exact ⟨slot.proper.type.not_mem (by decide), by decide,
        ⟨not_mem_of_blank slot.isGap.blank (by decide), slot.proper.var.not_mem (by decide)⟩,
        bare.2⟩
    · exact startsOffWord_blank_append slot.blank_trail rfl

theorem passes_flatMap {var : Text} {slots : List CoordinateSlot}
    (different : ∀ slot ∈ slots, slot.param.var ≠ var) :
    Passes var ((slots.map (text done)).flatMap (· ++ ",")) := by
  induction slots with
  | nil => exact .of_not_mem List.not_mem_nil
  | cons slot slots ih =>
    rw [List.map_cons, List.flatMap_cons]
    exact (passes_text (different slot List.mem_cons_self)).append
      (ih fun other member => different other (List.mem_cons_of_mem slot member))

theorem text_cons_of_ne {param : CoordinateParam} (different : slot.param ≠ param) :
    slot.text (param :: done) = slot.text done := by
  simp [text, different]

/-- A coordinate that is visited is lowered in its slot, wherever that is, and put behind the
recorded ones. -/
theorem visit_joined {slots : List CoordinateSlot} {scan : BuiltinScan} {param : CoordinateParam}
    {after : Text} (entryLine : Text) (number : Nat) (distinct : (slots.map (·.param.var)).Nodup)
    (declared : param ∈ slots.map CoordinateSlot.param) (new : param ∉ done)
    (shape : scan.params = joined slots done after) :
    (BuiltinScan.visit entryLine number scan param.listed).params =
      joined slots (param :: done) after ∧
      (BuiltinScan.visit entryLine number scan param.listed).args = scan.args ++ [param.arg] := by
  obtain ⟨slot, member, rfl⟩ := List.mem_map.mp declared
  obtain ⟨left, right, rfl⟩ := List.append_of_mem member
  have others : ∀ other ∈ left ++ right, other.param.var ≠ slot.param.var := by
    rw [List.map_append, List.map_cons, List.nodup_middle, List.nodup_cons,
      ← List.map_append] at distinct
    intro other there same
    exact distinct.1 (List.mem_map.mpr ⟨other, there, same⟩)
  let front := (left.map (text done)).flatMap (· ++ ("," : Text)) ++ slot.lead
  let rest := slot.trail ++ ((right.map (text done)).flatMap (("," : Text) ++ ·) ++ ')' :: after)
  have passes : Passes slot.param.var front :=
    (passes_flatMap fun other there => others other (List.mem_append_left right there)).append
      (.of_not_mem (not_mem_of_blank slot.blank_lead (by decide)))
  have off : startsOffWord rest = true := by
    apply startsOffWord_blank_append slot.blank_trail
    cases right <;> rfl
  have whole : scan.params =
      front ++ (slot.param.declaredType ++ slot.gap ++ slot.param.var) ++ rest := by
    rw [shape, joined, List.map_append, List.map_cons, Macro.intercalate_split, text,
      if_neg new, written]
    simp [front, rest]
  obtain ⟨params, args⟩ :=
    BuiltinScan.visit_listed entryLine number slot.proper passes slot.isGap off whole
  refine ⟨?_, args⟩
  -- the slots on both sides belong to other coordinates, so their texts are as before
  have kept (list : List CoordinateSlot)
      (apart : ∀ other ∈ list, other.param.var ≠ slot.param.var) :
      list.map (text (slot.param :: done)) = list.map (text done) := by
    apply List.map_congr_left
    intro other there
    exact text_cons_of_ne fun same => apart other there (by rw [same])
  rw [params, joined, List.map_append, List.map_cons, Macro.intercalate_split, text,
    if_pos List.mem_cons_self, lowered,
    kept left fun other there => others other (List.mem_append_left right there),
    kept right fun other there => others other (List.mem_append_right left there)]
  simp [front, rest]

theorem foldl_visit_joined {slots : List CoordinateSlot} {scan : BuiltinScan}
    {listing : List CoordinateParam} {after : Text} (entryLine : Text) (number : Nat)
    (distinct : (slots.map (·.param.var)).Nodup) (once : listing.Nodup)
    (declared : ∀ param ∈ listing, param ∈ slots.map CoordinateSlot.param)
    (new : ∀ param ∈ listing, param ∉ done) (shape : scan.params = joined slots done after) :
    ((listing.map listed).foldl (BuiltinScan.visit entryLine number) scan).params =
        joined slots (listing.reverse ++ done) after ∧
      ((listing.map listed).foldl (BuiltinScan.visit entryLine number) scan).args =
        scan.args ++ listing.map arg := by
  induction listing generalizing done scan with
  | nil => exact ⟨shape, (List.append_nil scan.args).symm⟩
  | cons param listing ih =>
    obtain ⟨here, others⟩ := List.nodup_cons.mp once
    obtain ⟨params, args⟩ :=
      visit_joined entryLine number distinct (declared param List.mem_cons_self)
      (new param List.mem_cons_self) shape
    have unvisited : ∀ other ∈ listing, other ∉ param :: done := by
      intro other there
      rw [List.mem_cons, not_or]
      exact ⟨fun same => here (same ▸ there), new other (List.mem_cons_of_mem param there)⟩
    obtain ⟨paramsThere, argsThere⟩ :=
      ih others (fun other there => declared other (List.mem_cons_of_mem param there))
        unvisited params
    refine ⟨?_, ?_⟩
    · simpa using paramsThere
    · simpa [args] using argsThere

theorem run_joined {slots : List CoordinateSlot} {listing : List CoordinateParam} (entryLine : Text)
    (number : Nat) (distinct : (slots.map (·.param.var)).Nodup)
    (permuted : listing.Perm (slots.map CoordinateSlot.param)) (after : Text) :
    let scan := BuiltinScan.run entryLine number (listing.map listed)
      (List.intercalate "," (slots.map written) ++ ')' :: after)
    scan.params = List.intercalate "," (slots.map lowered) ++ ')' :: after ∧
      scan.args = listing.map arg := by
  have once : (slots.map CoordinateSlot.param).Nodup := by
    apply List.Nodup.of_map CoordinateParam.var
    rw [List.map_map]
    exact distinct
  have unvisited : slots.map (text []) = slots.map written :=
    List.map_congr_left fun slot _ => if_neg List.not_mem_nil
  have visited : slots.map (text (listing.reverse ++ [])) = slots.map lowered := by
    apply List.map_congr_left
    intro slot member
    apply if_pos
    rw [List.append_nil, List.mem_reverse, permuted.mem_iff]
    exact List.mem_map_of_mem member
  let start : BuiltinScan := { params := joined slots [] after }
  have shape : start.params = joined slots [] after := rfl
  have ran := foldl_visit_joined entryLine number distinct (permuted.nodup_iff.mpr once)
    (fun param => permuted.mem_iff.mp) (fun _ _ => List.not_mem_nil) shape
  simp only [start, joined, unvisited, visited] at ran
  exact ran

end CoordinateSlot

theorem eq_of_map_eq {α β : Type} {f : α → β} {a b : List α}
    (inj : ∀ x ∈ a, ∀ y ∈ b, f x = f y → x = y) (same : a.map f = b.map f) : a = b := by
  induction a generalizing b with
  | nil => exact (List.map_eq_nil_iff.mp same.symm).symm
  | cons x a ih =>
    obtain ⟨y, rest, rfl, here, there⟩ := List.map_eq_cons_iff.mp same.symm
    rw [inj x List.mem_cons_self y List.mem_cons_self here.symm,
      ih (fun u left v right =>
        inj u (List.mem_cons_of_mem x left) v (List.mem_cons_of_mem y right)) there.symm]

structure CoordinateArg.IsPlain (arg : CoordinateArg) : Prop where
  type : IsWord arg.type
  name : IsWord arg.name

namespace Dispatch

theorem argLine_inj {a b : CoordinateArg} (ha : a.IsPlain) (hb : b.IsPlain)
    (same : argLine a = argLine b) : a = b := by
  have split (arg : CoordinateArg) : arg.statement =
      arg.type ++ ' ' :: (arg.name ++ ' ' :: ("= " ++ arg.value ++ ";")) := by
    simp [CoordinateArg.statement]
  have statements : a.statement = b.statement := List.append_cancel_left same
  rw [split a, split b] at statements
  obtain ⟨types, behind⟩ := word_append_inj ha.type.chars hb.type.chars rfl rfl statements
  obtain ⟨names, -⟩ := word_append_inj ha.name.chars hb.name.chars rfl rfl (List.cons.inj behind).2
  obtain ⟨type, name⟩ := a
  obtain ⟨otherType, otherName⟩ := b
  obtain rfl : type = otherType := types
  obtain rfl : name = otherName := names
  rfl

theorem wrapper_eq_iff {main : Text} {resources : List Resource} {policy : ResourcePolicy}
    {a b : List CoordinateArg} (ha : ∀ arg ∈ a, arg.IsPlain) (hb : ∀ arg ∈ b, arg.IsPlain) :
    wrapper main resources a policy = wrapper main resources b policy ↔ a = b := by
  constructor
  · intro same
    have lengths := congrArg List.length same
    unfold wrapper at same lengths
    simp only [List.length_append, List.length_map, List.length_cons, List.length_nil] at lengths
    obtain ⟨fronts, -⟩ :=
      List.append_inj same (by simp only [List.length_append, List.length_map]; omega)
    have lines : a.map argLine = b.map argLine := List.append_cancel_left fronts
    exact eq_of_map_eq (fun x left y right => argLine_inj (ha x left) (hb y right)) lines
  · rintro rfl
    rfl

end Dispatch

namespace EntryPoint

section Listing

variable {marker : EntryMarker} {slots : List CoordinateSlot} {listing : List CoordinateParam}
  {after : Text} {shader : Shader}

theorem ofMarker_listing
    (declared : marker.params =
      List.intercalate "," (slots.map CoordinateSlot.written) ++ ')' :: after)
    (distinct : (slots.map (·.param.var)).Nodup)
    (structs : unwrapStructs shader.structParams marker.params = marker.params)
    (permuted : listing.Perm (slots.map CoordinateSlot.param)) (number : Nat)
    (resources : List Resource) (suffix : Option Text) (policy : ResourcePolicy) :
    let main := exportName marker.name suffix
    (ofMarker marker number { shader with builtinParams := listing.map CoordinateParam.listed }
        resources suffix policy).1 =
      { line := marker.before ++ Dispatch.implementationName main ++ "(" ++ withResources resources
          (List.intercalate "," (slots.map CoordinateSlot.lowered) ++ ')' :: after)
        mainName := main
        args := listing.map CoordinateParam.arg
        wrapper := Dispatch.wrapper main resources (listing.map CoordinateParam.arg) policy } := by
  obtain ⟨params, args⟩ := CoordinateSlot.run_joined marker.line number distinct permuted after
  rw [← declared, ← structs] at params args
  simp only [ofMarker, ofScan, params, args]

/-- The implementation declares its coordinates in the order of the entry line, whatever the order
of the listing. The coordinates are recorded, declared in the loop and passed in the order of the
listing, so they are those of the signature just when the two orders are the same. -/
theorem coordinates_follow_listing
    (declared : marker.params =
      List.intercalate "," (slots.map CoordinateSlot.written) ++ ')' :: after)
    (distinct : (slots.map (·.param.var)).Nodup)
    (structs : unwrapStructs shader.structParams marker.params = marker.params)
    (permuted : listing.Perm (slots.map CoordinateSlot.param)) (number : Nat)
    (resources : List Resource) (suffix : Option Text) (policy : ResourcePolicy) :
    let signature := slots.map CoordinateSlot.param
    let entry (order : List CoordinateParam) := (ofMarker marker number
      { shader with builtinParams := order.map CoordinateParam.listed } resources suffix policy).1
    (entry listing).line = marker.before ++ (entry listing).implementationName ++ "(" ++
        withResources resources
        (List.intercalate "," (slots.map CoordinateSlot.lowered) ++ ')' :: after) ∧
    (entry listing).line = (entry signature).line ∧
    (entry listing).args = listing.map CoordinateParam.arg ∧
    (entry listing).wrapper =
      Dispatch.wrapper (entry listing).mainName resources (listing.map CoordinateParam.arg) policy ∧
    ((entry listing).args = (entry signature).args ↔ listing = signature) ∧
    ((entry listing).wrapper = (entry signature).wrapper ↔ listing = signature) := by
  intro signature entry
  have given : entry listing = _ :=
    ofMarker_listing declared distinct structs permuted number resources suffix policy
  have ordered : entry signature = _ :=
    ofMarker_listing declared distinct structs (List.Perm.refl signature) number
      resources suffix policy
  have plain {order : List CoordinateParam} (permuted : order.Perm signature) :
      ∀ arg ∈ order.map CoordinateParam.arg, arg.IsPlain := by
    intro arg member
    obtain ⟨param, listed, rfl⟩ := List.mem_map.mp member
    obtain ⟨slot, -, rfl⟩ := List.mem_map.mp (permuted.mem_iff.mp listed)
    exact ⟨slot.proper.type, slot.proper.var⟩
  have vars : (signature.map CoordinateParam.var).Nodup := by
    rw [List.map_map]
    exact distinct
  have same : listing.map CoordinateParam.arg = signature.map CoordinateParam.arg ↔
      listing = signature := by
    refine ⟨eq_of_map_eq ?_, congrArg _⟩
    intro x left y right alike
    exact List.inj_on_of_nodup_map vars (permuted.mem_iff.mp left) right
      (congrArg CoordinateArg.name alike)
  rw [given, ordered]
  refine ⟨rfl, rfl, rfl, rfl, same, ?_⟩
  rw [← same]
  exact Dispatch.wrapper_eq_iff (plain permuted) (plain (List.Perm.refl signature))

/-- Two coordinates with blanks of all kinds around them, listed in reverse. -/
theorem coordinates_follow_listing_reversed :
    let first : CoordinateParam := ⟨"SV_DispatchThreadID", "uint3", "id"⟩
    let second : CoordinateParam := ⟨"sv_dispatchthreadid", "uint3", "idx"⟩
    let shader : Shader := { name := "Reversed", stage := .comp }
    let entry (order : List CoordinateParam) := fun marker : EntryMarker =>
      (ofMarker marker 1 { shader with builtinParams := order.map CoordinateParam.listed } []
        none .alias).1
    ∃ marker, EntryMarker.find?
        "void CS_MAIN( SV_DispatchThreadID(uint3)\tid , sv_dispatchthreadid(uint3)  idx) \x7b" =
          some marker ∧
      (entry [second, first] marker).line = (entry [first, second] marker).line ∧
      (entry [second, first] marker).args = [second.arg, first.arg] ∧
      (entry [second, first] marker).wrapper ≠ (entry [first, second] marker).wrapper := by
  intro first second shader entry
  let slots : List CoordinateSlot :=
    [⟨" ", first, "\t", " ", by decide, ⟨by decide, List.all_eq_true.mp (by decide)⟩,
        List.all_eq_true.mp (by decide), List.all_eq_true.mp (by decide)⟩,
     ⟨" ", second, "  ", "", by decide, ⟨by decide, List.all_eq_true.mp (by decide)⟩,
        List.all_eq_true.mp (by decide), List.all_eq_true.mp (by decide)⟩]
  let marker : EntryMarker :=
    ⟨"void ", "CS_MAIN", " SV_DispatchThreadID(uint3)\tid , sv_dispatchthreadid(uint3)  idx) \x7b"⟩
  have declared : marker.params =
      List.intercalate "," (slots.map CoordinateSlot.written) ++ ')' :: " \x7b".toList := by
    decide +kernel
  have structs : unwrapStructs shader.structParams marker.params = marker.params := rfl
  obtain ⟨-, line, args, -, -, wrapper⟩ := coordinates_follow_listing declared (by decide) structs
    (List.Perm.swap first second []) 1 [] none .alias
  exact ⟨marker, by decide +kernel, line, args, mt wrapper.mp (by decide)⟩

/-- A call that passes its coordinates in another order than the implementation declares them. -/
theorem coordinates_passed_as_listed :
    let shader : Shader :=
      { name := "s", stage := .comp
        builtinParams :=
          [⟨"SV_DispatchThreadID(uint)", "i"⟩, ⟨"SV_DispatchThreadID(uint3)", "id"⟩] }
    ∃ marker, EntryMarker.find?
        "void CS_MAIN(SV_DispatchThreadID(uint3) id, SV_DispatchThreadID(uint) i)" = some marker ∧
      let entry := (ofMarker marker 1 shader [] (some "TEST") .alias).1
      entry.line = "void CS_MAIN_TEST_impl(uint3 id, uint i)" ∧
        entry.args = [⟨"uint", "i"⟩, ⟨"uint3", "id"⟩] ∧
        "        CS_MAIN_TEST_impl(i, id);".toList ∈ entry.wrapper := by
  intro shader
  refine ⟨⟨"void ", "CS_MAIN", "SV_DispatchThreadID(uint3) id, SV_DispatchThreadID(uint) i)"⟩, ?_⟩
  decide +kernel

end Listing

end EntryPoint

end IspcShader
