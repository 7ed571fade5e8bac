import Mathlib.Data.List.Forall2
import IspcShader.Compilation.Basic
import IspcShader.Proofs.Text.Word

/-!
When two binaries export one name. The suffix of an entry name keeps the stem of the file name only,
and of a stem neither the case of a letter nor which character stood in the place of an underscore.
-/
namespace IspcShader

open Text

namespace Binary

def stem (binary : Binary) : Text :=
  binary.filename.takeWhile (· != '.')

/-- Characters that a suffix does not tell apart: one letter in both cases, and any two that are
neither letters nor digits. -/
def Merges (c d : Char) : Prop :=
  c.toUpper = d.toUpper ∨ (c.isAlphanum = false ∧ d.isAlphanum = false)

instance : DecidableRel Merges := fun _ _ => inferInstanceAs (Decidable (_ ∨ _))

theorem isAlphanum_toUpper (c : Char) : c.toUpper.isAlphanum = c.isAlphanum := by
  rcases toUpper_eq_self_or c with same | ⟨n, letter, rfl⟩
  · rw [same]
  · have letters : ∀ n ∈ List.range' 97 26,
        (Char.ofNat n).toUpper.isAlphanum = (Char.ofNat n).isAlphanum := by
      decide +kernel
    exact letters n letter

theorem mangleChar_of_isAlphanum {c : Char} (h : c.isAlphanum = true) : mangleChar c = c.toUpper :=
  if_pos h

theorem mangleChar_of_not_isAlphanum {c : Char} (h : c.isAlphanum = false) : mangleChar c = '_' :=
  if_neg (Bool.not_eq_true _ ▸ h)

theorem mangleChar_eq_underscore_iff (c : Char) : mangleChar c = '_' ↔ c.isAlphanum = false := by
  refine ⟨fun mangled => ?_, mangleChar_of_not_isAlphanum⟩
  by_contra kept
  rw [Bool.not_eq_false] at kept
  rw [mangleChar_of_isAlphanum kept] at mangled
  rw [← isAlphanum_toUpper, mangled] at kept
  exact absurd kept (by decide)

theorem mangleChar_eq_iff (c d : Char) : mangleChar c = mangleChar d ↔ Merges c d := by
  cases left : c.isAlphanum with
  | false =>
    rw [mangleChar_of_not_isAlphanum left, eq_comm, mangleChar_eq_underscore_iff]
    refine ⟨fun right => .inr ⟨left, right⟩, ?_⟩
    rintro (same | ⟨-, right⟩)
    · rw [← isAlphanum_toUpper, ← same, isAlphanum_toUpper, left]
    · exact right
  | true =>
    cases right : d.isAlphanum with
    | false =>
      rw [mangleChar_of_not_isAlphanum right, mangleChar_eq_underscore_iff, left]
      refine iff_of_false Bool.false_ne_true.symm ?_
      rintro (same | ⟨off, -⟩)
      · rw [← isAlphanum_toUpper, same, isAlphanum_toUpper, right] at left
        exact Bool.false_ne_true left
      · exact Bool.false_ne_true (off.symm.trans left)
    | true =>
      rw [mangleChar_of_isAlphanum left, mangleChar_of_isAlphanum right, Merges, left, right]
      simp

theorem mangle_eq_iff (one other : Binary) :
    one.mangle = other.mangle ↔ List.Forall₂ Merges one.stem other.stem := by
  change one.stem.map mangleChar = other.stem.map mangleChar ↔ _
  rw [← List.forall₂_eq_eq_eq, List.forall₂_map_left_iff, List.forall₂_map_right_iff]
  simp only [mangleChar_eq_iff]

end Binary

theorem EntryPoint.exportName_inj (name : Text) {suffix other : Text} :
    exportName name (some suffix) = exportName name (some other) ↔ suffix = other := by
  rw [exportName, exportName, List.append_right_inj]

/-- Two binaries export one name for an entry just when their stems agree place by place, up to the
case of letters and up to which character stands where neither a letter nor a digit does. The lines,
resources and policies around the entry do not matter, nor does anything behind the first dots. -/
theorem mainName_eq_iff_merges {one other : Job} (mangled : one.options.mangleEntry = true)
    (mangled' : other.options.mangleEntry = true) (marker : EntryMarker) (number number' : Nat)
    (resources resources' : List Resource) :
    (EntryPoint.ofMarker marker number one.shader resources one.mangle?
        one.options.policy).1.mainName =
        (EntryPoint.ofMarker marker number' other.shader resources' other.mangle?
          other.options.policy).1.mainName ↔
      List.Forall₂ Binary.Merges one.binary.stem other.binary.stem := by
  have left : one.mangle? = some one.binary.mangle := if_pos mangled
  have right : other.mangle? = some other.binary.mangle := if_pos mangled'
  rw [left, right, ← Binary.mangle_eq_iff]
  exact EntryPoint.exportName_inj marker.name

/-- A stem that differs in case and in a mark only, and one that differs in a digit. -/
theorem mainName_eq_iff_merges_halves :
    let half (filename : Text) : Job :=
      { shader := { name := "Blur", stage := .comp }, binary := { filename }, options := {} }
    let marker : EntryMarker := ⟨"void ", "CS_MAIN", ")"⟩
    let main (job : Job) : Text :=
      (EntryPoint.ofMarker marker 1 job.shader [] job.mangle? job.options.policy).1.mainName
    main (half "blur-1.comp") = main (half "Blur_1.frag") ∧
      main (half "blur-1.comp") ≠ main (half "blur-2.comp") := by
  intro half marker main
  have merges (a b : Text) : main (half a) = main (half b) ↔
      List.Forall₂ Binary.Merges (half a).binary.stem (half b).binary.stem :=
    mainName_eq_iff_merges rfl rfl marker 1 1 [] []
  rw [merges, ne_eq, merges]
  constructor
  · decide +kernel
  · decide +kernel

/-- Two passes whose file names differ behind the first dot export one name. -/
theorem passes_export_one_name :
    let pass (filename : Text) : Job :=
      { shader := { name := "Blur", stage := .comp, lines := [⟨0, 1, "void CS_MAIN()"⟩] }
        binary := { filename }
        options := { mangleEntry := true } }
    let first := pass "blur.pass1.comp"
    let second := pass "blur.pass2.comp"
    first.binary.filename ≠ second.binary.filename ∧
      (compile first ⟨[]⟩).entry.map (·.mainName) = some "CS_MAIN_BLUR" ∧
      (compile second ⟨[]⟩).entry.map (·.mainName) = some "CS_MAIN_BLUR" := by
  intro pass first second
  refine ⟨?_, ?_, ?_⟩ <;> decide +kernel

end IspcShader
