import IspcShader.Proofs.File.Atomic

/-!
Which files a program changes. A file is told apart from the paths that lead to it, so that several
paths may lead to one file. The files in memory are told apart by their places.
-/
namespace IspcShader

/-- Access to files under which reading changes nothing, and writing gives the whole text to the one
file that the path leads to, or fails and changes nothing. -/
structure FileAccess.IsOrderly {σ ι : Type} (files : FileAccess (StateM σ))
    (holds : σ → ι → Option Content) (leadsTo : σ → Path → Option ι) : Prop where
  read : ∀ (store : σ) (path : Path), ((files.read path).run store).2 = store
  readBundled : ∀ store : σ, (files.readBundled.run store).2 = store
  written : ∀ {store store' : σ} {path : Path} {text : Text},
    (files.write path text).run store = (.ok (), store') →
      ∃ file, leadsTo store' path = some file ∧ holds store' file = some (.text text) ∧
        ∀ other, other ≠ file → holds store' other = holds store other
  refused : ∀ {store store' : σ} {path : Path} {text : Text} {fault : FileFault},
    (files.write path text).run store = (.error fault, store') → holds store' = holds store

namespace Store

def holds (store : Store) (place : Location) : Option Content :=
  match store.node? place with
  | some (.file content) => some content
  | _ => none

def leadsTo (store : Store) (path : Path) : Option Location :=
  match checkPath path with
  | .ok () => (store.follow (store.startOf path) path.components).toOption
  | .error _ => none

theorem isOrderly_access : access.IsOrderly holds leadsTo where
  read _ _ := rfl
  readBundled _ := rfl
  written := by
    intro store store' path text done
    obtain ⟨place, checked, arrives, apart, rfl⟩ := exists_place_of_write (write_of_run_ok done)
    refine ⟨place, ?_, ?_, ?_⟩
    · rw [leadsTo, checked, arrives]
      rfl
    · rw [holds, node?_put _ apart, if_pos rfl]
    · intro other distinct
      rw [holds, node?_put _ apart, if_neg distinct, holds]
  refused := by
    intro store store' path text fault failed
    rw [eq_of_run_error failed]

end Store

end IspcShader
