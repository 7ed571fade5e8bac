import Mathlib.Tactic.SplitIfs
import IspcShader.File.Store

/-!
Writing a file is all or nothing: the text that is written can be read back, and where writing fails
nothing changes. The files in memory are of this kind, because a path leads to the same place before
and after a file is put at its end.
-/
namespace IspcShader

/-- Access to files that writes a whole text or changes nothing, told by the text that each path
leads to. -/
structure FileAccess.IsAtomic {σ : Type} (files : FileAccess (StateM σ))
    (content : σ → Path → Option Text) : Prop where
  written : ∀ {store store' : σ} {path : Path} {text : Text},
    (files.write path text).run store = (.ok (), store') → content store' path = some text
  refused : ∀ {store store' : σ} {path : Path} {text : Text} {fault : FileFault},
    (files.write path text).run store = (.error fault, store') → content store' = content store

namespace Store

theorem follow_append (store : Store) (place : Location) (front back : List Path.Name) :
    store.follow place (front ++ back) =
      (store.follow place front).bind fun next => store.follow next back := by
  induction front generalizing place with
  | nil => rfl
  | cons component rest ih =>
    rw [List.cons_append, follow, follow]
    simp only [ih]
    split_ifs <;> rfl

section Put

variable {store : Store} {place : Location} (node : Node)
  (apart : store.node? place ≠ some .directory)
include apart

theorem node?_put (other : Location) :
    (store.put place node).node? other = if other = place then some node
      else store.node? other := by
  by_cases same : other = place
  · subst same
    have below : other.isPrefixOf store.workDir = false := by
      rw [Bool.eq_false_iff]
      intro above
      exact apart (if_pos above)
    simp [node?, put, below]
  · have missed : (decide (place = other)) = false := decide_eq_false (Ne.symm same)
    simp only [node?, put, List.find?_cons, missed, if_neg same]

/-- Where no directory was, putting something does not bar the way of any path. -/
theorem follow_put {start found : Location} {components : List Path.Name}
    (reached : store.follow start components = .ok found) :
    (store.put place node).follow start components = .ok found := by
  induction components generalizing start with
  | nil => exact reached
  | cons component rest ih =>
    rw [follow] at reached ⊢
    dsimp only at reached ⊢
    by_cases directory : store.node? start = some .directory
    · have other : start ≠ place := by
        rintro rfl
        exact apart directory
      have still : (store.put place node).node? start = some .directory := by
        rw [node?_put node apart, if_neg other, directory]
      rw [if_pos directory] at reached
      rw [if_pos still]
      by_cases here : Path.isHere component = true
      · rw [if_pos here] at reached ⊢
        exact ih reached
      rw [if_neg here] at reached ⊢
      by_cases up : Path.isUp component = true
      · rw [if_pos up] at reached ⊢
        exact ih reached
      rw [if_neg up] at reached ⊢
      split_ifs at reached with long known
      have kept : ((store.put place node).node? (start ++ [component])).isSome = true := by
        rw [node?_put node apart]
        split
        · rfl
        · exact known
      rw [if_neg long, if_pos kept]
      exact ih reached
    · rw [if_neg directory] at reached
      cases reached

end Put

theorem eq_append_of_lastComponent? {components front : List Path.Name} {last : Path.Name}
    (cut : lastComponent? components = some (front, last, false)) :
    components = front ++ [last] := by
  rcases List.eq_nil_or_concat components with rfl | ⟨before, own, rfl⟩
  · cases cut
  · rw [List.concat_eq_append] at cut ⊢
    unfold lastComponent? at cut
    cases empty : own.isEmpty with
    | true =>
      split at cut
      · cases cut
      · simp [empty] at cut
    | false =>
      simp [empty] at cut
      rw [cut.1, cut.2]

/-- What a path has passed that a text was written to, and what the write leaves. -/
theorem eq_put_of_write {store store' : Store} {path : Path} {text : Text}
    (done : store.write path text = .ok store') :
    ∃ front last parent, checkPath path = .ok () ∧ path.components = front ++ [last] ∧
      store.follow (store.startOf path) front = .ok parent ∧ store.node? parent = some .directory ∧
      Path.isHere last = false ∧ Path.isUp last = false ∧ Path.isLongName last = false ∧
      store.node? (parent ++ [last]) ≠ some .directory ∧
      store' = store.put (parent ++ [last]) (.file (.text text)) := by
  unfold write at done
  simp only [bind, Except.bind] at done
  -- one check after the other; whichever refuses the path gives no store
  split at done
  · cases done
  next checked =>
  split at done
  · cases done
  next front last slashed cut =>
  split at done
  · cases done
  next parent reached =>
  split at done
  · cases done
  next directory =>
  split at done
  · cases done
  next named =>
  split at done
  · cases done
  next long =>
  split at done
  · cases done
  next taken =>
  cases done
  simp only [Bool.or_eq_true, not_or, Bool.not_eq_true] at named
  obtain ⟨⟨rfl, here⟩, up⟩ := named
  exact ⟨front, last, parent, checked, eq_append_of_lastComponent? cut, reached,
    Decidable.not_not.mp directory, here, up, Bool.eq_false_iff.mpr long, taken, rfl⟩

/-- After a write the path leads to the one place that the write has changed. -/
theorem exists_place_of_write {store store' : Store} {path : Path} {text : Text}
    (done : store.write path text = .ok store') :
    ∃ place, checkPath path = .ok () ∧
      store'.follow (store'.startOf path) (path.components) = .ok place ∧
      store.node? place ≠ some .directory ∧ store' = store.put place (.file (.text text)) := by
  obtain ⟨front, last, parent, checked, split, reached, directory, here, up, long, apart, rfl⟩ :=
    eq_put_of_write done
  refine ⟨parent ++ [last], checked, ?_, apart, rfl⟩
  have new : (store.put (parent ++ [last]) (.file (.text text))).node? (parent ++ [last]) =
      some (.file (.text text)) := by
    rw [node?_put _ apart, if_pos rfl]
  have still :
      (store.put (parent ++ [last]) (.file (.text text))).node? parent = some .directory := by
    have other : parent ≠ parent ++ [last] := by simp
    rw [node?_put _ apart, if_neg other, directory]
  have onward : (store.put (parent ++ [last]) (.file (.text text))).follow parent [last] =
      .ok (parent ++ [last]) := by
    simp [follow, still, here, up, long, new]
  have start :
      (store.put (parent ++ [last]) (.file (.text text))).startOf path = store.startOf path := rfl
  rw [split, start, follow_append, follow_put _ apart reached]
  exact onward

theorem read_of_write {store store' : Store} {path : Path} {text : Text}
    (done : store.write path text = .ok store') :
    store'.read path = .ok text := by
  obtain ⟨place, checked, arrives, apart, changed⟩ := exists_place_of_write done
  have new : store'.node? place = some (.file (.text text)) := by
    rw [changed, node?_put _ apart, if_pos rfl]
  simp only [read, checked, arrives, new, bind, Except.bind, pure, Except.pure]

def content (store : Store) (path : Path) : Option Text :=
  (store.read path).toOption

theorem run_access_write (store : Store) (path : Path) (text : Text) :
    (access.write path text).run store =
      match store.write path text with
      | .ok after => (.ok (), after)
      | .error fault => (.error fault, store) := by
  simp only [access, StateT.run_bind, StateT.run_get, pure_bind]
  cases store.write path text <;> rfl

theorem write_of_run_ok {store store' : Store} {path : Path} {text : Text}
    (done : (access.write path text).run store = (.ok (), store')) :
    store.write path text = .ok store' := by
  rw [run_access_write] at done
  cases made : store.write path text with
  | error fault =>
    rw [made] at done
    cases done
  | ok after =>
    rw [made] at done
    cases done
    rfl

theorem eq_of_run_error {store store' : Store} {path : Path} {text : Text} {fault : FileFault}
    (failed : (access.write path text).run store = (.error fault, store')) : store' = store := by
  rw [run_access_write] at failed
  cases made : store.write path text with
  | error other =>
    rw [made] at failed
    cases failed
    rfl
  | ok after =>
    rw [made] at failed
    cases failed

theorem isAtomic_access : access.IsAtomic content where
  written := by
    intro store store' path text done
    rw [content, read_of_write (write_of_run_ok done)]
    rfl
  refused := by
    intro store store' path text fault failed
    rw [eq_of_run_error failed]

end Store

end IspcShader
