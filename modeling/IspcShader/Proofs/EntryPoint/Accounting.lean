import Mathlib.Logic.ExistsUnique
import IspcShader.Proofs.EntryPoint.Lookup
import IspcShader.Proofs.EntryPoint.Marker

/-!
What becomes of the builtin parameters of an entry point. Each is looked up in the text that the
ones before it have left, and has one outcome: it is missing, it is passed by the wrapper, or it is
a builtin that the wrapper cannot supply. The recorded coordinates, the warnings and the parameter
text are read off the history of these outcomes.
-/
namespace IspcShader

open Text

/-- The coordinate that a builtin parameter stands for: the inside of its macro, and its
variable. -/
def Parameter.coordinate (param : Parameter) : CoordinateArg :=
  ⟨Macro.unwrap param.type, param.var⟩

def trailingDigit? (type : Text) : Option Nat :=
  type.getLast?.bind fun c => if c.isDigit then some (c.toNat - '0'.toNat) else none

theorem CoordinateArg.lanes_eq (arg : CoordinateArg) :
    arg.lanes = (trailingDigit? arg.type).getD 1 := by
  unfold lanes trailingDigit?
  cases arg.type.getLast? with
  | none => rfl
  | some c =>
    rw [Option.bind_some]
    dsimp only
    split <;> rfl

/-- What is reported of a coordinate that is passed: nothing, unless the last digit of its type is
above three. -/
def CoordinateArg.warnings (arg : CoordinateArg) (number : Nat) : List Event :=
  match trailingDigit? arg.type with
  | some digit => if 3 < digit then [.excessComponents arg.name digit number] else []
  | none => []

theorem CoordinateArg.warnings_eq (arg : CoordinateArg) (number : Nat) :
    arg.warnings number = if arg.isTooWide then [.excessComponents arg.name arg.lanes number]
      else [] := by
  have wide : arg.isTooWide = decide (3 < arg.lanes) := rfl
  rw [wide, arg.lanes_eq, warnings]
  cases trailingDigit? arg.type with
  | none => rfl
  | some digit => simp

def Event.isRefusal : Event → Bool
  | missingParam .. | unsupportedBuiltin .. => true
  | _ => false

namespace BuiltinScan

inductive Outcome where
  | missing
  | passed
  | unsupported
  deriving DecidableEq, Repr

def Outcome.warnings (entryLine : Text) (number : Nat) (param : Parameter) : Outcome → List Event
  | missing => [.missingParam param.type param.var (trim entryLine) number]
  | passed => param.coordinate.warnings number
  | unsupported => [.unsupportedBuiltin param.type param.var number]

/-- One look-up: the parameter text before it, the outcome, and the text after it. Where the
parameter is found, its type, the blanks and the variable give way to the inside of the type and the
variable; all around them stays. -/
inductive Visits (param : Parameter) : Text → Outcome → Text → Prop
  | missing {params : Text} (search : param.Search params none) :
      Visits param params .missing params
  | passed {before blanks after : Text}
      (search : param.Search (before ++ (param.type ++ blanks ++ param.var) ++ after)
        (some (before, after)))
      (named : sameIgnoringCase (Macro.outerName param.type) "SV_DispatchThreadID" = true) :
      Visits param (before ++ (param.type ++ blanks ++ param.var) ++ after) .passed
        (before ++ (Macro.unwrap param.type ++ " " ++ param.var) ++ after)
  | unsupported {before blanks after : Text}
      (search : param.Search (before ++ (param.type ++ blanks ++ param.var) ++ after)
        (some (before, after)))
      (named : sameIgnoringCase (Macro.outerName param.type) "SV_DispatchThreadID" = false) :
      Visits param (before ++ (param.type ++ blanks ++ param.var) ++ after) .unsupported
        (before ++ (Macro.unwrap param.type ++ " " ++ param.var) ++ after)

/-- The look-ups of a scan in their order, from the parameter text at its start to the one at its
end. -/
inductive History : Text → List (Parameter × Outcome) → Text → Prop
  | nil (params : Text) : History params [] params
  | cons {params next final : Text} {param : Parameter} {outcome : Outcome}
      {looks : List (Parameter × Outcome)}
      (first : Visits param params outcome next) (more : History next looks final) :
      History params ((param, outcome) :: looks) final

def recorded (looks : List (Parameter × Outcome)) : List CoordinateArg :=
  (looks.filter fun look => look.2 = .passed).map fun look => look.1.coordinate

def reported (entryLine : Text) (number : Nat) (looks : List (Parameter × Outcome)) : List Event :=
  looks.flatMap fun look => look.2.warnings entryLine number look.1

section Visit

variable {entryLine : Text} {number : Nat} {scan : BuiltinScan} {param : Parameter}
  {outcome : Outcome}
variable {params next before after : Text}

theorem visit_of_missing (located : param.locate? scan.params = none) :
    visit entryLine number scan param =
      ⟨scan.params, scan.args, scan.events ++
        Outcome.warnings entryLine number param .missing⟩ := by
  rw [visit, located]
  rfl

theorem visit_of_coordinate (located : param.locate? scan.params = some (before, after))
    (named : param.isDispatchCoordinate = true) :
    visit entryLine number scan param =
      ⟨before ++ (Macro.unwrap param.type ++ " " ++ param.var) ++ after,
        scan.args ++ [param.coordinate],
        scan.events ++ Outcome.warnings entryLine number param .passed⟩ := by
  rw [visit, located, Outcome.warnings, CoordinateArg.warnings_eq]
  simp only [record, named, if_true, List.append_assoc]
  rfl

theorem visit_of_other (located : param.locate? scan.params = some (before, after))
    (named : param.isDispatchCoordinate = false) :
    visit entryLine number scan param =
      ⟨before ++ (Macro.unwrap param.type ++ " " ++ param.var) ++ after, scan.args,
        scan.events ++ Outcome.warnings entryLine number param .unsupported⟩ := by
  rw [visit, located]
  simp only [record, named, Bool.false_eq_true, if_false, List.append_assoc]
  rfl

/-- A look-up takes nothing back, and records no name but that of its variable. -/
theorem exists_visit_append (entryLine : Text) (number : Nat) (scan : BuiltinScan)
    (param : Parameter) :
    ∃ args events, (visit entryLine number scan param).args = scan.args ++ args ∧
      (visit entryLine number scan param).events = scan.events ++ events ∧
      (args.map CoordinateArg.name).Sublist [param.var] := by
  cases located : param.locate? scan.params with
  | none =>
    rw [visit_of_missing located]
    exact ⟨[], _, (List.append_nil _).symm, rfl, List.nil_sublist _⟩
  | some place =>
    cases named : param.isDispatchCoordinate with
    | true =>
      rw [visit_of_coordinate located named]
      exact ⟨[param.coordinate], _, rfl, rfl, List.Sublist.refl _⟩
    | false =>
      rw [visit_of_other located named]
      exact ⟨[], _, (List.append_nil _).symm, rfl, List.nil_sublist _⟩

theorem exists_foldl_append (entryLine : Text) (number : Nat) (scan : BuiltinScan)
    (builtins : List Parameter) :
    ∃ args events, (builtins.foldl (visit entryLine number) scan).args = scan.args ++ args ∧
      (builtins.foldl (visit entryLine number) scan).events = scan.events ++ events ∧
      (args.map CoordinateArg.name).Sublist (builtins.map Parameter.var) := by
  induction builtins generalizing scan with
  | nil => exact ⟨[], [], (List.append_nil _).symm, (List.append_nil _).symm, List.Sublist.refl _⟩
  | cons param builtins ih =>
    obtain ⟨args, events, recorded, reported, named⟩ :=
      exists_visit_append entryLine number scan param
    obtain ⟨later, laterEvents, recordedLater, reportedLater, namedLater⟩ :=
      ih (visit entryLine number scan param)
    refine ⟨args ++ later, events ++ laterEvents, ?_, ?_, ?_⟩
    · rw [List.foldl_cons, recordedLater, recorded, List.append_assoc]
    · rw [List.foldl_cons, reportedLater, reported, List.append_assoc]
    · rw [List.map_append]
      exact named.append namedLater

theorem Visits.visit_eq (typed : param.type ≠ []) (visits : Visits param params outcome next)
    (entryLine : Text) (number : Nat) (args : List CoordinateArg) (events : List Event) :
    visit entryLine number ⟨params, args, events⟩ param =
      ⟨next, args ++ recorded [(param, outcome)],
        events ++ outcome.warnings entryLine number param⟩ := by
  cases visits with
  | missing search =>
    rw [visit_of_missing (search.locate?_eq typed)]
    simp [recorded]
  | passed search named =>
    rw [visit_of_coordinate (search.locate?_eq typed) named]
    simp [recorded]
  | unsupported search named =>
    rw [visit_of_other (search.locate?_eq typed) named]
    simp [recorded]

theorem Visits.unique {outcome' : Outcome} {next' : Text} (typed : param.type ≠ [])
    (visits : Visits param params outcome next) (visits' : Visits param params outcome' next') :
    outcome = outcome' ∧ next = next' := by
  -- a scan that starts empty tells the outcomes apart by what it records and reports
  have same := (visits.visit_eq typed [] 0 [] []).symm.trans (visits'.visit_eq typed [] 0 [] [])
  obtain ⟨texts, args, events⟩ := BuiltinScan.mk.inj same
  refine ⟨?_, texts⟩
  cases outcome <;> cases outcome' <;> simp_all [recorded, Outcome.warnings]

theorem exists_visits (typed : param.type ≠ []) (params : Text) :
    ∃ outcome next, Visits param params outcome next := by
  have search := Parameter.search_locate? typed params
  cases located : param.locate? params with
  | none =>
    rw [located] at search
    exact ⟨_, _, .missing search⟩
  | some place =>
    obtain ⟨before, after⟩ := place
    obtain ⟨blanks, rfl, -⟩ := Parameter.append_of_locate? located
    rw [located] at search
    cases named : sameIgnoringCase (Macro.outerName param.type) "SV_DispatchThreadID" with
    | true => exact ⟨_, _, .passed search named⟩
    | false => exact ⟨_, _, .unsupported search named⟩

end Visit

section History

variable {params final : Text} {looks : List (Parameter × Outcome)}

theorem recorded_cons (look : Parameter × Outcome) (looks : List (Parameter × Outcome)) :
    recorded (look :: looks) = recorded [look] ++ recorded looks := by
  rw [recorded, List.filter_cons]
  split
  · next passed => simp [recorded, passed]
  · next other => simp [recorded, other]

/-- A scan records and reports what its history says, behind what was there before. -/
theorem History.foldl_eq (history : History params looks final)
    (typed : ∀ look ∈ looks, look.1.type ≠ []) (entryLine : Text) (number : Nat)
    (args : List CoordinateArg) (events : List Event) :
    (looks.map Prod.fst).foldl (visit entryLine number) ⟨params, args, events⟩ =
      ⟨final, args ++ recorded looks, events ++ reported entryLine number looks⟩ := by
  induction history generalizing args events with
  | nil params => simp [recorded, reported]
  | @cons params next final param outcome looks first more ih =>
    have here :=
      first.visit_eq (typed (param, outcome) List.mem_cons_self) entryLine number args events
    rw [List.map_cons, List.foldl_cons, here,
      ih fun look member => typed look (List.mem_cons_of_mem _ member),
      recorded_cons (param, outcome) looks]
    simp [reported]

theorem exists_history {builtins : List Parameter} (typed : ∀ param ∈ builtins, param.type ≠ [])
    (params : Text) :
    ∃ looks final, looks.map Prod.fst = builtins ∧ History params looks final := by
  induction builtins generalizing params with
  | nil => exact ⟨[], params, rfl, .nil params⟩
  | cons param builtins ih =>
    obtain ⟨outcome, next, first⟩ := exists_visits (typed param List.mem_cons_self) params
    obtain ⟨looks, final, listed, more⟩ :=
      ih (fun other member => typed other (List.mem_cons_of_mem _ member)) next
    exact ⟨(param, outcome) :: looks, final, by rw [List.map_cons, listed], .cons first more⟩

theorem History.unique {looks' : List (Parameter × Outcome)} {final' : Text}
    (history : History params looks final) (history' : History params looks' final')
    (typed : ∀ look ∈ looks, look.1.type ≠ []) (same : looks.map Prod.fst = looks'.map Prod.fst) :
    looks = looks' := by
  induction history generalizing looks' with
  | nil params => exact (List.map_eq_nil_iff.mp same.symm).symm
  | @cons params next final param outcome looks first more ih =>
    cases history' with
    | nil => cases same
    | cons first' more' =>
      obtain ⟨rfl, rest⟩ := List.cons.inj same
      obtain ⟨rfl, rfl⟩ := first.unique (typed (param, outcome) List.mem_cons_self) first'
      rw [ih more' (fun look member => typed look (List.mem_cons_of_mem _ member)) rest]

/-- Each parameter is recorded or refused, and no parameter is both. -/
theorem length_recorded (entryLine : Text) (number : Nat) (looks : List (Parameter × Outcome)) :
    (recorded looks).length + (reported entryLine number looks).countP Event.isRefusal =
      looks.length := by
  have each (look : Parameter × Outcome) :
      (recorded [look]).length + (look.2.warnings entryLine number look.1).countP
        Event.isRefusal = 1 := by
    obtain ⟨param, outcome⟩ := look
    cases outcome with
    | missing => rfl
    | unsupported => rfl
    | passed =>
      dsimp only
      rw [Outcome.warnings, CoordinateArg.warnings_eq]
      split <;> rfl
  induction looks with
  | nil => rfl
  | cons look looks ih =>
    have here := each look
    have split : reported entryLine number (look :: looks) =
        look.2.warnings entryLine number look.1 ++ reported entryLine number looks := rfl
    rw [recorded_cons, split, List.length_append, List.countP_append, List.length_cons]
    omega

theorem level_of_mem_reported {entryLine : Text} {number : Nat} {event : Event}
    (member : event ∈ reported entryLine number looks) : event.level = .warn := by
  obtain ⟨⟨param, outcome⟩, -, warned⟩ := List.mem_flatMap.mp member
  cases outcome with
  | missing =>
    rw [List.mem_singleton.mp warned]
    rfl
  | unsupported =>
    rw [List.mem_singleton.mp warned]
    rfl
  | passed =>
    dsimp only at warned
    rw [Outcome.warnings, CoordinateArg.warnings_eq] at warned
    split at warned
    · rw [List.mem_singleton.mp warned]
      rfl
    · cases warned

end History

end BuiltinScan

namespace EntryPoint

open BuiltinScan

theorem ofMarker_of_run {marker : EntryMarker} {number : Nat} {shader : Shader} {scan : BuiltinScan}
    (ran : BuiltinScan.run marker.line number shader.builtinParams
      (unwrapStructs shader.structParams marker.params) = scan)
    (resources : List Resource) (suffix : Option Text) (policy : ResourcePolicy) :
    let main := exportName marker.name suffix
    ofMarker marker number shader resources suffix policy =
      ({ line := marker.before ++ Dispatch.implementationName main ++ "(" ++
           withResources resources scan.params
         mainName := main
         args := scan.args
         wrapper := Dispatch.wrapper main resources scan.args policy },
        scan.events ++
          [.entryLowered number marker.name main resources.length scan.args.length]) := by
  subst ran
  rfl

/-- A lowered entry point and its events account for the builtin parameters of the shader by a
history of their look-ups. -/
structure Accounts (line : Text) (marker : EntryMarker) (number : Nat) (shader : Shader)
    (resources : List Resource) (entry : EntryPoint) (events : List Event)
    (looks : List (Parameter × Outcome)) : Prop where
  listed : looks.map Prod.fst = shader.builtinParams
  history : ∃ final, History (unwrapStructs shader.structParams marker.params) looks final ∧
    entry.line = marker.before ++ entry.implementationName ++ "(" ++ withResources resources final
  recorded : entry.args = recorded looks
  reported : events = reported line number looks ++
    [.entryLowered number marker.name entry.mainName resources.length entry.args.length]
  levels : events.map Event.level = List.replicate (events.length - 1) .warn ++ [.debug]
  counted : entry.args.length + events.countP Event.isRefusal = shader.builtinParams.length

theorem accounts_of_history {line : Text} {marker : EntryMarker} {shader : Shader} {number : Nat}
    {looks : List (Parameter × Outcome)} {final : Text}
    (found : EntryMarker.find? line = some marker)
    (typed : ∀ param ∈ shader.builtinParams, param.type ≠ [])
    (listed : looks.map Prod.fst = shader.builtinParams)
    (history : History (unwrapStructs shader.structParams marker.params) looks final)
    (resources : List Resource) (suffix : Option Text) (policy : ResourcePolicy) :
    let lowered := ofMarker marker number shader resources suffix policy
    Accounts line marker number shader resources lowered.1 lowered.2 looks := by
  intro lowered
  have types : ∀ look ∈ looks, look.1.type ≠ [] := fun look member =>
    typed look.1 (listed ▸ List.mem_map_of_mem member)
  have ran := history.foldl_eq types marker.line number [] []
  rw [listed] at ran
  have shape : lowered = _ := ofMarker_of_run ran resources suffix policy
  have split := EntryMarker.line_of_find? found
  rw [shape]
  dsimp only
  rw [List.nil_append, List.nil_append, split]
  have levels : (BuiltinScan.reported line number looks).map Event.level =
      List.replicate (BuiltinScan.reported line number looks).length .warn := by
    refine List.eq_replicate_iff.mpr ⟨List.length_map _, ?_⟩
    intro level member
    obtain ⟨event, warned, rfl⟩ := List.mem_map.mp member
    exact level_of_mem_reported warned
  refine ⟨listed, ⟨final, history, rfl⟩, rfl, rfl, ?_, ?_⟩
  · rw [List.map_append, levels, List.length_append]
    rfl
  · rw [List.countP_append, ← listed, List.length_map]
    exact length_recorded line number looks

/-- Every builtin parameter of an entry point has one outcome, and nothing but these outcomes shows
in the recorded coordinates, the events and the parameters of the implementation. -/
theorem builtins_accounted {line : Text} {marker : EntryMarker} {shader : Shader}
    (found : EntryMarker.find? line = some marker)
    (typed : ∀ param ∈ shader.builtinParams, param.type ≠ []) (number : Nat)
    (resources : List Resource) (suffix : Option Text) (policy : ResourcePolicy) :
    let lowered := ofMarker marker number shader resources suffix policy
    ∃! looks, Accounts line marker number shader resources lowered.1 lowered.2 looks := by
  intro lowered
  obtain ⟨looks, final, listed, history⟩ :=
    exists_history typed (unwrapStructs shader.structParams marker.params)
  refine ⟨looks, accounts_of_history found typed listed history resources suffix policy, ?_⟩
  intro others accounts
  obtain ⟨final', history', -⟩ := accounts.history
  refine history'.unique history ?_ (accounts.listed.trans listed.symm)
  exact fun look member => typed look.1 (accounts.listed ▸ List.mem_map_of_mem member)

/-- A coordinate that is listed twice is found once, since the first look-up takes its macro off. -/
theorem builtins_accounted_repeated :
    let line : Text := "void CS_MAIN(SV_DispatchThreadID(uint4) id, SV_GroupIndex(uint) gi)"
    let marker : EntryMarker :=
      ⟨"void ", "CS_MAIN", "SV_DispatchThreadID(uint4) id, SV_GroupIndex(uint) gi)"⟩
    let coordinate : Parameter := ⟨"SV_DispatchThreadID(uint4)", "id"⟩
    let shader : Shader :=
      { name := "Repeated", stage := .comp,
        builtinParams := [coordinate, ⟨"SV_GroupIndex(uint)", "gi"⟩, coordinate] }
    let lowered := ofMarker marker 7 shader [] none .alias
    EntryMarker.find? line = some marker ∧ (∀ param ∈ shader.builtinParams, param.type ≠ []) ∧
      (∃! looks, Accounts line marker 7 shader [] lowered.1 lowered.2 looks) ∧
      lowered.1.args = [⟨"uint4", "id"⟩] ∧ lowered.1.line = "void CS_MAIN_impl(uint4 id, uint gi)" ∧
      lowered.2.countP Event.isRefusal = 2 := by
  intro line marker coordinate shader lowered
  have found : EntryMarker.find? line = some marker := by decide +kernel
  have typed : ∀ param ∈ shader.builtinParams, param.type ≠ [] := by decide
  refine ⟨found, typed, builtins_accounted found typed 7 [] none .alias, ?_, ?_, ?_⟩
  · decide +kernel
  · decide +kernel
  · decide +kernel

end EntryPoint

end IspcShader
