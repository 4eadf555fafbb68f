import ApiGraph.Conversion.Operation
import ApiGraph.Proofs.Conversion.Components

namespace ApiGraph

/-! # The conversion of operations

The conversion of an operation changes its state only by converting schemas, by warnings and by
counting the handler. What all of these keep holds before and after any number of operations,
whether they succeed or fail. -/

namespace Converting

variable {α β : Type} {Holds : Progress → Prop} {Means : α → Prop} {Meaning : β → Prop}

theorem run_bind (action : Converting α) (next : α → Converting β) (progress : Progress) :
    (action >>= next).run progress =
      match (action.run progress).1 with
      | .ok value => (next value).run (action.run progress).2
      | .error error => (.error error, (action.run progress).2) := by
  change (ExceptT.bindCont next (action.run progress).1) (action.run progress).2 = _
  cases (action.run progress).1 <;> rfl

/-- What holds of the state before holds of it afterwards, and a result has a property. -/
def Keeps (Holds : Progress → Prop) (action : Converting α) (Means : α → Prop) : Prop :=
  ∀ progress, Holds progress → Holds (action.run progress).2 ∧
    ∀ value, (action.run progress).1 = .ok value → Means value

theorem Keeps.pure {value : α} (means : Means value) :
    Keeps Holds (Pure.pure value : Converting α) Means := by
  intro progress holds
  refine ⟨holds, ?_⟩
  intro result success
  cases success
  exact means

theorem Keeps.bind {action : Converting α} {next : α → Converting β}
    (first : Keeps Holds action Means)
    (second : ∀ value, Means value → Keeps Holds (next value) Meaning) :
    Keeps Holds (action >>= next) Meaning := by
  intro progress holds
  rcases first progress holds with ⟨kept, means⟩
  rw [run_bind]
  cases outcome : (action.run progress).1 with
  | ok value => exact second value (means value outcome) _ kept
  | error error =>
      refine ⟨kept, ?_⟩
      intro value success
      cases success

theorem Keeps.modify {change : Progress → Progress}
    (changes : ∀ progress, Holds progress → Holds (change progress)) :
    Keeps Holds (modify change : Converting Unit) fun _ => True := by
  intro progress holds
  exact ⟨changes progress holds, fun _ _ => trivial⟩

theorem Keeps.mapM {action : α → Converting β} (each : ∀ value, Keeps Holds (action value) Meaning)
    (values : List α) : Keeps Holds (values.mapM action) fun _ => True := by
  induction values with
  | nil =>
      rw [List.mapM_nil]
      exact .pure trivial
  | cons value rest induction =>
      rw [List.mapM_cons]
      apply (each value).bind
      intro _ _
      apply induction.bind
      intro _ _
      exact .pure trivial

end Converting

open Converting

/-- A property of the state that no part of the conversion of an operation ends. -/
structure Document.Maintains (document : Document) (Holds : Progress → Prop) : Prop where
  converts : ∀ progress slot location, Holds progress →
    Holds (convertSchema document progress slot location).state
  warns : ∀ progress warning, Holds progress → Holds (progress.warn warning)
  counts : ∀ progress, Holds progress → Holds progress.countHandler

section Operation

variable {document : Document} {Holds : Progress → Prop} (maintains : document.Maintains Holds)

include maintains

theorem keeps_slot (slot : SchemaSlot) (location : String) :
    Keeps Holds (document.schemaConversion.slot slot location)
      fun _ => True := by
  intro progress holds
  exact ⟨maintains.converts progress slot location holds, fun _ _ => trivial⟩

theorem keeps_parameterType (parameter : Parameter) (location : String) :
    Keeps Holds (document.schemaConversion.parameterType parameter location) fun _ => True := by
  unfold SchemaConversion.parameterType
  split
  · exact keeps_slot maintains _ _
  · refine (Keeps.modify ?_).bind fun _ _ => .pure trivial
    intro progress holds
    exact maintains.warns progress _ holds

theorem keeps_parameter (handler : String) (parameter : Parameter) :
    Keeps Holds (document.schemaConversion.parameter handler parameter) fun _ => True :=
  (keeps_parameterType maintains parameter _).bind fun _ _ => .pure trivial

theorem keeps_body (location : String) (slot? : Option SchemaSlot) :
    Keeps Holds (document.schemaConversion.body location slot?) fun _ => True := by
  unfold SchemaConversion.body
  split
  · exact .pure trivial
  · exact (keeps_slot maintains _ _).bind fun _ _ => .pure trivial

omit maintains in
theorem keeps_lift {α : Type} (result : Except BuildError α) :
    Keeps Holds (ConvertingIn.lift result) fun _ => True := by
  intro progress holds
  exact ⟨holds, fun _ _ => trivial⟩

theorem keeps_convertOperation (entry : OperationEntry) :
    Keeps Holds (convertOperation document entry) fun _ => True := by
  unfold convertOperation SchemaConversion.operation
  refine (keeps_lift _).bind fun parameters _ => ?_
  refine (Keeps.mapM (keeps_parameter maintains _) _).bind fun fields _ => ?_
  refine (keeps_lift _).bind fun request _ => ?_
  refine (keeps_body maintains _ _).bind fun requestBody _ => ?_
  refine (keeps_lift _).bind fun response _ => ?_
  refine (keeps_body maintains _ _).bind fun responseBody _ => ?_
  refine (Keeps.modify ?_).bind fun _ _ => .pure trivial
  exact maintains.counts

end Operation

/-! ## What operations leave behind -/

theorem yields_resolveReference (document : Document) (progress : Progress)
    (path location : String) (faithful : progress.registry.Faithful document) :
    Conversion.Yields (resolveReference document progress path location)
      (Registry.HoldsTarget document path) := by
  unfold resolveReference
  split
  next => exact .fail faithful _
  next name known found =>
    exact (yields_convertNamed document progress name faithful).holdsTarget
      (Document.target?_eq_some found)

theorem yields_convertSchema (document : Document) (progress : Progress) (slot : SchemaSlot)
    (location : String) (faithful : progress.registry.Faithful document) :
    Conversion.Yields (convertSchema document progress slot location)
      (Registry.HoldsSlot document slot) := by
  unfold convertSchema
  apply yields_convertSlot
  · intro progress _ path location faithful
    exact yields_resolveReference document progress path location faithful
  · exact faithful

/-- The registry stays faithful to the document. -/
theorem maintains_faithful (document : Document) :
    document.Maintains fun progress => progress.registry.Faithful document where
  converts progress slot location faithful :=
    (yields_convertSchema document progress slot location faithful).faithful
  warns _ _ faithful := faithful
  counts _ faithful := faithful

end ApiGraph
