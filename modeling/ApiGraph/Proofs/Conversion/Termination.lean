import ApiGraph.Proofs.Conversion.Calls
import Mathlib

namespace ApiGraph

/-! # Every conversion ends

References may lead anywhere, also back to where a conversion came from. Two numbers go down all the
same: how many definitions are left to register, which a component gives up before its definition is
walked, and how much of the definition at hand is left to walk. -/

/-! ## What a call asks for -/

def Frame.asked (document : Document) (frame : Frame) : List Frame :=
  (frame.call.script document frame.progress).asked (Call.perform document)

/-- How much is left to walk. Of what is no part of a definition, a reference comes before the name
that it means, and a name that is only a reference before that of the definition at its end. -/
noncomputable def Call.extent (document : Document) : Call → Nat
  | .components => 2
  | .named name =>
      match document.schema? name with
      | some (.reference _) => 1
      | _ => 0
  | .reference _ _ => 2
  | .type slot _ => sizeOf slot + 2
  | .walk schema _ => sizeOf schema + 2

noncomputable def Frame.left (document : Document) (frame : Frame) : Nat × Nat :=
  (unregistered document frame.progress, frame.call.extent document)

section Asked

variable {document : Document} {progress : Progress} {frame next : Frame}

theorem Script.mem_asked {α : Type} {answers : Answers} {call : Call}
    {goOn : call.Answer → Progress → Script α} :
    frame ∈ (Script.ask call progress goOn).asked answers ↔
      frame = ⟨call, progress⟩ ∨ ∃ value, (answers call progress).1 = .ok value ∧
        frame ∈ (goOn value (answers call progress).2).asked answers := by
  rw [asked, List.mem_cons]
  rcases answers call progress with ⟨result, state⟩
  cases result <;> simp [Outcome.whenOk]

theorem Script.asked_once {α : Type} {answers : Answers} {call : Call}
    {result : call.Answer → Except BuildError α} {change : call.Answer → Progress → Progress} :
    (Script.ask call progress fun value progress =>
      .done (result value) (change value progress)).asked answers = [⟨call, progress⟩] := by
  rw [asked]
  rcases answers call progress with ⟨outcome, state⟩
  cases outcome <;> rfl

theorem Script.mem_asked_once {α : Type} {answers : Answers} {call : Call}
    {result : call.Answer → Except BuildError α} {change : call.Answer → Progress → Progress} :
    frame ∈ (Script.ask call progress fun value progress =>
        .done (result value) (change value progress)).asked answers ↔ frame = ⟨call, progress⟩ := by
  rw [asked_once, List.mem_singleton]

theorem Call.unregistered_perform (call : Call) :
    unregistered document (call.perform document progress).2 ≤ unregistered document progress := by
  cases call with
  | components => exact (convertComponents document progress).within
  | named name => exact (convertNamed document progress name).within
  | reference path location => exact (resolveReference document progress path location).within
  | type slot location => exact (convertSchema document progress slot location).within
  | walk schema location => exact (convertDefinition document progress schema location).within

theorem Call.asked_eachScript {names : List String}
    (member : next ∈ (eachScript names progress).asked (perform document)) :
    unregistered document next.progress ≤ unregistered document progress ∧
      ∃ name, next.call = .named name := by
  induction names generalizing progress with
  | nil => cases member
  | cons name names induction =>
      rcases Script.mem_asked.mp member with rfl | ⟨_, _, later⟩
      · exact ⟨Nat.le_refl _, name, rfl⟩
      · rcases induction later with ⟨within, named⟩
        exact ⟨Nat.le_trans within (unregistered_perform _), named⟩

theorem Call.asked_fieldsScript {schema : Schema} {location : String}
    {properties : Entries SchemaSlot}
    (member : next ∈
      (fieldsScript document schema location properties progress).asked (perform document)) :
    unregistered document next.progress ≤ unregistered document progress ∧
      ∃ entry ∈ properties, ∃ place, next.call = .type entry.2 place := by
  induction properties generalizing progress with
  | nil => cases member
  | cons entry rest induction =>
      rcases entry with ⟨name, slot⟩
      rcases Script.mem_asked.mp member with rfl | ⟨_, _, later⟩
      · exact ⟨Nat.le_refl _, (name, slot), List.mem_cons_self, _, rfl⟩
      · rw [Script.asked_map] at later
        rcases induction later with ⟨within, other, inside, typed⟩
        exact ⟨Nat.le_trans within (unregistered_perform _), other,
          List.mem_cons_of_mem _ inside, typed⟩

/-! ## What gets less -/

theorem Call.extent_named_le (name : String) : (Call.named name).extent document ≤ 1 := by
  rw [extent]
  split <;> omega

theorem Call.left_namedScript {name : String}
    (member : next ∈ (namedScript document name progress).asked (perform document)) :
    Prod.Lex (· < ·) (· < ·) (next.left document) (Frame.left document ⟨.named name, progress⟩) := by
  unfold namedScript at member
  split at member
  next => cases member
  next unbound =>
    split at member
    next => cases member
    next schema declared =>
      rw [Script.mem_asked_once.mp member]
      exact .left _ _ (unregistered_begin_lt declared (Registry.isBound_eq_false unbound))
    next path declared =>
      split at member
      next => cases member
      next => cases member
      next chain target schema given fresh _ =>
        rw [Script.mem_asked_once.mp member]
        refine .right _ ?_
        rw [extent, extent, declared, given]
        exact Nat.zero_lt_one

theorem Call.left_shapeScript {schema : Schema} {location : String}
    (member : next ∈ (shapeScript document schema location progress).asked (perform document)) :
    Prod.Lex (· < ·) (· < ·) (next.left document)
      (Frame.left document ⟨.walk schema location, progress⟩) := by
  unfold shapeScript at member
  split at member
  next value outline =>
    rw [Script.mem_asked_once.mp member]
    exact .right _ (Nat.add_lt_add_right (Schema.sizeOf_lt_of_outline_eq_map outline) 2)
  next properties outline =>
    rw [Script.asked_map] at member
    rcases asked_fieldsScript member with ⟨within, entry, inside, place, call⟩
    rw [Frame.left, call]
    exact .right' _ within
      (Nat.add_lt_add_right (Schema.sizeOf_lt_of_outline_eq_object outline inside) 2)
  next items outline =>
    rw [Script.mem_asked_once.mp member]
    exact .right _ (Nat.add_lt_add_right (Schema.sizeOf_lt_of_outline_eq_array outline) 2)
  next => cases member
  next =>
    dsimp only at member
    split at member <;> cases member
  next => cases member
  next => cases member

/-- What a call asks for has fewer definitions left to register, or as many and less to walk. -/
theorem Frame.left_lt_of_mem_asked (member : next ∈ frame.asked document) :
    Prod.Lex (· < ·) (· < ·) (next.left document) (frame.left document) := by
  rcases frame with ⟨call, progress⟩
  rw [asked] at member
  cases call with
  | components =>
      -- The names before this one may have been registered meanwhile, but none is freed.
      rcases Call.asked_eachScript member with ⟨within, name, call⟩
      rw [left, call]
      exact .right' _ within (Nat.lt_succ_of_le (Call.extent_named_le name))
  | named name => exact Call.left_namedScript member
  | reference path location =>
      dsimp only [Call.script] at member
      unfold Call.referenceScript at member
      split at member
      next => cases member
      next name _ _ =>
        rw [Script.mem_asked_once.mp member]
        exact .right _ (Nat.lt_succ_of_le (Call.extent_named_le name))
  | type slot location =>
      cases slot with
      | reference path =>
          rw [Script.mem_asked_once.mp member]
          refine .right _ ?_
          simp [Call.extent]
      | inline schema =>
          rw [Script.mem_asked_once.mp member]
          refine .right _ ?_
          simp [Call.extent]
  | walk schema location => exact Call.left_shapeScript member

theorem Frame.unregistered_le_of_mem_asked (member : next ∈ frame.asked document) :
    unregistered document next.progress ≤ unregistered document frame.progress := by
  rcases Prod.lex_def.mp (left_lt_of_mem_asked member) with less | ⟨same, _⟩
  · exact Nat.le_of_lt less
  · exact Nat.le_of_eq same

end Asked

/-! ## Bounded depth

With the depth of calls bounded, the scripts can be run without knowing that they end. -/

/-- What a script comes to when calls are answered only so far. -/
def Script.run? {α : Type} (answers? : (call : Call) → Progress → Option (Outcome call.Answer)) :
    Script α → Option (Outcome α)
  | .done result progress => some (result, progress)
  | .ask call progress next =>
      (answers? call progress).bind fun
        | (.ok value, progress) => (next value progress).run? answers?
        | (.error error, progress) => some (.error error, progress)

def Call.performWithin (document : Document) :
    Nat → (call : Call) → Progress → Option (Outcome call.Answer)
  | 0, _, _ => none
  | depth + 1, call, progress =>
      (call.script document progress).run? (performWithin document depth)

section Depth

variable {document : Document}

theorem Script.run?_eq {α : Type} {script : Script α} {answers : Answers}
    {answers? : (call : Call) → Progress → Option (Outcome call.Answer)}
    (answered : ∀ frame ∈ script.asked answers,
      answers? frame.call frame.progress = some (answers frame.call frame.progress)) :
    script.run? answers? = some (script.run answers) := by
  induction script with
  | done result progress => rfl
  | ask call progress next induction =>
      have later : ∀ frame ∈ (answers call progress).whenOk fun value state =>
          (next value state).asked answers,
          answers? frame.call frame.progress = some (answers frame.call frame.progress) :=
        fun frame member => answered frame (List.mem_cons_of_mem _ member)
      rw [run?, run, answered ⟨call, progress⟩ List.mem_cons_self, Option.bind_some]
      generalize answers call progress = outcome at later ⊢
      rcases outcome with ⟨result, state⟩
      cases result with
      | error error => rfl
      | ok value => exact induction value state later

theorem Script.run?_mono {α : Type} {script : Script α} {outcome : Outcome α}
    {answers? more? : (call : Call) → Progress → Option (Outcome call.Answer)}
    (more : ∀ call progress answer,
      answers? call progress = some answer → more? call progress = some answer)
    (ran : script.run? answers? = some outcome) : script.run? more? = some outcome := by
  induction script with
  | done result progress => exact ran
  | ask call progress next induction =>
      rw [run?] at ran ⊢
      rcases Option.bind_eq_some_iff.mp ran with ⟨⟨result, state⟩, answered, rest⟩
      rw [more call progress _ answered, Option.bind_some]
      cases result with
      | error error => exact rest
      | ok value => exact induction value state rest

theorem Call.performWithin_mono {depth more : Nat} (deeper : depth ≤ more) {call : Call}
    {progress : Progress} {outcome : Outcome call.Answer}
    (performed : call.performWithin document depth progress = some outcome) :
    call.performWithin document more progress = some outcome := by
  induction depth generalizing more call progress with
  | zero => cases performed
  | succ depth induction =>
      cases more with
      | zero => cases deeper
      | succ more =>
          refine Script.run?_mono ?_ performed
          intro call progress answer answered
          exact induction (Nat.le_of_succ_le_succ deeper) answered

/-- Calls that end at some depth each end at a common one. -/
theorem exists_common_depth {frames : List Frame}
    (each : ∀ frame ∈ frames, ∃ depth, frame.call.performWithin document depth frame.progress =
      some (frame.call.perform document frame.progress)) :
    ∃ depth, ∀ frame ∈ frames, frame.call.performWithin document depth frame.progress =
      some (frame.call.perform document frame.progress) := by
  induction frames with
  | nil => exact ⟨0, by simp⟩
  | cons frame rest induction =>
      rcases List.forall_mem_cons.mp each with ⟨⟨first, performed⟩, others⟩
      rcases induction others with ⟨second, also⟩
      refine ⟨max first second, List.forall_mem_cons.mpr ⟨?_, ?_⟩⟩
      · exact Call.performWithin_mono (Nat.le_max_left _ _) performed
      · intro other member
        exact Call.performWithin_mono (Nat.le_max_right _ _) (also other member)

theorem exists_performWithin (frame : Frame) :
    ∃ depth, frame.call.performWithin document depth frame.progress =
      some (frame.call.perform document frame.progress) := by
  have each : ∀ next ∈ frame.asked document, ∃ depth,
      next.call.performWithin document depth next.progress =
        some (next.call.perform document next.progress) :=
    fun next member => exists_performWithin next
  rcases exists_common_depth each with ⟨depth, performed⟩
  refine ⟨depth + 1, ?_⟩
  rw [Call.performWithin, Call.perform_eq_run]
  exact Script.run?_eq performed
termination_by frame.left document
decreasing_by exact Frame.left_lt_of_mem_asked member

end Depth

/-! ## Definitions inside definitions -/

/-- The definition of a component that a call begins to walk. -/
def Frame.definition? (document : Document) (frame : Frame) : Option (String × Schema) :=
  match frame.call with
  | .named name =>
      match frame.progress.registry.lookup? name, document.schema? name with
      | none, some (.inline schema) => some (name, schema)
      | _, _ => none
  | _ => none

section Nesting

variable {document : Document} {frame next : Frame}

theorem Frame.definition?_eq_some {name : String} {schema : Schema}
    (begins : frame.definition? document = some (name, schema)) :
    frame.call = .named name ∧ frame.progress.registry.lookup? name = none ∧
      document.schema? name = some (.inline schema) := by
  rcases frame with ⟨call, progress⟩
  cases call <;> try cases begins
  next other =>
    unfold definition? at begins
    dsimp only at begins
    split at begins
    next unbound declared =>
      cases begins
      exact ⟨rfl, unbound, declared⟩
    next => cases begins

/-- A definition is walked in a state that has registered it. -/
theorem Frame.asked_of_definition? {name : String} {schema : Schema}
    (begins : frame.definition? document = some (name, schema)) :
    frame.asked document = [⟨.walk schema name, frame.progress.begin name⟩] := by
  rcases definition?_eq_some begins with ⟨call, unbound, declared⟩
  rw [asked, call]
  simp only [Call.script, Call.namedScript, unbound, declared]
  exact Script.asked_once

/-- Along a chain of calls, no more definitions are begun than there are left to register. -/
theorem definitions_le {rest : List Frame}
    (chain : (frame :: rest).IsChain fun frame next => next ∈ frame.asked document) :
    (frame :: rest).countP (fun frame => (frame.definition? document).isSome) ≤
      unregistered document frame.progress := by
  induction rest generalizing frame with
  | nil =>
      cases begins : frame.definition? document with
      | none => simp [begins]
      | some definition =>
          rcases Frame.definition?_eq_some begins with ⟨_, unbound, declared⟩
          have less := unregistered_begin_lt declared (Registry.isBound_eq_false unbound)
          rw [List.countP_cons_of_pos (by simp [begins]), List.countP_nil]
          exact Nat.zero_lt_of_lt less
  | cons next rest induction =>
      rcases List.isChain_cons_cons.mp chain with ⟨member, later⟩
      have inside := induction later
      cases begins : frame.definition? document with
      | none =>
          rw [List.countP_cons_of_neg (by simp [begins])]
          exact Nat.le_trans inside (Frame.unregistered_le_of_mem_asked member)
      | some definition =>
          rcases Frame.definition?_eq_some begins with ⟨_, unbound, declared⟩
          have less := unregistered_begin_lt declared (Registry.isBound_eq_false unbound)
          -- The rest of the chain starts in the state that has registered this definition.
          rw [Frame.asked_of_definition? begins, List.mem_singleton] at member
          subst member
          rw [List.countP_cons_of_pos (by simp [begins])]
          exact Nat.lt_of_le_of_lt inside less

theorem unregistered_le_countP (document : Document) (progress : Progress) :
    unregistered document progress ≤
      document.components.schemas.countP fun entry => isConcrete entry.2 := by
  apply List.countP_mono_left
  intro entry _ counted
  exact (Bool.and_eq_true_iff.mp counted).1

end Nesting

/-! ## Chains of references -/

/-- Follow a chain for so many rounds. Every round looks at one name, and the last one ends at a
type, at a definition or in an error. -/
def followChainWithin (document : Document) (registry : Registry) :
    Nat → (last : String) → (earlier : List String) → (path : String) →
      Option (Except BuildError (List String × ChainEnd document registry))
  | 0, _, _, _ => none
  | rounds + 1, last, earlier, path =>
      match document.target? path with
      | none => some (.error (.unresolvedReference path last))
      | some ⟨target, _⟩ =>
          match bound : registry.lookup? target with
          | some id => some (.ok ((last :: earlier).reverse, .registered id))
          | none =>
              match found : document.schema? target with
              | some (.inline schema) =>
                  some (.ok ((last :: earlier).reverse,
                    .concrete target schema found (Registry.isBound_eq_false bound)))
              | some (.reference next) =>
                  if target ∈ last :: earlier then some (.error (.circularAlias target))
                  else followChainWithin document registry rounds target (last :: earlier) next
              | none => some (.error (.unresolvedReference path last))

section Chains

variable {document : Document} {registry : Registry} {last path target : String}
  {earlier : List String} {known : (document.schema? target).isSome}

section Rounds

variable (found : document.target? path = some ⟨target, known⟩)

include found

theorem followChain_of_registered {id : TypeId} (bound : registry.lookup? target = some id) :
    followChain document registry last earlier path =
      .ok ((last :: earlier).reverse, .registered id) := by
  rw [followChain, found]
  dsimp only
  split <;> rename_i held <;> rw [bound] at held <;> cases held
  rfl

variable (unbound : registry.lookup? target = none)

include unbound

theorem followChain_of_concrete {schema : Schema}
    (declared : document.schema? target = some (.inline schema)) :
    followChain document registry last earlier path = .ok ((last :: earlier).reverse,
      .concrete target schema declared (Registry.isBound_eq_false unbound)) := by
  rw [followChain, found]
  dsimp only
  split <;> rename_i held <;> rw [unbound] at held <;> cases held
  split <;> rename_i given <;> rw [declared] at given <;> cases given
  rfl

theorem followChain_of_reference {next : String}
    (declared : document.schema? target = some (.reference next)) :
    followChain document registry last earlier path =
      if target ∈ last :: earlier then .error (.circularAlias target)
      else followChain document registry target (last :: earlier) next := by
  rw [followChain, found]
  dsimp only
  split <;> rename_i held <;> rw [unbound] at held <;> cases held
  split <;> rename_i given <;> rw [declared] at given <;> cases given
  split <;> rfl

end Rounds

/-- Every round but the last adds a component to the chain. -/
theorem followChainWithin_eq {rounds : Nat} (enough : document.offChain (last :: earlier) < rounds) :
    followChainWithin document registry rounds last earlier path =
      some (followChain document registry last earlier path) := by
  induction rounds generalizing last earlier path with
  | zero => exact absurd enough (Nat.not_lt_zero _)
  | succ rounds induction =>
      rw [followChainWithin]
      cases found : document.target? path with
      | none => rw [followChain, found]
      | some component =>
          rcases component with ⟨target, known⟩
          dsimp only
          split
          next id bound => rw [followChain_of_registered found bound]
          next unbound =>
            split
            next schema declared => rw [followChain_of_concrete found unbound declared]
            next onward declared =>
              rw [followChain_of_reference found unbound declared]
              split
              next => rfl
              next repeated =>
                have less := Document.offChain_cons_lt known repeated
                exact induction (Nat.lt_of_lt_of_le less (Nat.le_of_lt_succ enough))
            next undeclared =>
              rw [undeclared] at known
              cases known

theorem followChainWithin_length {name : String}
    (declared : document.schema? name = some (.reference path)) :
    followChainWithin document registry document.components.schemas.length name [] path =
      some (followChain document registry name [] path) := by
  apply followChainWithin_eq
  refine Nat.lt_of_lt_of_le (Document.offChain_cons_lt ?_ List.not_mem_nil) List.countP_le_length
  rw [declared, Option.isSome_some]

end Chains

/-- Every call ends, with what the conversion answers, in every state. What a call asks for has fewer
definitions left to register, or as many and less to walk. So no more definitions are walked inside
each other than the document has, and a chain of references that starts at a component ends within
as many rounds as there are components. -/
theorem conversion_terminates (document : Document) :
    (∀ (call : Call) (progress : Progress), ∃ depth,
      call.performWithin document depth progress = some (call.perform document progress)) ∧
    (∀ frame : Frame, ∀ next ∈ frame.asked document,
      Prod.Lex (· < ·) (· < ·) (next.left document) (frame.left document)) ∧
    (∀ frames : List Frame, frames.IsChain (fun frame next => next ∈ frame.asked document) →
      frames.countP (fun frame => (frame.definition? document).isSome) ≤
        document.components.schemas.countP fun entry => isConcrete entry.2) ∧
    ∀ (registry : Registry) (name path : String),
      document.schema? name = some (.reference path) →
        followChainWithin document registry document.components.schemas.length name [] path =
          some (followChain document registry name [] path) := by
  refine ⟨?_, ?_, ?_, ?_⟩
  · intro call progress
    exact exists_performWithin ⟨call, progress⟩
  · intro frame next member
    exact Frame.left_lt_of_mem_asked member
  · intro frames chain
    cases frames with
    | nil => simp
    | cons frame rest =>
        exact Nat.le_trans (definitions_le chain) (unregistered_le_countP document frame.progress)
  · intro registry name path declared
    exact followChainWithin_length declared

end ApiGraph
