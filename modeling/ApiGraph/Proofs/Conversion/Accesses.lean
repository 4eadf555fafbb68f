import ApiGraph.Proofs.Conversion.Frozen

namespace ApiGraph

/-! # Types that a conversion accesses

A type is accessed by its number, and nothing checks that there is such a type. It is there all the
same, also after errors: a type is registered before its number is written down anywhere, and none is
ever removed. -/

open Registry

/-! ## Registries in which no number dangles -/

/-- Every type that is bound to a name, still open, or mentioned inside a type at any depth is
registered. -/
structure Registry.InBounds (registry : Registry) : Prop where
  bound : ∀ entry ∈ registry.bindings, entry.2 < registry.size
  pending : ∀ id ∈ registry.pending, id < registry.size
  mentioned : ∀ node ∈ registry.nodes, ∀ child ∈ node.shape.children, ∀ target,
    child.Mentions target → target < registry.size

section Registries

variable {document : Document} {registry : Registry} {name : String} {id : TypeId}

theorem Registry.InBounds.closed (bounds : registry.InBounds) : registry.IsClosed := by
  intro node member target inside
  rcases Shape.mem_targets.mp inside with ⟨child, held, mentioned⟩
  exact bounds.mentioned node member child held target (child.mentions_of_mem_targets mentioned)

theorem Registry.InBounds.lt_size_of_lookup? (bounds : registry.InBounds)
    (bound : registry.lookup? name = some id) : id < registry.size :=
  bounds.bound (name, id) (Entries.mem_of_value?_eq_some bound)

theorem Registry.Faithful.inBounds (faithful : registry.Faithful document) :
    registry.InBounds where
  bound _ member := by
    rcases faithful.leads (Entries.value?_eq_some_of_mem faithful.distinct member) with
      ⟨node, _, found, _⟩
    exact lt_size_of_node? found
  pending _ member := faithful.lt_size_of_mem_pending member
  mentioned node member child inside target mentions :=
    faithful.closed node member target
      (Shape.mem_targets.mpr ⟨child, inside, mentions.mem_targets⟩)

end Registries

/-! ## Accesses -/

/-- A type that is accessed by its number. -/
structure Access where
  registry : Registry
  id : TypeId

def Access.InBounds (access : Access) : Prop := access.id < access.registry.size

instance : DecidablePred Access.InBounds := fun access =>
  inferInstanceAs (Decidable (access.id < access.registry.size))

theorem Outcome.mem_whenOk {α γ : Type} {outcome : Outcome α} {next : α → Progress → List γ}
    {item : γ} : item ∈ outcome.whenOk next ↔
      ∃ value, outcome.1 = .ok value ∧ item ∈ next value outcome.2 := by
  rcases outcome with ⟨result, state⟩
  cases result <;> simp [Outcome.whenOk]

/-- What a call accesses itself: the type that gets its shape when its definition has been walked, and
the type at the end of a chain when its further names have been bound. -/
def Frame.ownAccesses (document : Document) (frame : Frame) : List Access :=
  let progress := frame.progress
  match frame.call with
  | .named name =>
      match progress.registry.lookup? name, document.schema? name with
      | none, some (.inline schema) =>
          ((Call.walk schema name).perform document (progress.begin name)).whenOk fun _ state =>
            [⟨state.registry, progress.registry.size⟩]
      | none, some (.reference path) =>
          match followChain document progress.registry name [] path with
          | .ok (chain, .registered id) => [⟨(progress.bindAliases id chain).registry, id⟩]
          | .ok (chain, .concrete target _ _ _) =>
              ((Call.named target).perform document progress).whenOk fun id state =>
                [⟨(state.bindAliases id chain).registry, id⟩]
          | .error _ => []
      | _, _ => []
  | _ => []

/-- What a call accesses, and whatever it comes to. -/
def Frame.accesses (document : Document) (frame : Frame) : List Access :=
  frame.ownAccesses document ++
    (frame.asked document).attach.flatMap fun next => next.val.accesses document
termination_by frame.left document
decreasing_by exact Frame.left_lt_of_mem_asked next.property

theorem Frame.accesses_eq {document : Document} {frame : Frame} :
    frame.accesses document = frame.ownAccesses document ++
      (frame.asked document).flatMap (Frame.accesses document) := by
  rw [accesses, @List.flatMap_subtype _ _ _ _ _ (accesses document) fun _ _ => rfl,
    List.unattach_attach]

section Accesses

variable {document : Document} {progress : Progress} {frame : Frame} {access : Access}

theorem Progress.size_bindAliases (id : TypeId) (names : List String) :
    (progress.bindAliases id names).registry.size = progress.registry.size :=
  (progress.records_bindAliases id names).size_eq

theorem Frame.inBounds_ownAccesses (faithful : frame.progress.registry.Faithful document)
    (member : access ∈ frame.ownAccesses document) : access.InBounds := by
  rcases frame with ⟨call, progress⟩
  cases call <;> try cases member
  next name =>
    unfold ownAccesses at member
    dsimp only at member
    split at member
    next schema unbound declared =>
      rcases Outcome.mem_whenOk.mp member with ⟨shape, _, own⟩
      rw [List.mem_singleton.mp own]
      have begun : (progress.begin name).registry.Faithful document :=
        faithful.reserve unbound declared
      rcases (Call.walk schema name).exists_yields begun with ⟨step, _, performed, yields⟩
      rw [performed]
      have registered := yields.grows.size_le
      rw [Progress.size_begin unbound] at registered
      exact registered
    next path unbound declared =>
      split at member
      next chain id followed =>
        rw [List.mem_singleton.mp member]
        rcases followChain_spec declared (by simp) followed with ⟨_, target, bound, _⟩
        rw [Access.InBounds, Progress.size_bindAliases]
        exact faithful.inBounds.lt_size_of_lookup? bound
      next chain target schema given fresh followed =>
        rcases Outcome.mem_whenOk.mp member with ⟨id, answered, own⟩
        rw [List.mem_singleton.mp own]
        have yields := yields_convertNamed document progress target faithful
        rw [Access.InBounds, Progress.size_bindAliases]
        exact yields.faithful.inBounds.lt_size_of_lookup? (yields.means answered)
      next => cases member
    next => cases member

/-! ### Accesses of what a call comes to -/

/-- Everything is asked for in a state with a property, as long as what is asked for keeps it. -/
def Script.AsksIn {α : Type} (Holds : Progress → Prop) : Script α → Prop
  | .done _ _ => True
  | .ask _ progress next =>
      Holds progress ∧ ∀ value state, Holds state → (next value state).AsksIn Holds

namespace Script.AsksIn

variable {α β : Type} {Holds : Progress → Prop} {script : Script α}

theorem map (asksIn : script.AsksIn Holds) (change : α → β) :
    (script.map change).AsksIn Holds := by
  induction script with
  | done result progress => trivial
  | ask call progress next induction =>
      exact ⟨asksIn.1, fun value state holds => induction value state (asksIn.2 value state holds)⟩

theorem of_mem_asked (asksIn : script.AsksIn Holds) {answers : Answers}
    (kept : ∀ call progress, Holds progress → Holds (answers call progress).2)
    (member : frame ∈ script.asked answers) : Holds frame.progress := by
  induction script with
  | done result progress => cases member
  | ask call progress next induction =>
      rcases Script.mem_asked.mp member with rfl | ⟨value, _, later⟩
      · exact asksIn.1
      · exact induction value _ (asksIn.2 value _ (kept call progress asksIn.1)) later

end Script.AsksIn

/-- Faithful to a document, as a property of the state of its conversion. -/
abbrev Document.Mirrored (document : Document) (progress : Progress) : Prop :=
  progress.registry.Faithful document

namespace Call

open Script

theorem asksIn_eachScript (names : List String) (faithful : document.Mirrored progress) :
    (eachScript names progress).AsksIn document.Mirrored := by
  induction names generalizing progress with
  | nil => trivial
  | cons name names induction => exact ⟨faithful, fun _ _ kept => induction kept⟩

theorem asksIn_fieldsScript (schema : Schema) (location : String)
    (properties : Entries SchemaSlot) (faithful : document.Mirrored progress) :
    (fieldsScript document schema location properties progress).AsksIn document.Mirrored := by
  induction properties generalizing progress with
  | nil => trivial
  | cons entry rest induction => exact ⟨faithful, fun _ _ kept => (induction kept).map _⟩

theorem asksIn_namedScript (name : String) (faithful : document.Mirrored progress) :
    (namedScript document name progress).AsksIn document.Mirrored := by
  unfold namedScript
  split
  next => trivial
  next unbound =>
    split
    next => trivial
    next schema declared => exact ⟨faithful.reserve unbound declared, fun _ _ _ => trivial⟩
    next =>
      split
      next => trivial
      next => trivial
      next => exact ⟨faithful, fun _ _ _ => trivial⟩

theorem asksIn_shapeScript (schema : Schema) (location : String)
    (faithful : document.Mirrored progress) :
    (shapeScript document schema location progress).AsksIn document.Mirrored := by
  unfold shapeScript
  split
  next => exact ⟨faithful, fun _ _ _ => trivial⟩
  next => exact (asksIn_fieldsScript schema location _ faithful).map _
  next => exact ⟨faithful, fun _ _ _ => trivial⟩
  next => trivial
  next =>
    dsimp only
    split <;> trivial
  next => trivial
  next => trivial

theorem asksIn_script (call : Call) (faithful : document.Mirrored progress) :
    (call.script document progress).AsksIn document.Mirrored := by
  cases call with
  | components => exact asksIn_eachScript _ faithful
  | named name => exact asksIn_namedScript name faithful
  | reference path location =>
      dsimp only [script]
      unfold referenceScript
      split
      next => trivial
      next => exact ⟨faithful, fun _ _ _ => trivial⟩
  | type slot location => cases slot <;> exact ⟨faithful, fun _ _ _ => trivial⟩
  | walk schema location => exact asksIn_shapeScript schema location faithful

theorem faithful_perform (call : Call) (faithful : document.Mirrored progress) :
    document.Mirrored (call.perform document progress).2 := by
  rcases call.exists_yields faithful with ⟨step, _, performed, yields⟩
  rw [performed]
  exact yields.faithful

end Call

theorem Frame.faithful_of_mem_asked {next : Frame}
    (faithful : frame.progress.registry.Faithful document) (member : next ∈ frame.asked document) :
    next.progress.registry.Faithful document :=
  (frame.call.asksIn_script faithful).of_mem_asked (fun call _ => call.faithful_perform) member

/-- All accesses of a call are to types that are registered at that moment. -/
theorem Frame.inBounds_accesses (frame : Frame)
    (faithful : frame.progress.registry.Faithful document) :
    ∀ access ∈ frame.accesses document, access.InBounds := by
  intro access member
  have inside : ∀ next ∈ frame.asked document, ∀ access ∈ next.accesses document,
      access.InBounds :=
    fun next asked => next.inBounds_accesses (faithful_of_mem_asked faithful asked)
  rw [accesses_eq] at member
  rcases List.mem_append.mp member with own | nested
  · exact inBounds_ownAccesses faithful own
  · rcases List.mem_flatMap.mp nested with ⟨next, asked, accessed⟩
    exact inside next asked access accessed
termination_by frame.left document
decreasing_by exact Frame.left_lt_of_mem_asked asked

end Accesses

/-! ## Calls that are made

A converter is called by those who use it, and by its own calls. -/

/-- A call that a converter of the document comes to: one that is made after any requests, or one that
such a call asks for. Operations count and warn between the calls that they make, so whatever was
counted before may be anything. -/
inductive Document.Occurs (document : Document) : Frame → Prop where
  | request (requests : List Request) (statistics : Statistics) (call : Call) :
      document.Occurs ⟨call, ⟨(document.serveAll {} requests).registry, statistics⟩⟩
  | asked {frame next : Frame} (outer : document.Occurs frame)
      (member : next ∈ frame.asked document) : document.Occurs next

theorem Document.Occurs.faithful {document : Document} {frame : Frame}
    (occurs : document.Occurs frame) : frame.progress.registry.Faithful document := by
  induction occurs with
  | request requests =>
      have initial : (Progress.registry {}).Faithful document := Registry.faithful_empty document
      exact faithful_serveAll requests initial
  | asked _ member induction => exact Frame.faithful_of_mem_asked induction member

/-! ## Answers -/

/-- The types that an answer refers to. -/
def Call.targets : (call : Call) → call.Answer → List TypeId
  | .components, _ => []
  | .named _, answer => [answer]
  | .reference _ _, answer => [answer]
  | .type _ _, answer => answer.targets
  | .walk _ _, answer => answer.targets

section Answers

variable {document : Document} {progress : Progress}

/-- A definition is walked to the shape that it is translated to. -/
theorem Call.holdsShape_walk {schema : Schema} {location : String} {shape : Shape TypeId}
    (faithful : progress.registry.Faithful document)
    (answered : ((Call.walk schema location).perform document progress).1 = .ok shape) :
    HoldsShape document schema ((Call.walk schema location).perform document progress).2.registry
      shape := by
  have sound : @Resolver.IsSound document progress fun progress _ path location =>
      resolveReference document progress path location :=
    fun progress _ path location faithful =>
      yields_resolveReference document progress path location faithful
  exact (yields_convertShape sound schema location progress _ faithful).means answered

/-- What is answered is registered when the answer is given. -/
theorem Call.registers_targets (call : Call) (faithful : progress.registry.Faithful document)
    {answer : call.Answer} (answered : (call.perform document progress).1 = .ok answer) :
    (call.perform document progress).2.registry.Registers (call.targets answer) := by
  cases call with
  | components => exact fun _ member => by cases member
  | named name =>
      have yields := yields_convertNamed document progress name faithful
      intro target member
      rw [List.mem_singleton.mp member]
      exact yields.faithful.inBounds.lt_size_of_lookup? (yields.means answered)
  | reference path location =>
      have yields := yields_resolveReference document progress path location faithful
      intro target member
      rw [List.mem_singleton.mp member]
      exact (yields.means answered).1
  | type slot location =>
      exact ((yields_convertSchema document progress slot location faithful).means answered).1
  | walk schema location => exact (holdsShape_walk faithful answered).1

end Answers

end ApiGraph
