import ApiGraph.Proofs.Conversion.Complete
import ApiGraph.Proofs.Conversion.Termination

namespace ApiGraph

/-! # Converters that go on after errors

A converter may be asked for one thing after another, also when it has answered with an error. An
error breaks off the walks of all definitions that lie around it. Their types stay open, while what
was finished inside them stays as it is, and nothing is taken back. So the registry tells which
definitions were walked, and which of these walks were broken off. -/

open Registry

/-! ## Walks -/

/-- The walk of the definition of a component, with the error that broke it off. -/
structure Walk where
  name : String
  error? : Option BuildError

def Outcome.error? {α : Type} (outcome : Outcome α) : Option BuildError :=
  match outcome.1 with
  | .ok _ => none
  | .error error => some error

/-- The walk that a call begins itself. -/
def Frame.ownWalk? (document : Document) (frame : Frame) : Option Walk :=
  (frame.definition? document).map fun (name, schema) =>
    ⟨name, ((Call.walk schema name).perform document (frame.progress.begin name)).error?⟩

/-- All walks that a call comes to, in the order in which they begin. -/
def Frame.walks (document : Document) (frame : Frame) : List Walk :=
  (frame.ownWalk? document).toList ++
    (frame.asked document).attach.flatMap fun next => next.val.walks document
termination_by frame.left document
decreasing_by exact Frame.left_lt_of_mem_asked next.property

theorem Frame.walks_eq {document : Document} {frame : Frame} :
    frame.walks document = (frame.ownWalk? document).toList ++
      (frame.asked document).flatMap (Frame.walks document) := by
  rw [walks, @List.flatMap_subtype _ _ _ _ _ (walks document) fun _ _ => rfl,
    List.unattach_attach]

/-- The types whose walks were broken off, where the first walk is that of the type `first`. -/
def openIds (first : TypeId) (walks : List Walk) : List TypeId :=
  ((walks.zipIdx first).filter fun entry => entry.1.error?.isSome).map Prod.snd

section OpenIds

variable {first id : TypeId} {walks more : List Walk}

theorem openIds_append :
    openIds first (walks ++ more) = openIds first walks ++ openIds (first + walks.length) more := by
  simp [openIds, List.zipIdx_append]

theorem mem_openIds :
    id ∈ openIds first walks ↔
      first ≤ id ∧ ∃ walk error, walks[id - first]? = some walk ∧ walk.error? = some error := by
  simp only [openIds, List.mem_map, List.mem_filter, Option.isSome_iff_exists]
  constructor
  · intro listed
    rcases listed with ⟨⟨walk, _⟩, ⟨member, error, broken⟩, rfl⟩
    rcases List.mk_mem_zipIdx_iff_le_and_getElem?_sub.mp member with ⟨after, found⟩
    exact ⟨after, walk, error, found, broken⟩
  · intro listed
    rcases listed with ⟨after, walk, error, found, broken⟩
    have member := List.mk_mem_zipIdx_iff_le_and_getElem?_sub.mpr ⟨after, found⟩
    exact ⟨(walk, id), ⟨member, error, broken⟩, rfl⟩

theorem openIds_below (member : id ∈ openIds first walks) : id < first + walks.length := by
  rcases mem_openIds.mp member with ⟨after, walk, _, found, _⟩
  exact (Nat.sub_lt_iff_lt_add' after).mp (List.getElem?_eq_some_iff.mp found).1

end OpenIds

/-! ## Records of walks

What the registry and the statistics have more after some walks. -/

theorem Progress.size_begin {progress : Progress} {name : String}
    (unbound : progress.registry.lookup? name = none) :
    (progress.begin name).registry.size = progress.registry.size + 1 := by
  rw [begin, reserve_of_fresh unbound, size, List.length_append]
  rfl

structure Progress.Records (before after : Progress) (walks : List Walk) : Prop where
  charges : ∃ aliases total, before.Charges after (walks.map Walk.name) aliases total
  pending : after.registry.pending =
    before.registry.pending ++ openIds before.registry.size walks

section Records

variable {start before middle after state : Progress} {walks more : List Walk} {name : String}

namespace Progress.Records

theorem refl (progress : Progress) : progress.Records progress [] :=
  ⟨⟨0, {}, .refl progress⟩, (List.append_nil _).symm⟩

theorem size_eq (records : before.Records after walks) :
    after.registry.size = before.registry.size + walks.length := by
  rcases records.charges with ⟨_, _, charges⟩
  have lengths := congrArg List.length charges.names
  rwa [List.length_append, names, names, List.length_map, List.length_map, List.length_map]
    at lengths

theorem trans (records : before.Records middle walks) (next : middle.Records after more) :
    before.Records after (walks ++ more) where
  charges := by
    rcases records.charges with ⟨aliases, total, charges⟩
    rcases next.charges with ⟨others, further, charged⟩
    refine ⟨aliases + others, total ++ further, ?_⟩
    rw [List.map_append]
    exact charges.trans charged
  pending := by
    rw [next.pending, records.pending, records.size_eq, openIds_append, List.append_assoc]

theorem registers_pending (records : before.Records after walks)
    (below : before.registry.Registers before.registry.pending) :
    after.registry.Registers after.registry.pending := by
  intro id member
  rw [records.size_eq]
  rw [records.pending] at member
  rcases List.mem_append.mp member with member | member
  · exact Nat.lt_add_right _ (below id member)
  · exact openIds_below member

/-- A walk that is broken off leaves its type open. -/
theorem begin (unbound : start.registry.lookup? name = none) (error : BuildError) :
    start.Records (start.begin name) [⟨name, some error⟩] where
  charges := ⟨0, {}, Progress.charges_begin (isBound_eq_false unbound)⟩
  pending := by
    rw [Progress.begin, reserve_of_fresh unbound]
    rfl

/-- A walk that comes to its end does not, whatever is left open by walks inside it. -/
theorem complete (unbound : start.registry.lookup? name = none)
    (below : start.registry.Registers start.registry.pending)
    (records : (start.begin name).Records state walks) (description : Option String)
    (shape : Shape TypeId) :
    start.Records (state.complete start.registry.size description shape)
      (⟨name, none⟩ :: walks) where
  charges := by
    rcases records.charges with ⟨aliases, total, charges⟩
    have whole := (Progress.charges_begin (isBound_eq_false unbound)).trans charges
    exact ⟨_, _, names_complete.trans whole.names, whole.bindings, whole.statistics⟩
  pending := by
    have begun := Progress.size_begin unbound
    have opened : (start.begin name).registry.pending =
        start.registry.pending ++ [start.registry.size] := by
      rw [Progress.begin, reserve_of_fresh unbound]
    -- The walks inside begin after this one, so its completion closes none of their types.
    have later : (openIds (start.registry.size + 1) walks).filter (· != start.registry.size) =
        openIds (start.registry.size + 1) walks := by
      apply List.filter_eq_self.mpr
      intro id member
      simpa using Nat.ne_of_gt (mem_openIds.mp member).1
    have own : openIds start.registry.size (⟨name, none⟩ :: walks) =
        openIds (start.registry.size + 1) walks :=
      @openIds_append _ [⟨name, none⟩] walks
    rw [Progress.complete, Registry.complete, records.pending, opened, begun, own,
      List.filter_append, List.filter_append, filter_pending below, later]
    simp

end Progress.Records

/-! ## Scripts that register nothing themselves -/

def Script.Quiet {α : Type} : Script α → Progress → Prop
  | .done _ progress, start => start.Records progress []
  | .ask _ progress next, start =>
      start.Records progress [] ∧ ∀ value state, (next value state).Quiet state

namespace Script.Quiet

variable {α β : Type} {script : Script α} {call : Call}

theorem map (quiet : script.Quiet start) (change : α → β) : (script.map change).Quiet start := by
  induction script generalizing start with
  | done result progress => exact quiet
  | ask call progress next induction =>
      exact ⟨quiet.1, fun value state => induction value state (quiet.2 value state)⟩

theorem once {result : call.Answer → Except BuildError α}
    {change : call.Answer → Progress → Progress}
    (changes : ∀ value (state : Progress), state.Records (change value state) []) :
    (Script.ask call start fun value state => .done (result value) (change value state)).Quiet
      start :=
  ⟨.refl start, changes⟩

/-- Such a script comes to the walks of what it asks for. -/
theorem records (quiet : script.Quiet start) {answers : Answers} {walks : Frame → List Walk}
    (below : start.registry.Registers start.registry.pending)
    (answered : ∀ frame ∈ script.asked answers,
      frame.progress.registry.Registers frame.progress.registry.pending →
        frame.progress.Records (answers frame.call frame.progress).2 (walks frame)) :
    start.Records (script.run answers).2 ((script.asked answers).flatMap walks) := by
  induction script generalizing start with
  | done result progress => exact quiet
  | ask call progress next induction =>
      rcases quiet with ⟨still, rest⟩
      have below := still.registers_pending below
      have first := answered ⟨call, progress⟩ List.mem_cons_self below
      have later : ∀ frame ∈ (answers call progress).whenOk fun value state =>
          (next value state).asked answers,
          frame.progress.registry.Registers frame.progress.registry.pending →
            frame.progress.Records (answers frame.call frame.progress).2 (walks frame) :=
        fun frame member => answered frame (List.mem_cons_of_mem _ member)
      rw [run, asked, List.flatMap_cons]
      dsimp only at first
      generalize answers call progress = outcome at first later ⊢
      rcases outcome with ⟨result, state⟩
      have reached := still.trans first
      cases result with
      | error error => simpa [Outcome.andThen, Outcome.whenOk] using reached
      | ok value =>
          exact reached.trans
            (induction value state (rest value state) (first.registers_pending below) later)

end Script.Quiet

end Records

/-! ## Walks of a call -/

section Frames

variable {document : Document} {progress : Progress} {frame : Frame}

theorem Progress.records_warn (warning : Warning) :
    progress.Records (progress.warn warning) [] where
  charges := ⟨0, { warnings := [warning] }, by simp [warn], by simp [warn],
    by simp [warn, Statistics.warn, Statistics.charge]⟩
  pending := (List.append_nil _).symm

theorem Progress.records_countAnonymousType :
    progress.Records progress.countAnonymousType [] where
  charges := ⟨0, { anonymousTypes := 1 }, by simp [countAnonymousType],
    by simp [countAnonymousType],
    by simp [countAnonymousType, Statistics.countAnonymousType, Statistics.charge]⟩
  pending := (List.append_nil _).symm

theorem Progress.records_bindAliases (id : TypeId) (names : List String) :
    progress.Records (progress.bindAliases id names) [] where
  charges := by
    rcases progress.charges_bindAliases id names with ⟨aliases, charges⟩
    exact ⟨aliases, {}, charges⟩
  pending := by
    rw [progress.pending_bindAliases]
    exact (List.append_nil _).symm

namespace Call

open Script

theorem quiet_eachScript (names : List String) : (eachScript names progress).Quiet progress := by
  induction names generalizing progress with
  | nil => exact .refl progress
  | cons name names induction => exact ⟨.refl progress, fun _ _ => induction⟩

theorem quiet_fieldsScript (schema : Schema) (location : String)
    (properties : Entries SchemaSlot) :
    (fieldsScript document schema location properties progress).Quiet progress := by
  induction properties generalizing progress with
  | nil => exact .refl progress
  | cons entry rest induction => exact ⟨.refl progress, fun _ _ => induction.map _⟩

theorem quiet_shapeScript (schema : Schema) (location : String) :
    (shapeScript document schema location progress).Quiet progress := by
  unfold shapeScript
  split
  next => exact .once fun _ state => .refl state
  next => exact (quiet_fieldsScript schema location _).map _
  next => exact .once fun _ state => .refl state
  next => exact .refl progress
  next =>
    dsimp only
    split
    next => exact .refl progress
    next => exact progress.records_warn _
  next => exact .refl progress
  next => exact progress.records_warn _

theorem quiet_namedScript {name : String}
    (none : Frame.definition? document ⟨.named name, progress⟩ = none) :
    (namedScript document name progress).Quiet progress := by
  unfold Frame.definition? at none
  unfold namedScript
  split
  next => exact .refl progress
  next unbound =>
    split
    next => exact .refl progress
    next declared => simp only [unbound, declared, reduceCtorEq] at none
    next =>
      split
      next => exact .refl progress
      next => exact progress.records_bindAliases _ _
      next => exact .once fun _ state => state.records_bindAliases _ _

/-- Only the name of a definition makes a call register a type itself. -/
theorem quiet_script (none : frame.definition? document = none) :
    (frame.call.script document frame.progress).Quiet frame.progress := by
  rcases frame with ⟨call, progress⟩
  cases call with
  | components => exact quiet_eachScript _
  | named name => exact quiet_namedScript none
  | reference path location =>
      dsimp only [script]
      unfold referenceScript
      split
      next => exact .refl progress
      next => exact .once fun _ state => .refl state
  | type slot location =>
      cases slot with
      | reference path => exact .once fun _ state => .refl state
      | inline schema => exact .once fun _ state => state.records_countAnonymousType
  | walk schema location => exact quiet_shapeScript schema location

end Call

theorem Progress.registers_begin {name : String}
    (unbound : progress.registry.lookup? name = none)
    (below : progress.registry.Registers progress.registry.pending) :
    (progress.begin name).registry.Registers (progress.begin name).registry.pending := by
  have opened (error : BuildError) := Progress.Records.begin unbound error
  exact (opened (.circularAlias name)).registers_pending below

theorem Frame.perform_of_definition? {name : String} {schema : Schema}
    (begins : frame.definition? document = some (name, schema)) :
    (frame.call.perform document frame.progress).2 =
      (((Call.walk schema name).perform document (frame.progress.begin name)).andThen
        fun shape state => (.ok frame.progress.registry.size,
          state.complete frame.progress.registry.size schema.summary? shape)).2 := by
  rcases frame with ⟨call, progress⟩
  rcases definition?_eq_some begins with ⟨rfl, unbound, declared⟩
  rw [Call.perform_eq_run, Call.script, Call.namedScript, unbound]
  simp only [declared]
  rfl

/-- A call registers the types of the definitions that are walked, and leaves those of them open
whose walks are broken off. -/
theorem Frame.records (frame : Frame)
    (below : frame.progress.registry.Registers frame.progress.registry.pending) :
    frame.progress.Records (frame.call.perform document frame.progress).2
      (frame.walks document) := by
  have answered : ∀ next ∈ frame.asked document,
      next.progress.registry.Registers next.progress.registry.pending →
        next.progress.Records (next.call.perform document next.progress).2
          (next.walks document) :=
    fun next member below => next.records below
  rw [walks_eq, ownWalk?]
  -- A call that registers a type itself asks for the walk of its definition and for nothing else.
  cases begins : frame.definition? document with
  | none =>
      rw [Call.perform_eq_run]
      exact (Call.quiet_script begins).records below answered
  | some definition =>
      rcases definition with ⟨name, schema⟩
      rcases definition?_eq_some begins with ⟨_, unbound, _⟩
      rw [asked_of_definition? begins] at answered ⊢
      have inside := answered _ List.mem_cons_self (Progress.registers_begin unbound below)
      rw [perform_of_definition? begins, List.flatMap_singleton]
      dsimp only [Option.map_some, Option.toList_some] at inside ⊢
      generalize (Call.walk schema name).perform document (frame.progress.begin name) = outcome
        at inside ⊢
      rcases outcome with ⟨result, state⟩
      cases result with
      | error error => exact (Progress.Records.begin unbound error).trans inside
      | ok shape => exact .complete unbound below inside schema.summary? shape
termination_by frame.left document
decreasing_by exact Frame.left_lt_of_mem_asked member

end Frames

/-! ## Calls one after the other -/

namespace Document

/-- The state after calls that are made one after the other, whatever comes of each. -/
def performAll (document : Document) (progress : Progress) : List Call → Progress
  | [] => progress
  | call :: calls => document.performAll (call.perform document progress).2 calls

/-- The calls with the states that they are made in. -/
def session (document : Document) (progress : Progress) : List Call → List Frame
  | [] => []
  | call :: calls =>
      ⟨call, progress⟩ :: document.session (call.perform document progress).2 calls

theorem performAll_append {document : Document} (progress : Progress) (calls more : List Call) :
    document.performAll progress (calls ++ more) =
      document.performAll (document.performAll progress calls) more := by
  induction calls generalizing progress with
  | nil => rfl
  | cons call calls induction => exact induction _

end Document

section Session

variable {document : Document} {progress : Progress}

/-- A call is answered by a step that keeps to the document. -/
theorem Call.exists_yields (call : Call) (faithful : progress.registry.Faithful document) :
    ∃ (step : Conversion document progress call.Answer) (Means : Registry → call.Answer → Prop),
      call.perform document progress = step.outcome ∧ Conversion.Yields step Means := by
  cases call with
  | components => exact ⟨_, _, rfl, yields_convertEach document progress _ faithful⟩
  | named name => exact ⟨_, _, rfl, yields_convertNamed document progress name faithful⟩
  | reference path location =>
      exact ⟨_, _, rfl, yields_resolveReference document progress path location faithful⟩
  | type slot location =>
      exact ⟨_, _, rfl, yields_convertSchema document progress slot location faithful⟩
  | walk schema location =>
      refine ⟨_, _, rfl, yields_convertShape ?_ schema location progress _ faithful⟩
      intro progress _ path location faithful
      exact yields_resolveReference document progress path location faithful

theorem extends_performAll (calls : List Call) (faithful : progress.registry.Faithful document) :
    progress.registry.Extends (document.performAll progress calls).registry ∧
      (document.performAll progress calls).registry.Faithful document := by
  induction calls generalizing progress with
  | nil => exact ⟨.refl _, faithful⟩
  | cons call calls induction =>
      rcases call.exists_yields faithful with ⟨step, _, performed, yields⟩
      rw [Document.performAll, performed]
      rcases induction yields.faithful with ⟨grown, kept⟩
      exact ⟨yields.grows.trans grown, kept⟩

theorem records_performAll (calls : List Call) (faithful : progress.registry.Faithful document) :
    progress.Records (document.performAll progress calls)
      ((document.session progress calls).flatMap (Frame.walks document)) := by
  induction calls generalizing progress with
  | nil => exact .refl progress
  | cons call calls induction =>
      have first : progress.Records (call.perform document progress).2
          (Frame.walks document ⟨call, progress⟩) :=
        Frame.records ⟨call, progress⟩ fun _ => faithful.lt_size_of_mem_pending
      rcases call.exists_yields faithful with ⟨step, _, performed, yields⟩
      rw [performed] at first
      rw [Document.performAll, Document.session, List.flatMap_cons, performed]
      exact first.trans (induction yields.faithful)

/-- Calls that are all answered leave nothing open. -/
theorem pending_performAll {calls : List Call} (faithful : progress.registry.Faithful document)
    (answered : ∀ frame ∈ document.session progress calls,
      ∃ answer, (frame.call.perform document frame.progress).1 = .ok answer) :
    (document.performAll progress calls).registry.pending = progress.registry.pending := by
  induction calls generalizing progress with
  | nil => rfl
  | cons call calls induction =>
      rcases List.forall_mem_cons.mp answered with ⟨⟨answer, success⟩, others⟩
      rcases call.exists_yields faithful with ⟨step, _, performed, yields⟩
      rw [performed] at success others
      rw [Document.performAll, performed]
      exact (induction yields.faithful others).trans (yields.settled success)

/-- Later walks open later types only, and close none. -/
theorem isPending_performAll (calls : List Call) {id : TypeId}
    (faithful : progress.registry.Faithful document) (registered : id < progress.registry.size) :
    (document.performAll progress calls).registry.isPending id =
      progress.registry.isPending id := by
  have records := records_performAll calls faithful
  rw [Bool.eq_iff_iff, isPending, isPending, List.contains_iff_mem, List.contains_iff_mem,
    records.pending, List.mem_append]
  constructor
  · intro member
    rcases member with member | member
    · exact member
    · exact absurd (mem_openIds.mp member).1 (Nat.not_le_of_lt registered)
  · exact .inl

end Session

/-! ## The names of a registry -/

section Names

variable {document : Document} {registry : Registry} {name : String} {id : TypeId}

/-- A bound name that no type was registered under is a reference to a definition elsewhere. -/
theorem Registry.Faithful.leads_of_not_mem_names (faithful : registry.Faithful document)
    (bound : registry.lookup? name = some id) (other : name ∉ registry.names) :
    ∃ path node schema, document.schema? name = some (.reference path) ∧
      registry.node? id = some node ∧ document.LeadsTo name node.name schema := by
  rcases faithful.leads bound with ⟨node, schema, found, leads⟩
  cases leads with
  | here => exact absurd (mem_names_iff_exists.mpr ⟨id, node, found, rfl⟩) other
  | onward declared target rest =>
      exact ⟨_, node, schema, declared, found, .onward declared target rest⟩

theorem Registry.Faithful.length_aliases (faithful : registry.Faithful document) :
    registry.aliases.length =
      (Entries.names registry.bindings).countP fun name => name ∉ registry.names := by
  rw [aliases, ← List.countP_eq_length_filter, Entries.names, List.countP_map]
  apply List.countP_congr
  intro entry member
  rcases entry with ⟨name, id⟩
  have bound := Entries.value?_eq_some_of_mem faithful.distinct member
  simp only [Function.comp, bne_iff_ne, ne_eq, decide_eq_true_eq]
  exact not_congr (faithful.indexed.nameOf_eq_iff bound)

/-- What has been counted since the beginning is there. -/
theorem Registry.Faithful.counts {progress : Progress} {added : List String} {aliases : Nat}
    {total : Tally} (faithful : progress.registry.Faithful document)
    (charges : Progress.Charges {} progress added aliases total) :
    progress.statistics.namedTypes = progress.registry.size ∧
      progress.statistics.aliases = progress.registry.aliases.length := by
  have size : progress.registry.size = added.length := by
    rw [Registry.size, ← List.length_map, ← Registry.names, charges.names]
    rfl
  have bindings : progress.registry.bindings.length = 0 + added.length + aliases :=
    charges.bindings
  have lengths := faithful.indexed.length_bindings
  rw [charges.statistics]
  refine ⟨?_, ?_⟩
  · exact (Nat.zero_add _).trans size.symm
  · refine (Nat.zero_add _).trans ?_
    omega

end Names

/-- What a converter has registered after any calls, whatever came of each.

Its types are named after definitions, as many as were counted. Every other bound name, as many as
were counted, is a reference and means the type of the definition that it leads to. The types are
those of the definitions that were walked; one is open where its walk was broken off, and there
nothing is known of it but its name, and any other one has the translation of its definition. No
further calls change a type, close one that is open or bind a name anew, and nothing is open as long
as every call is answered. -/
theorem converter_history (document : Document) (calls : List Call) :
    let progress := document.performAll {} calls
    let registry := progress.registry
    let walks := (document.session {} calls).flatMap (Frame.walks document)
    (progress.statistics.namedTypes = registry.size ∧
        ∀ id node, registry.node? id = some node → registry.lookup? node.name = some id ∧
          ∃ schema, document.schema? node.name = some (.inline schema)) ∧
      ((Entries.names registry.bindings).Nodup ∧
        (progress.statistics.aliases =
          (Entries.names registry.bindings).countP fun name => name ∉ registry.names) ∧
        ∀ name id, registry.lookup? name = some id → name ∉ registry.names →
          ∃ path node schema, document.schema? name = some (.reference path) ∧
            registry.node? id = some node ∧ document.LeadsTo name node.name schema) ∧
      (registry.names = walks.map Walk.name ∧
        ∀ id, registry.isPending id = true ↔
          ∃ walk error, walks[id]? = some walk ∧ walk.error? = some error) ∧
      (∀ id node, registry.node? id = some node →
        (registry.isPending id = true → node = { name := node.name }) ∧
        (registry.isPending id = false → ∃ schema, node.Translates document registry schema)) ∧
      (∀ more, let later := (document.performAll {} (calls ++ more)).registry
        (∀ id node, registry.node? id = some node →
          later.node? id = some node ∧ later.isPending id = registry.isPending id) ∧
        ∀ name id, registry.lookup? name = some id → later.lookup? name = some id) ∧
      ((∀ frame ∈ document.session {} calls,
          ∃ answer, (frame.call.perform document frame.progress).1 = .ok answer) →
        registry.pending = []) := by
  intro progress registry walks
  have initial : (Progress.registry {}).Faithful document := faithful_empty document
  have faithful : registry.Faithful document := (extends_performAll calls initial).2
  have records : Progress.Records {} progress walks := records_performAll calls initial
  rcases records.charges with ⟨_, _, charges⟩
  have counts := faithful.counts charges
  refine ⟨⟨counts.1, ?_⟩, ⟨faithful.distinct, ?_, ?_⟩, ⟨charges.names, ?_⟩, ?_, ?_, ?_⟩
  · intro id node found
    exact ⟨faithful.named found, faithful.declared found⟩
  · rw [counts.2]
    exact faithful.length_aliases
  · intro name id bound other
    exact faithful.leads_of_not_mem_names bound other
  · intro id
    have pending : registry.pending = openIds 0 walks := records.pending
    rw [isPending, List.contains_iff_mem, pending, mem_openIds]
    simp
  · intro id node found
    constructor
    · intro isOpen
      rcases faithful.unmade (List.contains_iff_mem.mp isOpen) with ⟨name, placeholder⟩
      rw [found] at placeholder
      cases placeholder
      rfl
    · intro settled
      apply faithful.made found
      rw [← List.contains_iff_mem, ← isPending, settled]
      exact Bool.false_ne_true
  · intro more later
    have after : later = (document.performAll progress more).registry := by
      rw [← Document.performAll_append]
    have grown := (extends_performAll more faithful).1
    rw [after]
    constructor
    · intro id node found
      exact ⟨grown.node? found, isPending_performAll more faithful (lt_size_of_node? found)⟩
    · intro name id bound
      exact grown.lookup? bound
  · intro answered
    exact pending_performAll initial answered

/-- A pet has an owner, who has a list of what nobody knows. -/
def Document.brokenShop : Document where
  components := { schemas := [
    ("Pet", .inline { properties := [
      ("size", .reference "#/components/schemas/Size"),
      ("owner", .reference "#/components/schemas/Owner")] }),
    ("Owner", .reference "#/components/schemas/Person"),
    ("Person", .inline { items := some (.reference "#/components/schemas/Nobody") }),
    ("Size", .inline { enumValues := [.string "big", .string "small"] })] }

-- The error leaves pets and persons open. Owners are then answered all the same.
example :
    let registry := (Document.brokenShop.performAll {} [.components, .named "Owner"]).registry
    registry.names = ["Pet", "Size", "Person"] ∧ registry.pending = [0, 2] ∧
      registry.aliases = [("Owner", 2)] := by
  cbv

end ApiGraph
