import ApiGraph.Proofs.Conversion.Walk
import Mathlib

namespace ApiGraph

/-! # The conversion of components

A component is converted when it is first met, be it by its own name, by another name or by a
reference inside another component. Whichever it is, its name is bound to the type at the end of its
chain of references, so nothing depends on the order in which components are met. -/

open Conversion Registry

variable {document : Document} {registry : Registry} {name : String} {id : TypeId}

/-! ## Names that lead to the same type -/

theorem Registry.Faithful.lookup?_unique {node : TypeNode} {schema : Schema} {bound : TypeId}
    (faithful : registry.Faithful document) (found : registry.node? id = some node)
    (leads : document.LeadsTo name node.name schema) (held : registry.lookup? name = some bound) :
    bound = id := by
  rcases faithful.leads held with ⟨other, _, foundOther, leadsOther⟩
  have same := (leadsOther.unique leads).1
  have bindsOther := faithful.named foundOther
  rw [same, faithful.named found] at bindsOther
  exact (Option.some.inj bindsOther).symm

theorem Registry.Faithful.holdsTarget {path : String} (faithful : registry.Faithful document)
    (target : Pointer.schema? path = some name) (bound : registry.lookup? name = some id) :
    HoldsTarget document path registry id := by
  rcases faithful.leads bound with ⟨node, schema, found, leads⟩
  refine ⟨lt_size_of_node? found, schema, ?_⟩
  rw [nameOf_eq found]
  exact Document.designated?_eq_some target leads

theorem Document.target?_eq_some {path : String}
    {declared : (document.schema? name).isSome}
    (found : document.target? path = some ⟨name, declared⟩) :
    Pointer.schema? path = some name := by
  unfold Document.target? at found
  split at found
  next => cases found
  next target equal =>
    split at found
    · cases found
      exact equal
    · cases found

theorem Conversion.Yields.holdsTarget {start : Progress} {path : String}
    {step : Conversion document start TypeId}
    (yields : Yields step fun registry id => registry.lookup? name = some id)
    (target : Pointer.schema? path = some name) : Yields step (HoldsTarget document path) where
  grows := yields.grows
  faithful := yields.faithful
  settled success := yields.settled success
  means success := yields.faithful.holdsTarget target (yields.means success)

/-! ## Chains -/

/-- The component that a chain ends at, or the one at which it meets what is registered. -/
def ChainEnd.IsAt (target : String) : ChainEnd document registry → Prop
  | .registered id => registry.lookup? target = some id
  | .concrete name _ _ _ => name = target

theorem followChain_spec {last path : String} {earlier chain : List String}
    {ending : ChainEnd document registry}
    (declared : document.schema? last = some (.reference path))
    (joined : ∀ name ∈ earlier, ∀ final schema,
      document.LeadsTo last final schema → document.LeadsTo name final schema)
    (followed : followChain document registry last earlier path = .ok (chain, ending)) :
    (∀ name ∈ last :: earlier, name ∈ chain) ∧
      ∃ target, ending.IsAt target ∧ ∀ name ∈ chain, ∀ final schema,
        document.LeadsTo target final schema → document.LeadsTo name final schema := by
  rw [followChain] at followed
  split at followed
  next => cases followed
  next target known found =>
    have onward : ∀ name ∈ last :: earlier, ∀ final schema,
        document.LeadsTo target final schema → document.LeadsTo name final schema := by
      intro name member final schema leads
      have first : document.LeadsTo last final schema :=
        .onward declared (Document.target?_eq_some found) leads
      rcases List.mem_cons.mp member with equal | member
      · rw [equal]
        exact first
      · exact joined name member final schema first
    split at followed
    next id bound =>
      cases followed
      refine ⟨fun name member => List.mem_reverse.mpr member, target, bound, ?_⟩
      intro name member
      exact onward name (List.mem_reverse.mp member)
    next unbound =>
      split at followed
      next schema concrete =>
        cases followed
        refine ⟨fun name member => List.mem_reverse.mpr member, target, rfl, ?_⟩
        intro name member
        exact onward name (List.mem_reverse.mp member)
      next path reference =>
        split at followed
        next => cases followed
        next repeated =>
          rcases followChain_spec reference onward followed with ⟨kept, rest⟩
          exact ⟨fun name member => kept name (List.mem_cons_of_mem target member), rest⟩
      next => cases followed
termination_by document.offChain (last :: earlier)
decreasing_by exact Document.offChain_cons_lt (by assumption) (by assumption)

/-! ## Further names -/

theorem Progress.pending_bindAliases (progress : Progress) (id : TypeId) (names : List String) :
    (progress.bindAliases id names).registry.pending = progress.registry.pending := by
  induction names generalizing progress with
  | nil => rfl
  | cons name names induction =>
      rw [bindAliases, induction]
      dsimp only
      unfold bindAlias
      split <;> rfl

theorem Registry.Faithful.bindAliases {node : TypeNode} {schema : Schema} {names : List String}
    {progress : Progress} (faithful : progress.registry.Faithful document)
    (found : progress.registry.node? id = some node)
    (leads : ∀ name ∈ names, document.LeadsTo name node.name schema) :
    progress.registry.Extends (progress.bindAliases id names).registry ∧
      (progress.bindAliases id names).registry.Faithful document := by
  induction names generalizing progress with
  | nil => exact ⟨.refl _, faithful⟩
  | cons name names induction =>
      have grown := progress.registry.extends_bindAlias name id
      have rest (statistics : Statistics) :=
        @induction ⟨(progress.registry.bindAlias name id).2, statistics⟩
          (faithful.bindAlias found (leads name List.mem_cons_self)) (grown.node? found)
          fun name member => leads name (List.mem_cons_of_mem _ member)
      rw [Progress.bindAliases]
      rcases rest _ with ⟨more, kept⟩
      exact ⟨grown.trans more, kept⟩

/-- All names of a chain are bound to the type at its end, also those that were bound while the type
was made. -/
theorem yields_finishChain {progress : Progress} {chain : List String} {target : String}
    (faithful : progress.registry.Faithful document)
    (bound : progress.registry.lookup? target = some id)
    (joined : ∀ name ∈ chain, ∀ final schema,
      document.LeadsTo target final schema → document.LeadsTo name final schema)
    (member : name ∈ chain) :
    Yields (finishChain progress chain id : Conversion document progress TypeId)
      fun registry id => registry.lookup? name = some id := by
  rcases faithful.leads bound with ⟨node, schema, found, ends⟩
  have leads : ∀ name ∈ chain, document.LeadsTo name node.name schema :=
    fun name member => joined name member node.name schema ends
  rcases faithful.bindAliases found leads with ⟨grown, kept⟩
  refine ⟨grown, kept, fun _ => progress.pending_bindAliases id chain, ?_⟩
  intro held success
  cases success
  have binds := (progress.isBound_bindAliases id chain name).mpr (.inl member)
  rcases Option.isSome_iff_exists.mp binds with ⟨held, binds⟩
  have same := kept.lookup?_unique (grown.node? found) (leads name member) binds
  rw [same] at binds
  exact binds

/-! ## Definitions -/

/-- A type that is registered, walked and completed. While it is walked it is open, and it is the
only open type that the walk leaves behind. -/
theorem yields_complete {start : Progress} {schema : Schema}
    (faithful : start.registry.Faithful document) (fresh : start.registry.lookup? name = none)
    (declared : document.schema? name = some (.inline schema))
    {walked : Conversion document (start.begin name) (Shape TypeId)}
    (yields : Yields walked (HoldsShape document schema))
    {finish : (progress : Progress) →
      unregistered document progress ≤ unregistered document (start.begin name) → Shape TypeId →
        Conversion document progress TypeId}
    (finishes : ∀ progress within shape,
      (finish progress within shape).value = .ok start.registry.size ∧
        (finish progress within shape).state =
          progress.complete start.registry.size schema.summary? shape)
    (within : unregistered document (walked.andThen finish).state ≤ unregistered document start) :
    Yields (⟨(walked.andThen finish).value, (walked.andThen finish).state, within⟩ :
        Conversion document start TypeId)
      fun registry id => registry.lookup? name = some id := by
  rcases walked with ⟨value, state, below⟩
  cases value with
  | error error =>
      refine ⟨(extends_reserve start.registry name).trans yields.grows, yields.faithful, ?_, ?_⟩ <;>
        · intro id success
          cases success
  | ok shape =>
      rcases finishes state below shape with ⟨value, final⟩
      rcases yields.means rfl with ⟨registered, translated⟩
      have placeholder : state.registry.node? start.registry.size = some { name := name } := by
        apply yields.grows.node?
        rw [Progress.begin, node?_reserve fresh, if_pos rfl]
      have completed : start.registry.Extends
            (state.registry.complete start.registry.size schema.summary? shape) ∧ _ :=
        Extends.complete fresh (fun _ => faithful.lt_size_of_mem_pending) yields.grows
          (yields.settled rfl)
      have same : (finish state below shape).state.registry =
          state.registry.complete start.registry.size schema.summary? shape := by
        rw [final]
        rfl
      refine ⟨?_, ?_, ?_, ?_⟩
      · exact same ▸ completed.1
      · exact same ▸ yields.faithful.complete placeholder declared registered translated
      · intro id _
        exact same ▸ completed.2
      · intro id success
        have equal : start.registry.size = id := Except.ok.inj (value.symm.trans success)
        have bound : state.registry.lookup? name = some start.registry.size := by
          apply yields.grows.lookup?
          rw [Progress.begin, lookup?_reserve fresh, if_pos rfl]
        rw [← equal]
        exact same ▸ bound

theorem yields_convertConcrete {start : Progress}
    {convert : (progress : Progress) →
      unregistered document progress < unregistered document start → (name : String) →
        Conversion document progress TypeId}
    (converts : ∀ progress less name, progress.registry.Faithful document →
      Yields (convert progress less name) fun registry id => registry.lookup? name = some id)
    {schema : Schema} (declared : document.schema? name = some (.inline schema))
    (fresh : start.isBound name = false) (faithful : start.registry.Faithful document) :
    Yields (convertConcrete convert name schema declared fresh)
      fun registry id => registry.lookup? name = some id := by
  have unbound : start.registry.lookup? name = none := lookup?_eq_none_iff.mpr fresh
  unfold convertConcrete
  apply yields_complete faithful unbound declared
  · apply yields_convertShape
    · intro progress within path location faithful
      dsimp only
      split
      next => exact .fail faithful _
      next target known found =>
        exact (converts progress _ target faithful).holdsTarget (Document.target?_eq_some found)
    · exact faithful.reserve unbound declared
  · intro progress within shape
    exact ⟨rfl, rfl⟩

theorem yields_convertNamed (document : Document) (start : Progress) (name : String)
    (faithful : start.registry.Faithful document) :
    Yields (convertNamed document start name)
      fun registry id => registry.lookup? name = some id := by
  rw [convertNamed]
  split
  next id bound =>
    apply Yields.still rfl faithful
    intro target success
    cases success
    exact bound
  next unbound =>
    have converts : ∀ progress
        (less : unregistered document progress < unregistered document start) name,
        progress.registry.Faithful document →
          Yields (convertNamed document progress name)
            fun registry id => registry.lookup? name = some id :=
      fun progress less name faithful => yields_convertNamed document progress name faithful
    split
    next => exact .fail faithful _
    next schema found => exact yields_convertConcrete converts found _ faithful
    next path reference =>
      split
      next => exact .fail faithful _
      next chain id followed =>
        rcases followChain_spec reference (by simp) followed with ⟨kept, target, bound, joined⟩
        exact yields_finishChain faithful bound joined (kept name List.mem_cons_self)
      next chain target schema declared fresh followed =>
        rcases followChain_spec reference (by simp) followed with ⟨kept, other, same, joined⟩
        cases same
        apply (yields_convertConcrete converts declared fresh faithful).andThen
        intro state _ id _ faithful bound
        exact yields_finishChain faithful bound joined (kept name List.mem_cons_self)
termination_by unregistered document start

/-! ## All components -/

theorem yields_convertEach (document : Document) (progress : Progress) (names : List String)
    (faithful : progress.registry.Faithful document) :
    Yields (convertEach document progress names)
      fun registry _ => ∀ name ∈ names, ∃ id, registry.lookup? name = some id := by
  induction names generalizing progress with
  | nil =>
      rw [convertEach]
      apply Yields.still rfl faithful
      intro _ _ name member
      cases member
  | cons first names induction =>
      rw [convertEach]
      apply (yields_convertNamed document progress first faithful).andThen
      intro state _ id _ faithful bound
      have rest := induction state faithful
      refine ⟨rest.grows, rest.faithful, rest.settled, ?_⟩
      intro _ success name member
      rcases List.mem_cons.mp member with equal | member
      · rw [equal]
        exact ⟨id, rest.grows.lookup? bound⟩
      · exact rest.means success name member

theorem yields_convertComponents (document : Document) :
    Yields (convertComponents document {}) fun registry _ =>
      ∀ name ∈ Entries.names document.components.schemas,
        ∃ id, registry.lookup? name = some id :=
  yields_convertEach document {} _ (faithful_empty document)

theorem Registry.Faithful.mem_names_of_bound (faithful : registry.Faithful document)
    (bound : registry.lookup? name = some id) :
    name ∈ Entries.names document.components.schemas := by
  rcases faithful.leads bound with ⟨node, schema, _, leads⟩
  cases leads with
  | here declared => exact Entries.mem_names_of_value?_eq_some declared
  | onward declared => exact Entries.mem_names_of_value?_eq_some declared

/-- A type that is not open any more and whose definition is declared is what that definition is
translated to. -/
theorem Registry.Faithful.exists_translates {registry : Registry} {name : String} {schema : Schema}
    {id : TypeId} (faithful : registry.Faithful document) (settled : registry.pending = [])
    (bound : registry.lookup? name = some id)
    (declared : document.schema? name = some (.inline schema)) :
    ∃ node, registry.node? id = some node ∧ node.name = name ∧
      node.Translates document registry schema := by
  rcases faithful.leads bound with ⟨node, other, found, leads⟩
  have same : name = node.name := (leads.last_eq declared).1
  have notPending : id ∉ registry.pending := by
    rw [settled]
    exact List.not_mem_nil
  rcases faithful.made found notPending with ⟨definition, translates⟩
  have equal := translates.declared
  rw [← same, declared] at equal
  cases equal
  exact ⟨node, found, same.symm, translates⟩

/-- The registry of all components says what the translation of the document says. Its names are the
names of the components; each stands for the concrete component that its chain of references ends
at; and the type of a concrete component has the summary of its definition and the shape that the
definition is translated to, references being read by the names of their types. -/
theorem convertComponents_translates (document : Document)
    (converted : (convertComponents document {}).value = .ok ()) :
    let registry := (convertComponents document {}).state.registry
    ((Entries.names registry.bindings).Nodup ∧
        ∀ name, name ∈ Entries.names registry.bindings ↔
          name ∈ Entries.names document.components.schemas) ∧
      (∀ name ∈ Entries.names document.components.schemas, ∃ node schema,
        registry.nodeNamed? name = some node ∧ document.LeadsTo name node.name schema) ∧
      registry.pending = [] ∧
      ∀ name schema, document.schema? name = some (.inline schema) → ∃ node,
        registry.nodeNamed? name = some node ∧ node.name = name ∧
          node.description = schema.headline? ∧
          document.translate schema = some (node.shape.rename registry.nameOf) := by
  intro registry
  have yields := yields_convertComponents document
  have faithful : registry.Faithful document := yields.faithful
  have settled : registry.pending = [] := yields.settled converted
  refine ⟨⟨faithful.distinct, ?_⟩, ?_, settled, ?_⟩
  · intro name
    rw [← Registry.isBound_iff]
    constructor
    · intro bound
      rcases Option.isSome_iff_exists.mp bound with ⟨id, bound⟩
      exact faithful.mem_names_of_bound bound
    · intro member
      rcases yields.means converted name member with ⟨id, bound⟩
      exact Option.isSome_iff_exists.mpr ⟨id, bound⟩
  · intro name member
    rcases yields.means converted name member with ⟨id, bound⟩
    rcases faithful.leads bound with ⟨node, schema, found, leads⟩
    exact ⟨node, schema, nodeNamed?_eq bound found, leads⟩
  · intro name schema declared
    have member := Entries.mem_names_of_value?_eq_some declared
    rcases yields.means converted name member with ⟨id, bound⟩
    rcases faithful.exists_translates settled bound declared with ⟨node, found, own, translates⟩
    exact ⟨node, nodeNamed?_eq bound found, own,
      translates.description.trans schema.summary?_eq, translates.translated⟩

/-- Pets and their owners refer to each other, once by another name. -/
def Document.petShop : Document where
  components := { schemas := [
    ("Pet", .inline {
      type := some (.single .object)
      title := some "A pet"
      properties := [
        ("keeper", .reference "#/components/schemas/Keeper"),
        ("sizes", .inline {
          type := some (.single .array)
          items := some (.reference "#/components/schemas/Size") })]
      required := ["keeper"] }),
    ("Keeper", .reference "#/components/schemas/Owner"),
    ("Owner", .inline {
      additionalProperties := some (.schema (.reference "#/components/schemas/Pet")) }),
    ("Size", .inline {
      enumValues := [.string "big", .string "small"]
      enumNames := some ["Big", "Small"] })] }

/-- The visits of a clinic, whose fields are of all primitive types. Some are known by the values that
they may have, the first of which is null. -/
def Document.clinic : Document where
  components := { schemas := [
    ("Visit", .inline {
      title := some ""
      description := some "One visit"
      properties := [
        ("patient", .reference "#/components/schemas/Animal"),
        ("age", .inline { type := some (.single .integer) }),
        ("weight", .inline { type := some (.anyOf [.null, .number]) }),
        ("healthy", .inline { type := some (.single .boolean) }),
        ("scan", .inline { type := some (.single .string), format := some "binary" }),
        ("note", .inline { type := some (.single .string), format := some "date" }),
        ("outcome", .inline {
          enumValues := [.null, .string "cured"]
          enumNames := some ["Open", "Cured"] }),
        ("doses", .inline { additionalProperties := some (.schema (.inline {
          enumValues := [.null, .number (.integer 2), .string "many"] })) })]
      required := ["patient"]
      propertyOrder := some ["age", "owner", "patient"] }),
    ("Animal", .reference "#/components/schemas/Pet"),
    ("Pet", .inline { title := some "An animal", type := some (.single .object) })] }

/-- Every field of a visit gets the type that its definition says, and the patient that at the end of
the chain. -/
theorem convertComponents_translates_clinic :
    let registry := (convertComponents .clinic {}).state.registry
    (convertComponents .clinic {}).value = .ok () ∧ registry.pending = [] ∧
      (∃ node, registry.nodeNamed? "Visit" = some node ∧ node.name = "Visit" ∧
        node.description = some "One visit" ∧
        node.shape.rename registry.nameOf = .object [
          ⟨"age", none, .inline (.primitive .int []), false⟩,
          ⟨"patient", some "An animal", .named "Pet", true⟩,
          ⟨"weight", none, .inline (.primitive .float []), false⟩,
          ⟨"healthy", none, .inline (.primitive .bool []), false⟩,
          ⟨"scan", none, .inline (.primitive .binary []), false⟩,
          ⟨"note", none, .inline (.primitive .string []), false⟩,
          ⟨"outcome", none, .inline (.primitive .string
            [⟨some "Open", .null⟩, ⟨some "Cured", .string "cured"⟩]), false⟩,
          ⟨"doses", none, .inline (.map (.inline (.primitive .int
            [⟨none, .null⟩, ⟨none, .number (.integer 2)⟩, ⟨none, .string "many"⟩]))), false⟩]) ∧
      ∃ node schema, registry.nodeNamed? "Animal" = some node ∧ node.name = "Pet" ∧
        Document.clinic.LeadsTo "Animal" node.name schema := by
  have converted : (convertComponents .clinic {}).value = .ok () := by cbv
  rcases convertComponents_translates .clinic converted with ⟨_, resolved, settled, translated⟩
  refine ⟨converted, settled, ?_, ?_⟩
  · rcases translated "Visit" _ rfl with ⟨node, found, named, described, shape⟩
    refine ⟨node, found, named, described, ?_⟩
    refine Option.some.inj (shape.symm.trans ?_)
    cbv
  · rcases resolved "Animal" (by decide) with ⟨node, schema, found, leads⟩
    have pet : Document.clinic.LeadsTo "Animal" "Pet" _ :=
      .onward rfl (by decide +kernel) (.here rfl)
    have same := leads.unique pet
    exact ⟨node, schema, found, same.1, leads⟩

end ApiGraph
