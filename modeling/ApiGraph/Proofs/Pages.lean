import ApiGraph.Handler

namespace ApiGraph

/-! # Handlers that return pages

A handler returns pages when its query has a page index and a page size and its response wraps an
object with a list in it. The two names are chosen one after the other. The index is the first
candidate that the query has, and the size is not chosen together with it: where the only size that
the query has is that index, no other index is tried. -/

namespace Handler

def queryNames (handler : Handler) : List String := handler.queryParams.map Field.name

/-- The query has a page index and a page size that are different parameters. -/
def OffersPages (handler : Handler) (indexNames sizeNames : List String) : Prop :=
  ∃ indexName ∈ indexNames, ∃ sizeName ∈ sizeNames, indexName ≠ sizeName ∧
    indexName ∈ handler.queryNames ∧ sizeName ∈ handler.queryNames

/-- The first page index of the query is the only page size that the query has. -/
def TakesOnlySize (handler : Handler) (indexNames sizeNames : List String) : Prop :=
  ∃ indexName, indexNames.find? handler.queryNames.contains = some indexName ∧
    ∀ sizeName ∈ sizeNames, sizeName ∈ handler.queryNames → sizeName = indexName

/-- The response is an object, its payload is an object as well, and the first field of the payload
that is an array has elements of this type. -/
def ListsItems (handler : Handler) (registry : Registry) (item : TypeRef TypeId) : Prop :=
  ∃ body fields payload earlier listing later,
    handler.responseBody = some body ∧ registry.shapeOf body = .object fields ∧
      fields.find? (fun field => field.name == payloadField) = some payload ∧
      registry.shapeOf payload.type = .object (earlier ++ listing :: later) ∧
      (∀ field ∈ earlier, ∀ element, registry.shapeOf field.type ≠ .array element) ∧
      registry.shapeOf listing.type = .array item

end Handler

/-! ## Payloads -/

section Payload

variable {shape : Shape TypeId} {registry : Registry} {item : TypeRef TypeId}

theorem Shape.element?_eq_some_iff : shape.element? = some item ↔ shape = .array item := by
  cases shape <;> simp [Shape.element?]

theorem Shape.element?_eq_none_iff :
    shape.element? = none ↔ ∀ element, shape ≠ .array element := by
  cases shape <;> simp [Shape.element?]

/-- Only an object has fields. -/
theorem Shape.fields_eq_of_ne_nil (held : shape.fields ≠ []) : shape = .object shape.fields := by
  cases shape with
  | object fields => rfl
  | primitive primitive entries => exact absurd rfl held
  | array element => exact absurd rfl held
  | map value => exact absurd rfl held

/-- The search of a list among fields ends at the first field that is one. -/
theorem Registry.findSome?_element? {fields : List (TypeField TypeId)} :
    (fields.findSome? fun field => (registry.shapeOf field.type).element?) = some item ↔
      ∃ earlier listing later, fields = earlier ++ listing :: later ∧
        (∀ field ∈ earlier, ∀ element, registry.shapeOf field.type ≠ .array element) ∧
        registry.shapeOf listing.type = .array item := by
  rw [List.findSome?_eq_some_iff]
  simp only [Shape.element?_eq_some_iff, Shape.element?_eq_none_iff]
  constructor
  · intro found
    rcases found with ⟨earlier, listing, later, split, isList, others⟩
    exact ⟨earlier, listing, later, split, others, isList⟩
  · intro found
    rcases found with ⟨earlier, listing, later, split, others, isList⟩
    exact ⟨earlier, listing, later, split, isList, others⟩

theorem Handler.payload?_eq_some_iff {handler : Handler} {payload : TypeRef TypeId} :
    handler.payload? registry = some payload ↔
      ∃ body fields field, handler.responseBody = some body ∧
        registry.shapeOf body = .object fields ∧
        fields.find? (fun field => field.name == payloadField) = some field ∧
        field.type = payload := by
  unfold payload?
  simp only [Option.bind_eq_bind, Option.bind_eq_some_iff, Option.pure_def, Option.some.injEq,
    Shape.field?]
  constructor
  · intro found
    rcases found with ⟨body, response, field, data, type⟩
    have object : registry.shapeOf body = .object (registry.shapeOf body).fields := by
      apply Shape.fields_eq_of_ne_nil
      exact List.ne_nil_of_mem (List.mem_of_find?_eq_some data)
    exact ⟨body, _, field, response, object, data, type⟩
  · intro found
    rcases found with ⟨body, fields, field, response, object, data, type⟩
    refine ⟨body, response, field, ?_, type⟩
    rw [object]
    exact data

/-- What the search of the items comes to. -/
theorem Handler.listsItems_iff {handler : Handler} :
    ((handler.payload? registry).bind fun payload =>
      (registry.shapeOf payload).fields.findSome? fun field =>
        (registry.shapeOf field.type).element?) = some item ↔
      handler.ListsItems registry item := by
  rw [Option.bind_eq_some_iff]
  constructor
  · intro found
    rcases found with ⟨payload, wrapped, listed⟩
    rcases payload?_eq_some_iff.mp wrapped with ⟨body, fields, field, response, object, data, rfl⟩
    rcases Registry.findSome?_element?.mp listed with
      ⟨earlier, listing, later, split, others, isList⟩
    have inner : registry.shapeOf field.type = .object (earlier ++ listing :: later) := by
      rw [← split]
      apply Shape.fields_eq_of_ne_nil
      simp [split]
    exact ⟨body, fields, field, earlier, listing, later, response, object, data, inner, others,
      isList⟩
  · intro lists
    rcases lists with ⟨body, fields, field, earlier, listing, later, response, object, data, inner,
      others, isList⟩
    refine ⟨field.type, payload?_eq_some_iff.mpr ⟨body, fields, field, response, object, data, rfl⟩,
      ?_⟩
    rw [inner]
    exact Registry.findSome?_element?.mpr ⟨earlier, listing, later, rfl, others, isList⟩

end Payload

/-! ## Names of parameters -/

namespace Handler

section Names

variable {handler : Handler} {indexNames sizeNames : List String} {indexName : String}

/-- A size is found beside an index unless the query has no other. -/
theorem isSome_find?_size :
    (sizeNames.find? fun candidate =>
        handler.queryNames.contains candidate && candidate != indexName).isSome ↔
      ∃ sizeName ∈ sizeNames, sizeName ∈ handler.queryNames ∧ sizeName ≠ indexName := by
  simp [List.find?_isSome]

theorem offersPages_iff
    (first : indexNames.find? handler.queryNames.contains = some indexName) :
    (∃ sizeName ∈ sizeNames, sizeName ∈ handler.queryNames ∧ sizeName ≠ indexName) ↔
      handler.OffersPages indexNames sizeNames ∧ ¬ handler.TakesOnlySize indexNames sizeNames := by
  have listed : indexName ∈ indexNames := List.mem_of_find?_eq_some first
  have inQuery : indexName ∈ handler.queryNames := by
    simpa using List.find?_some first
  constructor
  · intro beside
    rcases beside with ⟨sizeName, candidate, held, different⟩
    refine ⟨⟨indexName, listed, sizeName, candidate, different.symm, inQuery, held⟩, ?_⟩
    intro only
    rcases only with ⟨other, found, alone⟩
    rw [first] at found
    cases found
    exact different (alone sizeName candidate held)
  · intro holds
    by_cases beside : ∃ sizeName ∈ sizeNames, sizeName ∈ handler.queryNames ∧ sizeName ≠ indexName
    · exact beside
    · refine absurd ⟨indexName, first, ?_⟩ holds.2
      intro sizeName candidate held
      by_cases same : sizeName = indexName
      · exact same
      · exact absurd ⟨sizeName, candidate, held, same⟩ beside

end Names

/-! ## Pages -/

theorem pageInfo?_eq_some_iff {handler : Handler} {registry : Registry}
    {indexCandidates sizeCandidates : List String} {page : PageInfo} :
    handler.pageInfo? registry indexCandidates sizeCandidates = some page ↔
      handler.method = "GET" ∧
        (orDefaults indexCandidates defaultPageIndexCandidates).find? handler.queryNames.contains =
          some page.indexName ∧
        ((orDefaults sizeCandidates defaultPageSizeCandidates).find? fun candidate =>
          handler.queryNames.contains candidate && candidate != page.indexName) =
            some page.sizeName ∧
        handler.ListsItems registry page.item := by
  rcases page with ⟨item, indexName, sizeName⟩
  rw [← listsItems_iff, pageInfo?, ← queryNames]
  by_cases reads : handler.method = "GET"
  · simp only [reads, bne_self_eq_false, Bool.false_eq_true, if_false, Option.bind_eq_bind,
      Option.bind_eq_some_iff, Option.pure_def, Option.some.injEq, PageInfo.mk.injEq, true_and]
    constructor
    · intro found
      rcases found with ⟨_, index, _, size, payload, wrapped, _, listed, rfl, rfl, rfl⟩
      exact ⟨index, size, payload, wrapped, listed⟩
    · intro found
      rcases found with ⟨index, size, payload, wrapped, listed⟩
      exact ⟨_, index, _, size, payload, wrapped, _, listed, rfl, rfl, rfl⟩
  · simp [reads]

/-- A page has the names of two different query parameters, one from each list of candidates, and
the elements of the first list of the payload. There is one exactly when the method is GET and there
are such a pair and such a list, except where the first index of the query takes the only size. -/
theorem pageInfo?_pairs (handler : Handler) (registry : Registry)
    (indexCandidates sizeCandidates : List String) :
    let indexNames := orDefaults indexCandidates defaultPageIndexCandidates
    let sizeNames := orDefaults sizeCandidates defaultPageSizeCandidates
    (∀ page, handler.pageInfo? registry indexCandidates sizeCandidates = some page →
      page.indexName ∈ indexNames ∧ page.sizeName ∈ sizeNames ∧
        page.indexName ≠ page.sizeName ∧ page.indexName ∈ handler.queryNames ∧
        page.sizeName ∈ handler.queryNames ∧ handler.ListsItems registry page.item) ∧
      ((handler.pageInfo? registry indexCandidates sizeCandidates).isSome ↔
        handler.method = "GET" ∧ handler.OffersPages indexNames sizeNames ∧
          (∃ item, handler.ListsItems registry item) ∧
          ¬ handler.TakesOnlySize indexNames sizeNames) := by
  intro indexNames sizeNames
  constructor
  · intro page found
    rcases pageInfo?_eq_some_iff.mp found with ⟨_, index, size, lists⟩
    have indexHeld := List.find?_some index
    have sizeHeld := List.find?_some size
    simp only [Bool.and_eq_true, List.contains_iff_mem, bne_iff_ne] at indexHeld sizeHeld
    exact ⟨List.mem_of_find?_eq_some index, List.mem_of_find?_eq_some size, sizeHeld.2.symm,
      indexHeld, sizeHeld.1, lists⟩
  · rw [Option.isSome_iff_exists]
    constructor
    · intro found
      rcases found with ⟨page, found⟩
      rcases pageInfo?_eq_some_iff.mp found with ⟨reads, index, size, lists⟩
      have beside := isSome_find?_size.mp (Option.isSome_of_eq_some size)
      have offered := (offersPages_iff index).mp beside
      exact ⟨reads, offered.1, ⟨page.item, lists⟩, offered.2⟩
    · intro holds
      rcases holds with ⟨reads, offers, ⟨item, lists⟩, free⟩
      rcases offers with ⟨other, candidate, pair⟩
      have present : (indexNames.find? handler.queryNames.contains).isSome := by
        rw [List.find?_isSome]
        rcases pair with ⟨_, _, _, inQuery, _⟩
        exact ⟨other, candidate, by simpa using inQuery⟩
      rcases Option.isSome_iff_exists.mp present with ⟨indexName, index⟩
      have beside := (offersPages_iff index).mpr ⟨⟨other, candidate, pair⟩, free⟩
      rcases Option.isSome_iff_exists.mp (isSome_find?_size.mpr beside) with ⟨sizeName, size⟩
      exact ⟨⟨item, indexName, sizeName⟩, pageInfo?_eq_some_iff.mpr ⟨reads, index, size, lists⟩⟩

/-- Pets are listed by a query with a number that may be an index or a size, and with an index. -/
def listPets : Handler where
  name := "listPets"
  path := "/pets"
  method := "GET"
  queryParams := [⟨"page_num", none, .inline (.primitive .int []), false⟩,
    ⟨"page_index", none, .inline (.primitive .int []), false⟩]
  responseBody := some (.inline (.object [⟨"data", none, .inline (.object [⟨"items", none,
    .inline (.array (.inline (.primitive .string []))), false⟩]), false⟩]))

/-- The number is taken as the index, as it comes first, and then there is no size. The other index
would have left it free. -/
theorem pageInfo?_listPets :
    listPets.method = "GET" ∧ listPets.OffersPages ["page_num", "page_index"] ["page_num"] ∧
      listPets.ListsItems {} (.inline (.primitive .string [])) ∧
      listPets.pageInfo? {} ["page_num", "page_index"] ["page_num"] = none := by
  have pair : listPets.OffersPages ["page_num", "page_index"] ["page_num"] :=
    ⟨"page_index", by decide, "page_num", by decide, by decide, by decide, by decide⟩
  have lists : listPets.ListsItems {} (.inline (.primitive .string [])) :=
    ⟨_, _, _, [], _, [], rfl, rfl, rfl, rfl, by simp, rfl⟩
  exact ⟨rfl, pair, lists, rfl⟩

end Handler

end ApiGraph
