import ApiGraph.Proofs.Conversion.Parts

namespace ApiGraph

/-! # References that are followed in rounds

A reference is followed to the entry that it names, and on from there while references are met. Rounds
are counted instead of noting what has been met, and that tells the same: a way that still goes on
after one round more than there are components has come to some name twice, and then it never ends. -/

namespace Referable

variable {α : Type} (components : Entries (Referable α)) (target? : String → Option String)

/-- A reference leads to the entry that it names. -/
inductive Next : Referable α → Referable α → Prop where
  | entry {path name : String} {next : Referable α} (target : target? path = some name)
      (declared : Entries.value? components name = some next) : Next (.reference path) next

/-- What is met when references are followed from an item, beginning with the item itself. -/
abbrev Meets : Referable α → Referable α → Prop := Relation.ReflTransGen (Next components target?)

/-- An item that is met again further on. -/
def Recurs (item : Referable α) : Prop := Relation.TransGen (Next components target?) item item

/-- The names that are met on the way from one item to another one, in order. -/
inductive Trail : Referable α → List String → Referable α → Prop where
  | here (item : Referable α) : Trail item [] item
  | onward {path name : String} {next last : Referable α} {names : List String}
      (target : target? path = some name)
      (declared : Entries.value? components name = some next) (rest : Trail next names last) :
      Trail (.reference path) (name :: names) last

variable {components target?} {item other last : Referable α} {names : List String}

/-! ## One step after the other -/

theorem Next.unique (step : Next components target? item last)
    (also : Next components target? item other) : last = other := by
  cases step with
  | entry target declared =>
      cases also with
      | entry target' declared' =>
          rw [target] at target'
          cases target'
          rw [declared] at declared'
          cases declared'
          rfl

/-- Whatever is met after an item that recurs also recurs, since there is only one way on. -/
theorem Recurs.of_meets (recurs : Recurs components target? item)
    (meets : Meets components target? item other) : Recurs components target? other := by
  induction meets with
  | refl => exact recurs
  | tail _ step induction =>
      rcases Relation.TransGen.head'_iff.mp induction with ⟨next, also, back⟩
      rw [also.unique step] at back
      exact .tail' back step

theorem Recurs.exists_path (recurs : Recurs components target? item) :
    ∃ path, item = .reference path := by
  rcases Relation.TransGen.head'_iff.mp recurs with ⟨next, step, _⟩
  cases step with
  | entry => exact ⟨_, rfl⟩

theorem LeadsTo.meets {path first final : String} {value : α}
    (leads : LeadsTo components target? first final value) (target : target? path = some first) :
    Meets components target? (.reference path) (.inline value) := by
  induction leads generalizing path with
  | here declared => exact .single (.entry target declared)
  | onward declared next _ induction => exact .head (.entry target declared) (induction next)

/-- An item resolves to the definition that is met. -/
theorem resolves_iff_meets {value : α} :
    Resolves components target? item value ↔ Meets components target? item (.inline value) := by
  constructor
  · intro resolves
    cases resolves with
    | inline => exact .refl
    | reference target leads => exact leads.meets target
  · intro meets
    induction meets using Relation.ReflTransGen.head_induction_on with
    | refl => exact .inline value
    | head step _ induction =>
        cases step with
        | entry target declared =>
            cases induction with
            | inline => exact .reference target (.here declared)
            | reference next leads => exact .reference target (.onward declared next leads)

/-! ## Trails -/

namespace Trail

theorem meets (trail : Trail components target? item names last) :
    Meets components target? item last := by
  induction trail with
  | here => exact .refl
  | onward target declared _ induction => exact .head (.entry target declared) induction

theorem subset (trail : Trail components target? item names last) :
    names ⊆ Entries.names components := by
  induction trail with
  | here => exact List.nil_subset _
  | onward _ declared _ induction =>
      exact List.cons_subset.mpr ⟨Entries.mem_names_of_value?_eq_some declared, induction⟩

/-- The entry of a name on a trail is met after at least one step, and the end of the trail after
it. -/
theorem exists_entry {name : String} (trail : Trail components target? item names last)
    (member : name ∈ names) : ∃ entry, Entries.value? components name = some entry ∧
      Relation.TransGen (Next components target?) item entry ∧
      Meets components target? entry last := by
  induction trail with
  | here => cases member
  | @onward _ first next _ _ target declared rest induction =>
      rcases List.mem_cons.mp member with equal | later
      · exact ⟨next, equal ▸ declared, .single (.entry target declared), rest.meets⟩
      · rcases induction later with ⟨entry, found, reached, onward⟩
        exact ⟨entry, found, .head (.entry target declared) reached, onward⟩

/-- A trail that comes to a name twice goes in circles from there on. -/
theorem recurs_of_not_nodup (trail : Trail components target? item names last)
    (repeats : ¬names.Nodup) : Recurs components target? last := by
  induction trail with
  | here => exact absurd List.nodup_nil repeats
  | @onward _ name next _ names target declared rest induction =>
      by_cases back : name ∈ names
      · rcases rest.exists_entry back with ⟨entry, found, reached, onward⟩
        rw [declared] at found
        cases found
        exact Recurs.of_meets reached onward
      · apply induction
        intro nodup
        exact repeats (List.nodup_cons.mpr ⟨back, nodup⟩)

/-- There is only room for so many names. -/
theorem recurs (trail : Trail components target? item names last)
    (long : components.length < names.length) : Recurs components target? last := by
  apply trail.recurs_of_not_nodup
  intro nodup
  have bounded := (List.subperm_of_subset nodup trail.subset).length_le
  rw [Entries.names, List.length_map] at bounded
  omega

end Trail

end Referable

/-! ## Rounds -/

section Rounds

open Referable

variable {α : Type} {area : String} {components : Entries (Referable α)} {handler : String}
  {item : Referable α}

theorem meets_of_resolveWithin {rounds : Nat} {value : α}
    (success : resolveWithin area components handler rounds item = .ok value) :
    Meets components (Pointer.component? · area) item (.inline value) := by
  induction rounds generalizing item with
  | zero => cases success
  | succ rounds induction =>
      cases item with
      | inline found =>
          cases success
          exact .refl
      | reference path =>
          rw [resolveWithin] at success
          split at success
          next next found =>
            rcases Option.bind_eq_some_iff.mp found with ⟨name, target, declared⟩
            exact .head (.entry target declared) (induction success)
          next => cases success

/-- Rounds fail at a reference that names no component, or when they are used up. -/
theorem resolveWithin_error {rounds : Nat} {error : BuildError}
    (failure : resolveWithin area components handler rounds item = .error error) :
    (∃ path, Meets components (Pointer.component? · area) item (.reference path) ∧
        (Pointer.component? path area).bind (Entries.value? components) = none ∧
        error = .unresolvedReference path handler) ∨
      ∃ names last, Trail components (Pointer.component? · area) item names last ∧
        names.length = rounds ∧
        error = .unresolvedReference (last.path?.getD "") handler := by
  induction rounds generalizing item with
  | zero =>
      cases failure
      exact .inr ⟨[], item, .here item, rfl, rfl⟩
  | succ rounds induction =>
      cases item with
      | inline found => cases failure
      | reference path =>
          rw [resolveWithin] at failure
          split at failure
          next next found =>
            rcases Option.bind_eq_some_iff.mp found with ⟨name, target, declared⟩
            rcases induction failure with ⟨stop, met, undeclared, equal⟩ |
              ⟨names, last, trail, length, equal⟩
            · exact .inl ⟨stop, .head (.entry target declared) met, undeclared, equal⟩
            · refine .inr ⟨name :: names, last, .onward target declared trail, ?_, equal⟩
              rw [List.length_cons, length]
          next missing =>
            cases failure
            exact .inl ⟨path, .refl, missing, rfl⟩

/-- What is reported is a reference that was met, and either it names no component or it is met
again and again. -/
theorem resolveComponent_error {error : BuildError}
    (failure : resolveComponent area components handler item = .error error) :
    ∃ path, Meets components (Pointer.component? · area) item (.reference path) ∧
      ((Pointer.component? path area).bind (Entries.value? components) = none ∨
        Recurs components (Pointer.component? · area) (.reference path)) ∧
      error = .unresolvedReference path handler := by
  rcases resolveWithin_error failure with ⟨path, met, undeclared, equal⟩ |
    ⟨names, last, trail, length, equal⟩
  · exact ⟨path, met, .inl undeclared, equal⟩
  · have recurs := trail.recurs (by omega)
    rcases recurs.exists_path with ⟨path, rfl⟩
    exact ⟨path, trail.meets, .inr recurs, equal⟩

end Rounds

/-- An item resolves to a definition exactly when following references from it comes to the
definition, however many there are. If it never comes to one, the error names a reference that is met
on the way: one that names no component of this section, or one on a circle. More rounds would not
resolve anything else. -/
theorem resolveComponent_ends {α : Type} (area : String) (components : Entries (Referable α))
    (handler : String) (item : Referable α) :
    let target? (path : String) := Pointer.component? path area
    (∀ value, resolveComponent area components handler item = .ok value ↔
        Referable.Meets components target? item (.inline value)) ∧
      ((∀ value, ¬Referable.Meets components target? item (.inline value)) →
        ∃ path, Referable.Meets components target? item (.reference path) ∧
          ((target? path).bind (Entries.value? components) = none ∨
            Referable.Recurs components target? (.reference path)) ∧
          resolveComponent area components handler item =
            .error (.unresolvedReference path handler)) ∧
      ∀ rounds value, resolveWithin area components handler rounds item = .ok value →
        resolveComponent area components handler item = .ok value := by
  intro target?
  have ends (value : α) : resolveComponent area components handler item = .ok value ↔
      Referable.Meets components target? item (.inline value) :=
    resolveComponent_eq_ok_iff.trans Referable.resolves_iff_meets
  refine ⟨ends, ?_, ?_⟩
  · intro endless
    cases outcome : resolveComponent area components handler item with
    | ok value => exact absurd ((ends value).mp outcome) (endless value)
    | error error =>
        rcases resolveComponent_error outcome with ⟨path, met, reason, rfl⟩
        exact ⟨path, met, reason, rfl⟩
  · intro rounds value success
    exact (ends value).mpr (meets_of_resolveWithin success)

/-- A circle of two that is entered from outside of it. -/
example :
    resolveComponent "parameters" (α := Nat)
      [("a", .reference "#/components/parameters/b"), ("b", .reference "#/components/parameters/a")]
      "list" (.reference "#/components/parameters/a") =
        .error (.unresolvedReference "#/components/parameters/b" "list") := by
  cbv

end ApiGraph
