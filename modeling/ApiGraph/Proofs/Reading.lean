import ApiGraph.Proofs.SchemaReader
import Mathlib

namespace ApiGraph

/-! # Documents that are read

A name that is repeated in a section keeps its first place and takes its last value. So no name is
declared twice in a document that is read, whatever was written. -/

open Source (Data)

/-- No name is declared twice in a section. -/
structure Components.Distinct (components : Components) : Prop where
  schemas : (Entries.names components.schemas).Nodup
  parameters : (Entries.names components.parameters).Nodup
  requestBodies : (Entries.names components.requestBodies).Nodup
  responses : (Entries.names components.responses).Nodup

theorem Entries.nodup_names_putAll {α : Type} {entries : Entries α} (additions : Entries α)
    (distinct : (names entries).Nodup) : (names (putAll entries additions)).Nodup := by
  induction additions generalizing entries with
  | nil => exact distinct
  | cons addition rest induction =>
      apply induction
      rw [names_put]
      split
      · exact distinct
      next absent =>
        rw [← List.concat_eq_append]
        exact distinct.concat absent

theorem nodup_names_of_entries? {α : Type} {read : Data → Option α} {data : Data}
    {entries : Entries α} (found : data.entries? read = some entries) :
    (Entries.names entries).Nodup := by
  cases data with
  | map members =>
      rcases Option.bind_eq_some_iff.mp found with ⟨additions, _, equal⟩
      cases equal
      exact Entries.nodup_names_putAll additions List.nodup_nil
  | _ => cases found

theorem nodup_names_of_slotsOfData? {data : Data} {entries : Entries SchemaSlot}
    (found : Schema.slotsOfData? data = some entries) : (Entries.names entries).Nodup := by
  rw [Schema.slotsOfData?_eq] at found
  exact nodup_names_of_entries? found

theorem nodup_names_of_defaulted {α : Type} {read : Data → Option (Entries α)}
    {data? : Option Data} {entries : Entries α}
    (each : ∀ data entries, read data = some entries → (Entries.names entries).Nodup)
    (found : Data.defaulted [] read data? = some entries) : (Entries.names entries).Nodup := by
  cases data? with
  | none =>
      cases found
      exact List.nodup_nil
  | some data => exact each data entries found

theorem Components.distinct_of_ofData? {data : Data} {components : Components}
    (found : Components.ofData? data = some components) : components.Distinct := by
  unfold Components.ofData? at found
  split at found
  next schemas parameters requestBodies responses _ =>
    rcases Option.bind_eq_some_iff.mp found with ⟨first, inSchemas, found⟩
    rcases Option.bind_eq_some_iff.mp found with ⟨second, inParameters, found⟩
    rcases Option.bind_eq_some_iff.mp found with ⟨third, inBodies, found⟩
    rcases Option.bind_eq_some_iff.mp found with ⟨fourth, inResponses, equal⟩
    cases equal
    exact ⟨nodup_names_of_defaulted (fun _ _ => nodup_names_of_slotsOfData?) inSchemas,
      nodup_names_of_defaulted (fun _ _ => nodup_names_of_entries?) inParameters,
      nodup_names_of_defaulted (fun _ _ => nodup_names_of_entries?) inBodies,
      nodup_names_of_defaulted (fun _ _ => nodup_names_of_entries?) inResponses⟩
  next => cases found

theorem Document.distinct_of_ofData? {data : Data} {document : Document}
    (found : Document.ofData? data = some document) : document.components.Distinct := by
  unfold Document.ofData? at found
  split at found
  next openapi info paths components _ =>
    rcases Option.bind_eq_some_iff.mp found with ⟨_, _, found⟩
    rcases Option.bind_eq_some_iff.mp found with ⟨_, _, found⟩
    rcases Option.bind_eq_some_iff.mp found with ⟨_, _, found⟩
    rcases Option.bind_eq_some_iff.mp found with ⟨sections, read, equal⟩
    cases equal
    cases components with
    | none =>
        cases read
        exact ⟨List.nodup_nil, List.nodup_nil, List.nodup_nil, List.nodup_nil⟩
    | some data => exact Components.distinct_of_ofData? read
  next => cases found

/-- No document that is read declares a name twice. -/
theorem Document.distinct_of_ofSource {source : Source.Text} {document : Document}
    (read : Document.ofSource source = .ok document) : document.components.Distinct := by
  unfold Document.ofSource at read
  split at read
  next => cases read
  next data _ =>
    split at read
    next found =>
      cases read
      exact distinct_of_ofData? found
    next => cases read

end ApiGraph
