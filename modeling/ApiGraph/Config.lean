import ApiGraph.NameMap
import ApiGraph.Source.Form

namespace ApiGraph

open Source (Data Form Fault)

/-! The module configuration of a build. Everything in it has a default. -/

def defaultModule : String := "default"

def defaultPageIndexCandidates : List String := ["page_index", "page_num"]

def defaultPageSizeCandidates : List String := ["page_size", "page_num"]

structure Config where
  /-- Types that are assigned to a module whatever uses them. -/
  typeModules : NameMap String := .empty
  /-- The module of operations without a tag. -/
  fallbackModule : String := defaultModule
  pageIndexCandidates : List String := defaultPageIndexCandidates
  pageSizeCandidates : List String := defaultPageSizeCandidates

namespace Config

/-- Assign a type to a module. -/
def assign (config : Config) (type module : String) : Config :=
  { config with typeModules := config.typeModules.put type module }

def isDefault (config : Config) : Bool :=
  config.typeModules.entries.isEmpty && config.fallbackModule == defaultModule &&
    config.pageIndexCandidates == defaultPageIndexCandidates &&
    config.pageSizeCandidates == defaultPageSizeCandidates

theorem isDefault_iff (config : Config) : config.isDefault ↔ config = {} := by
  rcases config with ⟨⟨entries, increasing⟩, fallback, index, size⟩
  simp [isDefault, NameMap.empty, and_assoc]

/-! ## Reading -/

def fields : List Data.Field := [
  ⟨["type_module_map"], true⟩,
  ⟨["fallback_module"], true⟩,
  ⟨["page_index_candidates"], true⟩,
  ⟨["page_size_candidates"], true⟩]

def ofData? (data : Data) : Option Config :=
  match data.record? fields with
  | some [typeModules, fallbackModule, pageIndexCandidates, pageSizeCandidates] => do
      let typeModules ← Data.defaulted [] (Data.entries? Data.text?) typeModules
      let fallbackModule ← Data.defaulted defaultModule Data.text? fallbackModule
      let pageIndexCandidates ←
        Data.defaulted defaultPageIndexCandidates (Data.list? Data.text?) pageIndexCandidates
      let pageSizeCandidates ←
        Data.defaulted defaultPageSizeCandidates (Data.list? Data.text?) pageSizeCandidates
      return ⟨.ofEntries typeModules, fallbackModule, pageIndexCandidates, pageSizeCandidates⟩
  | _ => none

def form : Form := .record [
  ("type_module_map", .defaulted, .map .text),
  ("fallback_module", .defaulted, .text),
  ("page_index_candidates", .defaulted, .list .text),
  ("page_size_candidates", .defaulted, .list .text)]

def ofSource (source : Source.Text) : Except Fault Config :=
  match source.read form with
  | .error fault => .error fault
  | .ok data =>
      match ofData? data with
      | some config => .ok config
      | none => .error .wrongShape

end Config

end ApiGraph
