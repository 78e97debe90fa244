import ActionSchema.Proofs.Compilation

/-! The tables of a compiled schema. They are made in one loop under two kinds of keys, and stay in
step with the declarations and with each other. -/

namespace ActionSchema

structure CompiledSchema.InStep {A : Type} (s : CompiledSchema A) (ns : Namespace)
    (ds : List Declaration) : Prop where
  ns_eq : s.ns = ns
  apart : (ds.map (·.type)).Nodup
  schema_keys : ∀ type, type ∈ s.schema.index.keys ↔ type ∈ ds.map (·.type)
  schema_size : s.schema.size = ds.length
  actions_keys : ∀ type, type ∈ s.actions.table.keys ↔ type ∈ ds.map (·.type)
  actions_size : s.actions.size = ds.length
  creators_keys : ∀ type, type ∈ s.creators.table.keys ↔ type ∈ ds.map (·.type)
  creators_size : s.creators.size = ds.length
  order : ds.mapM Declaration.parse = .ok s.schema.toList
  declared : ∀ d ∈ ds, ∃ a creator, d.parse = .ok a ∧ s.schema.get d.type = .ok a ∧
    s.creator d.type = .ok creator ∧ creator.action = a ∧
    s.actions.get d.type = .ok (ns.qualify d.type) ∧ creator.namespaced = ns.qualify d.type ∧
    s.testers.get? (ns.qualify d.type) = some a.tester
  tested : ∀ x, s.testers.contains x = true ↔ ∃ type ∈ ds.map (·.type), x = ns.qualify type
  tested_once : ∀ type type', ns.qualify type = ns.qualify type' → type = type'
  undeclared : ∀ type, type ∉ ds.map (·.type) →
    s.schema.get type = .error (.unknownActionType type) ∧
    s.actions.get type = .error (.unknownActionType type) ∧
    s.creator type = .error (.unknownActionType type)
  sorted : (s.actions.namespacedTypes.map Text.utf8).Pairwise (· < ·)

theorem compile_in_step {A : Type} {format : Format A} {ns : Namespace} {ds : List Declaration}
    {s : CompiledSchema A} (h : compile format ns ds = .ok s) : s.InStep ns ds := by
  obtain ⟨as, hparses, hnodup, rfl⟩ := compile_eq_ok_iff.mp h
  have htypes := types_of_parses hparses
  have hlength := hparses.length_eq
  have hkeys {β : Type} (f : ParsedAction → β) (type : String) :
      type ∈ (Table.ofList (as.map fun a => (a.type, f a))).keys ↔ type ∈ ds.map (·.type) := by
    rw [Table.mem_keys_ofList, CompiledSchema.map_fst_entries, htypes]
  have hsize {β : Type} (f : ParsedAction → β) :
      (Table.ofList (as.map fun a => (a.type, f a))).size = ds.length := by
    rw [Table.size_ofList, List.length_map, hlength]
    rwa [CompiledSchema.map_fst_entries]
  constructor
  case ns_eq => rfl
  case apart => rwa [htypes] at hnodup
  case schema_keys =>
    intro type
    change type ∈ (SchemaMap.tabulate as).index.keys ↔ _
    rw [SchemaMap.tabulate, Table.mem_keys_ofList, SchemaMap.map_fst_index, htypes]
  case schema_size => exact hlength.symm
  case actions_keys => exact hkeys fun a => ns.qualify a.type
  case actions_size => exact hsize fun a => ns.qualify a.type
  case creators_keys => exact hkeys (ActionCreator.ofParsed format ns)
  case creators_size => exact hsize (ActionCreator.ofParsed format ns)
  case order => exact mapM_eq_ok_iff.mpr hparses
  case declared =>
    intro d hd
    obtain ⟨a, hparse, hschema, hactions, hcreator, htester⟩ := compile_declared h hd
    exact ⟨a, _, hparse, hschema, hcreator, rfl, hactions,
      congrArg ns.qualify (Declaration.type_of_parse hparse), htester⟩
  case tested => exact htypes ▸ fun x => CompiledSchema.testers_contains_tabulate
  case tested_once => exact fun type type' e => ns.qualify_injective e
  case undeclared =>
    intro type ht
    rw [← htypes] at ht
    exact ⟨CompiledSchema.schema_get_tabulate_of_not_mem ht,
      CompiledSchema.actions_get_tabulate_of_not_mem ht,
      CompiledSchema.creator_tabulate_of_not_mem ht⟩
  case sorted =>
    rw [CompiledSchema.namespacedTypes_tabulate, List.map_map, List.pairwise_map]
    -- the keys are internal types, whose order the namespace in front does not change
    refine (Table.Entries.pairwise_keys _).imp fun hlt => ?_
    exact Text.utf8_lt_utf8 (ns.qualify_lt_qualify hlt)

theorem session_in_step : ∃ s : CompiledSchema Action,
    compile .standard sessionNamespace sessionDecls = .ok s ∧
      s.actions.namespacedTypes = ["auth_LOGIN", "auth_LOGOUT", "auth_SET_TOKEN"] ∧
      s.InStep sessionNamespace sessionDecls := by
  obtain ⟨s, h, htypes⟩ := session_compiles .standard
  exact ⟨s, h, htypes, compile_in_step h⟩

end ActionSchema
