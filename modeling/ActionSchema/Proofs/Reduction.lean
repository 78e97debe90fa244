import ActionSchema.Proofs.Compilation
import ActionSchema.Reducer

/-! Reducers of a schema. A table of handlers is accepted if all its types are declared, and what it
becomes handles these types in the namespace of the schema and nothing else. -/

namespace ActionSchema

variable {A S : Type} {format : Format A} {ns : Namespace} {ds : List Declaration}
  {s : CompiledSchema A}

theorem Reducer.reduce_of_not_handles {r : Reducer S A} {action : A}
    (h : ¬ r.handles (r.format.unformat action).type = true) (state : S) :
    r.reduce state action = state := by
  rw [handles, Table.Entries.contains, Option.not_isSome_iff_eq_none] at h
  simp only [reduce, h]

namespace CompiledSchema

theorem actions_get_eq_ok_iff (h : compile format ns ds = .ok s) {type namespaced : String} :
    s.actions.get type = .ok namespaced ↔
      type ∈ ds.map (·.type) ∧ ns.qualify type = namespaced := by
  by_cases ht : type ∈ ds.map (·.type)
  · obtain ⟨d, hd, rfl⟩ := List.mem_map.mp ht
    obtain ⟨-, -, -, hget, -⟩ := compile_declared h hd
    rw [hget, Except.ok.injEq]
    exact (and_iff_right ht).symm
  · obtain ⟨-, hunknown, -⟩ := compile_undeclared h ht
    rw [hunknown]
    exact ⟨nofun, fun hmem => absurd hmem.1 ht⟩

theorem namespaceHandler_eq (h : compile format ns ds = .ok s) (entry : String × Handler S A) :
    s.namespaceHandler entry =
      if entry.1 ∈ ds.map (·.type) then .ok (ns.qualify entry.1, entry.2)
      else .error (.unknownHandler entry.1) := by
  unfold namespaceHandler
  by_cases ht : entry.1 ∈ ds.map (·.type)
  · rw [(actions_get_eq_ok_iff h).mpr ⟨ht, rfl⟩, if_pos ht]
  · obtain ⟨-, hunknown, -⟩ := compile_undeclared h ht
    rw [hunknown, if_neg ht]

theorem createReducer_eq (h : compile format ns ds = .ok s) (t : HandlerTable S A) (init : S) :
    s.createReducer t init =
      match t.types.find? fun type => type ∉ ds.map (·.type) with
      | some type => .error (.unknownHandler type)
      | none => .ok
        ⟨Table.ofList (t.table.toList.map fun e => (ns.qualify e.1, e.2)), format, init⟩ := by
  have hfind : (t.types.find? fun type => type ∉ ds.map (·.type)) =
      (t.table.toList.find? fun e => e.1 ∉ ds.map (·.type)).map Prod.fst := List.find?_map ..
  rw [createReducer, funext (namespaceHandler_eq h), mapM_ite, format_of_compile h, hfind]
  cases t.table.toList.find? fun e => e.1 ∉ ds.map (·.type) <;> rfl

theorem createReducer_alike {ns' : Namespace} {s' : CompiledSchema A}
    (h : compile format ns ds = .ok s) (h' : compile format ns' ds = .ok s')
    (t : HandlerTable S A) (init : S) :
    (∃ e, s.createReducer t init = .error e ∧ s'.createReducer t init = .error e) ∨
      ∃ r r', s.createReducer t init = .ok r ∧ s'.createReducer t init = .ok r' := by
  rw [createReducer_eq h, createReducer_eq h']
  cases t.types.find? fun type => type ∉ ds.map (·.type) with
  | some type => exact .inl ⟨_, rfl, rfl⟩
  | none => exact .inr ⟨_, _, rfl, rfl⟩

theorem createReducer_eq_ok_iff (h : compile format ns ds = .ok s) {t : HandlerTable S A}
    {init : S} {r : Reducer S A} : s.createReducer t init = .ok r ↔
      (∀ type ∈ t.types, type ∈ ds.map (·.type)) ∧
        r = ⟨Table.ofList (t.table.toList.map fun e => (ns.qualify e.1, e.2)), format, init⟩ := by
  rw [createReducer_eq h]
  cases hfind : t.types.find? fun type => type ∉ ds.map (·.type) with
  | some type =>
    have hmem : type ∈ t.types := List.mem_of_find?_eq_some hfind
    have hnot : type ∉ ds.map (·.type) := by
      simpa only [decide_eq_true_eq] using List.find?_some hfind
    exact ⟨nofun, fun hall => absurd (hall.1 type hmem) hnot⟩
  | none =>
    have hall : ∀ type ∈ t.types, type ∈ ds.map (·.type) := by
      simpa only [List.find?_eq_none, decide_eq_true_eq, not_not] using hfind
    rw [Except.ok.injEq]
    exact ⟨fun e => ⟨hall, e.symm⟩, fun e => e.2.symm⟩

theorem handles_iff (h : compile format ns ds = .ok s) {t : HandlerTable S A} {init : S}
    {r : Reducer S A} (hr : s.createReducer t init = .ok r) {namespaced : String} :
    r.handles namespaced = true ↔ ∃ type ∈ t.types, ns.qualify type = namespaced := by
  obtain ⟨-, rfl⟩ := (createReducer_eq_ok_iff h).mp hr
  rw [Reducer.handles, Table.Entries.contains_iff_mem_keys, Table.mem_keys_ofList, List.map_map,
    HandlerTable.types, Table.Entries.keys]
  simp only [List.mem_map, Function.comp_apply, exists_exists_and_eq_and]

section Reduce

variable (h : compile format ns ds = .ok s) {t : HandlerTable S A} {init : S} {r : Reducer S A}
  (hr : s.createReducer t init = .ok r) {action : A}
include h hr

theorem format_of_createReducer : r.format = format := by
  obtain ⟨-, rfl⟩ := (createReducer_eq_ok_iff h).mp hr
  rfl

theorem get?_handlers_qualify (type : String) :
    r.handlers.get? (ns.qualify type) = t.table.get? type := by
  obtain ⟨-, rfl⟩ := (createReducer_eq_ok_iff h).mp hr
  rw [Table.get?_ofList_rename ns.qualify_injective, Table.ofList_toList]

theorem reduce_qualified {type : String} {payload : Option Json}
    (haction : format.unformat action = ⟨ns.qualify type, payload⟩) (state : S) :
    r.reduce state action = match t.table.get? type with
      | some handler => handler state payload action
      | none => state := by
  simp only [Reducer.reduce, format_of_createReducer h hr, haction, get?_handlers_qualify h hr]
  cases t.table.get? type <;> rfl

theorem reduce_undeclared (hne : ∀ d ∈ ds, (format.unformat action).type ≠ ns.qualify d.type)
    (state : S) : r.reduce state action = state := by
  apply Reducer.reduce_of_not_handles
  rw [format_of_createReducer h hr]
  intro hhandles
  obtain ⟨type, ht, htype⟩ := (handles_iff h hr).mp hhandles
  obtain ⟨d, hd, rfl⟩ := List.mem_map.mp (((createReducer_eq_ok_iff h).mp hr).1 type ht)
  exact hne d hd htype.symm

end Reduce

end CompiledSchema

end ActionSchema
