import ActionSchema.Schema.Compile
import ActionSchema.Proofs.ByteOrder
import ActionSchema.Proofs.Enlisting
import ActionSchema.Proofs.Namespace
import ActionSchema.Proofs.Table

/-! What compiling gives. All four tables are the entries of the parsed declarations, so what one
of them knows the others know too. -/

namespace ActionSchema

def SchemaMap.tabulate (as : List ParsedAction) : SchemaMap where
  actions := as.toArray
  index := Table.ofList (as.zipIdx.map fun (a, i) => (a.type, i))

def ActionCreator.ofParsed {A : Type} (format : Format A) (ns : Namespace) (a : ParsedAction) :
    ActionCreator A :=
  ⟨ns.qualify a.type, a, format⟩

/-- The schema of parsed declarations, made at once. -/
def CompiledSchema.tabulate {A : Type} (format : Format A) (ns : Namespace)
    (as : List ParsedAction) : CompiledSchema A where
  format
  ns
  schema := SchemaMap.tabulate as
  actions := ⟨Table.ofList (as.map fun a => (a.type, ns.qualify a.type))⟩
  testers := ⟨Table.ofList (as.map fun a => (ns.qualify a.type, a.tester))⟩
  creators := ⟨Table.ofList (as.map fun a => (a.type, .ofParsed format ns a))⟩

namespace SchemaMap

theorem map_fst_index (as : List ParsedAction) :
    (as.zipIdx.map fun (a, i) => (a.type, i)).map Prod.fst = as.map (·.type) := by
  rw [List.map_map]
  change as.zipIdx.map ((·.type) ∘ Prod.fst) = _
  rw [← List.map_map, List.zipIdx_map_fst]

theorem tabulate_concat (as : List ParsedAction) (a : ParsedAction) : tabulate (as ++ [a]) =
    ⟨(tabulate as).actions.push a,
      (tabulate as).index.insert a.type (tabulate as).actions.size⟩ := by
  simp [tabulate, List.zipIdx_append, Table.ofList_concat]

theorem insert_tabulate (as : List ParsedAction) (a : ParsedAction) : (tabulate as).insert a =
    if a.type ∈ as.map (·.type) then .error (.duplicateActionType a.type)
    else .ok (tabulate (as ++ [a])) := by
  have hcontains : (tabulate as).index.contains a.type = true ↔ a.type ∈ as.map (·.type) := by
    rw [Table.Entries.contains_iff_mem_keys, tabulate, Table.mem_keys_ofList, map_fst_index]
  simp only [insert, hcontains, tabulate_concat]

theorem get_eq_ok_iff {m : SchemaMap} {type : String} {a : ParsedAction} :
    m.get type = .ok a ↔ ∃ i, m.index.get? type = some i ∧ m.actions[i]? = some a := by
  rw [← Option.bind_eq_some_iff, get]
  cases (m.index.get? type).bind (m.actions[·]?) <;> simp

variable {as : List ParsedAction} {type : String}

theorem getElem?_actions_tabulate (i : Nat) : (tabulate as).actions[i]? = as[i]? :=
  List.getElem?_toArray

theorem index_get?_tabulate_iff (h : (as.map (·.type)).Nodup) {i : Nat} :
    (tabulate as).index.get? type = some i ↔
      ∃ a, (tabulate as).actions[i]? = some a ∧ a.type = type := by
  have hkeys : ((as.zipIdx.map fun (a, i) => (a.type, i)).map Prod.fst).Nodup := by
    rwa [map_fst_index]
  simp only [getElem?_actions_tabulate]
  rw [tabulate, Table.get?_ofList_eq_some_iff hkeys, List.mem_map]
  constructor
  · rintro ⟨⟨a, i⟩, hmem, ⟨⟩⟩
    exact ⟨a, List.mem_zipIdx_iff_getElem?.mp hmem, rfl⟩
  · rintro ⟨a, ha, rfl⟩
    exact ⟨(a, i), List.mem_zipIdx_iff_getElem?.mpr ha, rfl⟩

theorem get_tabulate (h : (as.map (·.type)).Nodup) {a : ParsedAction} (ha : a ∈ as) :
    (tabulate as).get a.type = .ok a := by
  obtain ⟨i, hi⟩ := List.mem_iff_getElem?.mp ha
  rw [← getElem?_actions_tabulate] at hi
  exact get_eq_ok_iff.mpr ⟨i, (index_get?_tabulate_iff h).mpr ⟨a, hi, rfl⟩, hi⟩

theorem get_tabulate_of_not_mem (ht : type ∉ as.map (·.type)) :
    (tabulate as).get type = .error (.unknownActionType type) := by
  rw [← map_fst_index] at ht
  simp only [get, tabulate, Table.get?_ofList_eq_none_iff.mpr ht, Option.bind_none]

end SchemaMap

namespace CompiledSchema

variable {A : Type} {format : Format A} {ns : Namespace}

theorem add_tabulate (as : List ParsedAction) (d : Declaration) :
    (tabulate format ns as).add d = (enlist as d).map (tabulate format ns) := by
  cases hparse : d.parse with
  | error e =>
    rw [enlist_of_parse_error as hparse, add, hparse]
    rfl
  | ok a =>
    rw [enlist_of_parse as hparse, add, hparse]
    change (SchemaMap.tabulate as).insert a >>= _ = _
    rw [SchemaMap.insert_tabulate]
    by_cases h : a.type ∈ as.map (·.type)
    · rw [if_pos h, if_pos h]
      rfl
    · rw [if_neg h, if_neg h]
      refine congrArg Except.ok ?_
      simp only [tabulate, ActionTypeMap.insert, Testers.insert, ActionCreators.insert,
        List.map_append, List.map_singleton, Table.ofList_concat, ActionCreator.ofParsed]

theorem foldlM_add_tabulate (as : List ParsedAction) (ds : List Declaration) :
    ds.foldlM add (tabulate format ns as) =
      (ds.foldlM enlist as).map (tabulate format ns) := by
  induction ds generalizing as with
  | nil => rfl
  | cons d ds ih =>
    rw [List.foldlM_cons, List.foldlM_cons, add_tabulate]
    cases enlist as d with
    | error e => rfl
    | ok bs => exact ih bs

end CompiledSchema

/-- Format and namespace come in only once the declarations are enlisted. -/
theorem compile_eq_map {A : Type} (format : Format A) (ns : Namespace) (ds : List Declaration) :
    compile format ns ds = (enlistAll ds).map (CompiledSchema.tabulate format ns) :=
  CompiledSchema.foldlM_add_tabulate [] ds

theorem compile_alike {A B : Type} (format : Format A) (format' : Format B) (ns ns' : Namespace)
    (ds : List Declaration) :
    (∃ e, compile format ns ds = .error e ∧ compile format' ns' ds = .error e) ∨
      ∃ s s', compile format ns ds = .ok s ∧ compile format' ns' ds = .ok s' := by
  rw [compile_eq_map, compile_eq_map]
  cases enlistAll ds with
  | error e => exact .inl ⟨e, rfl, rfl⟩
  | ok as => exact .inr ⟨_, _, rfl, rfl⟩

theorem tabulates_of_compile {A B : Type} {format : Format A} {format' : Format B}
    {ns ns' : Namespace} {ds : List Declaration} {s : CompiledSchema A} {s' : CompiledSchema B}
    (h : compile format ns ds = .ok s) (h' : compile format' ns' ds = .ok s') :
    ∃ as, s = .tabulate format ns as ∧ s' = .tabulate format' ns' as := by
  rw [compile_eq_map, map_eq_ok_iff] at h h'
  obtain ⟨as, has, rfl⟩ := h
  obtain ⟨as', has', rfl⟩ := h'
  obtain rfl := Except.ok.inj (has.symm.trans has')
  exact ⟨as, rfl, rfl⟩

theorem compile_eq_ok_iff {A : Type} {format : Format A} {ns : Namespace} {ds : List Declaration}
    {s : CompiledSchema A} : compile format ns ds = .ok s ↔
      ∃ as, List.Forall₂ (fun d a => d.parse = .ok a) ds as ∧ (as.map (·.type)).Nodup ∧
        s = CompiledSchema.tabulate format ns as := by
  rw [compile_eq_map, map_eq_ok_iff]
  refine exists_congr fun as => ?_
  rw [enlistAll_eq_ok_iff, and_assoc]
  exact and_congr_right fun _ => and_congr_right fun _ => eq_comm

namespace CompiledSchema

section Lookup

variable {A : Type} {format : Format A} {ns : Namespace} {as : List ParsedAction}

theorem map_fst_entries {β : Type} (f : ParsedAction → β) :
    (as.map fun a => (a.type, f a)).map Prod.fst = as.map (·.type) := by
  rw [List.map_map]
  rfl

theorem map_fst_testers :
    (as.map fun a => (ns.qualify a.type, a.tester)).map Prod.fst =
      (as.map (·.type)).map ns.qualify := by
  rw [List.map_map, List.map_map]
  rfl

theorem testers_get?_qualify (type : String) :
    (tabulate format ns as).testers.get? (ns.qualify type) =
      (Table.ofList (as.map fun a => (a.type, a.tester))).get? type := by
  have hentries : as.map (fun a => (ns.qualify a.type, a.tester)) =
      (as.map fun a => (a.type, a.tester)).map fun e => (ns.qualify e.1, e.2) := by
    rw [List.map_map]
    rfl
  rw [Testers.get?, tabulate, hentries]
  exact Table.get?_ofList_rename ns.qualify_injective _ type

variable (h : (as.map (·.type)).Nodup)
include h

theorem schema_get_tabulate {a : ParsedAction} (ha : a ∈ as) :
    (tabulate format ns as).schema.get a.type = .ok a :=
  SchemaMap.get_tabulate h ha

theorem actions_get_tabulate {a : ParsedAction} (ha : a ∈ as) :
    (tabulate format ns as).actions.get a.type = .ok (ns.qualify a.type) := by
  have hkeys : ((as.map fun a => (a.type, ns.qualify a.type)).map Prod.fst).Nodup := by
    rwa [map_fst_entries]
  have hget := Table.get?_ofList hkeys (List.mem_map_of_mem ha)
  simp only [ActionTypeMap.get, tabulate, hget]

theorem creator_tabulate {a : ParsedAction} (ha : a ∈ as) :
    (tabulate format ns as).creator a.type = .ok (.ofParsed format ns a) := by
  have hkeys : ((as.map fun a => (a.type, ActionCreator.ofParsed format ns a)).map
      Prod.fst).Nodup := by
    rwa [map_fst_entries]
  have hget := Table.get?_ofList hkeys (List.mem_map_of_mem ha)
  simp only [creator, ActionCreators.get, tabulate, hget]

theorem testers_get?_tabulate {a : ParsedAction} (ha : a ∈ as) :
    (tabulate format ns as).testers.get? (ns.qualify a.type) = some a.tester := by
  have hkeys : ((as.map fun a => (a.type, a.tester)).map Prod.fst).Nodup := by
    rwa [map_fst_entries]
  rw [testers_get?_qualify]
  exact Table.get?_ofList hkeys (List.mem_map_of_mem ha)

omit h

theorem testers_contains_tabulate {x : String} :
    (tabulate format ns as).testers.contains x = true ↔
      ∃ type ∈ as.map (·.type), x = ns.qualify type := by
  rw [Testers.contains, Table.Entries.contains_iff_mem_keys, tabulate, Table.mem_keys_ofList,
    map_fst_testers, List.mem_map]
  exact exists_congr fun type => and_congr_right fun _ => eq_comm

theorem schema_get_tabulate_of_not_mem {type : String} (ht : type ∉ as.map (·.type)) :
    (tabulate format ns as).schema.get type = .error (.unknownActionType type) :=
  SchemaMap.get_tabulate_of_not_mem ht

theorem actions_get_tabulate_of_not_mem {type : String} (ht : type ∉ as.map (·.type)) :
    (tabulate format ns as).actions.get type = .error (.unknownActionType type) := by
  rw [← map_fst_entries fun a => ns.qualify a.type] at ht
  simp only [ActionTypeMap.get, tabulate, Table.get?_ofList_eq_none_iff.mpr ht]

theorem creator_tabulate_of_not_mem {type : String} (ht : type ∉ as.map (·.type)) :
    (tabulate format ns as).creator type = .error (.unknownActionType type) := by
  rw [← map_fst_entries (ActionCreator.ofParsed format ns)] at ht
  simp only [creator, ActionCreators.get, tabulate, Table.get?_ofList_eq_none_iff.mpr ht]

theorem namespacedTypes_tabulate :
    (tabulate format ns as).actions.namespacedTypes =
      (tabulate format ns as).actions.table.keys.map ns.qualify := by
  rw [ActionTypeMap.namespacedTypes, Table.Entries.values, Table.Entries.keys, List.map_map]
  refine List.map_congr_left fun e he => ?_
  obtain ⟨a, -, rfl⟩ := List.mem_map.mp (Table.mem_of_mem_toList_ofList he)
  rfl

end Lookup

end CompiledSchema

theorem format_of_compile {A : Type} {format : Format A} {ns : Namespace}
    {ds : List Declaration} {s : CompiledSchema A} (h : compile format ns ds = .ok s) :
    s.format = format := by
  obtain ⟨as, -, -, rfl⟩ := compile_eq_ok_iff.mp h
  rfl

theorem compile_declared {A : Type} {format : Format A} {ns : Namespace} {ds : List Declaration}
    {s : CompiledSchema A} (h : compile format ns ds = .ok s) {d : Declaration} (hd : d ∈ ds) :
    ∃ a, d.parse = .ok a ∧ s.schema.get d.type = .ok a ∧
      s.actions.get d.type = .ok (ns.qualify d.type) ∧
      s.creator d.type = .ok (.ofParsed format ns a) ∧
      s.testers.get? (ns.qualify d.type) = some a.tester := by
  obtain ⟨as, hparses, hnodup, rfl⟩ := compile_eq_ok_iff.mp h
  obtain ⟨a, ha, hparse⟩ := exists_mem_of_forall₂ hparses hd
  rw [← Declaration.type_of_parse hparse]
  exact ⟨a, hparse, CompiledSchema.schema_get_tabulate hnodup ha,
    CompiledSchema.actions_get_tabulate hnodup ha, CompiledSchema.creator_tabulate hnodup ha,
    CompiledSchema.testers_get?_tabulate hnodup ha⟩

theorem compile_undeclared {A : Type} {format : Format A} {ns : Namespace} {ds : List Declaration}
    {s : CompiledSchema A} (h : compile format ns ds = .ok s) {type : String}
    (ht : type ∉ ds.map (·.type)) :
    s.schema.get type = .error (.unknownActionType type) ∧
      s.actions.get type = .error (.unknownActionType type) ∧
      s.creator type = .error (.unknownActionType type) := by
  obtain ⟨as, hparses, -, rfl⟩ := compile_eq_ok_iff.mp h
  rw [← types_of_parses hparses] at ht
  exact ⟨CompiledSchema.schema_get_tabulate_of_not_mem ht,
    CompiledSchema.actions_get_tabulate_of_not_mem ht,
    CompiledSchema.creator_tabulate_of_not_mem ht⟩

namespace CompiledSchema

variable {A : Type} {format : Format A} {ns : Namespace} {ds : List Declaration}
  {s : CompiledSchema A}

theorem test_of_unformat {action : A} {type : String} {payload : Option Json}
    (h : s.format.unformat action = ⟨type, payload⟩) :
    s.test action = s.testers.test type payload := by
  simp only [test, h]

theorem test_declared (h : compile format ns ds = .ok s) {d : Declaration} (hd : d ∈ ds)
    {a : ParsedAction} (hparse : d.parse = .ok a) {action : A} {payload : Option Json}
    (haction : format.unformat action = ⟨ns.qualify d.type, payload⟩) :
    s.test action = some (a.tester payload) := by
  obtain ⟨a', hparse', -, -, -, htester⟩ := compile_declared h hd
  obtain rfl := Except.ok.inj (hparse.symm.trans hparse')
  rw [← format_of_compile h] at haction
  rw [test_of_unformat haction, Testers.test, htester, Option.map_some]

theorem creator_declared (h : compile format ns ds = .ok s) {d : Declaration} (hd : d ∈ ds)
    {a : ParsedAction} (hparse : d.parse = .ok a) :
    s.creator d.type = .ok (.ofParsed format ns a) := by
  obtain ⟨a', hparse', -, -, hcreator, -⟩ := compile_declared h hd
  obtain rfl := Except.ok.inj (hparse.symm.trans hparse')
  exact hcreator

theorem test_undeclared (h : compile format ns ds = .ok s) {action : A}
    (hne : ∀ d ∈ ds, (format.unformat action).type ≠ ns.qualify d.type) : s.test action = none := by
  obtain ⟨as, hparses, -, rfl⟩ := compile_eq_ok_iff.mp h
  have hnot : ¬ (tabulate format ns as).testers.contains (format.unformat action).type = true := by
    rw [testers_contains_tabulate, types_of_parses hparses]
    rintro ⟨type, htype, hx⟩
    obtain ⟨d, hd, rfl⟩ := List.mem_map.mp htype
    exact hne d hd hx
  simp only [Testers.contains, Table.Entries.contains, Option.not_isSome_iff_eq_none] at hnot
  simp only [test, Testers.test, Testers.get?, Option.map_eq_none_iff]
  exact hnot

theorem ne_qualify_of_eq_empty (h : compile format ns ds = .ok s) {type : String}
    (htype : type = "") : ∀ d ∈ ds, type ≠ ns.qualify d.type := by
  intro d hd e
  obtain ⟨a, hparse, -⟩ := compile_declared h hd
  obtain ⟨hne, -⟩ := Declaration.parse_eq_ok_iff.mp hparse
  exact ns.qualify_ne_empty hne (e.symm.trans htype)

end CompiledSchema

def sessionNamespace : Namespace := ⟨"auth", by simp [Text.isBlank, Text.isControl]⟩

def sessionDecls : List Declaration :=
  [⟨"SET_TOKEN", [.arg (.whole .string)]⟩,
    ⟨"LOGIN", [.doc "User logs in", .arg (.named "user" .string),
      .arg (.documented "remember" "Keep the session" (.optional .boolean))]⟩,
    ⟨"LOGOUT", []⟩]

theorem session_compiles {A : Type} (format : Format A) : ∃ s,
    compile format sessionNamespace sessionDecls = .ok s ∧
      s.actions.namespacedTypes = ["auth_LOGIN", "auth_LOGOUT", "auth_SET_TOKEN"] :=
  ⟨_, rfl, rfl⟩

end ActionSchema
