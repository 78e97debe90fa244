import ActionSchema.Proofs.ByteOrder
import ActionSchema.Proofs.ReducerRun
import Mathlib.Data.List.Dedup

/-! Which tables of handlers a schema admits. What counts is which types have been registered, not
when and how often, and an admitted table keeps all its handlers: the namespace gives different
types different names. -/

namespace ActionSchema

variable {A S : Type}

/-- The least registered type that is not declared, in the order of the bytes in UTF-8. -/
structure LeastUndeclared (declared registered : List String) (type : String) : Prop where
  mem : type ∈ registered
  undeclared : type ∉ declared
  least : ∀ other ∈ registered, other ∉ declared → other ≠ type → Text.utf8 type < Text.utf8 other

theorem lt_of_find?_eq_some {xs : List String} (hsorted : xs.Pairwise (· < ·)) {p : String → Bool}
    {x y : String} (hfind : xs.find? p = some x) (hy : y ∈ xs) (hpy : p y = true) (hne : y ≠ x) :
    x < y := by
  obtain ⟨-, before, after, rfl, hbefore⟩ := List.find?_eq_some_iff_append.mp hfind
  have hrest : (x :: after).Pairwise (· < ·) := (List.pairwise_append.mp hsorted).2.1
  rcases List.mem_append.mp hy with hearly | hlate
  · have hnot : (!p y) = true := hbefore y hearly
    rw [hpy] at hnot
    exact absurd hnot Bool.false_ne_true
  · have hafter : y ∈ after := List.mem_of_ne_of_mem hne hlate
    exact List.rel_of_pairwise_cons hrest hafter

namespace LeastUndeclared

variable {declared registered registered' : List String} {type type' : String}

theorem unique (h : LeastUndeclared declared registered type)
    (h' : LeastUndeclared declared registered type') : type = type' := by
  by_contra hne
  have hlt : Text.utf8 type < Text.utf8 type' :=
    h.least type' h'.mem h'.undeclared (Ne.symm hne)
  have hgt : Text.utf8 type' < Text.utf8 type := h'.least type h.mem h.undeclared hne
  exact List.lt_asymm hlt hgt

theorem congr (h : LeastUndeclared declared registered type)
    (hsame : ∀ x, x ∈ registered ↔ x ∈ registered') :
    LeastUndeclared declared registered' type where
  mem := (hsame type).mp h.mem
  undeclared := h.undeclared
  least other hother := h.least other ((hsame other).mpr hother)

end LeastUndeclared

namespace HandlerTable

theorem types_register_perm (regs : List (String × Handler S A)) :
    (register regs).types.Perm (regs.map Prod.fst).dedup := by
  apply Table.Entries.keys_perm_iff.mpr
  refine ⟨List.nodup_dedup _, fun type => ?_⟩
  rw [List.mem_dedup]
  exact mem_types_register_iff

theorem size_register (regs : List (String × Handler S A)) :
    (register regs).size = (regs.map Prod.fst).dedup.length := by
  rw [← (types_register_perm regs).length_eq]
  exact (Table.Entries.length_keys _).symm

theorem leastUndeclared_of_find? {declared : List String} {regs : List (String × Handler S A)}
    {type : String}
    (hfind : (register regs).types.find? (fun type => type ∉ declared) = some type) :
    LeastUndeclared declared (regs.map Prod.fst) type where
  mem := mem_types_register_iff.mp (List.mem_of_find?_eq_some hfind)
  undeclared := by simpa only [decide_eq_true_eq] using List.find?_some hfind
  least other hother hundeclared hne := by
    have htypes : other ∈ (register regs).types := mem_types_register_iff.mpr hother
    have hlt : type < other := lt_of_find?_eq_some (Table.Entries.pairwise_keys _) hfind htypes
      (decide_eq_true hundeclared) hne
    exact Text.utf8_lt_utf8 hlt

end HandlerTable

namespace CompiledSchema

open HandlerTable (register)

variable {format : Format A} {ns : Namespace} {ds : List Declaration} {s : CompiledSchema A}
  {regs regs' : List (String × Handler S A)} {init init' : S} {r : Reducer S A}
  {e : SchemaError}

theorem createReducer_register_succeeds_iff (h : compile format ns ds = .ok s)
    (regs : List (String × Handler S A)) (init : S) :
    (∃ r, s.createReducer (register regs) init = .ok r) ↔
      ∀ type ∈ regs.map Prod.fst, type ∈ ds.map (·.type) := by
  simp only [createReducer_eq_ok_iff h, HandlerTable.mem_types_register_iff, exists_and_left,
    exists_eq, and_true]

theorem createReducer_register_eq_error_iff (h : compile format ns ds = .ok s) :
    s.createReducer (register regs) init = .error e ↔
      ∃ type, LeastUndeclared (ds.map (·.type)) (regs.map Prod.fst) type ∧
        e = .unknownHandler type := by
  rw [createReducer_eq h]
  -- the table is in order, so the first type that is not declared is the least
  cases hfind : (register regs).types.find? fun type => type ∉ ds.map (·.type) with
  | some type =>
    have hleast : LeastUndeclared (ds.map (·.type)) (regs.map Prod.fst) type :=
      HandlerTable.leastUndeclared_of_find? hfind
    rw [Except.error.injEq]
    constructor
    · intro herror
      exact ⟨type, hleast, herror.symm⟩
    · rintro ⟨type', hleast', rfl⟩
      rw [hleast.unique hleast']
  | none =>
    constructor
    · exact nofun
    · rintro ⟨type, hleast, -⟩
      have htypes : type ∈ (register regs).types :=
        HandlerTable.mem_types_register_iff.mpr hleast.mem
      exact absurd (decide_eq_true hleast.undeclared) (List.find?_eq_none.mp hfind type htypes)

theorem createReducer_register_error_congr (h : compile format ns ds = .ok s)
    (hsame : ∀ type, type ∈ regs.map Prod.fst ↔ type ∈ regs'.map Prod.fst)
    (hfails : s.createReducer (register regs) init = .error e) :
    s.createReducer (register regs') init' = .error e := by
  obtain ⟨type, hleast, he⟩ := (createReducer_register_eq_error_iff h).mp hfails
  exact (createReducer_register_eq_error_iff h).mpr ⟨type, hleast.congr hsame, he⟩

theorem keys_handlers_perm (h : compile format ns ds = .ok s) {t : HandlerTable S A}
    (hr : s.createReducer t init = .ok r) : r.handlers.keys.Perm (t.types.map ns.qualify) := by
  obtain ⟨-, rfl⟩ := (createReducer_eq_ok_iff h).mp hr
  have hkeys : (t.table.toList.map fun e => (ns.qualify e.1, e.2)).map Prod.fst =
      t.types.map ns.qualify := by
    rw [HandlerTable.types, Table.Entries.keys, List.map_map, List.map_map]
    rfl
  have hnodup : (t.types.map ns.qualify).Nodup := t.table.nodup_keys.map ns.qualify_injective
  rw [← hkeys] at hnodup ⊢
  exact Table.keys_ofList_perm hnodup

theorem size_handlers (h : compile format ns ds = .ok s) {t : HandlerTable S A}
    (hr : s.createReducer t init = .ok r) : r.handlers.size = t.size := by
  rw [← Table.Entries.length_keys, (keys_handlers_perm h hr).length_eq, List.length_map]
  exact Table.Entries.length_keys _

end CompiledSchema

open HandlerTable (register)

/-- A table of handlers becomes a reducer just if all its types are declared. Else the least type that
is not is reported, whenever and however often it was registered. A reducer has the handlers of
all the types in the table, each behind the namespace. -/
theorem tables_over_declared_types {format : Format A} {ns : Namespace} {ds : List Declaration}
    {s : CompiledSchema A} (h : compile format ns ds = .ok s)
    (regs : List (String × Handler S A)) (init : S) :
    ((∃ r, s.createReducer (register regs) init = .ok r) ↔
      ∀ type ∈ regs.map Prod.fst, type ∈ ds.map (·.type)) ∧
    (∀ namespaced ∈ s.actions.namespacedTypes, namespaced ∈ regs.map Prod.fst →
      namespaced ∉ ds.map (·.type) → ∀ r, s.createReducer (register regs) init ≠ .ok r) ∧
    (∀ e, s.createReducer (register regs) init = .error e ↔
      ∃ type, LeastUndeclared (ds.map (·.type)) (regs.map Prod.fst) type ∧
        e = .unknownHandler type) ∧
    (∀ (regs' : List (String × Handler S A)) (init' : S),
      (∀ type, type ∈ regs.map Prod.fst ↔ type ∈ regs'.map Prod.fst) →
      ∀ e, s.createReducer (register regs) init = .error e ↔
        s.createReducer (register regs') init' = .error e) ∧
    ∀ r, s.createReducer (register regs) init = .ok r →
      r.handlers.keys.Perm ((regs.map Prod.fst).dedup.map ns.qualify) ∧
      r.handlers.size = (register regs).size ∧
      (register regs).size = (regs.map Prod.fst).dedup.length ∧
      ∀ type, r.handlers.get? (ns.qualify type) = (register regs).table.get? type := by
  have haccepts := CompiledSchema.createReducer_register_succeeds_iff h regs init
  refine ⟨haccepts, ?_, fun e => ?_, fun regs' init' hsame e => ⟨?_, ?_⟩, fun r hr => ?_⟩
  · intro namespaced _ hregistered hundeclared r hr
    exact hundeclared (haccepts.mp ⟨r, hr⟩ namespaced hregistered)
  · exact CompiledSchema.createReducer_register_eq_error_iff h
  · exact CompiledSchema.createReducer_register_error_congr h hsame
  · exact CompiledSchema.createReducer_register_error_congr h fun type => (hsame type).symm
  · have hkeys : r.handlers.keys.Perm ((register regs).types.map ns.qualify) :=
      CompiledSchema.keys_handlers_perm h hr
    refine ⟨hkeys.trans ((HandlerTable.types_register_perm regs).map ns.qualify),
      CompiledSchema.size_handlers h hr, HandlerTable.size_register regs, ?_⟩
    exact CompiledSchema.get?_handlers_qualify h hr

def namespacedRegistrations : List (String × Handler (List String) Action) :=
  [("auth_LOGOUT", sign "first"), ("LOGIN", sign "second"), ("auth_LOGIN", sign "third"),
    ("auth_LOGOUT", sign "fourth")]

theorem session_tables_over_declared_types : ∃ s r,
    compile .standard sessionNamespace sessionDecls = .ok s ∧
      s.createReducer (register sessionRegistrations) [] = .ok r ∧
      r.handlers.keys.Perm ["auth_LOGOUT", "auth_LOGIN"] ∧ r.handlers.size = 2 ∧
      s.createReducer (register namespacedRegistrations) [] =
        .error (.unknownHandler "auth_LOGIN") ∧
      s.createReducer (register namespacedRegistrations.reverse) ["none"] =
        .error (.unknownHandler "auth_LOGIN") ∧
      ∀ r, s.createReducer (register namespacedRegistrations) [] ≠ .ok r := by
  obtain ⟨s, hs, htypes⟩ := session_compiles .standard
  obtain ⟨haccepts, -, -, -, hkeeps⟩ := tables_over_declared_types hs sessionRegistrations []
  obtain ⟨-, hnamespaced, hrefuses, hsame, -⟩ :=
    tables_over_declared_types hs namespacedRegistrations []
  obtain ⟨r, hr⟩ := haccepts.mpr (by decide)
  obtain ⟨hkeys, hsize, hdistinct, -⟩ := hkeeps r hr
  have hleast : LeastUndeclared (sessionDecls.map (·.type))
      (namespacedRegistrations.map Prod.fst) "auth_LOGIN" := by
    refine ⟨by decide, by decide, fun other hother hundeclared hne => ?_⟩
    have hlt : ∀ other ∈ namespacedRegistrations.map Prod.fst,
        other ∉ sessionDecls.map (·.type) → other ≠ "auth_LOGIN" → "auth_LOGIN" < other := by
      decide
    exact Text.utf8_lt_utf8 (hlt other hother hundeclared hne)
  have herror := (hrefuses _).mpr ⟨"auth_LOGIN", hleast, rfl⟩
  have hreverse := (hsame namespacedRegistrations.reverse ["none"] (by
    intro type
    rw [List.map_reverse, List.mem_reverse]) _).mp herror
  have hmember : "auth_LOGIN" ∈ s.actions.namespacedTypes := by
    rw [htypes]
    decide
  refine ⟨s, r, hs, hr, hkeys, hsize.trans hdistinct, herror, hreverse, ?_⟩
  exact hnamespaced "auth_LOGIN" hmember (by decide) (by decide)

end ActionSchema
