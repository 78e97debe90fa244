import ActionSchema.Proofs.ReducerRun

/-! Reducers of one schema side by side. If their tables have no type in common, an action finds a
handler in at most one of them, so they may take turns in either order and leave what a single
reducer with all the handlers would leave. -/

namespace ActionSchema

variable {A S : Type}

namespace HandlerTable

variable {t t' : HandlerTable S A}

def union (t t' : HandlerTable S A) : HandlerTable S A :=
  register (t.table.toList ++ t'.table.toList)

theorem get?_union (t t' : HandlerTable S A) (type : String) :
    (t.union t').table.get? type = (t'.table.get? type).or (t.table.get? type) := by
  rw [union, table_register, Table.get?_ofList_append, Table.ofList_toList, Table.ofList_toList]

theorem mem_types_union {type : String} :
    type ∈ (t.union t').types ↔ type ∈ t.types ∨ type ∈ t'.types := by
  rw [union, mem_types_register_iff, List.map_append, List.mem_append]
  rfl

theorem get?_eq_none_or (hd : t.types.Disjoint t'.types) (type : String) :
    t.table.get? type = none ∨ t'.table.get? type = none := by
  by_cases htype : type ∈ t.types
  · right
    exact Table.Entries.get?_eq_none_iff.mpr fun htype' => hd htype htype'
  · left
    exact Table.Entries.get?_eq_none_iff.mpr htype

theorem union_comm (hd : t.types.Disjoint t'.types) : t.union t' = t'.union t := by
  have htable : (t.union t').table = (t'.union t).table := by
    apply Table.Entries.ext
    intro type
    rw [get?_union, get?_union]
    rcases get?_eq_none_or hd type with hnone | hnone
    · rw [hnone, Option.or_none, Option.none_or]
    · rw [hnone, Option.or_none, Option.none_or]
  exact congrArg HandlerTable.mk htable

end HandlerTable

namespace CompiledSchema

variable {format : Format A} {ns : Namespace} {ds : List Declaration} {s : CompiledSchema A}
  {t t' : HandlerTable S A} {init init' init'' : S} {r r' u : Reducer S A}

theorem createReducer_union (h : compile format ns ds = .ok s)
    (hr : s.createReducer t init = .ok r) (hr' : s.createReducer t' init' = .ok r') (init'' : S) :
    ∃ u, s.createReducer (t.union t') init'' = .ok u := by
  obtain ⟨hdeclared, -⟩ := (createReducer_eq_ok_iff h).mp hr
  obtain ⟨hdeclared', -⟩ := (createReducer_eq_ok_iff h).mp hr'
  have hunion : ∀ type ∈ (t.union t').types, type ∈ ds.map (·.type) := by
    intro type htype
    rcases HandlerTable.mem_types_union.mp htype with hleft | hright
    · exact hdeclared type hleft
    · exact hdeclared' type hright
  exact ⟨_, (createReducer_eq_ok_iff h).mpr ⟨hunion, rfl⟩⟩

section Reduce

variable (h : compile format ns ds = .ok s) (hr : s.createReducer t init = .ok r) {action : A}
include h hr

theorem reduce_unqualified (hne : ∀ type, (format.unformat action).type ≠ ns.qualify type)
    (state : S) : r.reduce state action = state :=
  reduce_undeclared h hr (fun d _ => hne d.type) state

variable (hr' : s.createReducer t' init' = .ok r') (hd : t.types.Disjoint t'.types)
  (hu : s.createReducer (t.union t') init'' = .ok u)
include hr' hd hu

theorem reduce_union (state : S) (action : A) :
    u.reduce state action = r'.reduce (r.reduce state action) action := by
  -- outside the namespace there are no handlers, and inside at most one table has one
  by_cases hqualified : ∃ type, (format.unformat action).type = ns.qualify type
  · obtain ⟨type, htype⟩ := hqualified
    have haction : format.unformat action =
        ⟨ns.qualify type, (format.unformat action).payload⟩ := by rw [← htype]
    rw [reduce_qualified h hu haction, reduce_qualified h hr haction,
      reduce_qualified h hr' haction, HandlerTable.get?_union]
    rcases HandlerTable.get?_eq_none_or hd type with hnone | hnone
    · rw [hnone, Option.or_none]
    · rw [hnone, Option.none_or]
  · have hne : ∀ type, (format.unformat action).type ≠ ns.qualify type :=
      fun type htype => hqualified ⟨type, htype⟩
    rw [reduce_unqualified h hu hne, reduce_unqualified h hr hne, reduce_unqualified h hr' hne]

theorem reduce_union_swapped (state : S) (action : A) :
    u.reduce state action = r.reduce (r'.reduce state action) action := by
  rw [HandlerTable.union_comm hd] at hu
  exact reduce_union h hr' hr (List.disjoint_symm hd) hu state action

end Reduce

end CompiledSchema

def Reducer.inTurn (r r' : Reducer S A) (state : S) (action : A) : S :=
  r'.reduce (r.reduce state action) action

/-- Two tables without a common type go into one, and its reducer does what their reducers do at one
action after the other, whichever of the two comes first. -/
theorem disjoint_reducers_compose {format : Format A} {ns : Namespace} {ds : List Declaration}
    {s : CompiledSchema A} (h : compile format ns ds = .ok s) {t t' : HandlerTable S A}
    {init init' : S} {r r' : Reducer S A} (hr : s.createReducer t init = .ok r)
    (hr' : s.createReducer t' init' = .ok r') (hd : t.types.Disjoint t'.types) (init'' : S) :
    ∃ u, s.createReducer (t.union t') init'' = .ok u ∧
      (∀ state action, u.reduce state action = r.inTurn r' state action ∧
        u.reduce state action = r'.inTurn r state action) ∧
      ∀ (actions : List A) (state : S),
        actions.foldl u.reduce state = actions.foldl (r.inTurn r') state ∧
        actions.foldl u.reduce state = actions.foldl (r'.inTurn r) state := by
  obtain ⟨u, hu⟩ := CompiledSchema.createReducer_union h hr hr' init''
  have hstep : u.reduce = r.inTurn r' := by
    funext state action
    exact CompiledSchema.reduce_union h hr hr' hd hu state action
  have hswapped : u.reduce = r'.inTurn r := by
    funext state action
    exact CompiledSchema.reduce_union_swapped h hr hr' hd hu state action
  refine ⟨u, hu, fun state action => ⟨?_, ?_⟩, fun actions state => ⟨?_, ?_⟩⟩
  · rw [hstep]
  · rw [hswapped]
  · rw [hstep]
  · rw [hswapped]

def loginTable : HandlerTable (List String) Action :=
  HandlerTable.register [("LOGIN", sign "first")]

def logoutTable : HandlerTable (List String) Action :=
  HandlerTable.register [("LOGOUT", sign "second"), ("SET_TOKEN", sign "third")]

def sessionActions : List Action :=
  [⟨"auth_LOGOUT", none⟩, ⟨"auth_LOGIN", none⟩, ⟨"LOGIN", none⟩]

theorem session_reducers_compose : ∃ s r r' u,
    compile .standard sessionNamespace sessionDecls = .ok s ∧
      s.createReducer loginTable [] = .ok r ∧ s.createReducer logoutTable ["none"] = .ok r' ∧
      loginTable.types.Disjoint logoutTable.types ∧
      s.createReducer (loginTable.union logoutTable) [] = .ok u ∧
      sessionActions.foldl u.reduce [] = ["second", "first"] ∧
      sessionActions.foldl (r.inTurn r') [] = ["second", "first"] ∧
      sessionActions.foldl (r'.inTurn r) [] = ["second", "first"] := by
  obtain ⟨s, hs, -⟩ := session_compiles .standard
  have hr : s.createReducer loginTable [] = .ok _ :=
    (CompiledSchema.createReducer_eq_ok_iff hs).mpr ⟨by decide, rfl⟩
  have hr' : s.createReducer logoutTable ["none"] = .ok _ :=
    (CompiledSchema.createReducer_eq_ok_iff hs).mpr ⟨by decide, rfl⟩
  have hapart : ∀ type ∈ loginTable.types, type ∉ logoutTable.types := by decide
  have hd : loginTable.types.Disjoint logoutTable.types := List.disjoint_left.mpr hapart
  obtain ⟨u, hu, -, hruns⟩ := disjoint_reducers_compose hs hr hr' hd []
  obtain ⟨hrun, hswapped⟩ := hruns sessionActions []
  refine ⟨s, _, _, u, hs, hr, hr', hd, hu, ?_, ?_, ?_⟩
  · rw [hrun]
    rfl
  · rfl
  · rw [← hswapped, hrun]
    rfl

end ActionSchema
