import ActionSchema.Proofs.Reduction

/-! The namespace of a schema. It renames what a schema knows: under another namespace the same
declarations compile, and actions renamed alike are tested, made and reduced alike. -/

namespace ActionSchema

variable {A S : Type} {format : Format A} {ns ns' : Namespace} {ds : List Declaration}
  {s s' : CompiledSchema A}

def HandlerTable.IgnoresActions (t : HandlerTable S A) : Prop :=
  ∀ type handler, t.table.get? type = some handler →
    ∀ state payload action action', handler state payload action = handler state payload action'

namespace CompiledSchema

section Twins

variable (h : compile format ns ds = .ok s) (h' : compile format ns' ds = .ok s')
  {action action' : A} {type : String} {payload : Option Json}
  (haction : format.unformat action = ⟨ns.qualify type, payload⟩)
  (haction' : format.unformat action' = ⟨ns'.qualify type, payload⟩)
include h h' haction haction'

theorem test_eq_of_renamed : s.test action = s'.test action' := by
  obtain ⟨as, rfl, rfl⟩ := tabulates_of_compile h h'
  rw [test_of_unformat haction, test_of_unformat haction', Testers.test, Testers.test,
    testers_get?_qualify, testers_get?_qualify]

theorem reduce_eq_of_renamed {t : HandlerTable S A} (hignores : t.IgnoresActions) {init : S}
    {r r' : Reducer S A} (hr : s.createReducer t init = .ok r)
    (hr' : s'.createReducer t init = .ok r') (state : S) :
    r.reduce state action = r'.reduce state action' := by
  rw [reduce_qualified h hr haction, reduce_qualified h' hr' haction']
  cases hget : t.table.get? type with
  | none => rfl
  | some handler => exact hignores type handler hget state payload action action'

end Twins

structure Renamed (format : Format A) (ns ns' : Namespace) (ds : List Declaration)
    (s s' : CompiledSchema A) : Prop where
  test : ∀ type payload, s.test (format.format ⟨ns.qualify type, payload⟩) =
    s'.test (format.format ⟨ns'.qualify type, payload⟩)
  byPosition : ∀ d ∈ ds, ∃ c c', s.creator d.type = .ok c ∧ s'.creator d.type = .ok c' ∧
    ∀ values, ∃ payload,
      format.unformat (c.byPosition values) = ⟨ns.qualify d.type, payload⟩ ∧
        format.unformat (c'.byPosition values) = ⟨ns'.qualify d.type, payload⟩
  reduce : ∀ {S : Type} (t : HandlerTable S A) (init : S), t.IgnoresActions →
    (∃ e, s.createReducer t init = .error e ∧ s'.createReducer t init = .error e) ∨
      ∃ r r', s.createReducer t init = .ok r ∧ s'.createReducer t init = .ok r' ∧
        ∀ action action' type payload,
          format.unformat action = ⟨ns.qualify type, payload⟩ →
            format.unformat action' = ⟨ns'.qualify type, payload⟩ →
              ∀ state, r.reduce state action = r'.reduce state action'

theorem renamed_of_compile (hlaw : format.Lawful) (h : compile format ns ds = .ok s)
    (h' : compile format ns' ds = .ok s') : Renamed format ns ns' ds s s' := by
  constructor
  case test =>
    intro type payload
    exact test_eq_of_renamed h h' (hlaw _) (hlaw _)
  case byPosition =>
    intro d hd
    obtain ⟨a, hparse, -, -, hc, -⟩ := compile_declared h hd
    have hc' := creator_declared h' hd hparse
    refine ⟨_, _, hc, hc', fun values => ⟨a.positional values, ?_, ?_⟩⟩
    · rw [← Declaration.type_of_parse hparse]
      exact hlaw _
    · rw [← Declaration.type_of_parse hparse]
      exact hlaw _
  case reduce =>
    intro S t init hignores
    rcases createReducer_alike h h' t init with herror | ⟨r, r', hr, hr'⟩
    · exact .inl herror
    · refine .inr ⟨r, r', hr, hr', ?_⟩
      intro action action' type payload haction haction' state
      exact reduce_eq_of_renamed h h' haction haction' hignores hr hr' state

end CompiledSchema

/-- Two namespaces give the same error or schemas that are renamed into each other. -/
theorem namespace_only_renames (hlaw : format.Lawful) (ns ns' : Namespace)
    (ds : List Declaration) :
    (∃ e, compile format ns ds = .error e ∧ compile format ns' ds = .error e) ∨
      ∃ s s', compile format ns ds = .ok s ∧ compile format ns' ds = .ok s' ∧
        CompiledSchema.Renamed format ns ns' ds s s' := by
  rcases compile_alike format format ns ns' ds with herror | ⟨s, s', h, h'⟩
  · exact .inl herror
  · exact .inr ⟨s, s', h, h', CompiledSchema.renamed_of_compile hlaw h h'⟩

theorem session_only_renamed : ∃ s s' : CompiledSchema Json, Format.json.Lawful ∧
    compile .json sessionNamespace sessionDecls = .ok s ∧
      compile .json .none sessionDecls = .ok s' ∧
      CompiledSchema.Renamed .json sessionNamespace .none sessionDecls s s' := by
  rcases namespace_only_renames Format.json_lawful sessionNamespace .none sessionDecls with
    ⟨e, herror, -⟩ | ⟨s, s', h, h', hrenamed⟩
  · obtain ⟨s, h, -⟩ := session_compiles .json
    rw [h] at herror
    cases herror
  · exact ⟨s, s', Format.json_lawful, h, h', hrenamed⟩

end ActionSchema
