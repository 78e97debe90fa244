import ActionSchema.Proofs.ActionJson
import ActionSchema.Proofs.Classification
import ActionSchema.Proofs.Reduction

/-! JSON values without a type. Their format takes them apart with the empty type, which no schema
declares in any namespace, so every schema passes them by. -/

namespace ActionSchema

namespace CompiledSchema

variable {A : Type} {format : Format A} {ns : Namespace} {ds : List Declaration}
  {s : CompiledSchema A}

structure PassesBy (s : CompiledSchema A) (action : A) : Prop where
  test : s.test action = none
  verdict : ∀ {ρ : Type} (options : MiddlewareOptions ρ),
    (s.createMiddleware options).inspect action =
      if options.ignored.contains "" then .ignored else .unknown
  reduce : ∀ {S : Type} (t : HandlerTable S A) (init : S) (r : Reducer S A),
    s.createReducer t init = .ok r → (∀ state, r.reduce state action = state) ∧
      ∀ state, r.reduceOrInit state action = state.getD r.initState

theorem passesBy_of_empty_type (h : compile format ns ds = .ok s) {action : A}
    (htype : (format.unformat action).type = "") : s.PassesBy action := by
  have hne := ne_qualify_of_eq_empty h htype
  have htest : s.test action = none := test_undeclared h hne
  constructor
  case test => exact htest
  case verdict =>
    intro ρ options
    have hexempt (type : String) : options.ignored.contains type = true ↔
        type ∈ options.ignored.keys := Table.Entries.contains_iff_mem_keys
    rw [inspect_eq_classify hexempt, classify, format_of_compile h, htype, htest]
    simp only [hexempt]
  case reduce =>
    intro S t init r hr
    have hreduce (state : S) : r.reduce state action = state := reduce_undeclared h hr hne state
    exact ⟨hreduce, fun state => hreduce _⟩

end CompiledSchema

theorem untyped_passes_by {ns : Namespace} {ds : List Declaration} {s : CompiledSchema Json}
    (h : compile .json ns ds = .ok s) {value : Json} (hvalue : value.Untyped) :
    s.PassesBy value :=
  CompiledSchema.passesBy_of_empty_type h hvalue.unformat_type

theorem session_passes_by_null_type : ∃ s : CompiledSchema Json,
    compile .json sessionNamespace sessionDecls = .ok s ∧
      (Json.ofFields [("type", .null), ("payload", .str "abc")]).Untyped ∧
      s.PassesBy (.ofFields [("type", .null), ("payload", .str "abc")]) := by
  obtain ⟨s, h, -⟩ := session_compiles .json
  have huntyped : (Json.ofFields [("type", .null), ("payload", .str "abc")]).Untyped := by
    refine .inl ?_
    rintro ⟨_, type, ⟨⟩, htype⟩
    cases htype
  exact ⟨s, h, huntyped, untyped_passes_by h huntyped⟩

end ActionSchema
