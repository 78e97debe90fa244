import ActionSchema.Middleware
import ActionSchema.Proofs.ActionJson
import ActionSchema.Proofs.Compilation

/-! One schema in two formats. What a schema says of an action depends on the parts that its format
takes the action into, so a schema of plain actions and one of JSON objects are views of each other. -/

namespace ActionSchema

variable {A B ρ : Type} {format : Format A} {format' : Format B} {ns : Namespace}
  {ds : List Declaration}

namespace CompiledSchema

section Formats

variable {s : CompiledSchema A} {s' : CompiledSchema B} (h : compile format ns ds = .ok s)
  (h' : compile format' ns ds = .ok s')
include h h'

theorem testers_eq : s.testers = s'.testers := by
  obtain ⟨as, rfl, rfl⟩ := tabulates_of_compile h h'
  rfl

variable {x : A} {y : B} (hparts : format.unformat x = format'.unformat y)
include hparts

theorem test_eq_of_parts : s.test x = s'.test y := by
  unfold test
  rw [format_of_compile h, format_of_compile h', hparts, testers_eq h h']

theorem inspect_eq_of_parts (options : MiddlewareOptions ρ) :
    (s.createMiddleware options).inspect x = (s'.createMiddleware options).inspect y := by
  unfold createMiddleware ValidationMiddleware.inspect
  rw [format_of_compile h, format_of_compile h', hparts, testers_eq h h']

end Formats

structure Views (s : CompiledSchema Action) (s' : CompiledSchema Json) (ds : List Declaration) :
    Prop where
  create : ∀ d ∈ ds, ∃ c c', s.creator d.type = .ok c ∧ s'.creator d.type = .ok c' ∧
    (∀ payload, (c.create payload).toJson = c'.create payload) ∧
      ∀ values, (c.byPosition values).toJson = c'.byPosition values
  test : ∀ action, s.test action = s'.test action.toJson
  verdict : ∀ {ρ : Type} (options : MiddlewareOptions ρ) action,
    (s.createMiddleware options).inspect action =
      (s'.createMiddleware options).inspect action.toJson
  readable : ∀ fields action, Action.ofJson (.obj fields) = .ok action →
    s.test action = s'.test (.obj fields) ∧
      ∀ {ρ : Type} (options : MiddlewareOptions ρ), (s.createMiddleware options).inspect action =
        (s'.createMiddleware options).inspect (.obj fields)
  unreadable : ∀ fields fault, Action.ofJson (.obj fields) = .error fault →
    s'.test (.obj fields) = none

theorem views_of_compile {s : CompiledSchema Action} {s' : CompiledSchema Json}
    (h : compile .standard ns ds = .ok s) (h' : compile .json ns ds = .ok s') : Views s s' ds := by
  -- all that a schema asks of an action is its type and its payload
  have hparts (action : Action) : Format.standard.unformat action =
      Format.json.unformat action.toJson := by
    rw [Action.toJson_eq_format, Format.json_lawful action]
    rfl
  have hread {fields : Table Json} {action : Action} (hok : Action.ofJson (.obj fields) = .ok action) :
      Format.standard.unformat action = Format.json.unformat (.obj fields) :=
    (Action.unformat_of_ofJson hok).symm
  constructor
  case create =>
    intro d hd
    obtain ⟨a, hparse, -, -, hc, -⟩ := compile_declared h hd
    have hc' := creator_declared h' hd hparse
    exact ⟨_, _, hc, hc', fun payload => Action.toJson_eq_format _,
      fun values => Action.toJson_eq_format _⟩
  case test => exact fun action => test_eq_of_parts h h' (hparts action)
  case verdict => exact fun options action => inspect_eq_of_parts h h' (hparts action) options
  case readable =>
    intro fields action hok
    exact ⟨test_eq_of_parts h h' (hread hok), inspect_eq_of_parts h h' (hread hok)⟩
  case unreadable =>
    intro fields fault herror
    have htype := Action.unformat_type_of_ofJson_error herror
    exact test_undeclared h' (ne_qualify_of_eq_empty h' htype)

/-- Compiling for plain actions and for JSON fails alike or gives two views of one schema. -/
theorem plain_and_json_are_views (ns : Namespace) (ds : List Declaration) :
    (∃ e, compile .standard ns ds = .error e ∧ compile .json ns ds = .error e) ∨
      ∃ s s', compile .standard ns ds = .ok s ∧ compile .json ns ds = .ok s' ∧ Views s s' ds := by
  rcases compile_alike .standard .json ns ns ds with herror | ⟨s, s', h, h'⟩
  · exact .inl herror
  · exact .inr ⟨s, s', h, h', views_of_compile h h'⟩

end CompiledSchema

end ActionSchema
