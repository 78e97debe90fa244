import ActionSchema.Proofs.Compilation
import ActionSchema.Proofs.ParseFaults

/-! Why compiling fails. The first declaration that does not parse or repeats a type decides, and
what comes behind it is not looked at. -/

namespace ActionSchema

namespace Declaration

inductive Refused (before : List Declaration) (d : Declaration) : SchemaError → Prop
  | unparsed {e : SchemaError} (fails : d.parse = .error e) : Refused before d e
  | repeated {a : ParsedAction} (parses : d.parse = .ok a) (known : d.type ∈ before.map (·.type)) :
    Refused before d (.duplicateActionType d.type)

theorem Malformed.ne_unknown {d : Declaration} {e : SchemaError} (h : d.Malformed e)
    (type : String) : e ≠ .unknownActionType type ∧ e ≠ .unknownHandler type := by
  cases h with
  | untyped => exact ⟨nofun, nofun⟩
  | doc _ first =>
    obtain ⟨⟨p, -, hfault⟩, -⟩ := first
    cases hfault
    exact ⟨nofun, nofun⟩
  | argument _ _ first =>
    obtain ⟨⟨decl, -, hfault⟩, -⟩ := first
    cases hfault <;> exact ⟨nofun, nofun⟩

theorem Refused.ne_unknown {before : List Declaration} {d : Declaration} {e : SchemaError}
    (h : Refused before d e) (type : String) :
    e ≠ .unknownActionType type ∧ e ≠ .unknownHandler type := by
  cases h with
  | unparsed fails => exact (parse_eq_error_iff.mp fails).ne_unknown type
  | repeated => exact ⟨nofun, nofun⟩

end Declaration

theorem stopsAtFaults_enlist : StopsAtFaults (fun as ds => ds.foldlM enlist as)
    (fun before as => as.map (·.type) = before.map (·.type)) Declaration.Refused := by
  constructor
  case finish => exact fun _ _ => nofun
  case halt =>
    intro before as d e htypes hrefused ds
    have henlist : enlist as d = .error e := by
      cases hrefused with
      | unparsed fails => exact enlist_of_parse_error as fails
      | @repeated a parses known =>
        rw [← htypes, ← Declaration.type_of_parse parses] at known
        rw [enlist_of_parse as parses, if_pos known, Declaration.type_of_parse parses]
    rw [List.foldlM_cons, henlist]
    rfl
  case go =>
    intro before as d htypes hsound
    cases hparse : d.parse with
    | error e => exact absurd (.unparsed hparse) (hsound e)
    | ok a =>
      have htype := Declaration.type_of_parse hparse
      -- a type that is known already would be a fault
      have hnew : a.type ∉ as.map (·.type) := by
        rw [htypes, htype]
        exact fun known => hsound _ (.repeated hparse known)
      have hnext : (as ++ [a]).map (·.type) = (before ++ [d]).map (·.type) := by
        rw [List.map_append, List.map_append, htypes, List.map_singleton, List.map_singleton, htype]
      refine ⟨as ++ [a], hnext, fun ds e => ?_⟩
      rw [List.foldlM_cons, enlist_of_parse as hparse, if_neg hnew]
      rfl

theorem compile_eq_error_iff {A : Type} {format : Format A} {ns : Namespace}
    {ds : List Declaration} {e : SchemaError} :
    compile format ns ds = .error e ↔ ∃ i, FirstFault Declaration.Refused ds i e := by
  rw [compile_eq_map, map_eq_error_iff]
  exact stopsAtFaults_enlist.eq_error_iff [] [] rfl

theorem exists_compile_iff {A : Type} {format : Format A} {ns : Namespace}
    {ds : List Declaration} : (∃ s, compile format ns ds = .ok s) ↔
      (∀ d ∈ ds, ∃ a, d.parse = .ok a) ∧ (ds.map (·.type)).Nodup := by
  rw [← exists_enlistAll_iff]
  simp only [compile_eq_map, map_eq_ok_iff]
  constructor
  · intro h
    obtain ⟨_, as, has, -⟩ := h
    exact ⟨as, has⟩
  · intro h
    obtain ⟨as, has⟩ := h
    exact ⟨_, as, has, rfl⟩

/-- Compiling accepts the lists of declarations that parse and have different types. Of any other
it reports the first fault, whatever stands behind it. -/
theorem compile_reports_first_fault {A : Type} (format : Format A) (ns : Namespace)
    (ds : List Declaration) :
    ((∃ s, compile format ns ds = .ok s) ↔
      (∀ d ∈ ds, ∃ a, d.parse = .ok a) ∧ (ds.map (·.type)).Nodup) ∧
    (∀ e, compile format ns ds = .error e ↔ ∃ i, FirstFault Declaration.Refused ds i e) ∧
    ∀ e, compile format ns ds = .error e →
      (∀ more, compile format ns (ds ++ more) = .error e) ∧
        ∀ type, e ≠ .unknownActionType type ∧ e ≠ .unknownHandler type := by
  refine ⟨exists_compile_iff, fun e => compile_eq_error_iff,
    fun e he => ⟨fun more => ?_, fun type => ?_⟩⟩
  · obtain ⟨i, hi⟩ := compile_eq_error_iff.mp he
    exact compile_eq_error_iff.mpr ⟨i, hi.append more⟩
  · obtain ⟨i, ⟨d, -, hrefused⟩, -⟩ := compile_eq_error_iff.mp he
    exact hrefused.ne_unknown type

def faultyDecls : List Declaration :=
  [⟨"LOGOUT", []⟩, ⟨"LOGIN", [.arg (.named "user" .string), .doc "User logs in"]⟩,
    ⟨"LOGOUT", []⟩, ⟨"", []⟩]

theorem faultyDecls_first_fault :
    (∃ i, FirstFault Declaration.Refused faultyDecls i (.misplacedDoc "LOGIN" 1)) ∧
      ∀ more, compile .standard sessionNamespace (faultyDecls ++ more) =
        .error (.misplacedDoc "LOGIN" 1) := by
  have herror : compile .standard sessionNamespace faultyDecls =
      .error (.misplacedDoc "LOGIN" 1) := rfl
  obtain ⟨-, hfirst, hmore⟩ := compile_reports_first_fault .standard sessionNamespace faultyDecls
  exact ⟨(hfirst _).mp herror, (hmore _ herror).1⟩

end ActionSchema
