import ActionSchema.Middleware
import ActionSchema.Reducer
import ActionSchema.Proofs.Compilation
import Mathlib.Data.List.FinRange

/-! The order of declarations. A schema lists its declarations in the order they came in, and this is
all that is left of it: tests, verdicts, creators and reducers are the same for every order. -/

namespace ActionSchema

section Rearrange

variable {α β : Type} {n : Nat} (σ : Equiv.Perm (Fin n))

def rearrange (xs : List α) : List α := (List.finRange n).filterMap fun i => xs[(σ i).val]?

theorem rearrange_perm {xs : List α} (h : xs.length = n) : (rearrange σ xs).Perm xs := by
  subst h
  have hplaces : ((List.finRange xs.length).map σ).Perm (List.finRange xs.length) :=
    Equiv.Perm.map_finRange_perm σ
  have hget : (List.finRange xs.length).filterMap (fun i => xs[i.val]?) = xs := by
    simp only [Fin.is_lt, List.getElem?_eq_getElem, List.filterMap_eq_map']
    exact List.map_getElem_finRange xs
  have hperm := hplaces.filterMap fun i => xs[i.val]?
  rwa [List.filterMap_map, hget] at hperm

theorem forall₂_rearrange {R : α → β → Prop} {xs : List α} {ys : List β}
    (h : List.Forall₂ R xs ys) : List.Forall₂ R (rearrange σ xs) (rearrange σ ys) := by
  have hget : ∀ i : Nat, Option.Rel R xs[i]? ys[i]? := by
    induction h with
    | nil => exact fun _ => .none
    | cons hxy _ ih =>
      intro i
      cases i with
      | zero => exact .some hxy
      | succ i => exact ih i
  have hplaces : List.Forall₂ Eq (List.finRange n) (List.finRange n) := List.forall₂_refl _
  apply List.rel_filterMap _ hplaces
  rintro i _ rfl
  exact hget (σ i)

example : rearrange (Equiv.swap 0 2 : Equiv.Perm (Fin 3)) ["a", "b", "c"] = ["c", "b", "a"] := by
  decide

end Rearrange

theorem enlistAll_rearrange {ds : List Declaration} {as : List ParsedAction}
    (h : enlistAll ds = .ok as) (σ : Equiv.Perm (Fin ds.length)) :
    enlistAll (rearrange σ ds) = .ok (rearrange σ as) := by
  obtain ⟨hparses, hnodup⟩ := enlistAll_eq_ok_iff.mp h
  have hperm : (rearrange σ as).Perm as := rearrange_perm σ hparses.length_eq.symm
  apply enlistAll_eq_ok_iff.mpr
  exact ⟨forall₂_rearrange σ hparses, (hperm.map _).nodup_iff.mpr hnodup⟩

theorem exists_enlistAll_perm {ds ds' : List Declaration} (hperm : ds.Perm ds') :
    (∃ as, enlistAll ds = .ok as) ↔ ∃ as, enlistAll ds' = .ok as := by
  simp only [exists_enlistAll_iff, hperm.mem_iff, (hperm.map (·.type)).nodup_iff]

namespace CompiledSchema

variable {A : Type} {format : Format A} {ns : Namespace} {s : CompiledSchema A}

section Tabulate

variable {as as' : List ParsedAction} (h : (as.map (·.type)).Nodup) (hperm : as.Perm as')
include h hperm

theorem tabulate_perm : tabulate format ns as' =
    { tabulate format ns as with schema := SchemaMap.tabulate as' } := by
  have hactions := Table.ofList_perm ((map_fst_entries _).symm ▸ h)
    (hperm.map fun a => (a.type, ns.qualify a.type))
  have hcreators := Table.ofList_perm ((map_fst_entries _).symm ▸ h)
    (hperm.map fun a => (a.type, ActionCreator.ofParsed format ns a))
  have htesters := Table.ofList_perm (map_fst_testers.symm ▸ h.map ns.qualify_injective)
    (hperm.map fun a => (ns.qualify a.type, a.tester))
  simp only [tabulate, hactions, hcreators, htesters]

theorem schema_get_tabulate_perm (type : String) :
    (tabulate format ns as).schema.get type = (tabulate format ns as').schema.get type := by
  have h' : (as'.map (·.type)).Nodup := (hperm.map _).nodup_iff.mp h
  -- the places differ, but what stands at them does not
  by_cases ht : type ∈ as.map (·.type)
  · obtain ⟨a, ha, rfl⟩ := List.mem_map.mp ht
    rw [schema_get_tabulate h ha, schema_get_tabulate h' (hperm.mem_iff.mp ha)]
  · have ht' : type ∉ as'.map (·.type) := by rwa [(hperm.map _).mem_iff] at ht
    rw [schema_get_tabulate_of_not_mem ht, schema_get_tabulate_of_not_mem ht']

end Tabulate

structure Agrees (s s' : CompiledSchema A) : Prop where
  ns : s.ns = s'.ns
  size : s.size = s'.size
  lookup : ∀ type, s.schema.get type = s'.schema.get type
  types : s.actions.toList = s'.actions.toList
  creators : s.creators.toList.map (fun e => (e.1, e.2.namespaced)) =
    s'.creators.toList.map fun e => (e.1, e.2.namespaced)
  create : ∀ type, (∃ e, s.creator type = .error e ∧ s'.creator type = .error e) ∨
    ∃ c c', s.creator type = .ok c ∧ s'.creator type = .ok c' ∧
      (∀ payload, c.create payload = c'.create payload) ∧
        ∀ values, c.byPosition values = c'.byPosition values
  testers : ∀ namespaced, s.testers.get? namespaced = s'.testers.get? namespaced
  test : ∀ action, s.test action = s'.test action
  verdict : ∀ {ρ : Type} (options : MiddlewareOptions ρ) action,
    (s.createMiddleware options).inspect action = (s'.createMiddleware options).inspect action
  reducer : ∀ {S : Type} (t : HandlerTable S A) (init : S),
    (∃ e, s.createReducer t init = .error e ∧ s'.createReducer t init = .error e) ∨
      ∃ r r', s.createReducer t init = .ok r ∧ s'.createReducer t init = .ok r' ∧
        (∀ state action, r.reduce state action = r'.reduce state action) ∧
          ∀ state action, r.reduceOrInit state action = r'.reduceOrInit state action

theorem agrees_of_schema {m : SchemaMap} (hsize : s.schema.size = m.size)
    (hget : ∀ type, s.schema.get type = m.get type) : s.Agrees { s with schema := m } := by
  constructor
  case ns => rfl
  case size => exact hsize
  case lookup => exact hget
  case types => rfl
  case creators => rfl
  case create =>
    intro type
    cases hc : s.creator type with
    | error e => exact .inl ⟨e, rfl, hc⟩
    | ok c => exact .inr ⟨c, c, rfl, hc, fun _ => rfl, fun _ => rfl⟩
  case testers => exact fun _ => rfl
  case test => exact fun _ => rfl
  case verdict => exact fun _ _ => rfl
  case reducer =>
    intro S t init
    cases hr : s.createReducer t init with
    | error e => exact .inl ⟨e, rfl, hr⟩
    | ok r => exact .inr ⟨r, r, rfl, hr, fun _ _ => rfl, fun _ _ => rfl⟩

end CompiledSchema

/-- Declarations compile in every order or in none, and all that a schema tells of their order is the
order in which it lists them. -/
theorem compile_rearranged {A : Type} (format : Format A) (ns : Namespace) (ds : List Declaration)
    (σ : Equiv.Perm (Fin ds.length)) :
    (∃ e e', compile format ns ds = .error e ∧
      compile format ns (rearrange σ ds) = .error e') ∨
    ∃ s s', compile format ns ds = .ok s ∧ compile format ns (rearrange σ ds) = .ok s' ∧
      s.Agrees s' ∧ s'.schema.toList = rearrange σ s.schema.toList := by
  rw [compile_eq_map, compile_eq_map]
  cases hds : enlistAll ds with
  | error e =>
    cases hds' : enlistAll (rearrange σ ds) with
    | error e' => exact .inl ⟨e, e', rfl, rfl⟩
    | ok as' =>
      obtain ⟨as, has⟩ := (exists_enlistAll_perm (rearrange_perm σ rfl)).mp ⟨as', hds'⟩
      rw [hds] at has
      cases has
  | ok as =>
    obtain ⟨hparses, hnodup⟩ := enlistAll_eq_ok_iff.mp hds
    have hperm : as.Perm (rearrange σ as) := (rearrange_perm σ hparses.length_eq.symm).symm
    rw [enlistAll_rearrange hds σ]
    refine .inr ⟨_, _, rfl, rfl, ?_, rfl⟩
    have hget (type : String) : (CompiledSchema.tabulate format ns as).schema.get type =
        (CompiledSchema.tabulate format ns (rearrange σ as)).schema.get type :=
      CompiledSchema.schema_get_tabulate_perm hnodup hperm type
    rw [CompiledSchema.tabulate_perm hnodup hperm] at hget ⊢
    exact CompiledSchema.agrees_of_schema hperm.length_eq hget

end ActionSchema
