import ActionSchema.Proofs.Compilation

/-! Types that read the same in two namespaces. The separator may stand anywhere in a namespace and
in a type, so one type can spell out the namespace of another; a host that keeps the separator out
of its namespaces need not fear this. -/

namespace ActionSchema

namespace Namespace

variable {ns ns' : Namespace} {type type' : String}

/-- A type spells out what another namespace has and its own one lacks: the whole of it, or what
comes behind the name they share. -/
inductive Spells (ns ns' : Namespace) (type type' : String) : Prop
  | whole (bare : ns.name = "") (named : ns'.name ≠ "") (type_eq : type = ns'.name ++ "_" ++ type')
  | rest {u : String} (named : ns.name ≠ "") (named' : ns'.name ≠ "")
    (name_eq : ns'.name = ns.name ++ "_" ++ u) (type_eq : type = u ++ "_" ++ type')

theorem qualify_of_bare (h : ns.name = "") (type : String) : ns.qualify type = type := by
  have hempty : ns.isEmpty = true := String.isEmpty_iff.mpr h
  rw [qualify, if_pos hempty]

theorem qualify_of_named (h : ns.name ≠ "") (type : String) :
    ns.qualify type = ns.name ++ "_" ++ type := by
  have hempty : ¬ ns.isEmpty = true := mt String.isEmpty_iff.mp h
  rw [qualify, if_neg hempty]
  rfl

theorem Spells.qualify_eq (h : Spells ns ns' type type') : ns.qualify type = ns'.qualify type' := by
  rcases h with ⟨bare, named, type_eq⟩ | @⟨u, named, named', name_eq, type_eq⟩
  · rw [qualify_of_bare bare, qualify_of_named named, type_eq]
  · rw [qualify_of_named named, qualify_of_named named', name_eq, type_eq]
    simp only [String.append_assoc]

theorem spells_iff_shadows (h : ns.name ≠ "") (h' : ns'.name ≠ "") :
    Spells ns ns' type type' ↔ ns.Shadows ns' type type' := by
  constructor
  · intro hspells
    rcases hspells with ⟨bare, -, -⟩ | ⟨-, -, name_eq, type_eq⟩
    · exact absurd bare h
    · exact ⟨_, name_eq, type_eq⟩
  · intro hshadows
    obtain ⟨u, name_eq, type_eq⟩ := hshadows
    exact .rest h h' name_eq type_eq

theorem Spells.named (h : Spells ns ns' type type') : ns'.name ≠ "" := by
  rcases h with ⟨-, named, -⟩ | ⟨-, named', -, -⟩
  · exact named
  · exact named'

theorem Spells.separator_mem (h : Spells ns ns' type type') (named : ns.name ≠ "") :
    separator ∈ ns'.name.toList := by
  have hshadows : ns.Shadows ns' type type' := (spells_iff_shadows named h.named).mp h
  obtain ⟨u, name_eq, -⟩ := shadows_iff.mp hshadows
  rw [name_eq]
  exact List.mem_append_right _ List.mem_cons_self

theorem eq_of_bare (h : ns.name = "") (h' : ns'.name = "") : ns = ns' := by
  obtain ⟨name, clean⟩ := ns
  obtain ⟨name', clean'⟩ := ns'
  rw [Namespace.mk.injEq]
  exact h.trans h'.symm

theorem qualify_eq_iff_spells : ns.qualify type = ns'.qualify type' ↔
    ns = ns' ∧ type = type' ∨ Spells ns ns' type type' ∨ Spells ns' ns type' type := by
  constructor
  · intro h
    -- a bare namespace adds no separator, so it has cases of its own
    by_cases bare : ns.name = "" <;> by_cases bare' : ns'.name = ""
    · rw [qualify_of_bare bare, qualify_of_bare bare'] at h
      exact .inl ⟨eq_of_bare bare bare', h⟩
    · rw [qualify_of_bare bare, qualify_of_named bare'] at h
      exact .inr (.inl (.whole bare bare' h))
    · rw [qualify_of_named bare, qualify_of_bare bare'] at h
      exact .inr (.inr (.whole bare' bare h.symm))
    · rw [qualify_eq_qualify_iff bare bare'] at h
      rwa [spells_iff_shadows bare bare', spells_iff_shadows bare' bare]
  · intro h
    rcases h with ⟨rfl, rfl⟩ | hspells | hspells
    · rfl
    · exact hspells.qualify_eq
    · exact hspells.qualify_eq.symm

theorem qualify_ne_of_separator_not_mem (hne : ns ≠ ns') (named : ns.name ≠ "")
    (named' : ns'.name ≠ "") (free : separator ∉ ns.name.toList)
    (free' : separator ∉ ns'.name.toList) : ns.qualify type ≠ ns'.qualify type' := by
  intro h
  rcases qualify_eq_iff_spells.mp h with ⟨hns, -⟩ | hspells | hspells
  · exact hne hns
  · exact free' (hspells.separator_mem named)
  · exact free (hspells.separator_mem named')

end Namespace

theorem CompiledSchema.mem_namespacedTypes_iff {A : Type} {format : Format A} {ns : Namespace}
    {ds : List Declaration} {s : CompiledSchema A} (h : compile format ns ds = .ok s) {x : String} :
    x ∈ s.actions.namespacedTypes ↔ ∃ type ∈ ds.map (·.type), x = ns.qualify type := by
  obtain ⟨as, hparses, -, rfl⟩ := compile_eq_ok_iff.mp h
  have hkeys (type : String) :
      type ∈ (tabulate format ns as).actions.table.keys ↔ type ∈ ds.map (·.type) := by
    rw [tabulate, Table.mem_keys_ofList, map_fst_entries, types_of_parses hparses]
  rw [namespacedTypes_tabulate, List.mem_map]
  simp only [hkeys, eq_comm]

open Namespace in
/-- Two qualified types are one string just if the types are the same in the same namespace or one
of them spells out the namespace of the other. Schemas whose namespaces have no separator in them
share no type. -/
theorem qualified_types_coincide :
    (∀ (ns ns' : Namespace) (type type' : String), ns.qualify type = ns'.qualify type' ↔
      ns = ns' ∧ type = type' ∨ Spells ns ns' type type' ∨ Spells ns' ns type' type) ∧
    (∀ ns : Namespace, Function.Injective ns.qualify) ∧
    ∀ {A B : Type} {format : Format A} {format' : Format B} {ns ns' : Namespace}
      {ds ds' : List Declaration} {s : CompiledSchema A} {s' : CompiledSchema B},
      compile format ns ds = .ok s → compile format' ns' ds' = .ok s' →
      ns ≠ ns' → ns.name ≠ "" → ns'.name ≠ "" → '_' ∉ ns.name.toList → '_' ∉ ns'.name.toList →
      ∀ x ∈ s.actions.namespacedTypes, x ∉ s'.actions.namespacedTypes := by
  refine ⟨fun ns ns' type type' => qualify_eq_iff_spells, qualify_injective, ?_⟩
  intro A B format format' ns ns' ds ds' s s' h h' hne named named' free free' x hx hx'
  obtain ⟨type, -, rfl⟩ := (CompiledSchema.mem_namespacedTypes_iff h).mp hx
  obtain ⟨type', -, hsame⟩ := (CompiledSchema.mem_namespacedTypes_iff h').mp hx'
  exact qualify_ne_of_separator_not_mem hne named named' free free' hsame

def gameNamespace : Namespace := ⟨"game", by simp [Text.isBlank, Text.isControl]⟩

theorem auth_game_share_no_type : ∃ (s : CompiledSchema Action) (s' : CompiledSchema Json),
    (sessionNamespace.qualify "LOGIN" = Namespace.none.qualify "auth_LOGIN" ∧
      Namespace.none.Spells sessionNamespace "auth_LOGIN" "LOGIN") ∧
    compile .standard sessionNamespace sessionDecls = .ok s ∧
    compile .json gameNamespace sessionDecls = .ok s' ∧ sessionNamespace ≠ gameNamespace ∧
    sessionNamespace.name ≠ "" ∧ gameNamespace.name ≠ "" ∧
    '_' ∉ sessionNamespace.name.toList ∧ '_' ∉ gameNamespace.name.toList ∧
    ∀ x ∈ s.actions.namespacedTypes, x ∉ s'.actions.namespacedTypes := by
  obtain ⟨hcoincide, -, happart⟩ := qualified_types_coincide
  obtain ⟨s, h, -⟩ := session_compiles (A := Action) .standard
  obtain ⟨s', h'⟩ : ∃ s', compile Format.json gameNamespace sessionDecls = .ok s' := ⟨_, rfl⟩
  have hne : sessionNamespace ≠ gameNamespace := by decide
  have named : sessionNamespace.name ≠ "" := by decide
  have named' : gameNamespace.name ≠ "" := by decide
  have free : '_' ∉ sessionNamespace.name.toList := by decide
  have free' : '_' ∉ gameNamespace.name.toList := by decide
  have hspells : Namespace.none.Spells sessionNamespace "auth_LOGIN" "LOGIN" :=
    .whole rfl named rfl
  have hsame : Namespace.none.qualify "auth_LOGIN" = sessionNamespace.qualify "LOGIN" :=
    (hcoincide ..).mpr (.inr (.inl hspells))
  exact ⟨s, s', ⟨hsame.symm, hspells⟩, h, h', hne, named, named', free, free',
    happart h h' hne named named' free free'⟩

end ActionSchema
