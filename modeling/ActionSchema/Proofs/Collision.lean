import ActionSchema.Proofs.Reduction

/-! Schemas that share a pipeline. Two schemas know no action in common as long as neither has a type
that reads like one of the other in its longer namespace. -/

namespace ActionSchema

variable {A : Type} {format : Format A} {ns ns' : Namespace} {ds ds' : List Declaration}
  {s s' : CompiledSchema A} {action : A}

namespace CompiledSchema

inductive Makes (s : CompiledSchema A) : A → Prop
  | create {type : String} {c : ActionCreator A} (found : s.creator type = .ok c)
    (payload : Option Json) : Makes s (c.create payload)
  | byPosition {type : String} {c : ActionCreator A} (found : s.creator type = .ok c)
    (values : List Json) : Makes s (c.byPosition values)

def Reduces (s : CompiledSchema A) (action : A) : Prop :=
  ∃ (S : Type) (t : HandlerTable S A) (init : S) (r : Reducer S A),
    s.createReducer t init = .ok r ∧ r.handles (s.format.unformat action).type = true

theorem test_eq_none_iff (h : compile format ns ds = .ok s) :
    s.test action = none ↔ ∀ d ∈ ds, (format.unformat action).type ≠ ns.qualify d.type := by
  refine ⟨fun hnone d hd htype => ?_, test_undeclared h⟩
  obtain ⟨a, hparse, -⟩ := compile_declared h hd
  have haction : format.unformat action =
      ⟨ns.qualify d.type, (format.unformat action).payload⟩ := by rw [← htype]
  rw [test_declared h hd hparse haction] at hnone
  cases hnone

theorem creator_of_eq_ok (h : compile format ns ds = .ok s) {type : String} {c : ActionCreator A}
    (hc : s.creator type = .ok c) :
    ∃ d ∈ ds, c.namespaced = ns.qualify d.type ∧ c.format = format := by
  by_cases ht : type ∈ ds.map (·.type)
  · obtain ⟨d, hd, rfl⟩ := List.mem_map.mp ht
    obtain ⟨a, hparse, -, -, hcreator, -⟩ := compile_declared h hd
    obtain rfl := Except.ok.inj (hcreator.symm.trans hc)
    exact ⟨d, hd, congrArg ns.qualify (Declaration.type_of_parse hparse), rfl⟩
  · obtain ⟨-, -, hunknown⟩ := compile_undeclared h ht
    rw [hunknown] at hc
    cases hc

theorem Makes.type (hlaw : format.Lawful) (h : compile format ns ds = .ok s)
    (hmakes : s.Makes action) : ∃ d ∈ ds, (format.unformat action).type = ns.qualify d.type := by
  have hcreate {type : String} {c : ActionCreator A} (hc : s.creator type = .ok c)
      (payload : Option Json) :
      ∃ d ∈ ds, (format.unformat (c.create payload)).type = ns.qualify d.type := by
    obtain ⟨d, hd, hnamespaced, rfl⟩ := creator_of_eq_ok h hc
    exact ⟨d, hd, by rw [ActionCreator.create, hlaw, hnamespaced]⟩
  cases hmakes with
  | create found payload => exact hcreate found payload
  | byPosition found values => exact hcreate found _

theorem exists_makes (hlaw : format.Lawful) (h : compile format ns ds = .ok s) {d : Declaration}
    (hd : d ∈ ds) : ∃ action, s.Makes action ∧
      (format.unformat action).type = ns.qualify d.type := by
  obtain ⟨a, hparse, -, -, hcreator, -⟩ := compile_declared h hd
  refine ⟨_, .create hcreator none, ?_⟩
  rw [ActionCreator.create, ActionCreator.ofParsed, hlaw, Declaration.type_of_parse hparse]

theorem reduces_iff (h : compile format ns ds = .ok s) :
    s.Reduces action ↔ ∃ d ∈ ds, (format.unformat action).type = ns.qualify d.type := by
  unfold Reduces
  rw [format_of_compile h]
  constructor
  · rintro ⟨S, t, init, r, hr, hhandles⟩
    obtain ⟨type, ht, htype⟩ := (handles_iff h hr).mp hhandles
    obtain ⟨d, hd, rfl⟩ := List.mem_map.mp (((createReducer_eq_ok_iff h).mp hr).1 type ht)
    exact ⟨d, hd, htype.symm⟩
  · rintro ⟨d, hd, htype⟩
    -- one handler under this type is enough, whatever it does
    let t : HandlerTable Unit A := HandlerTable.on {} d.type fun _ _ _ => ()
    have hmem (type : String) : type ∈ t.types ↔ type = d.type :=
      Table.mem_keys_insert.trans (or_iff_left nofun)
    have hdeclared : ∀ type ∈ t.types, type ∈ ds.map (·.type) :=
      fun type ht => (hmem type).mp ht ▸ List.mem_map_of_mem hd
    have hr : s.createReducer t () = .ok _ := (createReducer_eq_ok_iff h).mpr ⟨hdeclared, rfl⟩
    exact ⟨Unit, t, (), _, hr, (handles_iff h hr).mpr ⟨d.type, (hmem _).mpr rfl, htype.symm⟩⟩

def Unshadowed (ns : Namespace) (ds : List Declaration) (ns' : Namespace)
    (ds' : List Declaration) : Prop :=
  ∀ d ∈ ds, ∀ d' ∈ ds', ¬ ns.Shadows ns' d.type d'.type ∧ ¬ ns'.Shadows ns d'.type d.type

theorem unshadowed_iff (hns : ns.name ≠ "") (hns' : ns'.name ≠ "") (hne : ns ≠ ns') :
    Unshadowed ns ds ns' ds' ↔ ∀ d ∈ ds, ∀ d' ∈ ds', ns.qualify d.type ≠ ns'.qualify d'.type := by
  refine forall₂_congr fun d _ => forall₂_congr fun d' _ => ?_
  rw [ne_eq, Namespace.qualify_eq_qualify_iff hns hns', not_or, not_or]
  exact (and_iff_right fun e => hne e.1).symm

/-- Schemas in different namespaces share no action just if no type shadows another, and just then
the reducers of the one handle nothing that the creators of the other make. -/
theorem apart_iff_unshadowed (hlaw : format.Lawful) (hns : ns.name ≠ "") (hns' : ns'.name ≠ "")
    (hne : ns ≠ ns') (h : compile format ns ds = .ok s) (h' : compile format ns' ds' = .ok s') :
    ((∀ action, s.test action = none ∨ s'.test action = none) ↔ Unshadowed ns ds ns' ds') ∧
      ((∀ action, s'.Makes action → ¬ s.Reduces action) ↔ Unshadowed ns ds ns' ds') := by
  rw [unshadowed_iff hns hns' hne]
  constructor
  · constructor
    · intro hnone d hd d' hd' e
      have htype : (format.unformat (format.format ⟨ns.qualify d.type, none⟩)).type =
          ns.qualify d.type := by rw [hlaw]
      -- a bare action of the shared type is known to both schemas
      rcases hnone (format.format ⟨ns.qualify d.type, none⟩) with hs | hs
      · exact (test_eq_none_iff h).mp hs d hd htype
      · exact (test_eq_none_iff h').mp hs d' hd' (htype.trans e)
    · intro hapart action
      rw [test_eq_none_iff h, test_eq_none_iff h', or_iff_not_imp_left]
      intro hsome d' hd' htype'
      refine hsome fun d hd htype => ?_
      exact hapart d hd d' hd' (htype.symm.trans htype')
  · constructor
    · intro hignores d hd d' hd' e
      obtain ⟨action, hmakes, htype⟩ := exists_makes hlaw h' hd'
      exact hignores action hmakes ((reduces_iff h).mpr ⟨d, hd, htype.trans e.symm⟩)
    · intro hapart action hmakes hreduces
      obtain ⟨d, hd, htype⟩ := (reduces_iff h).mp hreduces
      obtain ⟨d', hd', htype'⟩ := hmakes.type hlaw h'
      exact hapart d hd d' hd' (htype.symm.trans htype')

def appNamespace : Namespace := ⟨"app", by simp [Text.isBlank, Text.isControl]⟩

def appUserNamespace : Namespace := ⟨"app_user", by simp [Text.isBlank, Text.isControl]⟩

theorem app_shadows_appUser : appNamespace.Shadows appUserNamespace "user_LOGIN" "LOGIN" :=
  ⟨"user", rfl, rfl⟩

theorem app_appUser_not_apart : ∃ s s' : CompiledSchema Json,
    compile .json appNamespace [⟨"user_LOGIN", []⟩] = .ok s ∧
      compile .json appUserNamespace [⟨"LOGIN", []⟩] = .ok s' ∧
      appNamespace.name ≠ "" ∧ appUserNamespace.name ≠ "" ∧ appNamespace ≠ appUserNamespace ∧
      (¬ ∀ action, s.test action = none ∨ s'.test action = none) ∧
      ¬ ∀ action, s'.Makes action → ¬ s.Reduces action := by
  obtain ⟨s, h⟩ : ∃ s, compile .json appNamespace [⟨"user_LOGIN", []⟩] = .ok s := ⟨_, rfl⟩
  obtain ⟨s', h'⟩ : ∃ s', compile .json appUserNamespace [⟨"LOGIN", []⟩] = .ok s' := ⟨_, rfl⟩
  have hns : appNamespace.name ≠ "" := by decide
  have hns' : appUserNamespace.name ≠ "" := by decide
  have hne : appNamespace ≠ appUserNamespace := by decide
  have hshadowed : ¬ Unshadowed appNamespace [⟨"user_LOGIN", []⟩] appUserNamespace
      [⟨"LOGIN", []⟩] := fun hapart =>
    (hapart _ List.mem_cons_self _ List.mem_cons_self).1 app_shadows_appUser
  obtain ⟨htests, hreducers⟩ :=
    apart_iff_unshadowed Format.json_lawful hns hns' hne h h'
  exact ⟨s, s', h, h', hns, hns', hne, mt htests.mp hshadowed, mt hreducers.mp hshadowed⟩

/-- Both schemas test the action that the second one makes, and the first one reduces it. -/
theorem app_user_LOGIN_is_known_twice : ∃ s s' : CompiledSchema Action,
    compile .standard appNamespace [⟨"user_LOGIN", []⟩] = .ok s ∧
      compile .standard appUserNamespace [⟨"LOGIN", []⟩] = .ok s' ∧
      appNamespace.name ≠ "" ∧ appUserNamespace.name ≠ "" ∧ appNamespace ≠ appUserNamespace ∧
      s.test ⟨"app_user_LOGIN", none⟩ = some true ∧
      s'.test ⟨"app_user_LOGIN", none⟩ = some true ∧
      s'.Makes ⟨"app_user_LOGIN", none⟩ ∧ s.Reduces ⟨"app_user_LOGIN", none⟩ := by
  obtain ⟨s', h', htest', c, hcreator, haction⟩ : ∃ s' : CompiledSchema Action,
      compile .standard appUserNamespace [⟨"LOGIN", []⟩] = .ok s' ∧
        s'.test ⟨"app_user_LOGIN", none⟩ = some true ∧
        ∃ c, s'.creator "LOGIN" = .ok c ∧ c.create none = ⟨"app_user_LOGIN", none⟩ :=
    ⟨_, rfl, rfl, _, rfl, rfl⟩
  have hmakes : s'.Makes ⟨"app_user_LOGIN", none⟩ := haction ▸ .create hcreator none
  refine ⟨_, s', rfl, h', by decide, by decide, by decide, rfl, htest', hmakes, ?_⟩
  exact ⟨Unit, HandlerTable.on {} "user_LOGIN" fun _ _ _ => (), (), _, rfl, rfl⟩

end CompiledSchema

end ActionSchema
