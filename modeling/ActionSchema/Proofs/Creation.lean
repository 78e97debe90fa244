import ActionSchema.Proofs.Compilation
import ActionSchema.Proofs.Positional
import ActionSchema.Proofs.Shape

/-! Creators and testers of one schema. A creator fills the declared fields in order, up to three
of them, and the tester found under its type is the one of the same declaration. -/

namespace ActionSchema

variable {values : List Json}

namespace ParsedAction

def PositionsFit (action : ParsedAction) (values : List Json) : Prop :=
  action.args = [] ∨
  (∃ arg, action.args = [arg] ∧ arg.whole = true ∧ arg.test values.head? = true) ∨
  (1 ≤ action.args.length ∧ action.args.length ≤ 3 ∧
    ∀ i (h : i < action.args.length), action.args[i].whole = false ∧
      action.args[i].test (some (values.getD i .null)) = true)

theorem closed_iff_length_le {ids : List String} (apart : ids.Nodup) :
    (∀ key, key ∈ (assign Table.empty (ids.take maxPositional) values).keys ↔ key ∈ ids) ↔
      ids.length ≤ 3 := by
  simp only [mem_keys_assign_empty]
  constructor
  · intro closed
    -- lists without repetition that have the same members have the same length
    have htake : (ids.take maxPositional).Nodup := apart.sublist (List.take_sublist _ _)
    have hlength := ((List.perm_ext_iff_of_nodup htake apart).mpr closed).length_eq
    rw [List.length_take] at hlength
    exact hlength ▸ Nat.min_le_left maxPositional ids.length
  · intro hlength key
    rw [List.take_of_length_le (show ids.length ≤ maxPositional from hlength)]

theorem tester_positional_of_fields {action : ParsedAction} {fs : List Field}
    (h : action.args = fs.map Field.spec) (hne : fs ≠ []) (apart : (fs.map (·.id)).Nodup) :
    action.tester (action.positional values) = true ↔ fs.length ≤ 3 ∧
      ∀ i (hi : i < fs.length), fs[i].test (some (values.getD i .null)) = true := by
  have hids : action.args.map (·.id) = (fs.map (·.id)).map some := by
    rw [h, List.map_map, List.map_map]
    rfl
  have hne' : fs.map (·.id) ≠ [] := by
    rwa [ne_eq, List.map_eq_nil_iff]
  rw [tester_of_fields h hne apart,
    positional_of_named (isWholePayload_of_fields h) hids hne']
  simp only [Option.some.injEq, Json.obj.injEq, exists_eq_left', closed_iff_length_le apart,
    List.length_map]
  refine and_congr_right fun hlength => ?_
  rw [List.take_of_length_le (by rwa [List.length_map])]
  have hget {i : Nat} (hi : i < fs.length) :
      (assign Table.empty (fs.map (·.id)) values).get? fs[i].id = some (values.getD i .null) := by
    have hi' : i < (fs.map (·.id)).length := by rwa [List.length_map]
    simpa only [List.getElem_map] using get?_assign apart hi'
  constructor
  · intro each i hi
    obtain ⟨v, hv, htest⟩ := each fs[i] (List.getElem_mem hi)
    rwa [Option.some.inj ((hget hi).symm.trans hv)]
  · intro each f hf
    obtain ⟨i, hi, rfl⟩ := List.getElem_of_mem hf
    exact ⟨_, hget hi, each i hi⟩

theorem tester_positional_iff {action : ParsedAction} (h : Regular action.args) :
    action.tester (action.positional values) = true ↔ action.PositionsFit values := by
  unfold PositionsFit
  generalize hargs : action.args = args at h
  cases h with
  | whole test =>
    have hwhole : action.isWholePayload = true := isWholePayload_iff.mpr ⟨_, hargs, rfl⟩
    rw [tester_of_whole hargs rfl, positional_of_whole hwhole]
    simp
  | fields fs named apart =>
    by_cases hne : fs = []
    · subst hne
      simp [positional_of_nil hargs, tester_of_nil hargs]
    · rw [tester_positional_of_fields hargs hne apart]
      have hpos : 1 ≤ fs.length := List.length_pos_iff.mpr hne
      simp [hne, hpos, Field.spec]

end ParsedAction

theorem creators_agree_with_testers :
    Format.standard.Lawful ∧ Format.json.Lawful ∧
    ∀ {A : Type} {format : Format A} {ns : Namespace} {ds : List Declaration}
      {s : CompiledSchema A}, format.Lawful → compile format ns ds = .ok s → ∀ d ∈ ds,
      ∃ a creator, d.parse = .ok a ∧ s.creator d.type = .ok creator ∧
        (∀ payload, ∃ b, s.test (creator.create payload) = some b ∧
          (b = true ↔ d.Accepts payload)) ∧
        ∀ values, ∃ b, s.test (creator.byPosition values) = some b ∧
          (b = true ↔ a.PositionsFit values) := by
  refine ⟨Format.standard_lawful, Format.json_lawful, fun {A format ns ds s} hlaw h d hd => ?_⟩
  obtain ⟨a, hparse, -, -, hcreator, -⟩ := compile_declared h hd
  have hcreate (payload : Option Json) :
      s.test ((ActionCreator.ofParsed format ns a).create payload) = some (a.tester payload) := by
    refine CompiledSchema.test_declared h hd hparse ?_
    rw [← Declaration.type_of_parse hparse]
    exact hlaw _
  refine ⟨a, _, hparse, hcreator, fun payload => ⟨_, hcreate payload, ?_⟩,
    fun values => ⟨_, hcreate _, ?_⟩⟩
  · exact Declaration.tester_eq_true_iff_accepts hparse
  · exact ParsedAction.tester_positional_iff (Declaration.regular_of_parse hparse)

theorem session_creators_agree : ∃ s : CompiledSchema Json,
    Format.json.Lawful ∧ compile .json sessionNamespace sessionDecls = .ok s ∧
    ∃ d ∈ sessionDecls, d.type = "LOGIN" ∧ ∃ a creator,
      d.parse = .ok a ∧ s.creator d.type = .ok creator ∧
        (∀ payload, ∃ b, s.test (creator.create payload) = some b ∧
          (b = true ↔ d.Accepts payload)) ∧
        ∀ values, ∃ b, s.test (creator.byPosition values) = some b ∧
          (b = true ↔ a.PositionsFit values) := by
  obtain ⟨s, h, -⟩ := session_compiles .json
  have hd : sessionDecls[1] ∈ sessionDecls := List.getElem_mem _
  exact ⟨s, Format.json_lawful, h, _, hd, rfl,
    creators_agree_with_testers.2.2 Format.json_lawful h _ hd⟩

end ActionSchema
