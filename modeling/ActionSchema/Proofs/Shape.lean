import ActionSchema.Proofs.ClosedShape
import ActionSchema.Proofs.Parsing

/-! The shape that a declaration gives to a payload. A tester accepts just the payloads of the
declared shape: objects are closed, so every declared field is there and no other is. -/

namespace ActionSchema

inductive Describes : List ArgumentDecl → Option Json → Prop
  | bare : Describes [] none
  | whole {test : Predicate} {payload : Option Json} (accepted : test payload = true) :
    Describes [.whole test] payload
  | object {decls : List ArgumentDecl} {fs : List Field} {value : Table Json}
    (fields : decls.map (·.field?) = fs.map some) (nonempty : fs ≠ [])
    (closed : ∀ key, key ∈ value.keys ↔ key ∈ fs.map (·.id))
    (each : ∀ f ∈ fs, ∃ v, value.get? f.id = some v ∧ f.test (some v) = true) :
    Describes decls (some (.obj value))

namespace ParsedAction

theorem isWholePayload_of_fields {action : ParsedAction} {fs : List Field}
    (h : action.args = fs.map Field.spec) : action.isWholePayload = false := by
  rw [Bool.eq_false_iff, ne_eq, isWholePayload_iff, h]
  rintro ⟨arg, harg, hwhole⟩
  obtain ⟨f, -, rfl⟩ := List.mem_map.mp (harg ▸ List.mem_singleton_self arg)
  cases hwhole

theorem tester_of_fields {action : ParsedAction} {fs : List Field}
    (h : action.args = fs.map Field.spec) (hne : fs ≠ []) (apart : (fs.map (·.id)).Nodup)
    {payload : Option Json} : action.tester payload = true ↔
      ∃ value : Table Json, payload = some (.obj value) ∧
        (∀ key, key ∈ value.keys ↔ key ∈ fs.map (·.id)) ∧
        ∀ f ∈ fs, ∃ v, value.get? f.id = some v ∧ f.test (some v) = true := by
  have hargs : action.args ≠ [] := by
    rwa [h, ne_eq, List.map_eq_nil_iff]
  have hids : action.argIds = fs.map (·.id) := by
    rw [argIds, h, filterMap_id_spec]
  rw [tester_eq_true_iff_closed hargs (isWholePayload_of_fields h), hids, h]
  simp only [apart, true_and, List.forall_mem_map, ArgumentSpec.Passes, Field.spec,
    Option.some.injEq, forall_eq']

end ParsedAction

theorem map_field?_eq_iff {decls : List ArgumentDecl} {fs : List Field} :
    decls.map (·.field?) = fs.map some ↔ decls.map (·.spec) = fs.map Field.spec := by
  induction decls generalizing fs with
  | nil => cases fs <;> simp
  | cons decl decls ih => cases fs <;> simp [ih, ArgumentDecl.field?_eq_some_iff]

theorem describes_nil_iff {payload : Option Json} : Describes [] payload ↔ payload = none := by
  refine ⟨fun h => ?_, fun h => h ▸ .bare⟩
  cases h with
  | bare => rfl
  | object fields nonempty => simp_all

theorem describes_whole_iff {test : Predicate} {payload : Option Json} :
    Describes [.whole test] payload ↔ test payload = true := by
  refine ⟨fun h => ?_, .whole⟩
  cases h with
  | whole accepted => exact accepted
  | object fields =>
    obtain ⟨f, _, -, hf, -⟩ := List.map_eq_cons_iff.mp fields.symm
    cases hf

theorem describes_fields_iff {decls : List ArgumentDecl} {fs : List Field}
    (h : decls.map (·.field?) = fs.map some) (hne : fs ≠ []) {payload : Option Json} :
    Describes decls payload ↔ ∃ value : Table Json, payload = some (.obj value) ∧
      (∀ key, key ∈ value.keys ↔ key ∈ fs.map (·.id)) ∧
      ∀ f ∈ fs, ∃ v, value.get? f.id = some v ∧ f.test (some v) = true := by
  constructor
  · intro hdesc
    cases hdesc with
    | bare => simp_all
    | whole accepted =>
      obtain ⟨f, _, -, hf, -⟩ := List.map_eq_cons_iff.mp h.symm
      cases hf
    | object fields nonempty closed each =>
      obtain rfl := (List.map_inj_right fun _ _ => Option.some.inj).mp (fields.symm.trans h)
      exact ⟨_, rfl, closed, each⟩
  · rintro ⟨value, rfl, closed, each⟩
    exact .object h hne closed each

namespace Declaration

def Accepts (d : Declaration) (payload : Option Json) : Prop := Describes d.args payload

theorem tester_eq_true_iff_accepts {d : Declaration} {a : ParsedAction} (h : d.parse = .ok a)
    {payload : Option Json} : a.tester payload = true ↔ d.Accepts payload := by
  obtain ⟨-, -, hregular, rfl⟩ := parse_eq_ok_iff.mp h
  unfold Accepts
  generalize hspecs : d.args.map (·.spec) = specs at hregular
  cases hregular with
  | whole test =>
    rw [ParsedAction.tester_of_whole rfl rfl, map_spec_eq_whole_iff.mp hspecs, describes_whole_iff]
  | fields fs named apart =>
    by_cases hne : fs = []
    · subst hne
      rw [ParsedAction.tester_of_nil rfl, List.map_eq_nil_iff.mp hspecs, describes_nil_iff]
    · rw [ParsedAction.tester_of_fields rfl hne apart,
        describes_fields_iff (map_field?_eq_iff.mpr hspecs) hne]

end Declaration

end ActionSchema
