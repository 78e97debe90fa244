import ActionSchema.Tester
import ActionSchema.Proofs.Table
import Mathlib.Data.List.Perm.Subperm

/-! The shape that arguments in normal form give to a payload, whoever made them. A tester compares
numbers of keys and looks them up in one direction only; an object that it accepts has just the
ids of the arguments as its keys all the same, and these ids are apart. -/

namespace ActionSchema

namespace Shape

theorem matchesFields_iff {fields : List (String × Predicate)} {value : Table Json} :
    matchesFields fields value = true ↔ value.keys.Perm (fields.map Prod.fst) ∧
      ∀ field ∈ fields, field.2 (value.get? field.1) = true := by
  have hsubset : value.keys.all (fun key => fields.any fun field => field.1 == key) = true ↔
      value.keys ⊆ fields.map Prod.fst := by
    simp only [List.all_eq_true, List.any_eq_true, beq_iff_eq, List.subset_def, List.mem_map]
  have hsize : (value.size == fields.length) = true ↔
      value.keys.length = (fields.map Prod.fst).length := by
    rw [beq_iff_eq, Table.Entries.length_keys, List.length_map]
  simp only [matchesFields, Bool.and_eq_true, hsubset, hsize, List.all_eq_true]
  refine and_congr_left fun _ => ⟨fun ⟨hlength, hkeys⟩ => ?_, fun hperm => ?_⟩
  · exact (value.nodup_keys.subperm hkeys).perm_of_length_le (Nat.le_of_eq hlength.symm)
  · exact ⟨hperm.length_eq, hperm.subset⟩

theorem accepts_object_iff {fields : List (String × Predicate)} {payload : Option Json} :
    (object fields).accepts payload = true ↔
      ∃ value, payload = some (.obj value) ∧ matchesFields fields value = true := by
  rcases payload with _ | (_ | _ | _ | _ | _ | value) <;> simp [accepts]

end Shape

namespace ArgumentSpec

def Passes (arg : ArgumentSpec) (value : Table Json) : Prop :=
  ∀ id, arg.id = some id → ∃ v, value.get? id = some v ∧ arg.test (some v) = true

/-- Two arguments that differ at most in their documentation and in what their tests say of an
absent value. -/
structure AlikeIfPresent (arg arg' : ArgumentSpec) : Prop where
  id_eq : arg.id = arg'.id
  whole_eq : arg.whole = arg'.whole
  test_eq : ∀ v, arg.test (some v) = arg'.test (some v)

theorem AlikeIfPresent.passes_iff {arg arg' : ArgumentSpec} (h : arg.AlikeIfPresent arg')
    {value : Table Json} : arg.Passes value ↔ arg'.Passes value := by
  unfold Passes
  simp only [h.id_eq, h.test_eq]

end ArgumentSpec

namespace ParsedAction

variable {action action' : ParsedAction} {payload : Option Json}

theorem isWholePayload_iff :
    action.isWholePayload = true ↔ ∃ arg, action.args = [arg] ∧ arg.whole = true := by
  unfold isWholePayload
  rcases action.args with _ | ⟨arg, _ | ⟨arg', args⟩⟩ <;> simp

theorem map_fst_field? (args : List ArgumentSpec) :
    (args.filterMap (·.field?)).map Prod.fst = args.filterMap (·.id) := by
  rw [List.map_filterMap]
  refine List.filterMap_congr fun arg _ => ?_
  rw [ArgumentSpec.field?, Option.map_map]
  exact Option.map_id'

theorem tester_of_nil (h : action.args = []) : action.tester payload = true ↔ payload = none := by
  simp only [tester, shape, h, Shape.accepts, Option.isNone_iff_eq_none]

theorem tester_of_whole {arg : ArgumentSpec} (h : action.args = [arg]) (hwhole : arg.whole = true) :
    action.tester = arg.test := by
  funext payload
  simp only [tester, shape, h, hwhole, if_true, Shape.accepts]

theorem shape_eq_object (hne : action.args ≠ []) (hwhole : action.isWholePayload = false) :
    action.shape = .object (action.args.filterMap (·.field?)) := by
  unfold isWholePayload at hwhole
  unfold shape
  rcases h : action.args with _ | ⟨arg, _ | ⟨arg', args⟩⟩
  · exact absurd h hne
  · rw [h] at hwhole
    simp only [hwhole, Bool.false_eq_true, if_false, List.filterMap_cons, List.filterMap_nil]
    cases arg.field? <;> rfl
  · rfl

theorem tester_eq_true_iff_closed (hne : action.args ≠ []) (hwhole : action.isWholePayload = false) :
    action.tester payload = true ↔ ∃ value : Table Json, payload = some (.obj value) ∧
      action.argIds.Nodup ∧ (∀ key, key ∈ value.keys ↔ key ∈ action.argIds) ∧
        ∀ arg ∈ action.args, arg.Passes value := by
  rw [tester, shape_eq_object hne hwhole, Shape.accepts_object_iff]
  refine exists_congr fun value => and_congr_right fun _ => ?_
  rw [Shape.matchesFields_iff, map_fst_field?, Table.Entries.keys_perm_iff, and_assoc]
  refine and_congr_right fun _ => and_congr_right fun closed => ?_
  constructor
  · intro each arg harg id hid
    have hfield : (id, arg.test) ∈ action.args.filterMap (·.field?) :=
      List.mem_filterMap.mpr ⟨arg, harg, by rw [ArgumentSpec.field?, hid]; rfl⟩
    have hkey : id ∈ action.argIds := List.mem_filterMap.mpr ⟨arg, harg, hid⟩
    obtain ⟨v, hv⟩ := Table.Entries.mem_keys_iff.mp ((closed id).mpr hkey)
    exact ⟨v, hv, hv ▸ each _ hfield⟩
  · intro each field hfield
    -- every field comes from an argument with an id
    obtain ⟨arg, harg, hfield⟩ := List.mem_filterMap.mp hfield
    obtain ⟨id, hid, rfl⟩ := Option.map_eq_some_iff.mp hfield
    obtain ⟨v, hv, htest⟩ := each arg harg id hid
    rwa [hv]

theorem tester_of_not_nodup (h : ¬ action.argIds.Nodup) (payload : Option Json) :
    action.tester payload = false := by
  have hne : action.args ≠ [] := by
    intro hnil
    exact h (by simp [argIds, hnil])
  have hwhole : action.isWholePayload = false := by
    rw [Bool.eq_false_iff, ne_eq, isWholePayload_iff]
    rintro ⟨arg, harg, -⟩
    refine h ?_
    rw [argIds, harg, List.filterMap_cons, List.filterMap_nil]
    cases arg.id <;> simp
  rw [Bool.eq_false_iff, ne_eq, tester_eq_true_iff_closed hne hwhole]
  rintro ⟨value, -, hnodup, -⟩
  exact h hnodup

theorem isWholePayload_alike
    (h : List.Forall₂ ArgumentSpec.AlikeIfPresent action.args action'.args) :
    action.isWholePayload = action'.isWholePayload := by
  unfold isWholePayload
  generalize action.args = args at h
  generalize action'.args = args' at h
  cases h with
  | nil => rfl
  | cons hhead htail =>
    cases htail with
    | nil => exact hhead.whole_eq
    | cons _ _ => rfl

theorem ids_alike {args args' : List ArgumentSpec}
    (h : List.Forall₂ ArgumentSpec.AlikeIfPresent args args') :
    args.filterMap (·.id) = args'.filterMap (·.id) := by
  induction h with
  | nil => rfl
  | cons hhead _ ih => rw [List.filterMap_cons, List.filterMap_cons, hhead.id_eq, ih]

theorem forall_passes_alike {value : Table Json} {args args' : List ArgumentSpec}
    (h : List.Forall₂ ArgumentSpec.AlikeIfPresent args args') :
    (∀ arg ∈ args, arg.Passes value) ↔ ∀ arg ∈ args', arg.Passes value := by
  induction h with
  | nil => simp only [List.not_mem_nil, false_imp_iff, implies_true]
  | cons hhead _ ih => rw [List.forall_mem_cons, List.forall_mem_cons, hhead.passes_iff, ih]

theorem tester_alike (hwhole : action.isWholePayload = false)
    (h : List.Forall₂ ArgumentSpec.AlikeIfPresent action.args action'.args) :
    action.tester = action'.tester := by
  have hwhole' : action'.isWholePayload = false := isWholePayload_alike h ▸ hwhole
  funext payload
  rw [Bool.eq_iff_iff]
  by_cases hne : action.args = []
  · have hne' : action'.args = [] := List.forall₂_nil_left_iff.mp (hne ▸ h)
    rw [tester_of_nil hne, tester_of_nil hne']
  · have hne' : action'.args ≠ [] := fun hnil => hne (List.forall₂_nil_right_iff.mp (hnil ▸ h))
    rw [tester_eq_true_iff_closed hne hwhole, tester_eq_true_iff_closed hne' hwhole',
      argIds, argIds, ids_alike h]
    simp only [forall_passes_alike h]

end ParsedAction

/-- A tester accepts exactly the closed shape of its arguments, also of arguments that no
declaration gives: without ids, with an id twice, or flagged whole beside others. -/
theorem tester_accepts_closed_shape (action : ParsedAction) :
    (action.args = [] → ∀ payload, action.tester payload = true ↔ payload = none) ∧
    (∀ arg, action.args = [arg] → arg.whole = true →
      ∀ payload, action.tester payload = arg.test payload) ∧
    (action.args ≠ [] → (¬ ∃ arg, action.args = [arg] ∧ arg.whole = true) →
      (∀ payload, action.tester payload = true ↔
        ∃ value : Table Json, payload = some (.obj value) ∧ action.argIds.Nodup ∧
          (∀ key, key ∈ value.keys ↔ key ∈ action.argIds) ∧
          ∀ arg ∈ action.args, ∀ id, arg.id = some id →
            ∃ v, value.get? id = some v ∧ arg.test (some v) = true) ∧
      ∀ action' : ParsedAction,
        List.Forall₂ ArgumentSpec.AlikeIfPresent action.args action'.args →
          action.tester = action'.tester) ∧
    (¬ action.argIds.Nodup → ∀ payload, action.tester payload = false) := by
  refine ⟨fun hnil payload => ParsedAction.tester_of_nil hnil, fun arg harg hwhole payload => ?_,
    fun hne hother => ?_, ParsedAction.tester_of_not_nodup⟩
  · rw [ParsedAction.tester_of_whole harg hwhole]
  · rw [← ParsedAction.isWholePayload_iff, Bool.not_eq_true] at hother
    exact ⟨fun payload => ParsedAction.tester_eq_true_iff_closed hne hother,
      fun action' => ParsedAction.tester_alike hother⟩

def looseAction : ParsedAction where
  type := "MOVE"
  doc := ""
  args := [⟨some "x", "", .string, true⟩, ⟨none, "", .number, false⟩,
    ⟨some "y", "", .optional .string, true⟩]

def tangledAction : ParsedAction :=
  { looseAction with args := ⟨some "y", "", .any, false⟩ :: looseAction.args }

theorem loose_and_tangled_shapes :
    (looseAction.args ≠ [] ∧ (¬ ∃ arg, looseAction.args = [arg] ∧ arg.whole = true) ∧
      looseAction.tester (some (.ofFields [("x", .str "left"), ("y", .null)])) = true) ∧
    (¬ tangledAction.argIds.Nodup ∧ ∀ payload, tangledAction.tester payload = false) := by
  obtain ⟨-, -, hclosed, -⟩ := tester_accepts_closed_shape looseAction
  obtain ⟨-, -, -, htwice⟩ := tester_accepts_closed_shape tangledAction
  have hne : looseAction.args ≠ [] := nofun
  have hmany : ¬ ∃ arg, looseAction.args = [arg] ∧ arg.whole = true := by
    rintro ⟨arg, harg, -⟩
    cases harg
  have htangled : ¬ tangledAction.argIds.Nodup := by decide
  refine ⟨⟨hne, hmany, ((hclosed hne hmany).1 _).mpr ⟨_, rfl, by decide, fun key => Iff.rfl, ?_⟩⟩,
    htangled, htwice htangled⟩
  intro arg harg id hid
  simp only [looseAction, List.mem_cons, List.not_mem_nil, or_false] at harg
  rcases harg with rfl | rfl | rfl
  · obtain rfl := Option.some.inj hid
    exact ⟨.str "left", rfl, rfl⟩
  · cases hid
  · obtain rfl := Option.some.inj hid
    exact ⟨.null, rfl, rfl⟩

end ActionSchema
