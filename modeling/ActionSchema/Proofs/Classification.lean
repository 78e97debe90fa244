import ActionSchema.Middleware
import ActionSchema.Proofs.Table

/-! How actions are classified. The options say which types are exempt and whether payloads count;
all else comes from the test of the schema. -/

namespace ActionSchema

def CompiledSchema.classify {A : Type} (s : CompiledSchema A) (exempt : List String) (check : Bool)
    (action : A) : Verdict :=
  if (s.format.unformat action).type ∈ exempt then .ignored
  else match s.test action with
    | none => .unknown
    | some passes => if check && !passes then .rejected else .accepted

namespace CompiledSchema

variable {A : Type} {s : CompiledSchema A} {exempt : List String} {check : Bool} {action : A}

theorem classify_of_not_mem (h : (s.format.unformat action).type ∉ exempt) :
    s.classify exempt check action = match s.test action with
      | none => .unknown
      | some passes => if check && !passes then .rejected else .accepted := by
  rw [classify, if_neg h]

theorem classify_eq_ignored_iff :
    s.classify exempt check action = .ignored ↔ (s.format.unformat action).type ∈ exempt := by
  by_cases h : (s.format.unformat action).type ∈ exempt
  · simp [classify, h]
  · rw [classify_of_not_mem h]
    rcases s.test action with _ | passes
    · simp [h]
    · cases check <;> cases passes <;> simp [h]

theorem classify_eq_unknown_iff : s.classify exempt check action = .unknown ↔
    (s.format.unformat action).type ∉ exempt ∧ s.test action = none := by
  by_cases h : (s.format.unformat action).type ∈ exempt
  · simp [classify_eq_ignored_iff.mpr h, h]
  · rw [classify_of_not_mem h]
    rcases s.test action with _ | passes
    · simp [h]
    · cases check <;> cases passes <;> simp

theorem classify_eq_rejected_iff : s.classify exempt check action = .rejected ↔
    (s.format.unformat action).type ∉ exempt ∧ check = true ∧ s.test action = some false := by
  by_cases h : (s.format.unformat action).type ∈ exempt
  · simp [classify_eq_ignored_iff.mpr h, h]
  · rw [classify_of_not_mem h]
    rcases s.test action with _ | passes
    · simp
    · cases check <;> cases passes <;> simp [h]

theorem classify_eq_accepted_iff : s.classify exempt check action = .accepted ↔
    (s.format.unformat action).type ∉ exempt ∧
      ∃ passes, s.test action = some passes ∧ (check = true → passes = true) := by
  by_cases h : (s.format.unformat action).type ∈ exempt
  · simp [classify_eq_ignored_iff.mpr h, h]
  · rw [classify_of_not_mem h]
    rcases s.test action with _ | passes
    · simp
    · cases check <;> cases passes <;> simp [h]

end CompiledSchema

namespace MiddlewareOptions

variable {ρ : Type} {o : MiddlewareOptions ρ}

theorem contains_ignoreSet_iff {types : List String} {type : String} :
    (ignoreSet types).contains type = true ↔ type ∈ types := by
  have hkeys : (types.map (·, ())).map Prod.fst = types := by
    rw [List.map_map]
    exact List.map_id types
  rw [Table.Entries.contains_iff_mem_keys, ignoreSet, Table.mem_keys_ofList, hkeys]

theorem contains_change_ignore_iff {type type' : String} :
    (o.change (.ignore type)).ignored.contains type' = true ↔
      type' = type ∨ o.ignored.contains type' = true := by
  simp only [change, Table.Entries.contains_iff_mem_keys, Table.mem_keys_insert]

theorem contains_changeAll_ignore_iff {types : List String} {type : String} :
    (o.changeAll (types.map .ignore)).ignored.contains type = true ↔
      o.ignored.contains type = true ∨ type ∈ types := by
  induction types generalizing o with
  | nil => simp [changeAll]
  | cons t types ih =>
    change ((o.change (.ignore t)).changeAll (types.map .ignore)).ignored.contains type = true ↔ _
    rw [ih, contains_change_ignore_iff, List.mem_cons, or_assoc, or_left_comm]

theorem checkPayloads_changeAll_ignore (types : List String) :
    (o.changeAll (types.map .ignore)).checkPayloads = o.checkPayloads := by
  induction types generalizing o with
  | nil => rfl
  | cons t types ih => exact ih

end MiddlewareOptions

theorem inspect_eq_classify {A ρ : Type} {s : CompiledSchema A} {options : MiddlewareOptions ρ}
    {exempt : List String} (h : ∀ type, options.ignored.contains type = true ↔ type ∈ exempt)
    (action : A) : (s.createMiddleware options).inspect action =
      s.classify exempt options.checkPayloads action := by
  simp only [ValidationMiddleware.inspect, CompiledSchema.createMiddleware,
    CompiledSchema.classify, CompiledSchema.test, Testers.test, h]
  split
  · rfl
  · cases s.testers.get? (s.format.unformat action).type with
    | none => rfl
    | some tester =>
      simp only [Option.map_some]
      by_cases hcheck : options.checkPayloads = true <;>
        by_cases hpass : tester (s.format.unformat action).payload = true <;> simp [hcheck, hpass]

end ActionSchema
