import ActionSchema.Creator
import ActionSchema.Proofs.NormalForm

/-! Creation by position. The values go to the first declared fields in order, one each; a field
that the values do not reach gets `null`, and fields behind the third one are left out. -/

namespace ActionSchema

variable {fields : Table Json} {ids : List String} {values values' : List Json} {key : String}

theorem assign_cons (fields : Table Json) (id : String) (ids : List String) (values : List Json) :
    assign fields (id :: ids) values =
      assign (fields.insert id (values.head?.getD .null)) ids values.tail := by
  cases values <;> rfl

theorem mem_keys_assign : key ∈ (assign fields ids values).keys ↔ key ∈ ids ∨ key ∈ fields.keys := by
  induction ids generalizing fields values with
  | nil => simp [assign]
  | cons id ids ih =>
    rw [assign_cons, ih, Table.mem_keys_insert, List.mem_cons]
    exact or_left_comm.trans or_assoc.symm

theorem mem_keys_assign_empty : key ∈ (assign Table.empty ids values).keys ↔ key ∈ ids := by
  have hempty : (Table.empty : Table Json).keys = [] := rfl
  rw [mem_keys_assign, hempty]
  simp only [List.not_mem_nil, or_false]

theorem get?_assign_of_not_mem (h : key ∉ ids) :
    (assign fields ids values).get? key = fields.get? key := by
  induction ids generalizing fields values with
  | nil => simp [assign]
  | cons id ids ih =>
    rw [List.mem_cons, not_or] at h
    rw [assign_cons, ih h.2, Table.get?_insert, if_neg (Ne.symm h.1)]

theorem get?_assign (apart : ids.Nodup) {i : Nat} (hi : i < ids.length) :
    (assign fields ids values).get? ids[i] = some (values.getD i .null) := by
  induction ids generalizing fields values i with
  | nil => cases hi
  | cons id ids ih =>
    rw [List.nodup_cons] at apart
    rw [assign_cons]
    cases i with
    | zero =>
      rw [List.getElem_cons_zero, get?_assign_of_not_mem apart.1, Table.get?_insert, if_pos rfl]
      cases values <;> rfl
    | succ i =>
      rw [List.getElem_cons_succ, ih apart.2 (Nat.lt_of_succ_lt_succ hi)]
      cases values <;> rfl

theorem assign_congr (h : ∀ i < ids.length, values.getD i .null = values'.getD i .null) :
    assign fields ids values = assign fields ids values' := by
  induction ids generalizing fields values values' with
  | nil => rfl
  | cons id ids ih =>
    have hhead : values.head?.getD .null = values'.head?.getD .null := by
      simpa only [List.getD_eq_getElem?_getD, List.head?_eq_getElem?] using h 0 (Nat.succ_pos _)
    have htail : ∀ i < ids.length, values.tail.getD i .null = values'.tail.getD i .null := by
      intro i hi
      simpa only [List.getD_eq_getElem?_getD, List.getElem?_tail] using
        h (i + 1) (Nat.succ_lt_succ hi)
    rw [assign_cons, assign_cons, hhead, ih htail]

theorem assign_get? (apart : ids.Nodup) {o : Table Json} (closed : ∀ key, key ∈ o.keys ↔ key ∈ ids)
    (h : List.Forall₂ (fun id v => o.get? id = some v) ids values) :
    assign Table.empty ids values = o := by
  apply Table.Entries.ext
  intro key
  by_cases hkey : key ∈ ids
  · obtain ⟨i, hi, rfl⟩ := List.getElem_of_mem hkey
    obtain ⟨hlength, hget⟩ := List.forall₂_iff_get.mp h
    have hi' : i < values.length := hlength ▸ hi
    have hvalue : o.get? ids[i] = some values[i] := hget i hi hi'
    rw [get?_assign apart hi, hvalue, List.getD_eq_getElem?_getD,
      List.getElem?_eq_getElem hi', Option.getD_some]
  · have hnot : key ∉ o.keys := fun hmem => hkey ((closed key).mp hmem)
    rw [get?_assign_of_not_mem hkey, Table.Entries.get?_eq_none_iff.mpr hnot]
    rfl

namespace ParsedAction

variable {action : ParsedAction}

theorem positional_of_nil (h : action.args = []) : action.positional values = none := by
  simp only [positional, h, List.isEmpty_nil, if_true]

theorem positional_of_whole (h : action.isWholePayload = true) :
    action.positional values = values.head? := by
  obtain ⟨arg, harg, -⟩ := isWholePayload_iff.mp h
  simp only [positional, harg, List.isEmpty_cons, Bool.false_eq_true, if_false, h, if_true]

theorem positional_of_named (hwhole : action.isWholePayload = false)
    (hids : action.args.map (·.id) = ids.map some) (hne : ids ≠ []) :
    action.positional values =
      some (.obj (assign Table.empty (ids.take maxPositional) values)) := by
  have hargs : action.args.isEmpty = false := by
    rw [List.isEmpty_eq_false_iff, ne_eq, ← List.map_eq_nil_iff (f := (·.id)), hids,
      List.map_eq_nil_iff]
    exact hne
  have htake : (action.args.take maxPositional).map (·.id) = (ids.take maxPositional).map some := by
    rw [List.map_take, hids, List.map_take]
  unfold positional
  rw [hwhole, hargs, filterMap_id_of_map_id htake]
  rfl

end ParsedAction

/-- Creation by position loses no value that it takes: it makes the object of the first three
fields, and up to three fields it makes every object with the declared keys. -/
theorem positional_creation_assembles {d : Declaration} {A : Type} (creator : ActionCreator A)
    (h : d.parse = .ok creator.action) (hlaw : creator.format.Lawful) :
    (creator.action.args = [] → ∀ values, creator.byPosition values = creator.create none) ∧
    (creator.action.isWholePayload = true →
      ∀ values, creator.byPosition values = creator.create values.head?) ∧
    ∀ ids, ids ≠ [] → creator.action.args.map (·.id) = ids.map some →
      (∀ values, ∃ o : Table Json,
        creator.format.unformat (creator.byPosition values) =
          ⟨creator.namespaced, some (.obj o)⟩ ∧
        (∀ key, key ∈ o.keys ↔ key ∈ ids.take 3) ∧
        ∀ k id, (ids.take 3)[k]? = some id → o.get? id = some (values.getD k .null)) ∧
      (∀ values values', (∀ k < min ids.length 3, values.getD k .null = values'.getD k .null) →
        creator.byPosition values = creator.byPosition values') ∧
      (ids.length ≤ 3 → ∀ o : Table Json, (∀ key, key ∈ o.keys ↔ key ∈ ids) →
        ∃ values, List.Forall₂ (fun id v => o.get? id = some v) ids values ∧
          creator.byPosition values = creator.create (some (.obj o))) := by
  have hnormal := Declaration.normal_of_parse h
  refine ⟨fun hnil values => ?_, fun hwhole values => ?_, fun ids hne hids => ?_⟩
  · rw [ActionCreator.byPosition, ParsedAction.positional_of_nil hnil]
  · rw [ActionCreator.byPosition, ParsedAction.positional_of_whole hwhole]
  -- from here on the arguments are fields, and the first three of them are filled
  have hpositional (values : List Json) : creator.byPosition values =
      creator.create (some (.obj (assign Table.empty (ids.take 3) values))) := by
    have hwhole := hnormal.isWholePayload_eq_false hids
    rw [ActionCreator.byPosition, ParsedAction.positional_of_named hwhole hids hne]
    rfl
  have apart : ids.Nodup := filterMap_id_of_map_id hids ▸ hnormal.apart
  have apart' : (ids.take 3).Nodup := apart.sublist (List.take_sublist _ _)
  refine ⟨fun values => ?_, fun values values' hsame => ?_, fun hlength o closed => ?_⟩
  · refine ⟨assign Table.empty (ids.take 3) values, ?_, fun key => mem_keys_assign_empty,
      fun k id hid => ?_⟩
    · rw [hpositional, ActionCreator.create, hlaw]
    · obtain ⟨hk, rfl⟩ := List.getElem?_eq_some_iff.mp hid
      exact get?_assign apart' hk
  · rw [hpositional, hpositional, assign_congr]
    intro k hk
    rw [List.length_take, Nat.min_comm] at hk
    exact hsame k hk
  · have hvalue : ∀ id ∈ ids, ∃ v, o.get? id = some v := fun id hid =>
      Table.Entries.mem_keys_iff.mp ((closed id).mpr hid)
    obtain ⟨values, hvalues⟩ := exists_forall₂_of_forall hvalue
    refine ⟨values, hvalues, ?_⟩
    rw [hpositional, List.take_of_length_le hlength, assign_get? apart closed hvalues]

def moveDecl : Declaration :=
  ⟨"MOVE", [.doc "Moves the cursor", .arg (.named "x" .number), .arg (.named "y" .number),
    .arg (.documented "keep" "Keep the selection" (.optional .boolean))]⟩

def moveCreator : ActionCreator Json where
  namespaced := "editor_MOVE"
  action := ⟨"MOVE", "Moves the cursor", moveDecl.args.map (·.spec)⟩
  format := .json

theorem move_creation_assembles :
    moveDecl.parse = .ok moveCreator.action ∧ moveCreator.format.Lawful ∧
    moveCreator.action.args.map (·.id) = ["x", "y", "keep"].map some ∧
    (∀ values, ∃ o : Table Json,
      moveCreator.format.unformat (moveCreator.byPosition values) = ⟨"editor_MOVE", some (.obj o)⟩ ∧
      (∀ key, key ∈ o.keys ↔ key ∈ ["x", "y", "keep"]) ∧
      ∀ k id, ["x", "y", "keep"][k]? = some id → o.get? id = some (values.getD k .null)) ∧
    moveCreator.byPosition [.bool true] = moveCreator.byPosition [.bool true, .null, .null, .null] ∧
    ∃ values, values.length = 3 ∧ moveCreator.byPosition values =
      moveCreator.create (some (.ofFields [("keep", .null), ("y", .str "2"), ("x", .str "1")])) := by
  have hparse : moveDecl.parse = .ok moveCreator.action := rfl
  have hids : moveCreator.action.args.map (·.id) = ["x", "y", "keep"].map some := rfl
  obtain ⟨-, -, hnamed⟩ := positional_creation_assembles moveCreator hparse Format.json_lawful
  obtain ⟨hobject, hpadded, hback⟩ := hnamed _ (by decide) hids
  have hkeys (key : String) :
      key ∈ (Table.ofList [("keep", Json.null), ("y", .str "2"), ("x", .str "1")]).keys ↔
        key ∈ ["x", "y", "keep"] := by
    rw [Table.mem_keys_ofList]
    simp only [List.map_cons, List.map_nil, List.mem_cons, List.not_mem_nil, or_false]
    tauto
  obtain ⟨values, hvalues, hcreate⟩ := hback (by decide) _ hkeys
  refine ⟨hparse, Format.json_lawful, hids, hobject, hpadded _ _ fun k hk => ?_,
    values, hvalues.length_eq.symm, hcreate⟩
  rcases k with _ | _ | _ | k
  · rfl
  · rfl
  · rfl
  · exact absurd hk (by simp)

end ActionSchema
