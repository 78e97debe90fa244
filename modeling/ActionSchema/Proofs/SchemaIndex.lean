import ActionSchema.Proofs.Compilation

/-! The map of parsed actions and the insertions behind it. Its list and its index are filled side by
side, and whatever was refused in between, the index leads to every place of the list and to no
other. -/

namespace ActionSchema.SchemaMap

/-- An insertion in place. A refusal comes before anything is stored. -/
def enter (action : ParsedAction) : StateM SchemaMap (Except SchemaError ParsedAction) := do
  let m ← getThe SchemaMap
  if m.index.contains action.type then
    return .error (.duplicateActionType action.type)
  set { m with index := m.index.insert action.type m.actions.size }
  modify fun m => { m with actions := m.actions.push action }
  return .ok action

def enterAll (history : List ParsedAction) :
    StateM SchemaMap (List (Except SchemaError ParsedAction)) :=
  history.mapM enter

def answer (history : List ParsedAction) (a : ParsedAction) : Except SchemaError ParsedAction :=
  if a.type ∈ history.map (·.type) then .error (.duplicateActionType a.type) else .ok a

def answers (history : List ParsedAction) : List (Except SchemaError ParsedAction) :=
  history.mapIdx fun i a => answer (history.take i) a

def accepted (history : List ParsedAction) : List ParsedAction :=
  (answers history).filterMap Except.toOption

theorem mem_types_iff_isSome_find? {as : List ParsedAction} {type : String} :
    type ∈ as.map (·.type) ↔ (as.find? (·.type == type)).isSome = true := by
  simp only [List.mem_map, List.find?_isSome, beq_iff_eq]

section History

variable (history : List ParsedAction) (a : ParsedAction)

theorem answers_concat : answers (history ++ [a]) = answers history ++ [answer history a] := by
  have hbefore : (history.mapIdx fun i b => answer ((history ++ [a]).take i) b) =
      answers history := by
    refine List.mapIdx_eq_mapIdx_iff.mpr fun i hi => ?_
    rw [List.take_append_of_le_length (Nat.le_of_lt hi)]
  rw [answers, List.mapIdx_concat, hbefore, List.take_left]

theorem accepted_concat : accepted (history ++ [a]) =
    if a.type ∈ history.map (·.type) then accepted history else accepted history ++ [a] := by
  rw [accepted, answers_concat, List.filterMap_append, answer]
  split
  · exact List.append_nil _
  · rfl

theorem find?_accepted (type : String) :
    (accepted history).find? (·.type == type) = history.find? (·.type == type) := by
  induction history using List.reverseRecOn with
  | nil => rfl
  | append_singleton history a ih =>
    rw [accepted_concat, List.find?_append, ← ih]
    split
    · next hold =>
      -- a refused action of the type comes after one that was let in
      by_cases htype : a.type = type
      · subst htype
        rw [mem_types_iff_isSome_find?, ← ih] at hold
        rw [Option.or_of_isSome hold]
      · rw [List.find?_singleton, if_neg (by simpa using htype), Option.or_none]
    · rw [List.find?_append]

theorem mem_types_accepted_iff {type : String} :
    type ∈ (accepted history).map (·.type) ↔ type ∈ history.map (·.type) := by
  rw [mem_types_iff_isSome_find?, mem_types_iff_isSome_find?, find?_accepted]

theorem nodup_types_accepted : ((accepted history).map (·.type)).Nodup := by
  induction history using List.reverseRecOn with
  | nil => exact List.nodup_nil
  | append_singleton history a ih =>
    rw [accepted_concat]
    split
    · exact ih
    · next hnew =>
      rw [← mem_types_accepted_iff] at hnew
      exact nodup_types_concat_iff.mpr ⟨ih, hnew⟩

end History

theorem run_enter (m : SchemaMap) (a : ParsedAction) : (enter a).run m =
    match m.insert a with
    | .ok m' => (.ok a, m')
    | .error e => (.error e, m) := by
  change (if m.index.contains a.type = true then _ else _ :
    StateM SchemaMap (Except SchemaError ParsedAction)).run m = _
  rw [insert]
  by_cases h : m.index.contains a.type = true
  · rw [if_pos h, if_pos h]
    rfl
  · rw [if_neg h, if_neg h]
    rfl

theorem run_enter_tabulate (as : List ParsedAction) (a : ParsedAction) :
    (enter a).run (tabulate as) =
      if a.type ∈ as.map (·.type) then (.error (.duplicateActionType a.type), tabulate as)
      else (.ok a, tabulate (as ++ [a])) := by
  rw [run_enter, insert_tabulate]
  by_cases h : a.type ∈ as.map (·.type)
  · rw [if_pos h, if_pos h]
  · rw [if_neg h, if_neg h]

theorem run_enterAll_concat (history : List ParsedAction) (a : ParsedAction) (m : SchemaMap) :
    (enterAll (history ++ [a])).run m =
      (((enterAll history).run m).1 ++ [((enter a).run ((enterAll history).run m).2).1],
        ((enter a).run ((enterAll history).run m).2).2) := by
  rw [enterAll, List.mapM_append, List.mapM_cons, List.mapM_nil]
  rfl

theorem run_enterAll (history : List ParsedAction) :
    (enterAll history).run {} = (answers history, tabulate (accepted history)) := by
  induction history using List.reverseRecOn with
  | nil => rfl
  | append_singleton history a ih =>
    rw [run_enterAll_concat, ih, run_enter_tabulate, answers_concat, accepted_concat, answer]
    simp only [mem_types_accepted_iff]
    split <;> rfl

structure Keeps (m : SchemaMap) (history : List ParsedAction) : Prop where
  toList_eq : m.toList = accepted history
  size_eq : m.size = (accepted history).length
  index_iff : ∀ type i, m.index.get? type = some i ↔ ∃ a, m.actions[i]? = some a ∧ a.type = type
  indexed_once : ∀ i < m.actions.size, ∃! type, m.index.get? type = some i
  get_of_index : ∀ type i, m.index.get? type = some i →
    ∃ a, m.actions[i]? = some a ∧ m.get type = .ok a
  get_eq : ∀ type, m.get type = match history.find? (·.type == type) with
    | some a => .ok a
    | none => .error (.unknownActionType type)
  refused : ∀ a, a.type ∈ history.map (·.type) →
    (enter a).run m = (.error (.duplicateActionType a.type), m)
  entered : ∀ a, a.type ∉ history.map (·.type) →
    (enter a).run m = (.ok a, ⟨m.actions.push a, m.index.insert a.type m.actions.size⟩)

theorem keeps_history (history : List ParsedAction) : ∃ m,
    (enterAll history).run {} = (answers history, m) ∧ m.Keeps history ∧
      ∀ a, (enter a).run m = match m.insert a with
        | .ok m' => (.ok a, m')
        | .error e => (.error e, m) := by
  have hnodup := nodup_types_accepted history
  refine ⟨_, run_enterAll history, ?_, run_enter _⟩
  constructor
  case toList_eq => exact List.toList_toArray ..
  case size_eq => exact List.size_toArray ..
  case index_iff => exact fun type i => index_get?_tabulate_iff hnodup
  case indexed_once =>
    intro i hi
    have haction := Array.getElem?_eq_getElem hi
    refine ⟨_, (index_get?_tabulate_iff hnodup).mpr ⟨_, haction, rfl⟩, fun type htype => ?_⟩
    obtain ⟨a, ha, rfl⟩ := (index_get?_tabulate_iff hnodup).mp htype
    rw [Option.some.inj (haction.symm.trans ha)]
  case get_of_index =>
    intro type i h
    obtain ⟨a, ha, -⟩ := (index_get?_tabulate_iff hnodup).mp h
    exact ⟨a, ha, get_eq_ok_iff.mpr ⟨i, h, ha⟩⟩
  case get_eq =>
    intro type
    rw [← find?_accepted]
    cases hfind : (accepted history).find? (·.type == type) with
    | some a =>
      obtain rfl : a.type = type := by simpa using List.find?_some hfind
      exact get_tabulate hnodup (List.mem_of_find?_eq_some hfind)
    | none =>
      apply get_tabulate_of_not_mem
      rw [mem_types_iff_isSome_find?, hfind]
      exact Bool.false_ne_true
  case refused =>
    intro a hold
    rw [← mem_types_accepted_iff] at hold
    rw [run_enter_tabulate, if_pos hold]
  case entered =>
    intro a hnew
    rw [← mem_types_accepted_iff] at hnew
    rw [run_enter_tabulate, if_neg hnew, tabulate_concat]

example : (((enterAll [⟨"B", "", []⟩, ⟨"B", "", []⟩, ⟨"A", "", []⟩]).run {}).2.index.toList) =
    [("A", 1), ("B", 0)] := by
  decide +kernel

end ActionSchema.SchemaMap
