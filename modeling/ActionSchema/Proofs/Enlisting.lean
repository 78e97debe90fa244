import ActionSchema.Proofs.Parsing
import Mathlib.Data.List.Nodup

/-! Lists of declarations. They are parsed in order and enlisted under their types, up to the first
that does not parse or repeats a type; no format and no namespace has a part in it. -/

namespace ActionSchema

def enlist (as : List ParsedAction) (d : Declaration) : Except SchemaError (List ParsedAction) := do
  let a ← d.parse
  if a.type ∈ as.map (·.type) then .error (.duplicateActionType a.type)
  else .ok (as ++ [a])

def enlistAll (ds : List Declaration) : Except SchemaError (List ParsedAction) :=
  ds.foldlM enlist []

theorem enlist_of_parse_error (as : List ParsedAction) {d : Declaration} {e : SchemaError}
    (h : d.parse = .error e) : enlist as d = .error e := by
  rw [enlist, h]
  rfl

theorem enlist_of_parse (as : List ParsedAction) {d : Declaration} {a : ParsedAction}
    (h : d.parse = .ok a) : enlist as d =
      if a.type ∈ as.map (·.type) then .error (.duplicateActionType a.type)
      else .ok (as ++ [a]) := by
  rw [enlist, h]
  rfl

theorem enlist_eq_ok_iff {as bs : List ParsedAction} {d : Declaration} :
    enlist as d = .ok bs ↔
      ∃ a, d.parse = .ok a ∧ a.type ∉ as.map (·.type) ∧ bs = as ++ [a] := by
  simp only [enlist, bind_eq_ok_iff]
  refine exists_congr fun a => and_congr_right fun _ => ?_
  by_cases h : a.type ∈ as.map (·.type)
  · rw [if_pos h]
    constructor
    · intro e
      cases e
    · exact fun e => absurd h e.1
  · rw [if_neg h, Except.ok.injEq]
    exact ⟨fun e => ⟨h, e.symm⟩, fun e => e.2.symm⟩

theorem nodup_types_concat_iff {as : List ParsedAction} {a : ParsedAction} :
    ((as ++ [a]).map (·.type)).Nodup ↔ (as.map (·.type)).Nodup ∧ a.type ∉ as.map (·.type) := by
  rw [List.map_append, List.map_singleton, ← List.concat_eq_append, List.nodup_concat, and_comm]

theorem foldlM_enlist_eq_ok_iff {as : List ParsedAction} (h : (as.map (·.type)).Nodup)
    {ds : List Declaration} {cs : List ParsedAction} : ds.foldlM enlist as = .ok cs ↔
      ∃ bs, List.Forall₂ (fun d a => d.parse = .ok a) ds bs ∧
        ((as ++ bs).map (·.type)).Nodup ∧ cs = as ++ bs := by
  induction ds generalizing as with
  | nil =>
    simp only [List.foldlM_nil, pure_eq_ok_iff, List.forall₂_nil_left_iff, exists_eq_left,
      List.append_nil]
    exact ⟨fun e => ⟨h, e.symm⟩, fun e => e.2.symm⟩
  | cons d ds ih =>
    simp only [List.foldlM_cons, bind_eq_ok_iff, enlist_eq_ok_iff]
    constructor
    · rintro ⟨_, ⟨a, hparse, hnew, rfl⟩, hrun⟩
      obtain ⟨bs, hparses, hnodup, rfl⟩ := (ih (nodup_types_concat_iff.mpr ⟨h, hnew⟩)).mp hrun
      rw [← List.append_cons] at hnodup ⊢
      exact ⟨a :: bs, .cons hparse hparses, hnodup, rfl⟩
    · rintro ⟨bs, hparses, hnodup, hs⟩
      -- the types of a prefix are apart, so the next declaration is let in
      cases hparses with
      | @cons _ a _ bs hparse hparses =>
        rw [List.append_cons] at hnodup hs
        have hsnoc : ((as ++ [a]).map (·.type)).Nodup :=
          hnodup.sublist ((List.sublist_append_left _ _).map _)
        obtain ⟨-, hnew⟩ := nodup_types_concat_iff.mp hsnoc
        exact ⟨_, ⟨a, hparse, hnew, rfl⟩, (ih hsnoc).mpr ⟨bs, hparses, hnodup, hs⟩⟩

theorem enlistAll_eq_ok_iff {ds : List Declaration} {as : List ParsedAction} :
    enlistAll ds = .ok as ↔
      List.Forall₂ (fun d a => d.parse = .ok a) ds as ∧ (as.map (·.type)).Nodup := by
  have hempty : (([] : List ParsedAction).map (·.type)).Nodup := List.nodup_nil
  rw [enlistAll, foldlM_enlist_eq_ok_iff hempty]
  simp only [List.nil_append]
  constructor
  · rintro ⟨bs, hparses, hnodup, rfl⟩
    exact ⟨hparses, hnodup⟩
  · rintro ⟨hparses, hnodup⟩
    exact ⟨as, hparses, hnodup, rfl⟩

theorem types_of_parses {ds : List Declaration} {as : List ParsedAction}
    (h : List.Forall₂ (fun d a => d.parse = .ok a) ds as) : as.map (·.type) = ds.map (·.type) := by
  induction h with
  | nil => rfl
  | cons hparse _ ih =>
    rw [List.map_cons, List.map_cons, ih, Declaration.type_of_parse hparse]

theorem exists_enlistAll_iff {ds : List Declaration} : (∃ as, enlistAll ds = .ok as) ↔
    (∀ d ∈ ds, ∃ a, d.parse = .ok a) ∧ (ds.map (·.type)).Nodup := by
  constructor
  · rintro ⟨as, has⟩
    obtain ⟨hparses, hnodup⟩ := enlistAll_eq_ok_iff.mp has
    rw [types_of_parses hparses] at hnodup
    refine ⟨fun d hd => ?_, hnodup⟩
    obtain ⟨a, -, ha⟩ := exists_mem_of_forall₂ hparses hd
    exact ⟨a, ha⟩
  · rintro ⟨hparse, hnodup⟩
    obtain ⟨as, hparses⟩ := exists_forall₂_of_forall hparse
    rw [← types_of_parses hparses] at hnodup
    exact ⟨as, enlistAll_eq_ok_iff.mpr ⟨hparses, hnodup⟩⟩

end ActionSchema
