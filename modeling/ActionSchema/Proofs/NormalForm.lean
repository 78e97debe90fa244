import ActionSchema.Proofs.ClosedShape
import ActionSchema.Proofs.Parsing

/-! What parsing makes sure of, for all who read parsed actions: only a whole payload has no id,
it stands alone, and ids are neither empty nor repeated. -/

namespace ActionSchema

theorem filterMap_id_of_map_id {args : List ArgumentSpec} {ids : List String}
    (h : args.map (·.id) = ids.map some) : args.filterMap (·.id) = ids := by
  have hids := congrArg (List.filterMap fun id => id) h
  rw [List.filterMap_map, List.filterMap_map] at hids
  exact hids.trans List.filterMap_some

theorem map_id_eq_map_some {args : List ArgumentSpec} (h : ∀ arg ∈ args, arg.id ≠ none) :
    args.map (·.id) = (args.filterMap (·.id)).map some := by
  induction args with
  | nil => rfl
  | cons arg args ih =>
    obtain ⟨id, hid⟩ := Option.ne_none_iff_exists'.mp (h arg List.mem_cons_self)
    rw [List.map_cons, List.filterMap_cons_some hid, List.map_cons, hid,
      ih fun arg harg => h arg (List.mem_cons_of_mem _ harg)]

namespace ParsedAction

structure Normal (a : ParsedAction) : Prop where
  id_eq_none_iff : ∀ arg ∈ a.args, arg.id = none ↔ arg.whole = true
  alone : ∀ arg ∈ a.args, arg.whole = true → a.args = [arg]
  named : ∀ id ∈ a.argIds, id ≠ ""
  apart : a.argIds.Nodup

theorem normal_of_regular {a : ParsedAction} (h : Regular a.args) : a.Normal := by
  have apart : a.argIds.Nodup := h.nodup_ids
  generalize hargs : a.args = args at h
  cases h with
  | whole test =>
    refine ⟨?_, ?_, ?_, apart⟩
    · simp [hargs]
    · simp [hargs]
    · simp [argIds, hargs]
  | fields fs named =>
    have hids : a.argIds = fs.map (·.id) := by
      rw [argIds, hargs, filterMap_id_spec]
    refine ⟨?_, ?_, ?_, apart⟩
    · simp [hargs, Field.spec]
    · simp [hargs, Field.spec]
    · simpa [hids] using named

variable {a : ParsedAction} {ids : List String}

theorem Normal.isWholePayload_iff_exists (h : a.Normal) :
    a.isWholePayload = true ↔ ∃ arg ∈ a.args, arg.whole = true := by
  rw [isWholePayload_iff]
  constructor
  · rintro ⟨arg, hargs, hwhole⟩
    exact ⟨arg, hargs ▸ List.mem_singleton_self arg, hwhole⟩
  · rintro ⟨arg, harg, hwhole⟩
    exact ⟨arg, h.alone arg harg hwhole, hwhole⟩

theorem Normal.id_ne_none (h : a.Normal) (hwhole : a.isWholePayload = false) {arg : ArgumentSpec}
    (harg : arg ∈ a.args) : arg.id ≠ none := by
  intro hid
  have hexists := h.isWholePayload_iff_exists.mpr ⟨arg, harg, (h.id_eq_none_iff arg harg).mp hid⟩
  rw [hwhole] at hexists
  cases hexists

theorem Normal.exists_id (h : a.Normal) (hwhole : a.isWholePayload = false) {arg : ArgumentSpec}
    (harg : arg ∈ a.args) : ∃ id, arg.id = some id ∧ id ≠ "" := by
  obtain ⟨id, hid⟩ := Option.ne_none_iff_exists'.mp (h.id_ne_none hwhole harg)
  exact ⟨id, hid, h.named id (List.mem_filterMap.mpr ⟨arg, harg, hid⟩)⟩

theorem Normal.map_id (h : a.Normal) (hwhole : a.isWholePayload = false) :
    a.args.map (·.id) = a.argIds.map some :=
  map_id_eq_map_some fun _ harg => h.id_ne_none hwhole harg

theorem Normal.isWholePayload_eq_false (h : a.Normal) (hids : a.args.map (·.id) = ids.map some) :
    a.isWholePayload = false := by
  rw [Bool.eq_false_iff, ne_eq, h.isWholePayload_iff_exists]
  rintro ⟨arg, harg, hwhole⟩
  have hmem : arg.id ∈ ids.map some := hids ▸ List.mem_map_of_mem harg
  rw [(h.id_eq_none_iff arg harg).mpr hwhole] at hmem
  obtain ⟨id, -, hid⟩ := List.mem_map.mp hmem
  cases hid

end ParsedAction

theorem Declaration.normal_of_parse {d : Declaration} {a : ParsedAction} (h : d.parse = .ok a) :
    a.Normal :=
  ParsedAction.normal_of_regular (regular_of_parse h)

end ActionSchema
