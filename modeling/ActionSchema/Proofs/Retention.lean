import ActionSchema.Describe
import ActionSchema.Proofs.Compilation
import ActionSchema.Proofs.Positional

/-! Arguments on their way from a declaration to those who read them. Parsing keeps them all, and in
a compiled schema no tester, no creator and no description passes one over in silence. -/

namespace ActionSchema

def ArgumentSpec.part? (arg : ArgumentSpec) (payload : Option Json) : Option Json :=
  match arg.id with
  | none => payload
  | some id => payload.bind (·.get? id)

def ArgumentSpec.DescribedBy (arg : ArgumentSpec) (line : String) : Prop :=
  ∃ id, arg.id = some id ∧ id ≠ "" ∧
    line = "    - " ++ id ++ (if arg.doc = "" then "" else ": " ++ arg.doc) ++ "\n"

namespace ParsedAction

structure Retained (a : ParsedAction) : Prop where
  named : a.isWholePayload = false → ∀ arg ∈ a.args, arg.id ≠ none
  tested : ∀ payload, a.tester payload = true → ∀ arg ∈ a.args,
    arg.test (arg.part? payload) = true ∧ (arg.whole = false → arg.part? payload ≠ none)
  filled : ∀ values k arg, k < 3 → a.args[k]? = some arg →
    arg.part? (a.positional values) =
      if arg.whole then values.head? else some (values.getD k .null)
  describedWhole : a.isWholePayload = true →
    Describe.payloadText a = "    payload: whole value\n"
  describedFields : a.args ≠ [] → a.isWholePayload = false → ∃ lines,
    Describe.payloadText a = String.join lines ∧
      List.Forall₂ ArgumentSpec.DescribedBy a.args lines

variable {a : ParsedAction} {payload : Option Json} {values : List Json}

theorem Normal.part?_of_whole (h : a.Normal) {arg : ArgumentSpec} (harg : arg ∈ a.args)
    (hwhole : arg.whole = true) : arg.part? payload = payload := by
  rw [ArgumentSpec.part?, (h.id_eq_none_iff arg harg).mpr hwhole]

theorem args_eq_of_isWholePayload (hwhole : a.isWholePayload = true) {arg : ArgumentSpec}
    (harg : arg ∈ a.args) : a.args = [arg] ∧ arg.whole = true := by
  obtain ⟨arg', hargs, hwhole'⟩ := isWholePayload_iff.mp hwhole
  obtain rfl := List.mem_singleton.mp (hargs ▸ harg)
  exact ⟨hargs, hwhole'⟩

theorem Normal.whole_eq_false (h : a.Normal) (hwhole : a.isWholePayload = false)
    {arg : ArgumentSpec} (harg : arg ∈ a.args) : arg.whole = false := by
  rw [Bool.eq_false_iff, ne_eq, ← h.id_eq_none_iff arg harg]
  exact h.id_ne_none hwhole harg

theorem Normal.tested (h : a.Normal) (haccepts : a.tester payload = true) {arg : ArgumentSpec}
    (harg : arg ∈ a.args) :
    arg.test (arg.part? payload) = true ∧ (arg.whole = false → arg.part? payload ≠ none) := by
  by_cases hwhole : a.isWholePayload = true
  · obtain ⟨hargs, hwhole'⟩ := args_eq_of_isWholePayload hwhole harg
    rw [tester_of_whole hargs hwhole'] at haccepts
    rw [h.part?_of_whole harg hwhole', hwhole']
    exact ⟨haccepts, nofun⟩
  · rw [Bool.not_eq_true] at hwhole
    have hne : a.args ≠ [] := List.ne_nil_of_mem harg
    obtain ⟨value, rfl, -, -, each⟩ := (tester_eq_true_iff_closed hne hwhole).mp haccepts
    obtain ⟨id, hid, -⟩ := h.exists_id hwhole harg
    obtain ⟨v, hv, htest⟩ := each arg harg id hid
    have hpart : arg.part? (some (.obj value)) = some v := by
      rw [ArgumentSpec.part?, hid]
      exact hv
    rw [hpart]
    exact ⟨htest, fun _ => Option.some_ne_none v⟩

theorem Normal.filled (h : a.Normal) {k : Nat} (hk : k < 3) {arg : ArgumentSpec}
    (hget : a.args[k]? = some arg) : arg.part? (a.positional values) =
      if arg.whole then values.head? else some (values.getD k .null) := by
  have harg : arg ∈ a.args := List.mem_of_getElem? hget
  by_cases hwhole : a.isWholePayload = true
  · obtain ⟨-, hwhole'⟩ := args_eq_of_isWholePayload hwhole harg
    rw [h.part?_of_whole harg hwhole', if_pos hwhole', positional_of_whole hwhole]
  · rw [Bool.not_eq_true] at hwhole
    have hids := h.map_id hwhole
    have hne : a.argIds ≠ [] := by
      rw [ne_eq, ← List.map_eq_nil_iff (f := some), ← hids, List.map_eq_nil_iff]
      exact List.ne_nil_of_mem harg
    obtain ⟨id, hid, -⟩ := h.exists_id hwhole harg
    have hget' : (a.argIds.take 3)[k]? = some id := by
      rw [List.getElem?_take_of_lt hk]
      -- ids and arguments stand at the same places
      have hmap := congrArg (·[k]?) hids
      simpa [hget, hid, eq_comm] using hmap
    obtain ⟨hk', rfl⟩ := List.getElem?_eq_some_iff.mp hget'
    have apart : (a.argIds.take 3).Nodup := h.apart.sublist (List.take_sublist _ _)
    rw [h.whole_eq_false hwhole harg, positional_of_named hwhole hids hne, ArgumentSpec.part?, hid]
    exact get?_assign apart hk'

theorem Normal.describedFields (h : a.Normal) (hne : a.args ≠ [])
    (hwhole : a.isWholePayload = false) : ∃ lines, Describe.payloadText a = String.join lines ∧
      List.Forall₂ ArgumentSpec.DescribedBy a.args lines := by
  have hargs : a.args.isEmpty = false := List.isEmpty_eq_false_iff.mpr hne
  refine ⟨a.args.map Describe.argumentText, ?_, ?_⟩
  · simp only [Describe.payloadText, hargs, hwhole, Bool.false_eq_true, if_false]
  · rw [List.forall₂_map_right_iff, List.forall₂_same]
    intro arg harg
    obtain ⟨id, hid, hnamed⟩ := h.exists_id hwhole harg
    refine ⟨id, hid, hnamed, ?_⟩
    simp only [Describe.argumentText, hid, Option.getD_some, String.isEmpty_iff]

theorem Normal.retained (h : a.Normal) : a.Retained := by
  constructor
  case named => exact fun hwhole arg harg => h.id_ne_none hwhole harg
  case tested => exact fun payload haccepts arg harg => h.tested haccepts harg
  case filled => exact fun values k arg hk hget => h.filled hk hget
  case describedFields => exact h.describedFields
  case describedWhole =>
    intro hwhole
    obtain ⟨arg, hargs, -⟩ := isWholePayload_iff.mp hwhole
    simp only [Describe.payloadText, hargs, List.isEmpty_cons, Bool.false_eq_true, if_false,
      hwhole, if_true]

end ParsedAction

namespace CompiledSchema

variable {A : Type} {format : Format A} {ns : Namespace} {ds : List Declaration}
  {s : CompiledSchema A}

theorem parses_toList (h : compile format ns ds = .ok s) :
    List.Forall₂ (fun d a => d.parse = .ok a) ds s.toList := by
  obtain ⟨as, hparses, -, rfl⟩ := compile_eq_ok_iff.mp h
  exact hparses

theorem exists_of_testers_get? (h : compile format ns ds = .ok s) {x : String} {test : Predicate}
    (htest : s.testers.get? x = some test) : ∃ a ∈ s.toList, test = a.tester := by
  obtain ⟨as, -, -, rfl⟩ := compile_eq_ok_iff.mp h
  obtain ⟨a, ha, hentry⟩ := List.mem_map.mp (Table.mem_of_get?_ofList htest)
  exact ⟨a, ha, congrArg Prod.snd hentry.symm⟩

theorem action_mem_toList (h : compile format ns ds = .ok s) {type : String}
    {c : ActionCreator A} (hc : s.creator type = .ok c) : c.action ∈ s.toList := by
  obtain ⟨as, -, -, rfl⟩ := compile_eq_ok_iff.mp h
  unfold creator ActionCreators.get at hc
  split at hc
  · next hget =>
    obtain rfl := Except.ok.inj hc
    obtain ⟨a, ha, hentry⟩ := List.mem_map.mp (Table.mem_of_get?_ofList hget)
    obtain ⟨-, rfl⟩ := Prod.mk.inj hentry
    exact ha
  · cases hc

end CompiledSchema

/-- A successful parse keeps every argument with all that was declared of it and puts it into
normal form, so that whoever reads a compiled schema passes none over. -/
theorem declared_arguments_are_retained :
    (∀ {d : Declaration} {a : ParsedAction}, d.parse = .ok a →
      a = ⟨d.type, d.doc, d.args.map (·.spec)⟩ ∧ a.Normal ∧
      (a.isWholePayload = true ↔ ∃ arg ∈ a.args, arg.whole = true) ∧
      (a.isWholePayload = false → a.args.map (·.id) = a.argIds.map some)) ∧
    ∀ {A : Type} {format : Format A} {ns : Namespace} {ds : List Declaration}
      {s : CompiledSchema A}, compile format ns ds = .ok s →
      List.Forall₂ (fun d a => d.parse = .ok a) ds s.toList ∧
      (∀ x test, s.testers.get? x = some test → ∃ a ∈ s.toList, test = a.tester) ∧
      (∀ type creator, s.creator type = .ok creator → creator.action ∈ s.toList) ∧
      ∀ a ∈ s.toList, a.Retained := by
  constructor
  · intro d a hparse
    have hnormal := Declaration.normal_of_parse hparse
    obtain ⟨-, -, -, heq⟩ := Declaration.parse_eq_ok_iff.mp hparse
    exact ⟨heq, hnormal, hnormal.isWholePayload_iff_exists, hnormal.map_id⟩
  · intro A format ns ds s h
    have hparses := CompiledSchema.parses_toList h
    refine ⟨hparses, fun x test => CompiledSchema.exists_of_testers_get? h,
      fun type creator => CompiledSchema.action_mem_toList h, fun a ha => ?_⟩
    obtain ⟨d, -, hparse⟩ := exists_mem_of_forall₂ hparses.flip ha
    exact (Declaration.normal_of_parse hparse).retained

theorem session_arguments_are_retained : ∃ s : CompiledSchema Json,
    compile .json sessionNamespace sessionDecls = .ok s ∧
    (∃ a, (sessionDecls[1]).parse = .ok a ∧ a.Normal ∧
      a.args.map (·.id) = [some "user", some "remember"]) ∧
    s.toList.length = 3 ∧ ∀ a ∈ s.toList, a.Retained := by
  obtain ⟨s, h, -⟩ := session_compiles .json
  obtain ⟨hkept, hreaders⟩ := declared_arguments_are_retained
  obtain ⟨hparses, -, -, hretained⟩ := hreaders h
  have hparse : (sessionDecls[1]).parse =
      .ok ⟨"LOGIN", "User logs in", sessionDecls[1].args.map (·.spec)⟩ := rfl
  obtain ⟨-, hnormal, -⟩ := hkept hparse
  exact ⟨s, h, ⟨_, hparse, hnormal, rfl⟩, hparses.length_eq.symm, hretained⟩

end ActionSchema
