import ActionSchema.Proofs.Classification
import ActionSchema.Proofs.Forwarding

/-! Options made by a history of changes. Of the changes of a kind the last one counts, and a type
exempted singly stays exempt until a list takes the place of all exemptions before it. Verdicts and
reports depend on this and on the test of the schema. -/

namespace ActionSchema

variable {α A ρ σ : Type}

theorem exists_split_concat_iff {P : α → Prop} {x y : α} {xs : List α} :
    (∃ before after, xs ++ [y] = before ++ x :: after ∧ ∀ z ∈ after, P z) ↔
      y = x ∨ P y ∧ ∃ before after, xs = before ++ x :: after ∧ ∀ z ∈ after, P z := by
  constructor
  · rintro ⟨before, after, hsplit, hafter⟩
    rcases List.eq_nil_or_concat after with rfl | ⟨after, z, rfl⟩
    · exact .inl (List.append_singleton_inj.mp hsplit).2
    · rw [List.concat_eq_append, ← List.cons_append, ← List.append_assoc] at hsplit
      obtain ⟨rfl, rfl⟩ := List.append_singleton_inj.mp hsplit
      rw [List.concat_eq_append] at hafter
      refine .inr ⟨hafter y (List.mem_append_right _ List.mem_cons_self), before, after, rfl, ?_⟩
      exact fun z hz => hafter z (List.mem_append_left _ hz)
  · rintro (rfl | ⟨hy, before, after, rfl, hafter⟩)
    · exact ⟨xs, [], rfl, nofun⟩
    · refine ⟨before, after ++ [y], List.append_assoc .., fun z hz => ?_⟩
      rcases List.mem_append.mp hz with hz | hz
      · exact hafter z hz
      · exact List.mem_singleton.mp hz ▸ hy

namespace MiddlewareOptions

inductive Base (ρ : Type)
  | default
  | new (reporter : Reporter ρ)
  | ofSettings (settings : MiddlewareSettings) (reporter : Reporter ρ)

namespace Base

def options : Base ρ → MiddlewareOptions ρ
  | default => .default
  | new reporter => .new reporter
  | ofSettings settings reporter => .ofSettings settings reporter

def settings : Base ρ → MiddlewareSettings
  | default => {}
  | new _ => {}
  | ofSettings settings _ => settings

def reporter : Base ρ → Reporter ρ
  | default => .log
  | new reporter => reporter
  | ofSettings _ reporter => reporter

theorem options_eq (base : Base ρ) :
    base.options = .ofSettings base.settings base.reporter := by
  cases base <;> rfl

end Base

namespace Change

def list? : Change ρ → Option (List String)
  | ignoreActions types => some types
  | _ => none

def check? : Change ρ → Option Bool
  | checkPayloads check => some check
  | _ => none

def reporter? : Change ρ → Option (Reporter ρ)
  | withReporter reporter => some reporter
  | _ => none

end Change

def lastOf (pick : Change ρ → Option α) (base : α) (history : List (Change ρ)) : α :=
  (history.filterMap pick).getLastD base

/-- A type is exempt if the last list holds it or if, with no list after that, it was exempted
singly. -/
def Exempt (base : List String) (history : List (Change ρ)) (type : String) : Prop :=
  type ∈ lastOf Change.list? base history ∨
    ∃ before after, history = before ++ .ignore type :: after ∧ ∀ c ∈ after, c.list? = none

variable {o : MiddlewareOptions ρ} {base : List String} {history : List (Change ρ)}
  {type : String} {c : Change ρ}

theorem changeAll_concat (o : MiddlewareOptions ρ) (history : List (Change ρ)) (c : Change ρ) :
    o.changeAll (history ++ [c]) = (o.changeAll history).change c := by
  rw [changeAll, List.foldl_append, List.foldl_cons, List.foldl_nil, ← changeAll]

theorem lastOf_concat (pick : Change ρ → Option α) (base : α) (history : List (Change ρ))
    (c : Change ρ) :
    lastOf pick base (history ++ [c]) = (pick c).getD (lastOf pick base history) := by
  unfold lastOf
  rw [List.filterMap_append]
  cases hpick : pick c <;> simp [hpick]

theorem changeAll_eq_lastOf {get : MiddlewareOptions ρ → α} {pick : Change ρ → Option α}
    (h : ∀ o c, get (change o c) = (pick c).getD (get o)) (o : MiddlewareOptions ρ)
    (history : List (Change ρ)) :
    get (o.changeAll history) = lastOf pick (get o) history := by
  induction history using List.reverseRecOn with
  | nil => rfl
  | append_singleton history c ih => rw [changeAll_concat, h, ih, lastOf_concat]

theorem checkPayloads_changeAll (o : MiddlewareOptions ρ) (history : List (Change ρ)) :
    (o.changeAll history).checkPayloads = lastOf Change.check? o.checkPayloads history :=
  changeAll_eq_lastOf (fun _ c => by cases c <;> rfl) o history

theorem reporter_changeAll (o : MiddlewareOptions ρ) (history : List (Change ρ)) :
    (o.changeAll history).reporter = lastOf Change.reporter? o.reporter history :=
  changeAll_eq_lastOf (fun _ c => by cases c <;> rfl) o history

theorem exempt_nil_iff : Exempt base ([] : List (Change ρ)) type ↔ type ∈ base := by
  simp [Exempt, lastOf]

theorem exempt_concat_list_iff {types : List String} :
    Exempt base (history ++ [.ignoreActions types]) type ↔ type ∈ types := by
  rw [Exempt, lastOf_concat, exists_split_concat_iff]
  simp [Change.list?]

theorem exempt_concat_iff (h : c.list? = none) :
    Exempt base (history ++ [c]) type ↔ c = .ignore type ∨ Exempt base history type := by
  rw [Exempt, lastOf_concat, exists_split_concat_iff, h, Option.getD_none, Exempt]
  simp only [true_and]
  exact or_left_comm

theorem contains_changeAll_iff (h : ∀ type, o.ignored.contains type = true ↔ type ∈ base) :
    (o.changeAll history).ignored.contains type = true ↔ Exempt base history type := by
  induction history using List.reverseRecOn with
  | nil => rw [exempt_nil_iff, ← h, changeAll, List.foldl_nil]
  | append_singleton history c ih =>
    rw [changeAll_concat]
    cases c with
    | ignore type' =>
      rw [contains_change_ignore_iff, exempt_concat_iff rfl, ih, Change.ignore.injEq, eq_comm]
    | ignoreActions types => rw [exempt_concat_list_iff, change, contains_ignoreSet_iff]
    | checkPayloads check => rw [exempt_concat_iff rfl, change, ih]; simp
    | withReporter reporter => rw [exempt_concat_iff rfl, change, ih]; simp

namespace Base

variable (base : Base ρ) (history : List (Change ρ))

theorem contains_changeAll_iff (type : String) :
    (base.options.changeAll history).ignored.contains type = true ↔
      Exempt base.settings.ignoreActions history type := by
  apply MiddlewareOptions.contains_changeAll_iff
  intro type
  rw [options_eq]
  exact contains_ignoreSet_iff

theorem checkPayloads_changeAll : (base.options.changeAll history).checkPayloads =
    lastOf Change.check? base.settings.checkPayloads history := by
  rw [MiddlewareOptions.checkPayloads_changeAll, options_eq]
  rfl

theorem reporter_changeAll : (base.options.changeAll history).reporter =
    lastOf Change.reporter? base.reporter history := by
  rw [MiddlewareOptions.reporter_changeAll, options_eq]
  rfl

end Base

end MiddlewareOptions

open MiddlewareOptions (Base Change Exempt lastOf)

def Event.recipient? : Event A ρ → Option (Reporter ρ)
  | .logged .unknownAction => some .log
  -- a stage logs its verdict whoever its reporter is: this reports nothing
  | .logged _ => none
  | .reported name _ => some (.listener name)

def recipients (events : List (Event A ρ)) : List (Reporter ρ) := events.filterMap (·.recipient?)

theorem Traced.exists_of_mem_events_foldlM {ε : Type} {step : σ → α → Traced ε σ} {state : σ}
    {xs : List α} {e : ε} (h : e ∈ (xs.foldlM step state).events) :
    ∃ state, ∃ x ∈ xs, e ∈ (step state x).events := by
  induction xs generalizing state with
  | nil => cases h
  | cons x xs ih =>
    rw [List.foldlM_cons, events_bind, List.mem_append] at h
    rcases h with h | h
    · exact ⟨state, x, List.mem_cons_self, h⟩
    · obtain ⟨state', x', hx', he⟩ := ih h
      exact ⟨state', x', List.mem_cons_of_mem x hx', he⟩

namespace ValidationMiddleware

theorem recipient?_report (m : ValidationMiddleware A ρ) (action : A) :
    (m.report action).recipient? = some m.options.reporter := by
  unfold report
  cases m.options.reporter <;> rfl

theorem recipients_notes (m : ValidationMiddleware A ρ) (action : A) :
    recipients (m.notes action) = if m.Doubts action then [m.options.reporter] else [] := by
  unfold notes recipients
  by_cases h : m.Doubts action
  · rw [if_pos h, if_pos h, List.filterMap_cons_none rfl,
      List.filterMap_cons_some (recipient?_report m action), List.filterMap_nil]
  · rw [if_neg h, if_neg h, List.filterMap_nil]

theorem recipient_of_mem_notes {m : ValidationMiddleware A ρ} {action : A} {e : Event A ρ}
    {r : Reporter ρ} (he : e ∈ m.notes action) (hr : e.recipient? = some r) :
    r = m.options.reporter := by
  have hmem : r ∈ recipients (m.notes action) := List.mem_filterMap.mpr ⟨e, he, hr⟩
  rw [recipients_notes] at hmem
  split at hmem
  · exact List.mem_singleton.mp hmem
  · cases hmem

theorem recipient_of_mem_run {m : ValidationMiddleware A ρ}
    {last : σ → A → Traced (Event A ρ) σ} {state : σ} {actions : List A} {e : Event A ρ}
    {r : Reporter ρ} (he : e ∈ (run [m] last state actions).events) (hr : e.recipient? = some r) :
    r = m.options.reporter ∨
      ∃ state, ∃ action ∈ actions, e ∈ (last state action).events := by
  rw [run_eq] at he
  obtain ⟨state, action, haction, he⟩ := Traced.exists_of_mem_events_foldlM he
  rw [List.flatMap_singleton, Traced.events_bind, List.mem_append] at he
  rcases he with hnote | hlast
  · exact .inl (recipient_of_mem_notes hnote hr)
  · exact .inr ⟨state, action, haction, hlast⟩

structure FollowsHistory (m : ValidationMiddleware A ρ) (s : CompiledSchema A) (base : Base ρ)
    (history : List (Change ρ)) : Prop where
  ignored : ∀ action, m.inspect action = .ignored ↔
    Exempt base.settings.ignoreActions history (s.format.unformat action).type
  unknown : ∀ action, m.inspect action = .unknown ↔
    ¬ Exempt base.settings.ignoreActions history (s.format.unformat action).type ∧
      s.test action = none
  rejected : ∀ action, m.inspect action = .rejected ↔
    ¬ Exempt base.settings.ignoreActions history (s.format.unformat action).type ∧
      lastOf Change.check? base.settings.checkPayloads history = true ∧ s.test action = some false
  accepted : ∀ action, m.inspect action = .accepted ↔
    ¬ Exempt base.settings.ignoreActions history (s.format.unformat action).type ∧
      ∃ passes, s.test action = some passes ∧
        (lastOf Change.check? base.settings.checkPayloads history = true → passes = true)
  observed : ∀ action, recipients (m.observe action).events =
    if m.Doubts action then [lastOf Change.reporter? base.reporter history] else []
  handled : ∀ {R : Type} (next : A → Traced (Event A ρ) R) action,
    recipients (m.handle action next).events =
      recipients (m.observe action).events ++ recipients (next action).events
  told : ∀ {σ : Type} (last : σ → A → Traced (Event A ρ) σ) state actions,
    ∀ e ∈ (run [m] last state actions).events, ∀ r, e.recipient? = some r →
      r = lastOf Change.reporter? base.reporter history ∨
        ∃ state, ∃ action ∈ actions, e ∈ (last state action).events

/-- What a stage makes of an action goes back to the last change of each kind, to the types exempted
singly since the last list, and to the test of the schema. -/
theorem follows_history (s : CompiledSchema A) (base : Base ρ) (history : List (Change ρ)) :
    (s.createMiddleware (base.options.changeAll history)).FollowsHistory s base history := by
  have hexempt := base.contains_changeAll_iff history
  have hcheck := base.checkPayloads_changeAll history
  have hreporter := base.reporter_changeAll history
  -- nothing else about the options matters
  generalize base.options.changeAll history = options at hexempt hcheck hreporter ⊢
  have hinspect (action : A) : (s.createMiddleware options).inspect action =
      s.classify options.ignored.keys
        (lastOf Change.check? base.settings.checkPayloads history) action := by
    rw [inspect_eq_classify fun _ => Table.Entries.contains_iff_mem_keys, hcheck]
  have hkeys (type : String) : type ∈ options.ignored.keys ↔
      Exempt base.settings.ignoreActions history type := by
    rw [← Table.Entries.contains_iff_mem_keys, hexempt]
  constructor
  case ignored =>
    intro action
    rw [hinspect, CompiledSchema.classify_eq_ignored_iff, hkeys]
  case unknown =>
    intro action
    rw [hinspect, CompiledSchema.classify_eq_unknown_iff, hkeys]
  case rejected =>
    intro action
    rw [hinspect, CompiledSchema.classify_eq_rejected_iff, hkeys]
  case accepted =>
    intro action
    rw [hinspect, CompiledSchema.classify_eq_accepted_iff, hkeys]
  case observed =>
    intro action
    rw [observe_eq, recipients_notes, ← hreporter]
    rfl
  case handled =>
    intro R next action
    exact List.filterMap_append
  case told =>
    intro σ last state actions e he r hr
    rw [← hreporter]
    exact recipient_of_mem_run he hr

end ValidationMiddleware

end ActionSchema
