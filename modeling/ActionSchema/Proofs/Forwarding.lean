import ActionSchema.Middleware
import ActionSchema.Reducer
import ActionSchema.Proofs.Compilation

/-! Validation only observes. Stages in front of a last one let every action through to it, and each
tells its own listener of the actions that it cannot vouch for, whatever the other stages do. -/

namespace ActionSchema

attribute [ext] Traced

variable {ε α A ρ σ : Type}

theorem Traced.value_foldlM (step : σ → α → Traced ε σ) (state : σ) (xs : List α) :
    (xs.foldlM step state).value = xs.foldl (fun state x => (step state x).value) state := by
  induction xs generalizing state with
  | nil => rfl
  | cons x xs ih =>
    rw [List.foldlM_cons, value_bind, ih, List.foldl_cons]

def Reporter.listener? : Reporter ρ → Option ρ
  | .log => none
  | .listener name => some name

section Heard

variable [DecidableEq ρ] (name : ρ)

def Event.heardBy : Event A ρ → Option A
  | .logged _ => none
  | .reported listener action => if listener = name then some action else none

def heard (events : List (Event A ρ)) : List A := events.filterMap (·.heardBy name)

variable {name}

@[simp] theorem heard_append (events events' : List (Event A ρ)) :
    heard name (events ++ events') = heard name events ++ heard name events' :=
  List.filterMap_append

theorem heard_foldlM {step : σ → A → Traced (Event A ρ) σ} {p : A → Bool}
    (h : ∀ state action, heard name (step state action).events = [action].filter p) (state : σ)
    (actions : List A) : heard name (actions.foldlM step state).events = actions.filter p := by
  induction actions generalizing state with
  | nil => rfl
  | cons action actions ih =>
    rw [List.foldlM_cons, Traced.events_bind, heard_append, h, ih, ← List.filter_append]
    rfl

end Heard

namespace ValidationMiddleware

variable {R : Type} {stages : List (ValidationMiddleware A ρ)}

section Stage

variable (m : ValidationMiddleware A ρ) (action : A)

def Doubts : Prop := m.inspect action = .rejected ∨ m.inspect action = .unknown

instance : Decidable (m.Doubts action) := inferInstanceAs (Decidable (_ ∨ _))

theorem isReported_inspect_iff : (m.inspect action).isReported = true ↔ m.Doubts action := by
  unfold Doubts
  cases m.inspect action <;> simp [Verdict.isReported]

def notes : List (Event A ρ) :=
  if m.Doubts action then
    [.logged (.failedValidation (m.format.unformat action).type (m.inspect action)),
      m.report action]
  else []

theorem observe_eq : m.observe action = ⟨m.inspect action, m.notes action⟩ := by
  unfold observe notes
  by_cases h : m.Doubts action
  · rw [if_pos h, if_pos ((isReported_inspect_iff m action).mpr h)]
    rfl
  · rw [if_neg h, if_neg (mt (isReported_inspect_iff m action).mp h)]
    rfl

variable [DecidableEq ρ] {m} {name : ρ}

theorem heardBy_report : (m.report action).heardBy name =
    if m.options.reporter.listener? = some name then some action else none := by
  unfold report
  cases m.options.reporter with
  | log => rfl
  | listener other => simp only [Event.heardBy, Reporter.listener?, Option.some.injEq]

theorem heard_notes : heard name (m.notes action) =
    if m.options.reporter.listener? = some name then [action].filter (m.Doubts ·) else [] := by
  have hlogged (entry : LogEntry) : (Event.logged entry : Event A ρ).heardBy name = none := rfl
  unfold notes heard
  by_cases hdoubts : m.Doubts action
  · by_cases hname : m.options.reporter.listener? = some name
    · simp [hdoubts, hname, hlogged, heardBy_report]
    · simp [hdoubts, hname, hlogged, heardBy_report]
  · simp [hdoubts]

end Stage

theorem chain_eq (stages : List (ValidationMiddleware A ρ))
    (last : A → Traced (Event A ρ) R) (action : A) :
    chain stages last action =
      Traced.emit (stages.flatMap (·.notes action)) >>= fun _ => last action := by
  induction stages with
  | nil => rfl
  | cons m stages ih =>
    -- the notes of the first stage come before those of the others
    change m.handle action (chain stages last) = _
    rw [handle, observe_eq, ih]
    ext1
    · rfl
    · exact (List.append_assoc ..).symm

def run (stages : List (ValidationMiddleware A ρ)) (last : σ → A → Traced (Event A ρ) σ)
    (state : σ) (actions : List A) : Traced (Event A ρ) σ :=
  actions.foldlM (fun state => chain stages (last state)) state

theorem run_eq (last : σ → A → Traced (Event A ρ) σ) (state : σ) (actions : List A) :
    run stages last state actions = actions.foldlM (fun state action =>
      Traced.emit (stages.flatMap (·.notes action)) >>= fun _ => last state action) state := by
  have hstep : (fun state => chain stages (last state)) = fun state action =>
      Traced.emit (stages.flatMap (·.notes action)) >>= fun _ => last state action := by
    funext state action
    exact chain_eq stages (last state) action
  rw [run, hstep]

theorem value_run (last : σ → A → Traced (Event A ρ) σ) (state : σ) (actions : List A) :
    (run stages last state actions).value = (actions.foldlM last state).value := by
  rw [run_eq, Traced.value_foldlM, Traced.value_foldlM]
  rfl

def recorder (seen : List A) (action : A) : Traced (Event A ρ) (List A) := pure (seen ++ [action])

theorem value_run_recorder (actions : List A) :
    (run stages recorder [] actions).value = actions := by
  rw [value_run, Traced.value_foldlM]
  change actions.foldl (fun seen action => seen ++ [action]) [] = actions
  rw [List.foldl_append_eq_append, ← List.flatMap_def, List.flatMap_singleton', List.nil_append]

def listeners (stages : List (ValidationMiddleware A ρ)) : List ρ :=
  stages.filterMap (·.options.reporter.listener?)

theorem mem_listeners_iff {name : ρ} :
    name ∈ listeners stages ↔ ∃ m ∈ stages, m.options.reporter.listener? = some name :=
  List.mem_filterMap

section Listener

variable [DecidableEq ρ] {name : ρ}

theorem heard_flatMap_notes_of_not_mem (h : name ∉ listeners stages) (action : A) :
    heard name (stages.flatMap (·.notes action)) = [] := by
  rw [mem_listeners_iff, not_exists] at h
  induction stages with
  | nil => rfl
  | cons m stages ih =>
    have hm : m.options.reporter.listener? ≠ some name := fun e => h m ⟨List.mem_cons_self, e⟩
    have hstages : heard name (stages.flatMap (·.notes action)) = [] :=
      ih fun m' hm' => h m' ⟨List.mem_cons_of_mem m hm'.1, hm'.2⟩
    rw [List.flatMap_cons, heard_append, heard_notes, if_neg hm, hstages, List.nil_append]

theorem heard_flatMap_notes (hown : (listeners stages).Nodup) {m : ValidationMiddleware A ρ}
    (hm : m ∈ stages) (h : m.options.reporter.listener? = some name) (action : A) :
    heard name (stages.flatMap (·.notes action)) = [action].filter (m.Doubts ·) := by
  obtain ⟨before, after, rfl⟩ := List.append_of_mem hm
  have hsplit : listeners (before ++ m :: after) =
      listeners before ++ name :: listeners after := by
    simp only [listeners, List.filterMap_append, List.filterMap_cons, h]
  -- the stages before and after have other listeners, so their notes drop out
  rw [hsplit, List.nodup_middle, List.nodup_cons, List.mem_append, not_or] at hown
  rw [List.flatMap_append, List.flatMap_cons, heard_append, heard_append, heard_notes, if_pos h,
    heard_flatMap_notes_of_not_mem hown.1.1, heard_flatMap_notes_of_not_mem hown.1.2,
    List.nil_append, List.append_nil]

end Listener

/-- Stages show in a run by what their listeners and the log get to hear, and by nothing else. -/
structure OnlyObserve [DecidableEq ρ] (stages : List (ValidationMiddleware A ρ)) : Prop where
  received : ∀ actions, (run stages recorder [] actions).value = actions
  result : ∀ {σ : Type} (last : σ → A → Traced (Event A ρ) σ) state actions,
    (run stages last state actions).value = (actions.foldlM last state).value
  trace : ∀ {σ : Type} (last : σ → A → Traced (Event A ρ) σ) state actions,
    run stages last state actions = actions.foldlM (fun state action =>
      Traced.emit (stages.flatMap (·.notes action)) >>= fun _ => last state action) state
  /-- A last stage may do anything but speak to a listener that is not its own. -/
  told : ∀ {σ : Type} (last : σ → A → Traced (Event A ρ) σ),
    (∀ name ∈ listeners stages, ∀ state action, heard name (last state action).events = []) →
      ∀ m ∈ stages, ∀ name, m.options.reporter = .listener name → ∀ state actions,
        heard name (run stages last state actions).events = actions.filter fun action =>
          m.inspect action = .rejected ∨ m.inspect action = .unknown
  reduced : ∀ {S : Type} (r : Reducer S A) state actions,
    (run stages (fun state action => pure (r.reduce state action)) state actions).value =
      actions.foldl r.reduce state

theorem chain_only_observes [DecidableEq ρ] {stages : List (ValidationMiddleware A ρ)}
    (hown : (listeners stages).Nodup) : OnlyObserve stages := by
  constructor
  case received => exact value_run_recorder
  case result => exact value_run
  case trace => exact run_eq
  case told =>
    intro σ last hlast m hm name hname state actions
    have hlistener : m.options.reporter.listener? = some name := by rw [hname, Reporter.listener?]
    have hmem : name ∈ listeners stages := mem_listeners_iff.mpr ⟨m, hm, hlistener⟩
    rw [run_eq]
    apply heard_foldlM
    intro state action
    rw [Traced.events_bind, heard_append, hlast name hmem, List.append_nil]
    exact heard_flatMap_notes hown hm hlistener action
  case reduced =>
    intro S r state actions
    rw [value_run, Traced.value_foldlM]
    rfl

def sessionStages (s : CompiledSchema Action) : List (ValidationMiddleware Action String) :=
  [s.createMiddleware ((MiddlewareOptions.new (.listener "strict")).change (.checkPayloads true)),
    s.createMiddleware (.new (.listener "lenient"))]

def sessionEvents (s : CompiledSchema Action) : List (Event Action String) :=
  (run (sessionStages s) recorder []
    [⟨"auth_LOGOUT", none⟩, ⟨"auth_LOGOUT", some .null⟩, ⟨"LOGOUT", none⟩]).events

theorem session_stages_only_observe : ∃ s : CompiledSchema Action,
    compile .standard sessionNamespace sessionDecls = .ok s ∧
      (listeners (sessionStages s)).Nodup ∧ OnlyObserve (sessionStages s) ∧
      heard "strict" (sessionEvents s) = [⟨"auth_LOGOUT", some .null⟩, ⟨"LOGOUT", none⟩] ∧
      heard "lenient" (sessionEvents s) = [⟨"LOGOUT", none⟩] := by
  obtain ⟨s, h, hstrict, hlenient⟩ : ∃ s : CompiledSchema Action,
      compile .standard sessionNamespace sessionDecls = .ok s ∧
        heard "strict" (sessionEvents s) = [⟨"auth_LOGOUT", some .null⟩, ⟨"LOGOUT", none⟩] ∧
        heard "lenient" (sessionEvents s) = [⟨"LOGOUT", none⟩] := ⟨_, rfl, rfl, rfl⟩
  have hown : (listeners (sessionStages s)).Nodup := by
    change ["strict", "lenient"].Nodup
    decide
  exact ⟨s, h, hown, chain_only_observes hown, hstrict, hlenient⟩

end ValidationMiddleware

end ActionSchema
