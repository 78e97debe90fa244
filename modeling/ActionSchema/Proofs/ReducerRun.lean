import ActionSchema.Proofs.Reduction

/-! Runs of a reducer. The handler that was registered last for a type takes its turn at every
action of that type in the namespace of the schema, and other actions pass without a trace. -/

namespace ActionSchema

variable {A S : Type}

namespace HandlerTable

def register (regs : List (String × Handler S A)) : HandlerTable S A :=
  regs.foldl (fun t reg => t.on reg.1 reg.2) {}

def LastFor (regs : List (String × Handler S A)) (type : String) (handler : Handler S A) : Prop :=
  ∃ before after, regs = before ++ (type, handler) :: after ∧ type ∉ after.map Prod.fst

theorem table_register (regs : List (String × Handler S A)) :
    (register regs).table = Table.ofList regs := by
  have hrun : ∀ t : HandlerTable S A, (regs.foldl (fun t reg => t.on reg.1 reg.2) t).table =
      regs.foldl (fun t reg => t.insert reg.1 reg.2) t.table := by
    induction regs with
    | nil => exact fun t => rfl
    | cons reg regs ih => exact fun t => ih (t.on reg.1 reg.2)
  exact hrun {}

theorem mem_types_register_iff {regs : List (String × Handler S A)} {type : String} :
    type ∈ (register regs).types ↔ type ∈ regs.map Prod.fst := by
  rw [types, table_register, Table.mem_keys_ofList]

end HandlerTable

inductive Turn (format : Format A) (ns : Namespace) (regs : List (String × Handler S A))
    (action : A) : (S → S) → Prop
  | mk {type : String} {handler : Handler S A}
    (typed : (format.unformat action).type = ns.qualify type)
    (last : HandlerTable.LastFor regs type handler) :
    Turn format ns regs action fun state => handler state (format.unformat action).payload action

def Handled (format : Format A) (ns : Namespace) (regs : List (String × Handler S A))
    (action : A) : Prop :=
  ∃ type ∈ regs.map Prod.fst, (format.unformat action).type = ns.qualify type

instance (format : Format A) (ns : Namespace) (regs : List (String × Handler S A)) (action : A) :
    Decidable (Handled format ns regs action) :=
  inferInstanceAs (Decidable (∃ type ∈ regs.map Prod.fst,
    (format.unformat action).type = ns.qualify type))

theorem exists_turn {format : Format A} {ns : Namespace} {regs : List (String × Handler S A)}
    {action : A} (h : Handled format ns regs action) : ∃ turn, Turn format ns regs action turn := by
  obtain ⟨type, htype, typed⟩ := h
  have hkey : type ∈ (Table.ofList regs).keys := Table.mem_keys_ofList.mpr htype
  obtain ⟨handler, hget⟩ := Table.Entries.mem_keys_iff.mp hkey
  exact ⟨_, .mk typed (Table.get?_ofList_iff_last.mp hget)⟩

namespace Reducer

variable {r : Reducer S A}

theorem foldl_reduceOrInit_some (actions : List A) (state : S) :
    actions.foldl (fun state action => some (r.reduceOrInit state action)) (some state) =
      some (actions.foldl r.reduce state) := by
  induction actions generalizing state with
  | nil => rfl
  | cons action actions ih => exact ih (r.reduce state action)

end Reducer

namespace CompiledSchema

variable {format : Format A} {ns : Namespace} {ds : List Declaration} {s : CompiledSchema A}
  {regs : List (String × Handler S A)} {init : S} {r : Reducer S A}

section Run

variable (h : compile format ns ds = .ok s)
  (hr : s.createReducer (HandlerTable.register regs) init = .ok r)
include h hr

theorem handles_register_iff {namespaced : String} :
    r.handles namespaced = true ↔ ∃ type ∈ regs.map Prod.fst, namespaced = ns.qualify type := by
  rw [handles_iff h hr]
  simp only [HandlerTable.mem_types_register_iff]
  exact exists_congr fun type => and_congr_right fun _ => eq_comm

theorem reduce_of_not_handled {action : A} (hnot : ¬ Handled format ns regs action) (state : S) :
    r.reduce state action = state := by
  apply Reducer.reduce_of_not_handles
  rw [format_of_createReducer h hr, handles_register_iff h hr]
  exact hnot

theorem reduce_of_turn {action : A} {turn : S → S} (hturn : Turn format ns regs action turn)
    (state : S) : r.reduce state action = turn state := by
  obtain @⟨type, handler, typed, last⟩ := hturn
  have haction : format.unformat action =
      ⟨ns.qualify type, (format.unformat action).payload⟩ := by rw [← typed]
  have hget : (HandlerTable.register regs).table.get? type = some handler := by
    rw [HandlerTable.table_register]
    exact Table.get?_ofList_iff_last.mpr last
  rw [reduce_qualified h hr haction state, hget]

theorem foldl_reduce_eq_turns {actions : List A} {turns : List (S → S)}
    (hturns : List.Forall₂ (Turn format ns regs)
      (actions.filter fun action => Handled format ns regs action) turns) (state : S) :
    actions.foldl r.reduce state = turns.foldl (fun state turn => turn state) state := by
  induction actions generalizing turns state with
  | nil =>
    rw [List.filter_nil, List.forall₂_nil_left_iff] at hturns
    rw [hturns]
    rfl
  | cons action actions ih =>
    -- an action that is handled takes the next turn, and any other one leaves the state
    by_cases hhandled : Handled format ns regs action
    · rw [List.filter_cons, if_pos (decide_eq_true hhandled)] at hturns
      cases hturns with
      | cons hturn hturns =>
        rw [List.foldl_cons, List.foldl_cons, reduce_of_turn h hr hturn, ih hturns]
    · rw [List.filter_cons, if_neg (mt of_decide_eq_true hhandled)] at hturns
      rw [List.foldl_cons, reduce_of_not_handled h hr hhandled, ih hturns]

end Run

end CompiledSchema

/-- A reducer folds the actions it has handlers for and no others, whether it starts from a state or
from none. -/
theorem reducer_folds_handled_actions {format : Format A} {ns : Namespace}
    {ds : List Declaration} {s : CompiledSchema A} (h : compile format ns ds = .ok s)
    {regs : List (String × Handler S A)} {init : S} {r : Reducer S A}
    (hr : s.createReducer (HandlerTable.register regs) init = .ok r) :
    (∀ actions : List A,
      (∃ turns, List.Forall₂ (Turn format ns regs)
        (actions.filter fun action => Handled format ns regs action) turns) ∧
      ∀ turns, List.Forall₂ (Turn format ns regs)
          (actions.filter fun action => Handled format ns regs action) turns →
        ∀ state, actions.foldl r.reduce state =
          turns.foldl (fun state turn => turn state) state) ∧
    (∀ actions : List A, actions ≠ [] →
      actions.foldl (fun state action => some (r.reduceOrInit state action)) none =
        some (actions.foldl r.reduce init)) ∧
    ∀ namespaced, r.handles namespaced = true ↔
      ∃ type ∈ regs.map Prod.fst, namespaced = ns.qualify type := by
  refine ⟨fun actions => ⟨?_, fun turns hturns => ?_⟩, fun actions hne => ?_, fun namespaced => ?_⟩
  · refine exists_forall₂_of_forall fun action haction => exists_turn ?_
    exact of_decide_eq_true (List.mem_filter.mp haction).2
  · exact CompiledSchema.foldl_reduce_eq_turns h hr hturns
  · obtain ⟨action, actions, rfl⟩ := List.exists_cons_of_ne_nil hne
    have hinit : r.initState = init := by
      obtain ⟨-, rfl⟩ := (CompiledSchema.createReducer_eq_ok_iff h).mp hr
      rfl
    rw [List.foldl_cons, Reducer.foldl_reduceOrInit_some, Reducer.reduceOrInit, Option.getD_none,
      hinit, List.foldl_cons]
  · exact CompiledSchema.handles_register_iff h hr

def sign (name : String) : Handler (List String) Action := fun names _ _ => names ++ [name]

def sessionRegistrations : List (String × Handler (List String) Action) :=
  [("LOGIN", sign "first"), ("LOGOUT", sign "second"), ("LOGIN", sign "third")]

theorem session_folds_handled_actions : ∃ s r,
    compile .standard sessionNamespace sessionDecls = .ok s ∧
      s.createReducer (HandlerTable.register sessionRegistrations) ["none"] = .ok r ∧
      (∃ turns, List.Forall₂ (Turn .standard sessionNamespace sessionRegistrations)
        ([⟨"auth_LOGIN", none⟩, ⟨"LOGIN", none⟩, ⟨"auth_SET_TOKEN", none⟩].filter fun action =>
          Handled .standard sessionNamespace sessionRegistrations action) turns) ∧
      [⟨"auth_LOGIN", none⟩, ⟨"LOGIN", none⟩].foldl
        (fun state action => some (r.reduceOrInit state action)) none = some ["none", "third"] ∧
      (r.handles "auth_LOGOUT" = true ↔
        ∃ type ∈ sessionRegistrations.map Prod.fst,
          "auth_LOGOUT" = sessionNamespace.qualify type) := by
  obtain ⟨s, hs, -⟩ := session_compiles .standard
  have hdeclared : ∀ type ∈ (HandlerTable.register sessionRegistrations).types,
      type ∈ sessionDecls.map (·.type) := by decide
  have hr : s.createReducer (HandlerTable.register sessionRegistrations) ["none"] = .ok _ :=
    (CompiledSchema.createReducer_eq_ok_iff hs).mpr ⟨hdeclared, rfl⟩
  obtain ⟨hfold, hinit, hhandles⟩ := reducer_folds_handled_actions hs hr
  refine ⟨s, _, hs, hr, (hfold _).1, ?_, hhandles _⟩
  rw [hinit _ (List.cons_ne_nil _ _)]
  rfl

end ActionSchema
