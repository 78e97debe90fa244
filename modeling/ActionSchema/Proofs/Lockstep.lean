import ActionSchema.Proofs.CheckRun

/-! Two checks side by side. Runs over lines that correspond stay in step: they stop at the same
line or get to the end together, and what they report corresponds as far as they get. -/

namespace ActionSchema

variable {ε ε' α α' β β' γ γ' : Type}

inductive Lockstep (E : ε → ε' → Prop) (R : α → α' → Prop) : Except ε α → Except ε' α' → Prop
  | error {e : ε} {e' : ε'} (h : E e e') : Lockstep E R (.error e) (.error e')
  | ok {a : α} {a' : α'} (h : R a a') : Lockstep E R (.ok a) (.ok a')

section Lockstep

variable {E : ε → ε' → Prop} {R : α → α' → Prop} {S : β → β' → Prop}

theorem Lockstep.bind {x : Except ε α} {x' : Except ε' α'} {f : α → Except ε β}
    {f' : α' → Except ε' β'} (h : Lockstep E R x x')
    (hstep : ∀ a a', R a a' → Lockstep E S (f a) (f' a')) :
    Lockstep E S (x >>= f) (x' >>= f') := by
  cases h with
  | error h => exact .error h
  | ok h => exact hstep _ _ h

theorem lockstep_foldlM {T : γ → γ' → Prop} {f : α → γ → Except ε α} {f' : α' → γ' → Except ε' α'}
    (hstep : ∀ a a' x x', R a a' → T x x' → Lockstep E R (f a x) (f' a' x'))
    {xs : List γ} {xs' : List γ'} (h : List.Forall₂ T xs xs') {a : α} {a' : α'} (ha : R a a') :
    Lockstep E R (xs.foldlM f a) (xs'.foldlM f' a') := by
  induction h generalizing a a' with
  | nil => exact .ok ha
  | cons hx _ ih =>
    rw [List.foldlM_cons, List.foldlM_cons]
    exact (hstep _ _ _ _ ha hx).bind fun _ _ ha => ih ha

theorem Lockstep.eq {x x' : Except ε α} (h : Lockstep Eq Eq x x') : x = x' := by
  cases h with
  | error h => rw [h]
  | ok h => rw [h]

end Lockstep

namespace Check

structure Report where
  entries : List Entry
  result : Except Failure Summary

namespace Report

def text (r : Report) : String :=
  String.join (r.entries.map Entry.text) ++ match r.result with
    | .ok summary => summary.text
    | .error _ => ""

def ofScan : Except Halt Progress → Report
  | .ok p => ⟨p.entries.toList, .ok p.summary⟩
  | .error halt => ⟨halt.progress.entries.toList, .error halt.failure⟩

structure ToldBy (r : Report) (o : Outcome) : Prop where
  output : o.output = r.text
  result : o.result = r.result

end Report

def report (args : Arguments) (file : File) (stream : List Line) : Report :=
  match load args file with
  | .ok s => .ofScan (scan (s.createMiddleware (options args)) stream)
  | .error failure => ⟨[], .error failure⟩

theorem toldBy_runSchema (args : Arguments) (s : CompiledSchema Json) (stream : List Line) :
    (Report.ofScan (scan (s.createMiddleware (options args)) stream)).ToldBy
      (runSchema args s stream) := by
  unfold runSchema
  cases scan (s.createMiddleware (options args)) stream with
  | ok p => exact ⟨rfl, rfl⟩
  | error halt => exact ⟨(String.append_empty ..).symm, rfl⟩

theorem toldBy_run (args : Arguments) (file : File) (stream : List Line) :
    (report args file stream).ToldBy (run args file stream) := by
  unfold report run
  cases load args file with
  | ok s => exact toldBy_runSchema args s stream
  | error failure => exact ⟨rfl, rfl⟩

end Check

end ActionSchema
