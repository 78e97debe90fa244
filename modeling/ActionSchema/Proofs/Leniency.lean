import ActionSchema.Proofs.Lockstep

/-! Checks with payloads and without. A check that looks at payloads moves some accepted actions to
the rejected ones; in all else it agrees with the check that does not, line by line. -/

namespace ActionSchema

def Verdict.unchecked : Verdict → Verdict
  | rejected => accepted
  | verdict => verdict

theorem CompiledSchema.classify_unchecked {A : Type} (s : CompiledSchema A) (exempt : List String)
    (action : A) : s.classify exempt false action = (s.classify exempt true action).unchecked := by
  unfold classify
  split
  · rfl
  · rcases s.test action with _ | passes
    · rfl
    · cases passes <;> rfl

namespace Check

structure Summary.Refines (strict lenient : Summary) : Prop where
  total : lenient.total = strict.total
  ignored : lenient.ignored = strict.ignored
  unknown : lenient.unknown = strict.unknown
  rejected : lenient.rejected = 0
  accepted : lenient.accepted = strict.accepted + strict.rejected

theorem Summary.Refines.record {strict lenient : Summary} (h : strict.Refines lenient)
    (verdict : Verdict) : (strict.record verdict).Refines (lenient.record verdict.unchecked) := by
  obtain ⟨total, ignored, unknown, rejected, accepted⟩ := h
  cases verdict <;> constructor <;> simp only [Summary.record, Verdict.unchecked] <;> omega

structure Progress.Refines (strict lenient : Progress) : Prop where
  line : lenient.line = strict.line
  summary : strict.summary.Refines lenient.summary
  entries : lenient.entries.toList = strict.entries.toList.filter (·.verdict = .unknown)

structure Halt.Refines (strict lenient : Halt) : Prop where
  failure : strict.failure = lenient.failure
  progress : strict.progress.Refines lenient.progress

structure Report.Refines (strict lenient : Report) : Prop where
  entries : lenient.entries = strict.entries.filter (·.verdict = .unknown)
  result : Lockstep Eq Summary.Refines strict.result lenient.result

section Run

variable {ρ ρ' : Type} {m : ValidationMiddleware Json ρ} {m' : ValidationMiddleware Json ρ'}
  (h : ∀ value, m'.inspect value = (m.inspect value).unchecked)
include h

theorem step_refines {strict lenient : Progress} (hp : strict.Refines lenient) (line : Line) :
    Lockstep Halt.Refines Progress.Refines (step m strict line) (step m' lenient line) := by
  cases line with
  | garbled => exact .error ⟨by rw [hp.line], hp⟩
  | malformed => exact .error ⟨by rw [hp.line], hp⟩
  | blank => exact .ok ⟨by rw [hp.line], hp.summary, hp.entries⟩
  | action value =>
    refine .ok ⟨by rw [hp.line], ?_, ?_⟩
    · rw [h]
      exact hp.summary.record _
    · rw [h, hp.line]
      -- of the two verdicts that are reported, only one is still reported unchecked
      cases m.inspect value <;> simp [Verdict.unchecked, Verdict.isReported, hp.entries]

theorem scan_refines (stream : List Line) :
    Lockstep Halt.Refines Progress.Refines (scan m stream) (scan m' stream) := by
  have hstart : ({} : Progress).Refines {} := ⟨rfl, ⟨rfl, rfl, rfl, rfl, rfl⟩, rfl⟩
  have hsame : List.Forall₂ Eq stream stream := List.forall₂_refl stream
  refine lockstep_foldlM ?_ hsame hstart
  rintro strict lenient line _ hp rfl
  exact step_refines h hp line

end Run

theorem ofScan_refines {x x' : Except Halt Progress}
    (h : Lockstep Halt.Refines Progress.Refines x x') :
    (Report.ofScan x).Refines (.ofScan x') := by
  cases h with
  | error hhalt => exact ⟨hhalt.progress.entries, .error hhalt.failure⟩
  | ok hp => exact ⟨hp.entries, .ok hp.summary⟩

/-- Looking at payloads changes a check in one way: some actions that it accepted are now rejected
and reported, each at its line. -/
theorem payload_checks_refine_acceptance (args : Arguments) (file : File) (bytes : List UInt8) :
    let strict : Arguments := { args with checkPayloads := true }
    let lenient : Arguments := { args with checkPayloads := false }
    (report strict file (lines bytes)).ToldBy (run strict file (lines bytes)) ∧
      (report lenient file (lines bytes)).ToldBy (run lenient file (lines bytes)) ∧
      (report strict file (lines bytes)).Refines (report lenient file (lines bytes)) := by
  intro strict lenient
  refine ⟨toldBy_run .., toldBy_run .., ?_⟩
  have hload : load lenient file = load strict file := rfl
  unfold report
  rw [hload]
  cases load strict file with
  | error failure => exact ⟨rfl, .error rfl⟩
  | ok s =>
    refine ofScan_refines (scan_refines (fun value => ?_) (lines bytes))
    rw [inspect_options, inspect_options]
    exact s.classify_unchecked args.exempt value

end Check

end ActionSchema
