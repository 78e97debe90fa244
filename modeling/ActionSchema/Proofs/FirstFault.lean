import ActionSchema.Proofs.Except
import Mathlib.Data.Nat.Find

/-! Lists in which the first item at fault decides. Whether an item is at fault may depend on the
items before it, and a run over the list that stops there fails with the fault of that item. -/

namespace ActionSchema

variable {α β ε σ : Type}

structure FirstFault (fault : List α → α → ε → Prop) (xs : List α) (i : Nat) (e : ε) : Prop where
  here : ∃ x, xs[i]? = some x ∧ fault (xs.take i) x e
  sound : ∀ j < i, ∀ x, xs[j]? = some x → ∀ e', ¬ fault (xs.take j) x e'

variable {fault : List α → α → ε → Prop} {xs : List α} {e : ε}

theorem FirstFault.append {i : Nat} (h : FirstFault fault xs i e) (ys : List α) :
    FirstFault fault (xs ++ ys) i e := by
  obtain ⟨⟨x, hx, hfault⟩, hsound⟩ := h
  have hi : i < xs.length := (List.getElem?_eq_some_iff.mp hx).1
  have hsame : ∀ j ≤ i, (xs ++ ys)[j]? = xs[j]? ∧ (xs ++ ys).take j = xs.take j := by
    intro j hj
    exact ⟨List.getElem?_append_left (by omega), List.take_append_of_le_length (by omega)⟩
  constructor
  · obtain ⟨hget, htake⟩ := hsame i i.le_refl
    exact ⟨x, by rw [hget, hx], by rwa [htake]⟩
  · intro j hj y hy
    obtain ⟨hget, htake⟩ := hsame j (Nat.le_of_lt hj)
    rw [hget] at hy
    rw [htake]
    exact hsound j hj y hy

theorem length_take_of_getElem? {x : α} {i : Nat} (h : xs[i]? = some x) :
    (xs.take i).length = i := by
  have hi : i < xs.length := (List.getElem?_eq_some_iff.mp h).1
  rw [List.length_take, Nat.min_eq_left (Nat.le_of_lt hi)]

theorem firstFault_iff_place {place : Nat → ε → Prop}
    (hplace : ∀ i e, place i e ↔ ∃ x, xs[i]? = some x ∧ fault (xs.take i) x e) {i : Nat} :
    FirstFault fault xs i e ↔ place i e ∧ ∀ j < i, ∀ e', ¬ place j e' := by
  constructor
  · rintro ⟨here, sound⟩
    refine ⟨(hplace i e).mpr here, fun j hj e' hj' => ?_⟩
    obtain ⟨x, hx, hfault⟩ := (hplace j e').mp hj'
    exact sound j hj x hx e' hfault
  · rintro ⟨here, least⟩
    refine ⟨(hplace i e).mp here, fun j hj x hx e' hfault => ?_⟩
    exact least j hj e' ((hplace j e').mpr ⟨x, hx, hfault⟩)

theorem not_firstFault_nil (i : Nat) : ¬ FirstFault fault [] i e := by
  intro h
  obtain ⟨x, hx, -⟩ := h.here
  simp at hx

theorem exists_firstFault_cons_iff {x : α} : (∃ i, FirstFault fault (x :: xs) i e) ↔
    fault [] x e ∨
      (∀ e', ¬ fault [] x e') ∧ ∃ i, FirstFault (fun before => fault (x :: before)) xs i e := by
  constructor
  · intro h
    obtain ⟨i, ⟨y, hy, hfault⟩, hsound⟩ := h
    cases i with
    | zero =>
      obtain rfl : x = y := by simpa using hy
      exact .inl hfault
    | succ i =>
      refine .inr ⟨hsound 0 i.succ_pos x rfl, i, ⟨y, hy, hfault⟩, fun j hj z hz => ?_⟩
      exact hsound (j + 1) (Nat.succ_lt_succ hj) z hz
  · intro h
    rcases h with hfault | ⟨hx, i, ⟨y, hy, hfault⟩, hsound⟩
    · exact ⟨0, ⟨x, rfl, hfault⟩, fun j hj => absurd hj j.not_lt_zero⟩
    · refine ⟨i + 1, ⟨y, hy, hfault⟩, fun j hj z hz => ?_⟩
      cases j with
      | zero =>
        obtain rfl : x = z := by simpa using hz
        exact hx
      | succ j => exact hsound j (Nat.lt_of_succ_lt_succ hj) z hz

theorem exists_firstFault_iff : (∃ i e, FirstFault fault xs i e) ↔
    ∃ i x e, xs[i]? = some x ∧ fault (xs.take i) x e := by
  classical
  constructor
  · intro h
    obtain ⟨i, e, ⟨x, hx, hfault⟩, -⟩ := h
    exact ⟨i, x, e, hx, hfault⟩
  · intro h
    obtain ⟨x, e, hx, hfault⟩ := Nat.find_spec h
    refine ⟨Nat.find h, e, ⟨x, hx, hfault⟩, fun j hj y hy e' hfault' => ?_⟩
    exact Nat.find_min h hj ⟨y, e', hy, hfault'⟩

theorem exists_firstFault_congr {R : α → β → Prop} {fault' : List β → β → ε → Prop} {ys : List β}
    (h : List.Forall₂ R xs ys)
    (hfault : ∀ before before' x y, List.Forall₂ R before before' → R x y →
      ∀ e, fault before x e ↔ fault' before' y e) :
    (∃ i, FirstFault fault xs i e) ↔ ∃ i, FirstFault fault' ys i e := by
  induction h generalizing fault fault' with
  | nil => simp only [not_firstFault_nil]
  | @cons x y xs ys hxy _ ih =>
    have hhead := hfault [] [] x y .nil hxy
    have htail : (∃ i, FirstFault (fun before => fault (x :: before)) xs i e) ↔
        ∃ i, FirstFault (fun before => fault' (y :: before)) ys i e :=
      ih fun before before' a b hbefore hab =>
        hfault (x :: before) (y :: before') a b (.cons hxy hbefore) hab
    rw [exists_firstFault_cons_iff, exists_firstFault_cons_iff, htail]
    simp only [hhead]

theorem exists_firstFault_iff_find? {p : α → Prop} [DecidablePred p] {g : α → ε} :
    (∃ i, FirstFault (fun _ x e => p x ∧ e = g x) xs i e) ↔
      ∃ x, xs.find? (p ·) = some x ∧ e = g x := by
  induction xs with
  | nil => simp only [not_firstFault_nil, List.find?_nil, reduceCtorEq, false_and, exists_false]
  | cons x xs ih =>
    rw [exists_firstFault_cons_iff, ih, List.find?_cons]
    by_cases hp : p x <;> simp [hp]

/-- A run that stops at the first item at fault and fails with its fault. `after` says which states
it may be in after the items before. -/
structure StopsAtFaults (run : σ → List α → Except ε β) (after : List α → σ → Prop)
    (fault : List α → α → ε → Prop) : Prop where
  finish : ∀ s e, run s [] ≠ .error e
  halt : ∀ {before s x e}, after before s → fault before x e → ∀ xs, run s (x :: xs) = .error e
  go : ∀ {before s x}, after before s → (∀ e, ¬ fault before x e) →
    ∃ s', after (before ++ [x]) s' ∧
      ∀ xs e, run s (x :: xs) = .error e ↔ run s' xs = .error e

theorem StopsAtFaults.eq_error_iff {run : σ → List α → Except ε β} {after : List α → σ → Prop}
    (h : StopsAtFaults run after fault) (before : List α) (s : σ) (hs : after before s) :
    run s xs = .error e ↔ ∃ i, FirstFault (fun b => fault (before ++ b)) xs i e := by
  induction xs generalizing before s with
  | nil =>
    simp only [not_firstFault_nil, exists_false, iff_false]
    exact h.finish s e
  | cons x xs ih =>
    rw [exists_firstFault_cons_iff, List.append_nil]
    -- an item at fault ends the run here; a sound one moves the state on
    by_cases hx : ∃ e', fault before x e'
    · obtain ⟨e', he'⟩ := hx
      have hrun := h.halt hs he' xs
      constructor
      · intro he
        rw [Except.error.inj (hrun.symm.trans he)] at he'
        exact .inl he'
      · intro hfirst
        rcases hfirst with he | ⟨hsound, -⟩
        · exact h.halt hs he xs
        · exact absurd he' (hsound e')
    · rw [not_exists] at hx
      obtain ⟨s', hs', hrun⟩ := h.go hs hx
      have hnext : (fun b => fault (before ++ x :: b)) = fun b => fault (before ++ [x] ++ b) :=
        funext fun b => by rw [List.append_cons]
      rw [hrun, ih _ _ hs', hnext]
      exact ⟨fun hi => .inr ⟨hx, hi⟩, fun hi => (hi.resolve_left (hx e)).2⟩

theorem mapM_eq_error_iff {f : α → Except ε β} :
    xs.mapM f = .error e ↔ ∃ i, FirstFault (fun _ x e => f x = .error e) xs i e := by
  have hstops : StopsAtFaults (fun (_ : Unit) xs => xs.mapM f) (fun _ _ => True)
      fun _ x e => f x = .error e := by
    refine ⟨fun _ _ => nofun, fun _ hx xs => ?_, fun {_ _ x} _ hx => ⟨(), trivial, fun xs e => ?_⟩⟩
    · rw [List.mapM_cons, hx]
      rfl
    · cases hy : f x with
      | error e' => exact absurd hy (hx e')
      | ok y =>
        rw [List.mapM_cons, hy]
        change (xs.mapM f >>= fun ys => pure (y :: ys)) = .error e ↔ _
        cases xs.mapM f <;> simp [bind, Except.bind, pure, Except.pure]
  exact hstops.eq_error_iff [] () trivial

end ActionSchema
