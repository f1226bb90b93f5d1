/-
Programs driven by events.

An `EventSystem` is a program whose environment delivers events one at a time:
`enabled s a` says that event `a` may be delivered in state `s`, and `next s a`
is the state the program leaves behind, or `none` when the program traps.

* `Run.invariant` — what one step preserves, a whole run preserves;
* `restrict`, `Run.restrict_or` — runs all of whose steps meet a condition, and
  the first step of a run that does not;
* `clocked` — runs whose events carry times that go forward;
* `Run.simulate` — one program that is taken along by what another one emits step by
  step is taken along by what it emits over whole runs.
-/
import Mathlib.Data.List.Basic

/-- A program driven by its environment. -/
structure EventSystem (σ α : Type*) where
  /-- The environment may deliver `a` in state `s`. -/
  enabled : σ → α → Prop
  /-- The state after the program has handled `a`; `none` when it traps. -/
  next : σ → α → Option σ

namespace EventSystem

variable {σ α : Type*} {M : EventSystem σ α}

/-- Event `a` is delivered in `s` and handled without a trap, leaving `s'`. -/
def Step (M : EventSystem σ α) (s : σ) (a : α) (s' : σ) : Prop :=
  M.enabled s a ∧ M.next s a = some s'

/-- The events `as`, delivered in this order from `s`, lead to `s'`. -/
inductive Run (M : EventSystem σ α) : σ → List α → σ → Prop
  | nil (s : σ) : Run M s [] s
  | cons {s s' s'' : σ} {a : α} {as : List α} :
      M.Step s a s' → Run M s' as s'' → Run M s (a :: as) s''

@[simp] theorem run_nil_iff {s s' : σ} : M.Run s [] s' ↔ s' = s := by
  constructor
  · rintro ⟨⟩
    rfl
  · rintro rfl
    exact .nil _

theorem run_cons_iff {s s'' : σ} {a : α} {as : List α} :
    M.Run s (a :: as) s'' ↔ ∃ s', M.Step s a s' ∧ M.Run s' as s'' := by
  constructor
  · rintro (_ | ⟨hstep, hrun⟩)
    exact ⟨_, hstep, hrun⟩
  · rintro ⟨s', hstep, hrun⟩
    exact .cons hstep hrun

theorem run_append_iff {s s'' : σ} {as bs : List α} :
    M.Run s (as ++ bs) s'' ↔ ∃ s', M.Run s as s' ∧ M.Run s' bs s'' := by
  induction as generalizing s with
  | nil => simp
  | cons a as ih =>
    simp only [List.cons_append, run_cons_iff, ih]
    constructor
    · rintro ⟨t, hstep, s', has, hbs⟩
      exact ⟨s', ⟨t, hstep, has⟩, hbs⟩
    · rintro ⟨s', ⟨t, hstep, has⟩, hbs⟩
      exact ⟨t, hstep, s', has, hbs⟩

@[simp] theorem run_singleton_iff {s s' : σ} {a : α} :
    M.Run s [a] s' ↔ M.Step s a s' := by
  simp [run_cons_iff]

theorem Run.snoc {s s' s'' : σ} {as : List α} {a : α} (h : M.Run s as s')
    (hstep : M.Step s' a s'') : M.Run s (as ++ [a]) s'' :=
  run_append_iff.mpr ⟨s', h, run_singleton_iff.mpr hstep⟩

/-- What every step preserves, every run preserves. -/
theorem Run.invariant {I : σ → Prop} (hstep : ∀ s a s', I s → M.Step s a s' → I s')
    {s s' : σ} {as : List α} (h : M.Run s as s') (hs : I s) : I s' := by
  induction h with
  | nil => exact hs
  | cons hst _ ih => exact ih (hstep _ _ _ hs hst)

/-! ### Safety -/

/-- Event `a` may be delivered in `s`, and the program traps on it. -/
def Traps (M : EventSystem σ α) (s : σ) (a : α) : Prop :=
  M.enabled s a ∧ M.next s a = none

/-! ### Runs whose steps meet a condition -/

/-- The runs of `M` all of whose steps meet the condition `C`. -/
def restrict (M : EventSystem σ α) (C : σ → α → Prop) : EventSystem σ α where
  enabled s a := M.enabled s a ∧ C s a
  next := M.next

theorem step_restrict_iff {C : σ → α → Prop} {s s' : σ} {a : α} :
    (M.restrict C).Step s a s' ↔ M.Step s a s' ∧ C s a := by
  simp only [Step, restrict]
  tauto

/-- A run meets a condition that its events meet in every state. -/
theorem Run.restrict {C : σ → α → Prop} {s s' : σ} {as : List α} (h : M.Run s as s')
    (hC : ∀ a ∈ as, ∀ t, C t a) : (M.restrict C).Run s as s' := by
  induction h with
  | nil => exact .nil _
  | cons hstep _ ih =>
    have hfirst := hC _ List.mem_cons_self
    have hrest := ih fun a ha => hC a (List.mem_cons_of_mem _ ha)
    exact .cons (step_restrict_iff.mpr ⟨hstep, hfirst _⟩) hrest

theorem Run.of_restrict {C : σ → α → Prop} {s s' : σ} {as : List α}
    (h : (M.restrict C).Run s as s') : M.Run s as s' := by
  induction h with
  | nil => exact .nil _
  | cons hstep _ ih => exact .cons (step_restrict_iff.mp hstep).1 ih

/-- A run meets the condition, or has a first step that does not. -/
theorem Run.restrict_or {C : σ → α → Prop} {s s' : σ} {as : List α} (h : M.Run s as s') :
    (M.restrict C).Run s as s' ∨
      ∃ bs a cs t t', as = bs ++ a :: cs ∧ (M.restrict C).Run s bs t ∧ M.Step t a t' ∧
        ¬ C t a ∧ M.Run t' cs s' := by
  induction h with
  | nil => exact .inl (.nil _)
  | @cons s t s' a as hstep hrun ih =>
    by_cases hC : C s a
    · have hfirst : (M.restrict C).Step s a t := step_restrict_iff.mpr ⟨hstep, hC⟩
      rcases ih with hrest | ⟨bs, b, cs, u, u', rfl, hbs, hb, hnot, hcs⟩
      · exact .inl (.cons hfirst hrest)
      · exact .inr ⟨a :: bs, b, cs, u, u', rfl, .cons hfirst hbs, hb, hnot, hcs⟩
    · exact .inr ⟨[], a, as, s, t, rfl, .nil s, hstep, hC, hrun⟩

/-! ### Runs with a clock -/

section Clock

variable {τ : Type*} {r : τ → τ → Prop} {time : α → Option τ}

/-- The runs of `M` in which the time of an event, if it has one, comes after the
times before it, in the order `r`. -/
def clocked (M : EventSystem σ α) (r : τ → τ → Prop) (time : α → Option τ) :
    EventSystem (σ × τ) α where
  enabled s a := M.enabled s.1 a ∧ ∀ t ∈ time a, r s.2 t
  next s a := (M.next s.1 a).map (·, (time a).getD s.2)

theorem step_clocked_iff {s s' : σ} {c c' : τ} {a : α} :
    (M.clocked r time).Step (s, c) a (s', c') ↔
      M.Step s a s' ∧ (∀ t ∈ time a, r c t) ∧ c' = (time a).getD c := by
  simp only [Step, clocked, Option.map_eq_some_iff, Prod.mk.injEq]
  constructor
  · rintro ⟨⟨henabled, htime⟩, _, hnext, rfl, rfl⟩
    exact ⟨⟨henabled, hnext⟩, htime, rfl⟩
  · rintro ⟨⟨henabled, hnext⟩, htime, rfl⟩
    exact ⟨⟨henabled, htime⟩, s', hnext, rfl, rfl⟩

/-- Events without a time leave the clock alone. -/
theorem Run.clocked {s s' : σ} {as : List α} (h : M.Run s as s')
    (htime : ∀ a ∈ as, time a = none) (c : τ) : (M.clocked r time).Run (s, c) as (s', c) := by
  induction h with
  | nil => exact .nil _
  | cons hstep _ ih =>
    have hnone := htime _ List.mem_cons_self
    refine .cons (step_clocked_iff.mpr ⟨hstep, ?_, ?_⟩) (ih fun a ha =>
      htime a (List.mem_cons_of_mem _ ha))
    · simp [hnone]
    · rw [hnone, Option.getD_none]

end Clock

/-! ### Simulation -/

section Emission

variable {τ β : Type*} {N : EventSystem τ β} {emits : σ → α → σ → List β}

/-- What `M` emits while it handles the events one after the other, when from `s` to
`s'` it emits `emits s a s'`. -/
def emitted (M : EventSystem σ α) (emits : σ → α → σ → List β) : σ → List α → List β
  | _, [] => []
  | s, a :: as =>
    match M.next s a with
    | none => []
    | some s' => emits s a s' ++ M.emitted emits s' as

theorem emitted_cons {s s' : σ} {a : α} (h : M.Step s a s') (as : List α) :
    M.emitted emits s (a :: as) = emits s a s' ++ M.emitted emits s' as := by
  rw [emitted, h.2]

/-- If what each step of `M` emits takes `N` along, what a whole run emits does. -/
theorem Run.simulate (R : σ → τ → Prop)
    (hstep : ∀ s a s' t, R s t → M.Step s a s' → ∃ t', N.Run t (emits s a s') t' ∧ R s' t')
    {s s' : σ} {as : List α} (hrun : M.Run s as s') {t : τ} (hR : R s t) :
    ∃ t', N.Run t (M.emitted emits s as) t' ∧ R s' t' := by
  induction hrun generalizing t with
  | nil => exact ⟨t, .nil t, hR⟩
  | cons hfirst _ ih =>
    obtain ⟨u, hemits, hu⟩ := hstep _ _ _ t hR hfirst
    obtain ⟨t', hrest, ht'⟩ := ih hu
    rw [emitted_cons hfirst]
    exact ⟨t', run_append_iff.mpr ⟨u, hemits, hrest⟩, ht'⟩

end Emission

end EventSystem
