/-
Objects that are configured again and again.

A `Reusable` is an object that starts out `fresh` and is configured any number
of times, while events of its own (`background`) run in between and after.  Such
an object forgets its past when what it shows is always something a fresh object
configured once, with the last arguments, could show as well.

* `FreshVisible` — what a fresh object, configured once, may show;
* `Forgets` — every state along a sequence of events shows only that;
* `forgets_iff` — with a relation `Same` that the background events respect,
  an object forgets its past exactly when each call that configures it meets
  the condition under which this call leaves the `Same` object as on a fresh one.
-/
import HolyWater.EventSystem
import Mathlib.Data.List.Induction

/-- An object that is configured, shows something, and has events of its own. -/
structure Reusable (C A E V : Type*) where
  fresh : C
  configure : A → C → C
  /-- An event of the object's own; `none` where it cannot occur. -/
  background : C → E → Option C
  visible : C → V

namespace Reusable

variable {C A E V : Type*} (R : Reusable C A E V)

/-- Calls that configure the object, interleaved with its own events. -/
def system : EventSystem C (A ⊕ E) where
  enabled c
    | .inl _ => True
    | .inr e => (R.background c e).isSome
  next c
    | .inl a => some (R.configure a c)
    | .inr e => R.background c e

/-- The arguments of the last call among the events. -/
def lastConfigured (events : List (A ⊕ E)) : Option A :=
  (events.filterMap Sum.getLeft?).getLast?

@[simp] theorem lastConfigured_nil : lastConfigured ([] : List (A ⊕ E)) = none := rfl

@[simp] theorem lastConfigured_concat_inl (events : List (A ⊕ E)) (a : A) :
    lastConfigured (events ++ [.inl a]) = some a := by
  simp [lastConfigured]

@[simp] theorem lastConfigured_concat_inr (events : List (A ⊕ E)) (e : E) :
    lastConfigured (events ++ [.inr e]) = lastConfigured events := by
  simp [lastConfigured]

/-- What a fresh object, configured once with `a`, may show sooner or later. -/
def FreshVisible (a : A) (v : V) : Prop :=
  ∃ (es : List E) (c : C), R.system.Run (R.configure a R.fresh) (es.map .inr) c ∧ R.visible c = v

/-- After the events, the object shows what a fresh one could show that was
configured once, with the arguments of the last call. -/
def ShowsLast (events : List (A ⊕ E)) : Prop :=
  ∀ c a, R.system.Run R.fresh events c → lastConfigured events = some a →
    R.FreshVisible a (R.visible c)

/-- All along the events, the object shows nothing of its past. -/
def Forgets (events : List (A ⊕ E)) : Prop :=
  ∀ bs, bs <+: events → R.ShowsLast bs

/-- Each call among the events meets the condition `Cond` on the object it
configures and on its arguments. -/
def CallsMeet (Cond : C → A → Prop) (events : List (A ⊕ E)) : Prop :=
  ∀ bs a, bs ++ [.inl a] <+: events → ∀ c, R.system.Run R.fresh bs c → Cond c a

theorem step_inl_iff {c c' : C} {a : A} :
    R.system.Step c (.inl a) c' ↔ c' = R.configure a c := by
  simp only [EventSystem.Step, system, true_and, Option.some_inj]
  exact eq_comm

theorem step_inr_iff {c c' : C} {e : E} :
    R.system.Step c (.inr e) c' ↔ R.background c e = some c' := by
  simp only [EventSystem.Step, system]
  constructor
  · exact fun h => h.2
  · intro h
    exact ⟨by rw [h]; rfl, h⟩

/-- What the object's own events preserve, a run of such events preserves. -/
theorem run_background_invariant {I : C → Prop}
    (hstep : ∀ c e c', I c → R.background c e = some c' → I c') {es : List E} :
    ∀ {c d : C}, R.system.Run c (es.map .inr) d → I c → I d := by
  induction es with
  | nil =>
    intro c d hrun hc
    rw [List.map_nil, EventSystem.run_nil_iff] at hrun
    exact hrun ▸ hc
  | cons e es ih =>
    intro c d hrun hc
    rw [List.map_cons, EventSystem.run_cons_iff] at hrun
    obtain ⟨c', hfirst, hrest⟩ := hrun
    exact ih hrest (hstep c e c' hc (R.step_inr_iff.mp hfirst))

variable {R}

/-- The last call, made on a fresh object and followed by some events of its
own, leads to the same object as the whole history does. -/
theorem same_of_callsMeet {Same : C → C → Prop} {Cond : C → A → Prop}
    (hbackground : ∀ c d c' e, Same c d → R.background c e = some c' →
      ∃ d', R.background d e = some d' ∧ Same c' d')
    (hcond : ∀ c a, Cond c a → Same (R.configure a c) (R.configure a R.fresh))
    {events : List (A ⊕ E)} (h : R.CallsMeet Cond events) :
    ∀ bs, bs <+: events → ∀ c a, R.system.Run R.fresh bs c → lastConfigured bs = some a →
      ∃ (es : List E) (d : C), R.system.Run (R.configure a R.fresh) (es.map .inr) d ∧
        Same c d := by
  intro bs
  induction bs using List.reverseRecOn with
  | nil =>
    intro _ c a _ hlast
    exact absurd hlast (by simp)
  | append_singleton bs x ih =>
    intro hprefix c a hrun hlast
    obtain ⟨c₀, hrun₀, hstep⟩ := EventSystem.run_append_iff.mp hrun
    rw [EventSystem.run_singleton_iff] at hstep
    cases x with
    | inl a' =>
      -- The last call: from here on the two objects are the same.
      obtain rfl : a' = a := by simpa using hlast
      rw [step_inl_iff] at hstep
      subst hstep
      exact ⟨[], _, .nil _, hcond c₀ a' (h bs a' hprefix c₀ hrun₀)⟩
    | inr e =>
      -- An event after the last call: the fresh object follows.
      rw [lastConfigured_concat_inr] at hlast
      have hprefix₀ : bs <+: events := (List.prefix_append bs [_]).trans hprefix
      obtain ⟨es, d₀, hd₀, hsame₀⟩ := ih hprefix₀ c₀ a hrun₀ hlast
      obtain ⟨d, hd, hsame⟩ := hbackground c₀ d₀ c e hsame₀ (R.step_inr_iff.mp hstep)
      refine ⟨es ++ [e], d, ?_, hsame⟩
      rw [List.map_append]
      exact hd₀.snoc (R.step_inr_iff.mpr hd)

/-- An object forgets its past exactly when every call meets the condition under
which it leaves the object as it would leave a fresh one. -/
theorem forgets_iff (Same : C → C → Prop) {Cond : C → A → Prop}
    (hvisible : ∀ c d, Same c d → R.visible c = R.visible d)
    (hbackground : ∀ c d c' e, Same c d → R.background c e = some c' →
      ∃ d', R.background d e = some d' ∧ Same c' d')
    (hcond : ∀ c a, Cond c a → Same (R.configure a c) (R.configure a R.fresh))
    (hnot : ∀ c a, ¬ Cond c a → ¬ R.FreshVisible a (R.visible (R.configure a c)))
    (events : List (A ⊕ E)) : R.Forgets events ↔ R.CallsMeet Cond events := by
  constructor
  · intro h bs a hprefix c hrun
    by_contra hc
    have hrun' : R.system.Run R.fresh (bs ++ [.inl a]) (R.configure a c) :=
      hrun.snoc (R.step_inl_iff.mpr rfl)
    exact hnot c a hc (h _ hprefix _ a hrun' (lastConfigured_concat_inl bs a))
  · intro h bs hprefix c a hrun hlast
    obtain ⟨es, d, hd, hsame⟩ := same_of_callsMeet hbackground hcond h bs hprefix c a hrun hlast
    exact ⟨es, d, hd, (hvisible c d hsame).symm⟩

end Reusable
