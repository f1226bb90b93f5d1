/-
Writes that complete in any order.

Writes are started one after another, and each takes effect when its completion
is delivered, in an order nobody controls.  `see` is what one sees of a write.

* `Settled` — with nothing in flight, one sees the write that was started last;
* `settled_run` — all runs settle in which the newest write in flight completes
  only when it is the last, or when the others look the same;
* `exists_unsettled` — and any other completion can be followed by completions
  after which one sees another write.
-/
import HolyWater.EventSystem

/-- The writes in flight, oldest first, the write started last, and the one
completed last. -/
structure InFlight (α : Type*) where
  pending : List α := []
  latest : Option α := none
  written : Option α := none

namespace InFlight

variable {α β : Type*} {see : α → β} {f f' : InFlight α} {a : α} {i : ℕ}

def start (a : α) (f : InFlight α) : InFlight α where
  pending := f.pending ++ [a]
  latest := some a
  written := f.written

/-- The write at index `i` completes. -/
def deliver (i : ℕ) (f : InFlight α) : Option (InFlight α) :=
  f.pending[i]?.map fun a => { f with pending := f.pending.eraseIdx i, written := some a }

/-- Writes are started (`inl`) and complete (`inr`) in any order. -/
def system (α : Type*) : EventSystem (InFlight α) (α ⊕ ℕ) where
  enabled f
    | .inl _ => True
    | .inr i => i < f.pending.length
  next f
    | .inl a => some (f.start a)
    | .inr i => f.deliver i

theorem step_inl_iff : (system α).Step f (.inl a) f' ↔ f' = f.start a := by
  simp only [EventSystem.Step, system, true_and, Option.some_inj]
  exact eq_comm

theorem step_inr_iff : (system α).Step f (.inr i) f' ↔ f.deliver i = some f' := by
  simp only [EventSystem.Step, system]
  constructor
  · exact fun h => h.2
  · intro h
    obtain ⟨a, ha, -⟩ := Option.map_eq_some_iff.mp h
    exact ⟨(List.getElem?_eq_some_iff.mp ha).1, h⟩

/-! ### Completions in order -/

/-- With nothing in flight, one sees the write that was started last. -/
def Settled (see : α → β) (f : InFlight α) : Prop :=
  f.pending = [] → f.latest.isSome → f.written.map see = f.latest.map see

/-- The newest write in flight looks like the one started last. -/
def Leads (see : α → β) (f : InFlight α) : Prop :=
  f.pending ≠ [] → f.pending.getLast?.map see = f.latest.map see

/-- If it is the newest write in flight that completes, the others look like it. -/
def InOrder (see : α → β) (f : InFlight α) : α ⊕ ℕ → Prop
  | .inl _ => True
  | .inr i => i + 1 = f.pending.length → ∀ a ∈ f.pending, f.pending[i]?.map see = some (see a)

theorem getLast?_eraseIdx {l : List α} (h : i + 1 < l.length) :
    (l.eraseIdx i).getLast? = l.getLast? := by
  have hlength := List.length_eraseIdx_of_lt (l := l) (i := i) (by omega)
  rw [List.getLast?_eq_getElem?, List.getLast?_eq_getElem?, hlength,
    List.getElem?_eraseIdx_of_ge (by omega)]
  congr 1
  omega

theorem getLast?_eq_of_newest {l : List α} (h : i + 1 = l.length) : l.getLast? = l[i]? := by
  rw [List.getLast?_eq_getElem?]
  congr 1
  omega

theorem leads_start (a : α) (f : InFlight α) : (f.start a).Leads see := by
  intro _
  show (f.pending ++ [a]).getLast?.map see = some (see a)
  simp

theorem settled_start (a : α) (f : InFlight α) : (f.start a).Settled see := by
  intro hpending
  exact absurd hpending (by simp [start])

/-- Completions in order keep the newest write in flight the one to be seen. -/
theorem leads_deliver (h : f.Leads see) (horder : f.InOrder see (.inr i))
    (hdeliver : f.deliver i = some f') : f'.Leads see ∧ f'.Settled see := by
  obtain ⟨a, ha, rfl⟩ := Option.map_eq_some_iff.mp hdeliver
  obtain ⟨hi, hget⟩ := List.getElem?_eq_some_iff.mp ha
  have hne : f.pending ≠ [] := List.ne_nil_of_length_pos (by omega)
  by_cases hnewest : i + 1 = f.pending.length
  · -- The newest completes: whatever else is in flight looks the same.
    have hlatest : some (see a) = f.latest.map see := by
      rw [← h hne, getLast?_eq_of_newest hnewest, ha, Option.map_some]
    constructor
    · intro hrest
      obtain ⟨b, hb⟩ := Option.ne_none_iff_exists'.mp (mt List.getLast?_eq_none_iff.mp hrest)
      have hsame := horder hnewest b (List.mem_of_mem_eraseIdx (List.mem_of_getLast? hb))
      rw [ha, Option.map_some] at hsame
      show (f.pending.eraseIdx i).getLast?.map see = f.latest.map see
      rw [hb, Option.map_some, ← hsame, hlatest]
    · intro _ _
      exact hlatest
  · -- An older one completes, and the newest stays in flight.
    have hlast := getLast?_eraseIdx (l := f.pending) (i := i) (by omega)
    constructor
    · intro _
      show (f.pending.eraseIdx i).getLast?.map see = f.latest.map see
      rw [hlast]
      exact h hne
    · intro hrest
      have hlength := List.length_eraseIdx_of_lt hi
      rw [show f.pending.eraseIdx i = [] from hrest, List.length_nil] at hlength
      omega

theorem leads_step {e : α ⊕ ℕ} (h : f.Leads see)
    (hstep : ((system α).restrict (InOrder see)).Step f e f') :
    f'.Leads see ∧ f'.Settled see := by
  obtain ⟨hstep, horder⟩ := EventSystem.step_restrict_iff.mp hstep
  cases e with
  | inl a =>
    obtain rfl := step_inl_iff.mp hstep
    exact ⟨leads_start a f, settled_start a f⟩
  | inr i => exact leads_deliver h horder (step_inr_iff.mp hstep)

/-- **Completions in order settle**: along every run of them, from the start. -/
theorem settled_run {events : List (α ⊕ ℕ)}
    (hrun : ((system α).restrict (InOrder see)).Run {} events f) :
    f.Leads see ∧ f.Settled see := by
  refine hrun.invariant (I := fun f => f.Leads see ∧ f.Settled see)
    (fun _ _ _ h hstep => leads_step h.1 hstep) ⟨?_, ?_⟩
  · intro hne
    exact absurd rfl hne
  · intro _ hsome
    exact absurd hsome (by simp)

/-! ### Completions out of order -/

/-- Any write in flight can be made the last one to complete. -/
theorem exists_drain : ∀ {f : InFlight α}, a ∈ f.pending →
    ∃ (is : List ℕ) (f' : InFlight α), (system α).Run f (is.map .inr) f' ∧ f'.pending = [] ∧
      f'.written = some a ∧ f'.latest = f.latest := by
  intro f
  obtain ⟨pending, latest, written⟩ := f
  induction hn : pending.length generalizing pending written with
  | zero =>
    intro hmem
    rw [List.length_eq_zero_iff.mp hn] at hmem
    exact absurd hmem (by simp)
  | succ n ih =>
    intro hmem
    replace hmem : a ∈ pending := hmem
    by_cases hother : ∃ i, ∃ hi : i < pending.length, a ∈ pending.eraseIdx i
    · obtain ⟨i, hi, hmem'⟩ := hother
      have hlength := List.length_eraseIdx_of_lt hi
      obtain ⟨is, f', hrun, hpending, hwritten, hlatest⟩ :=
        ih (pending.eraseIdx i) (some pending[i]) (by omega) hmem'
      refine ⟨i :: is, f', ?_, hpending, hwritten, hlatest⟩
      refine EventSystem.run_cons_iff.mpr ⟨_, step_inr_iff.mpr ?_, hrun⟩
      simp only [deliver, List.getElem?_eq_getElem hi, Option.map_some]
    · -- Nothing else is in flight, so the write itself completes.
      have hsingle : pending = [a] := by
        obtain ⟨j, hj⟩ := List.mem_iff_getElem?.mp hmem
        have hlt := (List.getElem?_eq_some_iff.mp hj).1
        have hone : pending.length = 1 := by
          by_contra hne
          by_cases hzero : j = 0
          · exact hother ⟨1, by omega, List.mem_eraseIdx_iff_getElem?.mpr ⟨j, by omega, hj⟩⟩
          · exact hother ⟨0, by omega, List.mem_eraseIdx_iff_getElem?.mpr ⟨j, by omega, hj⟩⟩
        obtain ⟨b, rfl⟩ := List.length_eq_one_iff.mp hone
        rw [List.mem_singleton.mp hmem]
      subst hsingle
      exact ⟨[0], _, .cons (step_inr_iff.mpr rfl) (.nil _), rfl, rfl, rfl⟩

/-- **Completions out of order need not settle**: once the newest write in
flight completes before one that looks different, that one can be the last. -/
theorem exists_unsettled (h : f.Leads see) (hi : i < f.pending.length)
    (horder : ¬ f.InOrder see (.inr i)) :
    ∃ (is : List ℕ) (f' : InFlight α) (shown last : α),
      (system α).Run f ((i :: is).map .inr) f' ∧ f'.pending = [] ∧
        f'.written = some shown ∧ f'.latest = some last ∧ see shown ≠ see last := by
  simp only [InOrder, not_forall] at horder
  obtain ⟨hnewest, a, ha, hdiffers⟩ := horder
  have hget := List.getElem?_eq_getElem hi
  rw [hget, Option.map_some, Option.some_inj] at hdiffers
  -- The other write is still in flight after the newest has completed.
  have hrest : a ∈ f.pending.eraseIdx i := by
    obtain ⟨j, hj⟩ := List.mem_iff_getElem?.mp ha
    refine List.mem_eraseIdx_iff_getElem?.mpr ⟨j, fun heq => hdiffers ?_, hj⟩
    rw [heq, hget, Option.some_inj] at hj
    rw [hj]
  obtain ⟨is, f', hrun, hpending, hwritten, hlatest⟩ := exists_drain
    (f := { f with pending := f.pending.eraseIdx i, written := some f.pending[i] }) hrest
  have hdeliver : f.deliver i =
      some { f with pending := f.pending.eraseIdx i, written := some f.pending[i] } := by
    rw [deliver, hget, Option.map_some]
  -- What was started last looks like the newest, so it does not look like `a`.
  have hlead : f.latest.map see = some (see f.pending[i]) := by
    rw [← h (List.ne_nil_of_length_pos (by omega)), getLast?_eq_of_newest hnewest, hget,
      Option.map_some]
  obtain ⟨last, hlast, hsame⟩ := Option.map_eq_some_iff.mp hlead
  refine ⟨is, f', a, last, EventSystem.run_cons_iff.mpr ⟨_, step_inr_iff.mpr hdeliver, hrun⟩,
    hpending, hwritten, hlatest.trans hlast, fun heq => hdiffers ?_⟩
  rw [← hsame, heq]

end InFlight
