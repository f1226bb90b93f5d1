/-
Stores that write behind.

A store keeps its state in memory and queues the operations that bring a disk up
to date.  They are carried out later, one at a time; when the program is killed,
those still queued are lost and the state is loaded from the disk as it is.

What is observed of the state, and of the disk, is given by `view` and `holds`.

* `Writes` — a batch of operations takes the disk from one observation to the
  next, and on the way shows the old one or a part of the new one;
* `Coherent` — once the queue has been worked off the disk holds what is in
  memory, and until then a part of something that was in memory before;
* `coherent_of_run` — a program that changes its store in these ways only keeps
  it coherent, whenever it is killed.
-/
import HolyWater.EventSystem
import Mathlib.Data.List.Induction

/-- A state in memory, a disk, and the operations still to be carried out on it. -/
structure WriteBehind (μ δ ω : Type*) where
  memory : μ
  disk : δ
  queue : List ω

namespace WriteBehind

variable {μ δ ω ν : Type*}

/-- The memory changes, and `ops` are queued. -/
def write (memory : μ) (ops : List ω) (s : WriteBehind μ δ ω) : WriteBehind μ δ ω :=
  { s with memory := memory, queue := s.queue ++ ops }

/-- The operation at the head of the queue is carried out. -/
def catchUp (apply : δ → ω → δ) (s : WriteBehind μ δ ω) : Option (WriteBehind μ δ ω) :=
  match s.queue with
  | [] => none
  | op :: queue => some { s with disk := apply s.disk op, queue := queue }

/-- The program is killed and started again. -/
def restart (load : δ → μ) (s : WriteBehind μ δ ω) : WriteBehind μ δ ω :=
  ⟨load s.disk, s.disk, []⟩

/-! ### Batches of operations -/

section Batches

variable {apply : δ → ω → δ} {holds : δ → ν} {part : ν → ν → Prop} {v v' : ν} {ops : List ω}

/-- Carrying out `ops` takes a disk that holds `v` to one that holds `v'`; on the
way it holds `v` still, or a part of `v'`. -/
structure Writes (apply : δ → ω → δ) (holds : δ → ν) (part : ν → ν → Prop) (v v' : ν)
    (ops : List ω) : Prop where
  all : ∀ d, holds d = v → holds (ops.foldl apply d) = v'
  some : ∀ d n, holds d = v → holds ((ops.take n).foldl apply d) = v ∨
    part (holds ((ops.take n).foldl apply d)) v'

/-- Operations that leave alone what the disk holds. -/
theorem holds_foldl_of_frame (h : ∀ op ∈ ops, ∀ d, holds (apply d op) = holds d) (d : δ) :
    holds (ops.foldl apply d) = holds d := by
  induction ops generalizing d with
  | nil => rfl
  | cons op ops ih =>
    have hfirst := h op List.mem_cons_self d
    rw [List.foldl_cons, ih (fun op hop => h op (List.mem_cons_of_mem _ hop)), hfirst]

theorem Writes.of_frame (h : ∀ op ∈ ops, ∀ d, holds (apply d op) = holds d) :
    Writes apply holds part v v ops where
  all d hd := (holds_foldl_of_frame h d).trans hd
  some d _ hd :=
    .inl ((holds_foldl_of_frame (fun op hop => h op (List.mem_of_mem_take hop)) d).trans hd)

/-- A batch may be followed by operations that leave alone what the disk holds. -/
theorem Writes.append_frame {more : List ω} (hw : Writes apply holds part v v' ops)
    (h : ∀ op ∈ more, ∀ d, holds (apply d op) = holds d) :
    Writes apply holds part v v' (ops ++ more) where
  all d hd := by
    rw [List.foldl_append, holds_foldl_of_frame h]
    exact hw.all d hd
  some d n hd := by
    rw [List.take_append, List.foldl_append,
      holds_foldl_of_frame fun op hop => h op (List.mem_of_mem_take hop)]
    exact hw.some d n hd

end Batches

/-! ### Coherence -/

section Coherence

variable (apply : δ → ω → δ) (load : δ → μ) (view : μ → ν) (holds : δ → ν)
  (part : ν → ν → Prop)

/-- The disk, once it has caught up, holds what is in memory; on the way it only
holds parts of what has been seen in memory. -/
structure Coherent (seen : ν → Prop) (s : WriteBehind μ δ ω) : Prop where
  synced : holds (s.queue.foldl apply s.disk) = view s.memory
  gradual : ∀ n, ∃ v, seen v ∧ part (holds ((s.queue.take n).foldl apply s.disk)) v
  seen_memory : seen (view s.memory)

/-- The ways a program may change its store. -/
inductive Change (s s' : WriteBehind μ δ ω) : Prop
  | write (memory : μ) (ops : List ω)
      (hw : Writes apply holds part (view s.memory) (view memory) ops)
      (h : s' = s.write memory ops)
  | catchUp (h : s.catchUp apply = some s')
  | restart (h : s' = s.restart load)

variable {apply load view holds part} {seen seen' : ν → Prop} {s s' : WriteBehind μ δ ω}

theorem Coherent.drained (h : Coherent apply view holds part seen s) (hqueue : s.queue = []) :
    holds s.disk = view s.memory := by
  have hsynced := h.synced
  rwa [hqueue] at hsynced

/-- What the disk holds now is part of something seen in memory. -/
theorem Coherent.part_of_seen (h : Coherent apply view holds part seen s) :
    ∃ v, seen v ∧ part (holds s.disk) v := by
  simpa using h.gradual 0

theorem Coherent.mono (h : Coherent apply view holds part seen s) (hseen : ∀ v, seen v → seen' v) :
    Coherent apply view holds part seen' s where
  synced := h.synced
  gradual n := by
    obtain ⟨v, hv, hpart⟩ := h.gradual n
    exact ⟨v, hseen v hv, hpart⟩
  seen_memory := hseen _ h.seen_memory

theorem Coherent.write {memory : μ} {ops : List ω} (h : Coherent apply view holds part seen s)
    (hw : Writes apply holds part (view s.memory) (view memory) ops) (hrefl : ∀ u, part u u)
    (hnew : seen (view memory)) :
    Coherent apply view holds part seen (s.write memory ops) where
  synced := by
    show holds ((s.queue ++ ops).foldl apply s.disk) = view memory
    rw [List.foldl_append]
    exact hw.all _ h.synced
  gradual n := by
    show ∃ v, seen v ∧ part (holds (((s.queue ++ ops).take n).foldl apply s.disk)) v
    -- Either the disk is still on its way to the old memory, or it has got there.
    rcases Nat.le_total n s.queue.length with hn | hn
    · rw [List.take_append_of_le_length hn]
      exact h.gradual n
    · rw [List.take_append, List.take_of_length_le hn, List.foldl_append]
      rcases hw.some _ (n - s.queue.length) h.synced with hold | hpart
      · exact ⟨view s.memory, h.seen_memory, hold ▸ hrefl _⟩
      · exact ⟨view memory, hnew, hpart⟩
  seen_memory := hnew

theorem Coherent.catchUp (h : Coherent apply view holds part seen s)
    (hs : s.catchUp apply = some s') : Coherent apply view holds part seen s' := by
  rw [WriteBehind.catchUp] at hs
  split at hs
  · exact absurd hs (by simp)
  · rename_i op queue hqueue
    obtain rfl := Option.some.inj hs
    have hsynced := h.synced
    rw [hqueue] at hsynced
    refine ⟨hsynced, fun n => ?_, h.seen_memory⟩
    have hgradual := h.gradual (n + 1)
    rwa [hqueue, List.take_succ_cons] at hgradual

theorem Coherent.restart (h : Coherent apply view holds part seen s)
    (hload : ∀ d, view (load d) = holds d) (hnew : seen (holds s.disk)) :
    Coherent apply view holds part seen (s.restart load) where
  synced := (hload s.disk).symm
  gradual n := by
    obtain ⟨v, hv, hpart⟩ := h.part_of_seen
    refine ⟨v, hv, ?_⟩
    rwa [show ((s.restart load).queue.take n) = [] from List.take_nil]
  seen_memory := (hload s.disk).symm ▸ hnew

/-- One step of the program. -/
theorem Coherent.change (h : Coherent apply view holds part seen s)
    (hchange : Change apply load view holds part s s') (hrefl : ∀ u, part u u)
    (hload : ∀ d, view (load d) = holds d) (hold : ∀ v, seen v → seen' v)
    (hnew : seen' (view s'.memory)) : Coherent apply view holds part seen' s' := by
  have h' := h.mono hold
  rcases hchange with ⟨memory, ops, hw, rfl⟩ | hcatchUp | rfl
  · exact h'.write hw hrefl hnew
  · exact h'.catchUp hcatchUp
  · exact h'.restart hload ((hload s.disk) ▸ hnew)

/-- What is closed under parts and holds of all that has been in memory, holds of
what is loaded. -/
theorem Coherent.restart_of_closed (h : Coherent apply view holds part seen s)
    (hload : ∀ d, view (load d) = holds d) (hclosed : ∀ u v, part u v → seen v → seen u) :
    Coherent apply view holds part seen (s.restart load) := by
  obtain ⟨v, hv, hpart⟩ := h.part_of_seen
  exact h.restart hload (hclosed _ v hpart hv)

/-- The observation `v` was made of the memory at some point of the run `as`
from `s`. -/
def Seen {σ α : Type*} (M : EventSystem σ α) (obs : σ → ν) (s : σ) (as : List α) (v : ν) : Prop :=
  ∃ bs cs t, as = bs ++ cs ∧ M.Run s bs t ∧ obs t = v

/-- **A store that is only written to, worked off and reloaded stays coherent.**
Whatever was going on when the program is killed, the disk holds a part of
something that was in memory at some point of the run, and all of what is in
memory once the queue has been worked off. -/
theorem coherent_of_run {σ α : Type*} {M : EventSystem σ α} {store : σ → WriteBehind μ δ ω}
    {I : σ → Prop} (hrefl : ∀ u, part u u) (hload : ∀ d, view (load d) = holds d)
    (hI : ∀ s a s', I s → M.Step s a s' → I s')
    (hstep : ∀ s a s', I s → M.Step s a s' →
      store s' = store s ∨ Change apply load view holds part (store s) (store s'))
    {s s' : σ} {as : List α} (hrun : M.Run s as s') (hinv : I s)
    (hs : holds ((store s).queue.foldl apply (store s).disk) = view (store s).memory)
    (hqueue : (store s).queue = []) :
    Coherent apply view holds part
      (Seen M (fun t => view (store t).memory) s as) (store s') := by
  induction as using List.reverseRecOn generalizing s' with
  | nil =>
    obtain rfl := EventSystem.run_nil_iff.mp hrun
    have hseen : Seen M (fun t => view (store t).memory) s' [] (view (store s').memory) :=
      ⟨[], [], s', rfl, .nil _, rfl⟩
    refine ⟨hs, fun n => ⟨_, hseen, ?_⟩, hseen⟩
    rw [hqueue] at hs
    rw [hqueue, List.take_nil, hs]
    exact hrefl _
  | append_singleton as a ih =>
    obtain ⟨t, has, hlast⟩ := EventSystem.run_append_iff.mp hrun
    have hlast := EventSystem.run_singleton_iff.mp hlast
    have hcoherent := ih has
    have hold : ∀ v, Seen M (fun t => view (store t).memory) s as v →
        Seen M (fun t => view (store t).memory) s (as ++ [a]) v := by
      rintro v ⟨bs, cs, u, rfl, hbs, hu⟩
      exact ⟨bs, cs ++ [a], u, by rw [List.append_assoc], hbs, hu⟩
    have hnew : Seen M (fun t => view (store t).memory) s (as ++ [a]) (view (store s').memory) :=
      ⟨as ++ [a], [], s', by simp, hrun, rfl⟩
    rcases hstep t a s' (has.invariant hI hinv) hlast with hsame | hchange
    · rw [hsame]
      exact hcoherent.mono hold
    · exact hcoherent.change hchange hrefl hload hold hnew

end Coherence

end WriteBehind
