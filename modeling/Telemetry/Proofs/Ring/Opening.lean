import Telemetry.Proofs.Ring.Contents
import Telemetry.Ring.Opening

/-!
# New rings

What an opener has in hand when it has made a ring, be it in memory of its own or under a name: a
segment that is there, with the cursors at zero and the capacity recorded (`made_of_created`). So it
carries nothing (`Handle.Made.carries`).

Under a name this is an invariant of the steps of opening (`Opening.sound_step`), whatever else is
in memory and whatever fails: the steps that create build the ring up, and those that attach never
say that they created one (`not_created_of_judge`). `run_keeps` carries such an invariant to the end
of an opening, by induction on its run; the other invariants of openings go through it too.
-/

namespace Telemetry

namespace SharedMemory

/-! ## Segments

Calls of the operating system change one segment or none; a failure that was to come is used up on
the way, and segments are not touched by that.
-/

@[simp] theorem size_modify (s : SharedMemory) (id : Nat) (f : Memory → Memory) :
    (s.modify id f).segments.size = s.segments.size := by simp [modify]

theorem segment_modify {s : SharedMemory} {id : Nat} (h : id < s.segments.size)
    (f : Memory → Memory) : (s.modify id f).segment id = f (s.segment id) := by
  simp [segment, modify, Array.getD, h, Array.getElem_modify]

theorem segments_takeFault (s : SharedMemory) (call : SystemCall) :
    (s.takeFault call).2.segments = s.segments := by
  rw [takeFault]
  split
  · rfl
  · rfl

theorem size_resize (s : SharedMemory) (id size : Nat) :
    (s.resize id size).2.segments.size = s.segments.size := by
  have hfault := segments_takeFault s .resize
  rw [resize]
  split
  · simp_all
  · simp_all

theorem segments_map (s : SharedMemory) : s.map.2.segments = s.segments := by
  have hfault := segments_takeFault s .map
  rw [map]
  split
  · simp_all
  · simp_all

theorem lt_size_createExclusive {s s' : SharedMemory} {name : String} {id : Nat}
    (h : s.createExclusive name = (.ok id, s')) : id < s'.segments.size := by
  rw [createExclusive] at h
  split at h
  · cases h
  · split at h
    · cases h
    · cases h
      simp [bind]

end SharedMemory

namespace Ring

/-! ## The opener that creates a ring -/

/-- A handle by which a ring of a capacity was just made. -/
structure Handle.Made (h : Handle) (capacity : Nat) (s : SharedMemory) : Prop where
  capacity_eq : h.capacity = capacity
  segment_lt : h.segment < s.segments.size
  memory : ∃ m, s.segment h.segment = publishCapacity (resetCursors m) capacity

namespace Opening

/-- What the opener knows about the segment that it creates. -/
def Sound (capacity : Nat) : Opening → SharedMemory → Prop
  | named id, s => id < s.segments.size
  | sized id, s => id < s.segments.size
  | zeroed id, s => id < s.segments.size
  | cursorsStored id, s => id < s.segments.size ∧ ∃ m, s.segment id = resetCursors m
  | finished (.ok h), s => h.created = true → h.Made capacity s
  | _, _ => True

theorem neededSize_eq (found : Nat) :
    neededSize found = (192 + found) % 18446744073709551616 := by
  rw [neededSize, UInt64.toNat_add, UInt64.toNat_ofNat', UInt64.toNat_ofNat', ← Nat.add_mod]
  rfl

/-- For a capacity that may be asked for the sum is exact. -/
theorem neededSize_of_le {capacity : Nat} (h : capacity ≤ maxCapacity) :
    neededSize capacity = controlSize + capacity := by
  have hmost : capacity ≤ 4294967295 := h
  rw [neededSize_eq, controlSize]
  omega

/-- An opener that attaches has not created the ring. -/
theorem not_created_of_judge {name : String} {capacity id size found : Nat} {h : Handle}
    (hjudge : judge name capacity id size found = .ok h) : h.created = false := by
  rw [judge] at hjudge
  split at hjudge
  · cases hjudge
  · split at hjudge
    · cases hjudge
    · cases hjudge
      rfl

theorem sound_step (name : String) (capacity : Nat) (o : Opening) (s : SharedMemory)
    (h : o.Sound capacity s) :
    (step name capacity o s).1.Sound capacity (step name capacity o s).2 := by
  cases o with
  | start =>
    rw [step]
    split
    next id s' hcreate => exact SharedMemory.lt_size_createExclusive hcreate
    next e s' _ =>
      split
      · trivial
      · trivial
  | named id =>
    -- whether the call fails or not, there are as many segments as before
    have hsize := SharedMemory.size_resize s id (controlSize + capacity)
    rw [step]
    split
    next s' hresize =>
      rw [hresize] at hsize
      exact Nat.lt_of_lt_of_eq h hsize.symm
    next => trivial
  | sized id =>
    have hsegments := SharedMemory.segments_map s
    rw [step]
    split
    next s' hmap =>
      rw [hmap] at hsegments
      show id < (s'.modify id _).segments.size
      rw [SharedMemory.size_modify, hsegments]
      exact h
    next => trivial
  | zeroed id =>
    have hlt : id < s.segments.size := h
    refine ⟨?_, s.segment id, SharedMemory.segment_modify hlt resetCursors⟩
    exact Nat.lt_of_lt_of_eq hlt (SharedMemory.size_modify s id resetCursors).symm
  | cursorsStored id =>
    obtain ⟨hlt, m, hm⟩ := h
    intro _
    refine ⟨rfl, ?_, m, ?_⟩
    · exact Nat.lt_of_lt_of_eq hlt (SharedMemory.size_modify s id _).symm
    · rw [← hm]
      exact SharedMemory.segment_modify hlt _
  | taken =>
    rw [step]
    split
    · trivial
    · trivial
  | attached id =>
    rw [step]
    split
    · trivial
    · split
      · trivial
      · split
        · trivial
        · trivial
  | mapped id size =>
    show (finished (judge name capacity id size (recordedCapacity (s.segment id)))).Sound capacity s
    generalize hjudge : judge name capacity id size (recordedCapacity (s.segment id)) = outcome
    cases outcome with
    | error e => trivial
    | ok h' =>
      -- attached, not created, so there is nothing to show
      intro hcreated
      rw [not_created_of_judge hjudge] at hcreated
      cases hcreated
  | finished outcome => exact h

/-- What every step keeps holds when the opening has ended. -/
theorem run_keeps {P : Opening → SharedMemory → Prop} {name : String} {capacity : Nat}
    (hstep : ∀ o s, P o s → P (step name capacity o s).1 (step name capacity o s).2)
    {o : Opening} {s : SharedMemory} (h : P o s) :
    P (finished (run name capacity o s).1) (run name capacity o s).2 := by
  fun_induction run name capacity o s with
  | case1 s outcome => exact h
  | _ =>
    rename_i ih
    exact ih (hstep _ _ h)

theorem sound_run (name : String) (capacity : Nat) (o : Opening) (s : SharedMemory)
    (h : o.Sound capacity s) :
    (finished (run name capacity o s).1).Sound capacity (run name capacity o s).2 :=
  run_keeps (sound_step name capacity) h

end Opening

/-- A new ring, under a name or without one. -/
def Created (s₀ : SharedMemory) (capacity : Nat) (h : Handle) (s : SharedMemory) : Prop :=
  openPrivate s₀ capacity = (.ok h, s) ∨
    ∃ name, openShared s₀ name capacity = (.ok h, s) ∧ h.created = true

theorem checkCapacity_of_created {s₀ s : SharedMemory} {capacity : Nat} {h : Handle}
    (hnew : Created s₀ capacity h s) : checkCapacity capacity = .ok () := by
  cases hcheck : checkCapacity capacity with
  | ok _ => rfl
  | error e =>
    -- both ways of opening check the capacity first
    rcases hnew with hprivate | ⟨name, hshared, _⟩
    · rw [openPrivate, create, hcheck] at hprivate
      cases hprivate
    · rw [openShared, hcheck] at hshared
      cases hshared

theorem openPrivate_eq {capacity : Nat} (h : checkCapacity capacity = .ok ())
    (s : SharedMemory) : openPrivate s capacity =
      (.ok ⟨s.segments.size, capacity, true⟩,
        (s.allocate (publishCapacity (resetCursors (Memory.zeroed (controlSize + capacity)))
          capacity)).2) := by
  rw [openPrivate, create, h]
  rfl

/-- Either way the opener holds a ring that it has just made. -/
theorem made_of_created {s₀ s : SharedMemory} {capacity : Nat} {h : Handle}
    (hnew : Created s₀ capacity h s) : h.Made capacity s := by
  have hcheck := checkCapacity_of_created hnew
  rcases hnew with hprivate | ⟨name, hshared, hcreated⟩
  · rw [openPrivate_eq hcheck] at hprivate
    cases hprivate
    refine ⟨rfl, ?_, Memory.zeroed (controlSize + capacity), ?_⟩
    · simp [SharedMemory.allocate]
    · simp [SharedMemory.segment, SharedMemory.allocate, Array.getD]
  · rw [openShared, hcheck] at hshared
    cases hname : checkName name with
    | error e =>
      rw [hname] at hshared
      cases hshared
    | ok _ =>
      rw [hname] at hshared
      -- nothing is known at the start, and at the end it is what a creator leaves
      have hsound := Opening.sound_run name capacity .start s₀ trivial
      rw [show Opening.run name capacity .start s₀ = (.ok h, s) from hshared] at hsound
      exact hsound hcreated

/-- A ring that was just made carries nothing. -/
theorem Handle.Made.carries {s : SharedMemory} {capacity : Nat} {h : Handle}
    (hmade : h.Made capacity s) (hcheck : checkCapacity capacity = .ok ()) :
    (h.ring s).Carries 0 [] := by
  obtain ⟨m, hm⟩ := hmade.memory
  rw [Handle.ring, hmade.capacity_eq, hm]
  exact publishCapacity_carries hcheck m

end Ring

end Telemetry
