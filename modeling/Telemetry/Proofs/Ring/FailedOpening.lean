import Mathlib
import Telemetry.Proofs.Ring.Opening

/-!
# What a failing open leaves behind

Opening a ring that exists changes nothing but the failures to come, however it fails
(`SharedMemory.Untouched`). An opener that has made the name (`Creates`) can only fail when the
segment is sized or mapped, and then the name stays, bound to a segment without a ring. So a failing
open leaves no trace if and only if it fails before it has made the name
(`failed_open_leaves_no_trace_iff`); otherwise the name cannot be opened again until it is removed.
The shortest such failure is `failed_sizing_leaves_the_name`.

## How the proof goes

Two invariants of the steps of an opening, both carried through a run by `run_keeps`. `Traced` says
what an opening has made of the memory in which it began: as long as it has not made the name,
nothing but that failures were used up; after that, the name and a segment, which still hold when
it fails (`Abandoned`). `Barred` says that an opening which began with the name bound to a segment
without a ring has not succeeded: nobody records a capacity there any more, and every attaching
opener finds none (`judge_zero`). The calls of the operating system are known by what they leave,
one lemma for each (`resize_cases`, `map_cases`, `stat_cases`, `openExisting_cases`).
-/

namespace Telemetry

namespace SharedMemory

/-- The same names, bound to the same segments, and every segment as it was. -/
def Untouched (s s' : SharedMemory) : Prop :=
  (∀ name, s'.lookup? name = s.lookup? name) ∧ s'.segments = s.segments

/-- At most failures to come were used up. -/
def SpendsFaults (s s' : SharedMemory) : Prop := s' = { s with faults := s'.faults }

theorem SpendsFaults.refl (s : SharedMemory) : s.SpendsFaults s := rfl

theorem SpendsFaults.trans {s s' s'' : SharedMemory} (h : s.SpendsFaults s')
    (h' : s'.SpendsFaults s'') : s.SpendsFaults s'' := by
  rw [SpendsFaults] at *
  rw [h', h]

theorem SpendsFaults.untouched {s s' : SharedMemory} (h : s.SpendsFaults s') : s.Untouched s' := by
  rw [h]
  exact ⟨fun _ => rfl, rfl⟩

/-- A failure that waits for a call is used up by it; without one nothing changes. -/
theorem takeFault_cases (s : SharedMemory) (call : SystemCall) :
    (s.faults.lookup call = none ∧ s.takeFault call = (none, s)) ∨
      ∃ e s', s.faults.lookup call = some e ∧ s.takeFault call = (some e, s') ∧
        s.SpendsFaults s' := by
  unfold takeFault
  cases h : s.faults.lookup call with
  | none => exact .inl ⟨rfl, rfl⟩
  | some e => exact .inr ⟨e, _, rfl, rfl, rfl⟩

theorem resize_cases (s : SharedMemory) (id size : Nat) :
    (s.faults.lookup .resize = none ∧
        s.resize id size = (.ok (), s.modify id fun m => { m with size })) ∨
      ∃ e s', s.faults.lookup .resize = some e ∧ s.resize id size = (.error e, s') ∧
        s.SpendsFaults s' := by
  unfold resize
  obtain ⟨hnone, htake⟩ | ⟨e, s', hsome, htake, hs⟩ := s.takeFault_cases .resize
  · rw [htake]
    exact .inl ⟨hnone, rfl⟩
  · rw [htake]
    exact .inr ⟨e, s', hsome, rfl, hs⟩

theorem map_cases (s : SharedMemory) :
    (s.faults.lookup .map = none ∧ s.map = (.ok (), s)) ∨
      ∃ e s', s.faults.lookup .map = some e ∧ s.map = (.error e, s') ∧ s.SpendsFaults s' := by
  unfold map
  obtain ⟨hnone, htake⟩ | ⟨e, s', hsome, htake, hs⟩ := s.takeFault_cases .map
  · rw [htake]
    exact .inl ⟨hnone, rfl⟩
  · rw [htake]
    exact .inr ⟨e, s', hsome, rfl, hs⟩

theorem stat_cases (s : SharedMemory) (id : Nat) :
    s.stat id = (.ok (s.segment id).size, s) ∨
      ∃ e s', s.stat id = (.error e, s') ∧ s.SpendsFaults s' := by
  unfold stat
  obtain ⟨-, htake⟩ | ⟨e, s', -, htake, hs⟩ := s.takeFault_cases .stat
  · rw [htake]
    exact .inl rfl
  · rw [htake]
    exact .inr ⟨e, s', rfl, hs⟩

theorem openExisting_cases (s : SharedMemory) (name : String) :
    (∃ id, s.lookup? name = some id ∧ s.openExisting name = (.ok id, s)) ∨
      ∃ e s', s.openExisting name = (.error e, s') ∧ s.SpendsFaults s' := by
  unfold openExisting
  split
  · exact .inr ⟨_, s, rfl, .refl s⟩
  · obtain ⟨-, htake⟩ | ⟨e, s', -, htake, hs⟩ := s.takeFault_cases .reopen
    · rw [htake]
      cases hname : s.lookup? name with
      | none => exact .inr ⟨.notFound, s, by simp [hname], .refl s⟩
      | some id => exact .inl ⟨id, rfl, by simp [hname]⟩
    · rw [htake]
      exact .inr ⟨e, s', rfl, hs⟩

/-- A name that is bound to a new segment. -/
def withNamed (s : SharedMemory) (name : String) (m : Memory) : SharedMemory :=
  (s.allocate m).2.bind name s.segments.size

theorem lookup_filter_ne {names : List (String × Nat)} {name n : String} (h : n ≠ name) :
    (names.filter fun (n', _) => n' != name).lookup n = names.lookup n := by
  induction names with
  | nil => rfl
  | cons binding names ih =>
    obtain ⟨n', id⟩ := binding
    by_cases hn' : n' = name
    · have hne : (n == name) = false := by simpa using h
      simp [hn', ih, List.lookup_cons, hne]
    · simp [hn', ih, List.lookup_cons]

theorem lookup?_withNamed (s : SharedMemory) (name : String) (m : Memory) (n : String) :
    (s.withNamed name m).lookup? n = if n = name then some s.segments.size else s.lookup? n := by
  by_cases h : n = name
  · simp [withNamed, bind, lookup?, h]
  · have hne : (n == name) = false := by simpa using h
    simp only [withNamed, bind, unbind, allocate, lookup?, List.lookup_cons, hne, if_neg h]
    exact lookup_filter_ne h

theorem segment_withNamed (s : SharedMemory) (name : String) (m : Memory) :
    (s.withNamed name m).segment s.segments.size = m := by
  simp [withNamed, bind, allocate, segment, Array.getD]

/-- Changing the new segment is making it otherwise. -/
theorem modify_withNamed (s : SharedMemory) (name : String) (m : Memory) (f : Memory → Memory) :
    (s.withNamed name m).modify s.segments.size f = s.withNamed name (f m) := by
  have hpush : (s.segments.push m).modify s.segments.size f = s.segments.push (f m) := by
    ext i
    · simp
    · simp only [Array.getElem_modify, Array.getElem_push]
      grind
  simp only [withNamed, bind, allocate, modify, hpush]
  rfl

/-- A name that can be made: it is not refused, and it is not bound. -/
def Vacant (s : SharedMemory) (name : String) : Prop :=
  s.refusals.lookup name = none ∧ s.lookup? name = none

theorem createExclusive_of_vacant {s : SharedMemory} {name : String} (h : s.Vacant name) :
    s.createExclusive name = (.ok s.segments.size, s.withNamed name (Memory.zeroed 0)) := by
  simp [createExclusive, h.1, h.2, withNamed, allocate]

theorem createExclusive_of_not_vacant {s : SharedMemory} {name : String} (h : ¬ s.Vacant name) :
    ∃ e, s.createExclusive name = (.error e, s) := by
  unfold createExclusive
  split
  · exact ⟨_, rfl⟩
  next hrefusal =>
    rw [Vacant, hrefusal] at h
    have hbound : (s.lookup? name).isSome := Option.isSome_iff_ne_none.2 fun hn => h ⟨rfl, hn⟩
    exact ⟨_, if_pos hbound⟩

end SharedMemory

namespace Ring

theorem recordedCapacity_zeroed (size : Nat) : recordedCapacity (Memory.zeroed size) = 0 := by
  have hload : (Memory.zeroed size).load capacityAt 8 = List.replicate 8 0 := by
    rw [Memory.load, List.eq_replicate_iff]
    refine ⟨by simp, fun b hb => ?_⟩
    obtain ⟨i, -, rfl⟩ := List.mem_map.1 hb
    exact Memory.get_zeroed size i
  rw [recordedCapacity, Memory.loadNat, hload]
  decide

namespace Opening

/-! ## Traces -/

/-- What an opener that has made the name leaves behind when it fails: the name, bound to a segment
of zeros that has no size yet where sizing failed, and has its size where mapping failed. -/
def Abandoned (s₀ : SharedMemory) (name : String) (capacity : Nat) (e : RingError)
    (s : SharedMemory) : Prop :=
  ∃ cause, e = .segment cause ∧
    ((s₀.faults.lookup .resize = some cause ∧
        (s₀.withNamed name (Memory.zeroed 0)).SpendsFaults s) ∨
      (s₀.faults.lookup .resize = none ∧ s₀.faults.lookup .map = some cause ∧
        (s₀.withNamed name (Memory.zeroed (controlSize + capacity))).SpendsFaults s))

/-- What an opening that began in a state has made of it so far. -/
def Traced (s₀ : SharedMemory) (name : String) (capacity : Nat) : Opening → SharedMemory → Prop
  | start, s => s = s₀
  | named id, s => s₀.Vacant name ∧ id = s₀.segments.size ∧
      s = s₀.withNamed name (Memory.zeroed 0)
  | sized id, s => s₀.Vacant name ∧ id = s₀.segments.size ∧
      s = s₀.withNamed name (Memory.zeroed (controlSize + capacity)) ∧
      s₀.faults.lookup .resize = none
  | zeroed _, _ | cursorsStored _, _ | finished (.ok _), _ => True
  | taken, s | attached _, s | mapped .., s => ¬ s₀.Vacant name ∧ s₀.SpendsFaults s
  | finished (.error e), s => (¬ s₀.Vacant name ∧ s₀.SpendsFaults s) ∨
      (s₀.Vacant name ∧ Abandoned s₀ name capacity e s)

theorem traced_step {s₀ : SharedMemory} {name : String} {capacity : Nat} {o : Opening}
    {s : SharedMemory} (h : o.Traced s₀ name capacity s) :
    (step name capacity o s).1.Traced s₀ name capacity (step name capacity o s).2 := by
  cases o with
  | start =>
    obtain rfl : s = s₀ := h
    -- the step that decides which of the two ways is taken
    by_cases hvacant : s.Vacant name
    · rw [step, SharedMemory.createExclusive_of_vacant hvacant]
      exact ⟨hvacant, rfl, rfl⟩
    · obtain ⟨e, he⟩ := SharedMemory.createExclusive_of_not_vacant hvacant
      rw [step, he]
      dsimp only
      split
      · exact ⟨hvacant, .refl s⟩
      · exact .inl ⟨hvacant, .refl s⟩
  | named id =>
    obtain ⟨hvacant, rfl, rfl⟩ := h
    rw [step]
    obtain ⟨hnone, hresize⟩ | ⟨e, s', hsome, hresize, hs⟩ :=
      (s₀.withNamed name (Memory.zeroed 0)).resize_cases s₀.segments.size (controlSize + capacity)
    · rw [hresize]
      exact ⟨hvacant, rfl, SharedMemory.modify_withNamed .., hnone⟩
    · -- the name stays behind, and its segment has no size
      rw [hresize]
      exact .inr ⟨hvacant, e, rfl, .inl ⟨hsome, hs⟩⟩
  | sized id =>
    obtain ⟨hvacant, rfl, rfl, hnone⟩ := h
    rw [step]
    obtain ⟨-, hmap⟩ | ⟨e, s', hsome, hmap, hs⟩ :=
      (s₀.withNamed name (Memory.zeroed (controlSize + capacity))).map_cases
    · rw [hmap]
      trivial
    · -- the name stays behind, and its segment has its size
      rw [hmap]
      exact .inr ⟨hvacant, e, rfl, .inr ⟨hnone, hsome, hs⟩⟩
  | zeroed id => trivial
  | cursorsStored id => trivial
  | taken =>
    obtain ⟨hvacant, hs⟩ := h
    rw [step]
    obtain ⟨id, -, hopen⟩ | ⟨e, s', hopen, hs'⟩ := s.openExisting_cases name
    · rw [hopen]
      exact ⟨hvacant, hs⟩
    · rw [hopen]
      exact .inl ⟨hvacant, hs.trans hs'⟩
  | attached id =>
    obtain ⟨hvacant, hs⟩ := h
    rw [step]
    obtain hstat | ⟨e, s', hstat, hs'⟩ := s.stat_cases id
    · rw [hstat]
      dsimp only
      split
      · exact .inl ⟨hvacant, hs⟩
      · obtain ⟨-, hmap⟩ | ⟨e, s', -, hmap, hs'⟩ := s.map_cases
        · rw [hmap]
          exact ⟨hvacant, hs⟩
        · rw [hmap]
          exact .inl ⟨hvacant, hs.trans hs'⟩
    · rw [hstat]
      exact .inl ⟨hvacant, hs.trans hs'⟩
  | mapped id size =>
    obtain ⟨hvacant, hs⟩ := h
    rw [step]
    generalize judge name capacity id size (recordedCapacity (s.segment id)) = outcome
    cases outcome with
    | ok h' => trivial
    | error e => exact .inl ⟨hvacant, hs⟩
  | finished outcome => exact h

theorem traced_run {s₀ : SharedMemory} {name : String} {capacity : Nat} {o : Opening}
    {s : SharedMemory} (h : o.Traced s₀ name capacity s) :
    (finished (run name capacity o s).1).Traced s₀ name capacity (run name capacity o s).2 :=
  run_keeps (fun _ _ => traced_step) h

/-! ## Names without a ring -/

/-- The opening of a name that is bound to a segment without a ring has not succeeded. -/
def Barred (name : String) : Opening → SharedMemory → Prop
  | start, s | taken, s => ∃ id, s.lookup? name = some id ∧ recordedCapacity (s.segment id) = 0
  | attached id, s | mapped id _, s => recordedCapacity (s.segment id) = 0
  | finished (.error _), _ => True
  | named _, _ | sized _, _ | zeroed _, _ | cursorsStored _, _ | finished (.ok _), _ => False

theorem judge_zero (name : String) (capacity id size : Nat) :
    judge name capacity id size 0 = .error (.notInitialized name) := by simp [judge]

theorem barred_step {name : String} {capacity : Nat} {o : Opening} {s : SharedMemory}
    (h : o.Barred name s) :
    (step name capacity o s).1.Barred name (step name capacity o s).2 := by
  cases o with
  | start =>
    obtain ⟨id, hname, hzero⟩ := h
    have hvacant : ¬ s.Vacant name := fun hvacant => by simp [hvacant.2] at hname
    obtain ⟨e, he⟩ := SharedMemory.createExclusive_of_not_vacant hvacant
    rw [step, he]
    dsimp only
    split
    · exact ⟨id, hname, hzero⟩
    · trivial
  | taken =>
    obtain ⟨id, hname, hzero⟩ := h
    rw [step]
    obtain ⟨id', hname', hopen⟩ | ⟨e, s', hopen, -⟩ := s.openExisting_cases name
    · rw [hopen]
      rw [hname, Option.some_inj] at hname'
      exact hname' ▸ hzero
    · rw [hopen]
      trivial
  | attached id =>
    rw [step]
    obtain hstat | ⟨e, s', hstat, -⟩ := s.stat_cases id
    · rw [hstat]
      dsimp only
      split
      · trivial
      · obtain ⟨-, hmap⟩ | ⟨e, s', -, hmap, -⟩ := s.map_cases
        · rw [hmap]
          exact h
        · rw [hmap]
          trivial
    · rw [hstat]
      trivial
  | mapped id size =>
    have hzero : recordedCapacity (s.segment id) = 0 := h
    rw [step, hzero, judge_zero]
    trivial
  | finished outcome => exact h
  | named id | sized id | zeroed id | cursorsStored id => exact h.elim

theorem barred_run {name : String} {capacity : Nat} {o : Opening} {s : SharedMemory}
    (h : o.Barred name s) :
    (finished (run name capacity o s).1).Barred name (run name capacity o s).2 :=
  run_keeps (fun _ _ => barred_step) h

end Opening

/-- A name that is bound to a segment without a ring cannot be opened, whatever else fails. -/
theorem openShared_of_barred {s : SharedMemory} {name : String} {id : Nat}
    (hname : s.lookup? name = some id) (hzero : recordedCapacity (s.segment id) = 0)
    (capacity : Nat) : ∃ e, (openShared s name capacity).1 = .error e := by
  rw [openShared]
  split
  · exact ⟨_, rfl⟩
  · exact ⟨_, rfl⟩
  · have hstart : Opening.start.Barred name s := ⟨id, hname, hzero⟩
    have hbarred : (Opening.finished (Opening.run name capacity .start s).1).Barred name _ :=
      Opening.barred_run hstart
    cases hrun : (Opening.run name capacity .start s).1 with
    | error e => exact ⟨e, rfl⟩
    | ok h =>
      rw [hrun] at hbarred
      exact hbarred.elim

/-- What is left behind is the name, bound to a new segment of zeros. -/
theorem Opening.Abandoned.withNamed {s s' : SharedMemory} {name : String} {capacity : Nat}
    {e : RingError} (h : Abandoned s name capacity e s') :
    ∃ size, (s.withNamed name (Memory.zeroed size)).SpendsFaults s' := by
  obtain ⟨_, _, ⟨_, hs⟩ | ⟨_, _, hs⟩⟩ := h
  · exact ⟨_, hs⟩
  · exact ⟨_, hs⟩

/-! ## Failing -/

/-- An opener gets as far as making the name: capacity and name are in order, the name is not
refused, and it is not bound. -/
def Creates (s : SharedMemory) (name : String) (capacity : Nat) : Prop :=
  checkCapacity capacity = .ok () ∧ checkName name = .ok () ∧ s.Vacant name

/-- A failing open either has not made the name, and has changed nothing, or has left it behind. -/
theorem openShared_error_cases {s s' : SharedMemory} {name : String} {capacity : Nat}
    {e : RingError} (h : openShared s name capacity = (.error e, s')) :
    (¬ Creates s name capacity ∧ s.SpendsFaults s') ∨
      (Creates s name capacity ∧ Opening.Abandoned s name capacity e s') := by
  unfold Creates
  rw [openShared] at h
  split at h
  next hcapacity =>
    cases h
    exact .inl ⟨fun hcreates => by simp [hcapacity] at hcreates, .refl s⟩
  next hname =>
    cases h
    exact .inl ⟨fun hcreates => by simp [hname] at hcreates, .refl s⟩
  next hcapacity hname =>
    have hstart : Opening.start.Traced s name capacity s := rfl
    have htraced := Opening.traced_run hstart
    rw [h] at htraced
    rw [hcapacity, hname]
    simpa [Opening.Traced] using htraced

/-- **When a failing open leaves no trace.** It leaves none if and only if it fails before it has
made the name, and then only failures to come may have been used up, so that a later open meets what
it would have met without it. An opener that has made the name fails when the segment is sized or
mapped, and leaves the name behind, bound to a new segment of zeros: no later open of the name
succeeds, with whatever capacity and whatever else fails. -/
theorem failed_open_leaves_no_trace_iff {s s' : SharedMemory} {name : String} {capacity : Nat}
    {e : RingError} (h : openShared s name capacity = (.error e, s')) :
    (s.Untouched s' ↔ ¬ Creates s name capacity) ∧
    (¬ Creates s name capacity → s' = { s with faults := s'.faults }) ∧
    (Creates s name capacity → Opening.Abandoned s name capacity e s' ∧
      s'.lookup? name = some s.segments.size ∧
      ∀ faults capacity', ∃ e', (openShared { s' with faults } name capacity').1 = .error e') := by
  rcases openShared_error_cases h with ⟨hnot, hs⟩ | ⟨hcreates, habandoned⟩
  · exact ⟨⟨fun _ => hnot, fun _ => hs.untouched⟩, fun _ => hs,
      fun hcreates => absurd hcreates hnot⟩
  · obtain ⟨size, hs⟩ := habandoned.withNamed
    have hname : s'.lookup? name = some s.segments.size := by
      rw [hs.untouched.1, SharedMemory.lookup?_withNamed, if_pos rfl]
    -- the name was free, and now it is bound
    have htouched : ¬ s.Untouched s' := by
      intro huntouched
      have hvacant := huntouched.1 name
      rw [hname, hcreates.2.2.2] at hvacant
      cases hvacant
    -- the segment holds zeros, so no capacity is found there
    have hzero : recordedCapacity (s'.segment s.segments.size) = 0 := by
      rw [SharedMemory.segment, hs.untouched.2, ← SharedMemory.segment,
        SharedMemory.segment_withNamed, recordedCapacity_zeroed]
    refine ⟨⟨fun huntouched => absurd huntouched htouched, fun hnot => absurd hcreates hnot⟩,
      fun hnot => absurd hcreates hnot, fun _ => ⟨habandoned, hname, fun faults capacity' => ?_⟩⟩
    exact openShared_of_barred (s := { s' with faults }) hname hzero capacity'

/-- A failure on the way of an opener that attaches leaves no trace. -/
theorem failed_attaching_leaves_no_trace :
    let s : SharedMemory := ⟨#[Memory.zeroed 256], [("/ring", 0)], [], [(.stat, ⟨9⟩)]⟩
    ∃ s', openShared s "/ring" 64 = (.error (.segment ⟨9⟩), s') ∧ s.Untouched s' ∧
      s' = { s with faults := s'.faults } := by
  intro s
  have hfails : openShared s "/ring" 64 = (.error (.segment ⟨9⟩), { s with faults := [] }) := by cbv
  have hnot : ¬ Creates s "/ring" 64 := by
    rintro ⟨-, -, -, hfree⟩
    cases hfree
  obtain ⟨huntouched, hspent, -⟩ := failed_open_leaves_no_trace_iff hfails
  exact ⟨_, hfails, huntouched.2 hnot, hspent hnot⟩

/-- Nothing exists, and sizing the new segment fails: the name is there from then on, and the next
open fails because of it. -/
theorem failed_sizing_leaves_the_name :
    let s := SharedMemory.empty.failNext .resize ⟨28⟩
    ∃ s', openShared s "/ring" 64 = (.error (.segment ⟨28⟩), s') ∧
      s.lookup? "/ring" = none ∧ s'.lookup? "/ring" = some 0 ∧ ¬ s.Untouched s' ∧
      (openShared s' "/ring" 64).1 = .error (.notInitialized "/ring") := by
  intro s
  refine ⟨_, Prod.ext (show (openShared s "/ring" 64).1 = .error (.segment ⟨28⟩) by cbv) rfl, rfl,
    by cbv, ?_, by cbv⟩
  intro huntouched
  have hname := huntouched.1 "/ring"
  rw [show (openShared s "/ring" 64).2.lookup? "/ring" = some 0 by cbv] at hname
  cases hname

end Ring

end Telemetry
