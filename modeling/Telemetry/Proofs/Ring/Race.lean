import Telemetry.Proofs.Ring.Attaching

/-!
# The race for a new ring

Any number of openers go for one name with one capacity, and their steps come in any order. Between
those steps, whoever has the ring open already works on it. The first opener that takes a step binds
the name to a new segment and is the creator. No capacity is recorded before the creator's last
step, so nobody has the ring open before it, and from then on no opener changes anything: the ring
is what was made of a new one by those who work on it (`creation_race_is_benign`).

## How the proof goes

From the first step on the memory is what it was before with that one segment added
(`SharedMemory.withNamed`), and all that happens is told by how far the creator has come and what
its segment holds then (`Building`), how far the others have come (`Following`), and what was done
with the ring. `Led` says that of a whole race. It is kept by a step of the creator
(`Building.step`), by a step of another opener, which changes nothing (`Following.step`), and by
work on the ring, which is only there when the creator is done (`Led.work`); so it holds after any
acts, by induction from their end (`sound_run`).

What another opener finds depends on the creator alone (`Building.found`): the segment is empty, or
has its size and no capacity, or is a ring that others may have worked on since. The work leaves the
size and the recorded capacity alone (`performed_new`), and that is all that an opener looks at.
-/

namespace Telemetry

namespace SharedMemory

variable {s : SharedMemory} {name : String}

theorem Serves.withNamed (h : s.Serves name) (m : Memory) : (s.withNamed name m).Serves name :=
  ⟨h.refusal, h.faults⟩

theorem lookup?_withNamed_self (s : SharedMemory) (name : String) (m : Memory) :
    (s.withNamed name m).lookup? name = some s.segments.size := by
  rw [lookup?_withNamed, if_pos rfl]

theorem size_withNamed (s : SharedMemory) (name : String) (m : Memory) :
    (s.withNamed name m).segments.size = s.segments.size + 1 := by
  simp [SharedMemory.withNamed, bind, allocate]

end SharedMemory

namespace Ring

/-! ## Rings that are worked on

The other openers look at two things of a ring that is in use: the size of its segment and the
capacity recorded there. Neither is changed by an operation. For the capacity this is confinement:
it lies in the control block, but in no part of it that an operation stores in.
-/

/-- The ring in memory of its own that a capacity in range gives. -/
def new (capacity : Nat) : Ring :=
  ⟨capacity, publishCapacity (resetCursors (Memory.zeroed (controlSize + capacity))) capacity⟩

/-- What operations make of a ring. -/
def performed (ops : List Op) (r : Ring) : Ring := ops.foldl (fun r op => (perform op r).2) r

theorem performed_concat (ops : List Op) (op : Op) (r : Ring) :
    performed (ops ++ [op]) r = (perform op (performed ops r)).2 := by
  simp [performed]

theorem capacity_perform (op : Op) (r : Ring) : (perform op r).2.capacity = r.capacity := by
  cases op with
  | write message => rw [perform, write]
  | readInto room => rw [perform, readInto]
  | read => exact capacity_read r
  | peek => rfl
  | claimWriter process => exact capacity_claimWriter r process
  | claimReader process => exact capacity_claimReader r process

theorem size_storeNat (m : Memory) (start width n : Nat) :
    (m.storeNat start width n).size = m.size := by
  rw [Memory.storeNat, Memory.size_store]

theorem size_perform (op : Op) (r : Ring) : (perform op r).2.memory.size = r.memory.size := by
  have hread (room : Option Nat) :
      (Reading.run r.capacity room .start r.memory).2.size = r.memory.size := by
    rcases Reading.run_start_cases r.capacity room r.memory with ⟨e, hrun⟩ | ⟨message, hrun, -⟩
    · rw [hrun]
    · rw [hrun]
      exact size_storeNat ..
  cases op with
  | write message =>
      show (Writing.run r.capacity message .start r.memory).2.size = _
      rw [Writing.run_start]
      split
      · rfl
      · dsimp only
        split
        · rfl
        · simp only [setWriteCursor, size_storeNat, copyIn, Memory.size_store]
  | readInto room => exact hread (some room)
  | read => exact hread none
  | peek => rfl
  | claimWriter process => exact size_storeNat ..
  | claimReader process => exact size_storeNat ..

/-- No operation stores anything where the capacity is recorded. -/
theorem recordedCapacity_perform (op : Op) (r : Ring) :
    recordedCapacity (perform op r).2.memory = recordedCapacity r.memory := by
  have hout {j : Nat} (hle : capacityAt ≤ j) (hlt : j < capacityAt + 8) :
      j ∉ op.stores r.capacity := by
    simp only [capacityAt] at hle hlt
    have hcircle : j ∉ circle r.capacity := by
      simp only [circle, controlSize, Set.mem_Ico]
      omega
    have hfield {start : Nat} {width : Nat} (h : start + width ≤ 128 ∨ 136 ≤ start) :
        j ∉ Set.Ico start (start + width) := by
      simp only [Set.mem_Ico]
      omega
    cases op with
    | write message => exact fun hj => hj.elim (hfield (.inl (by decide))) hcircle
    | readInto room => exact hfield (.inl (by decide))
    | read => exact hfield (.inl (by decide))
    | peek => exact Set.notMem_empty j
    | claimWriter process => exact hfield (.inr (by decide))
    | claimReader process => exact hfield (.inr (by decide))
  -- the field of the capacity lies in no part of the region that an operation stores in
  have hload : (perform op r).2.memory.load capacityAt 8 = r.memory.load capacityAt 8 :=
    Memory.load_congr fun j hle hlt =>
      (confined_onMemory op r.capacity).keeps r.memory (hout hle hlt)
  rw [recordedCapacity, Memory.loadNat, hload, ← Memory.loadNat, ← recordedCapacity]

theorem recordedCapacity_resetCursors (m : Memory) :
    recordedCapacity (resetCursors m) = recordedCapacity m := by
  simp only [recordedCapacity, resetCursors]
  rw [Memory.loadNat_storeNat_of_disjoint _ _ _ _ _ _ (by decide),
    Memory.loadNat_storeNat_of_disjoint _ _ _ _ _ _ (by decide),
    Memory.loadNat_storeNat_of_disjoint _ _ _ _ _ _ (by decide),
    Memory.loadNat_storeNat_of_disjoint _ _ _ _ _ _ (by decide)]

theorem recordedCapacity_publishCapacity (m : Memory) {capacity : Nat}
    (h : capacity ≤ maxCapacity) :
    recordedCapacity (publishCapacity m capacity) = capacity := by
  have hlt : capacity < Nat.pow 256 8 := Nat.lt_of_le_of_lt h (by decide)
  rw [recordedCapacity, publishCapacity, Memory.loadNat_storeNat, Nat.mod_eq_of_lt hlt]

/-- Whatever was done with a new ring, it has its capacity and records it, and lies in a segment of
its size. -/
theorem performed_new {capacity : Nat} (h : capacity ≤ maxCapacity) (ops : List Op) :
    (performed ops (new capacity)).capacity = capacity ∧
      recordedCapacity (performed ops (new capacity)).memory = capacity ∧
      (performed ops (new capacity)).memory.size = controlSize + capacity := by
  induction ops using List.reverseRecOn with
  | nil =>
      refine ⟨rfl, recordedCapacity_publishCapacity _ h, ?_⟩
      simp only [performed, new, List.foldl_nil, publishCapacity, resetCursors, size_storeNat,
        Memory.zeroed]
  | append_singleton ops op ih =>
      rw [performed_concat, capacity_perform, recordedCapacity_perform, size_perform]
      exact ih

/-! ## The race -/

namespace Opening

/-- The segment that an opener has made. -/
def made? : Opening → Option Nat
  | named id | sized id | zeroed id | cursorsStored id => some id
  | finished (.ok h) => if h.created then some h.segment else none
  | start | taken | attached _ | mapped .. | finished (.error _) => none

/-- The ring that an opener has in hand. -/
def handle? : Opening → Option Handle
  | finished (.ok h) => some h
  | _ => none

theorem handle?_eq_some {o : Opening} {h : Handle} :
    o.handle? = some h ↔ o = finished (.ok h) := by
  cases o with
  | finished outcome =>
      cases outcome with
      | ok h' => simp [handle?]
      | error e => simp [handle?]
  | _ => simp [handle?]

end Opening

/-- Openers of one name, the memory they share, and what was done so far with the ring that they
opened, through whichever handle. -/
structure Race (ι : Type) where
  openers : ι → Opening
  memory : SharedMemory
  ops : List Op

namespace Race

/-- What happens: an opener takes its next step, or someone who has the ring open works on it. -/
inductive Act (ι : Type) where
  | advance (i : ι)
  | work (i : ι) (op : Op)
  deriving DecidableEq, Repr

variable {ι : Type}

/-- Nobody has taken a step. -/
def begin (s : SharedMemory) : Race ι := ⟨fun _ => .start, s, []⟩

variable [DecidableEq ι]

/-- What an act makes of a race. -/
def step (name : String) (capacity : Nat) (w : Race ι) : Act ι → Race ι
  | .advance i =>
    let next := (w.openers i).step name capacity w.memory
    { w with openers := Function.update w.openers i next.1, memory := next.2 }
  | .work i op =>
    match (w.openers i).handle? with
    | none => w
    | some h => { w with memory := (h.work w.memory (perform op)).2, ops := w.ops ++ [op] }

/-- Acts one after another. -/
def run (name : String) (capacity : Nat) (w : Race ι) (acts : List (Act ι)) : Race ι :=
  acts.foldl (step name capacity) w

variable {s₀ : SharedMemory} {name : String} {capacity : Nat} {w : Race ι}

/-- How far the creator of a segment has come, and what the segment holds then. -/
def Building (id capacity : Nat) (ops : List Op) : Opening → Memory → Prop
  | .named id', m => id' = id ∧ m = .zeroed 0 ∧ ops = []
  | .sized id', m | .zeroed id', m => id' = id ∧ m = .zeroed (controlSize + capacity) ∧ ops = []
  | .cursorsStored id', m =>
    id' = id ∧ m = resetCursors (.zeroed (controlSize + capacity)) ∧ ops = []
  | .finished (.ok h), m =>
    h = ⟨id, capacity, true⟩ ∧ m = (performed ops (new capacity)).memory
  | .start, _ | .taken, _ | .attached _, _ | .mapped .., _ | .finished (.error _), _ => False

/-- How far another opener has come; the creator may have ended or not. -/
def Following (name : String) (id capacity : Nat) (ended : Prop) : Opening → Prop
  | .start | .taken => True
  | .attached id' => id' = id
  | .mapped id' size => id' = id ∧ size = controlSize + capacity
  | .finished (.ok h) => h = ⟨id, capacity, false⟩ ∧ ended
  | .finished (.error e) => e = .notInitialized name
  | .named _ | .sized _ | .zeroed _ | .cursorsStored _ => False

theorem Following.mono {id : Nat} {ended ended' : Prop} {o : Opening}
    (h : Following name id capacity ended o) (himp : ended → ended') :
    Following name id capacity ended' o := by
  cases o with
  | finished outcome =>
      cases outcome with
      | ok h' => exact ⟨h.1, himp h.2⟩
      | error e => exact h
  | _ => exact h

/-- The creator has the ring in hand. -/
def Ended (id capacity : Nat) (o : Opening) : Prop := o = .finished (.ok ⟨id, capacity, true⟩)

/-- A race with a creator, the segment of which holds `m`. -/
structure Led (s₀ : SharedMemory) (name : String) (capacity : Nat) (w : Race ι) (c : ι)
    (m : Memory) : Prop where
  memory_eq : w.memory = s₀.withNamed name m
  building : Building s₀.segments.size capacity w.ops (w.openers c) m
  following : ∀ j ≠ c,
    Following name s₀.segments.size capacity (Ended s₀.segments.size capacity (w.openers c))
      (w.openers j)

/-- Nobody has taken a step, or there is a creator. -/
def Sound (s₀ : SharedMemory) (name : String) (capacity : Nat) (w : Race ι) : Prop :=
  w = begin s₀ ∨ ∃ c m, w.Led s₀ name capacity c m

/-! ### Steps of the creator and of the others

Both are about the memory `s₀.withNamed name m`, in which the one segment holds `m`. The creator's
lemma says what `m` becomes, and the others' that it stays.
-/

section Steps

variable {id : Nat} {ops : List Op} {o : Opening} {m : Memory}

/-- No capacity is recorded as long as the creator is not done. -/
theorem Building.found (hcapacity : capacity ≤ maxCapacity) (h : Building id capacity ops o m) :
    (¬ Ended id capacity o ∧ recordedCapacity m = 0 ∧
        (m.size = 0 ∨ m.size = controlSize + capacity)) ∨
      (Ended id capacity o ∧ recordedCapacity m = capacity ∧ m.size = controlSize + capacity) := by
  cases o with
  | named id' =>
      obtain ⟨-, rfl, -⟩ := h
      exact .inl ⟨by simp [Ended], recordedCapacity_zeroed 0, .inl rfl⟩
  | sized id' | zeroed id' =>
      obtain ⟨-, rfl, -⟩ := h
      exact .inl ⟨by simp [Ended], recordedCapacity_zeroed _, .inr rfl⟩
  | cursorsStored id' =>
      obtain ⟨-, rfl, -⟩ := h
      refine .inl ⟨by simp [Ended], ?_, .inr ?_⟩
      · rw [recordedCapacity_resetCursors, recordedCapacity_zeroed]
      · simp only [resetCursors, size_storeNat, Memory.zeroed]
  | finished outcome =>
      cases outcome with
      | error e => exact h.elim
      | ok h' =>
          obtain ⟨rfl, rfl⟩ := h
          obtain ⟨-, hrecorded, hsize⟩ := performed_new hcapacity ops
          exact .inr ⟨rfl, hrecorded, hsize⟩
  | start | taken | attached _ | mapped _ _ => exact h.elim

theorem Building.made? (h : Building id capacity ops o m) : o.made? = some id := by
  cases o with
  | named id' | sized id' | zeroed id' | cursorsStored id' =>
      obtain ⟨rfl, -⟩ := h
      rfl
  | finished outcome =>
      cases outcome with
      | error e => exact h.elim
      | ok h' =>
          obtain ⟨rfl, -⟩ := h
          rfl
  | start | taken | attached _ | mapped _ _ => exact h.elim

theorem Following.made? {ended : Prop} (h : Following name id capacity ended o) :
    o.made? = none := by
  cases o with
  | finished outcome =>
      cases outcome with
      | error e => rfl
      | ok h' =>
          obtain ⟨rfl, -⟩ := h
          rfl
  | start | taken | attached _ | mapped _ _ => rfl
  | named _ | sized _ | zeroed _ | cursorsStored _ => exact h.elim

/-- A step of the creator changes its segment and nothing else, and none at all when it is done. -/
theorem Building.step (hserves : s₀.Serves name)
    (h : Building s₀.segments.size capacity ops o m) :
    ∃ o' m', o.step name capacity (s₀.withNamed name m) = (o', s₀.withNamed name m') ∧
      Building s₀.segments.size capacity ops o' m' ∧
      (Ended s₀.segments.size capacity o → o' = o ∧ m' = m) := by
  have hmodify := s₀.modify_withNamed name m
  cases o with
  | named id' =>
      obtain ⟨rfl, rfl, hops⟩ := h
      refine ⟨.sized _, .zeroed (controlSize + capacity), ?_, ⟨rfl, rfl, hops⟩, by simp [Ended]⟩
      rw [Opening.step, (hserves.withNamed _).resize_eq, hmodify]
      rfl
  | sized id' =>
      obtain ⟨rfl, rfl, hops⟩ := h
      refine ⟨.zeroed _, .zeroed (controlSize + capacity), ?_, ⟨rfl, rfl, hops⟩, by simp [Ended]⟩
      rw [Opening.step, (hserves.withNamed _).map_eq]
      simp only [hmodify]
      rfl
  | zeroed id' =>
      obtain ⟨rfl, rfl, hops⟩ := h
      refine ⟨.cursorsStored _, _, ?_, ⟨rfl, rfl, hops⟩, by simp [Ended]⟩
      rw [Opening.step, hmodify]
  | cursorsStored id' =>
      obtain ⟨rfl, rfl, rfl⟩ := h
      refine ⟨.finished (.ok ⟨_, capacity, true⟩), (new capacity).memory, ?_, ⟨rfl, rfl⟩,
        by simp [Ended]⟩
      rw [Opening.step, hmodify]
      rfl
  | finished outcome => exact ⟨_, m, rfl, h, fun _ => ⟨rfl, rfl⟩⟩
  | start | taken | attached _ | mapped _ _ => exact h.elim

/-- A step of another opener changes nothing. -/
theorem Following.step {f : Opening} (hserves : s₀.Serves name)
    (hcapacity : 0 < capacity ∧ capacity ≤ maxCapacity)
    (hbuilding : Building s₀.segments.size capacity ops o m)
    (h : Following name s₀.segments.size capacity (Ended s₀.segments.size capacity o) f) :
    ∃ f', f.step name capacity (s₀.withNamed name m) = (f', s₀.withNamed name m) ∧
      Following name s₀.segments.size capacity (Ended s₀.segments.size capacity o) f' := by
  have hserves' := hserves.withNamed m
  have hbound := s₀.lookup?_withNamed_self name m
  have hfound := hbuilding.found hcapacity.2
  cases f with
  | start => exact ⟨_, Opening.step_start_of_bound hserves' hbound, trivial⟩
  | taken => exact ⟨_, Opening.step_taken_of_bound hserves' hbound, rfl⟩
  | attached id' =>
      obtain rfl : id' = s₀.segments.size := h
      refine ⟨_, Opening.step_attached hserves', ?_⟩
      rw [SharedMemory.segment_withNamed]
      split
      · rfl
      next hsize =>
        refine ⟨rfl, ?_⟩
        -- the size is not zero any more, so it is the full one
        obtain ⟨-, -, hnone | hall⟩ | ⟨-, -, hall⟩ := hfound
        · exact absurd hnone hsize
        · exact hall
        · exact hall
  | mapped id' size =>
      obtain ⟨rfl, rfl⟩ := h
      refine ⟨_, rfl, ?_⟩
      rw [SharedMemory.segment_withNamed]
      -- too early, there is no capacity yet; later, it is the one that is asked for
      obtain ⟨-, hzero, -⟩ | ⟨hended, hrecorded, -⟩ := hfound
      · rw [hzero, Opening.judge_zero]
        rfl
      · have hfits : ¬ (controlSize + capacity < controlSize ∨ capacity = 0 ∨
            controlSize + capacity < Opening.neededSize capacity) := by
          rw [Opening.neededSize_of_le hcapacity.2]
          omega
        rw [hrecorded, Opening.judge_of_match hfits]
        exact ⟨rfl, hended⟩
  | finished outcome => exact ⟨_, rfl, h⟩
  | named _ | sized _ | zeroed _ | cursorsStored _ => exact h.elim

end Steps

/-! ### Acts -/

variable {c : ι} {m : Memory}

/-- Whoever has the ring in hand has it from a creator that is done, and sees what the operations so
far have made of a new ring. -/
theorem Led.of_finished (hcapacity : capacity ≤ maxCapacity) (hw : w.Led s₀ name capacity c m)
    {i : ι} {h : Handle} (hi : w.openers i = .finished (.ok h)) :
    h.segment = s₀.segments.size ∧ Ended s₀.segments.size capacity (w.openers c) ∧
      h.ring w.memory = performed w.ops (new capacity) := by
  have hended : h.segment = s₀.segments.size ∧ h.capacity = capacity ∧
      Ended s₀.segments.size capacity (w.openers c) := by
    -- the creator's handle is its own, and anyone else has one only from a creator that is done
    by_cases hic : i = c
    · subst hic
      have hbuilding := hw.building
      rw [hi] at hbuilding ⊢
      obtain ⟨rfl, -⟩ := hbuilding
      exact ⟨rfl, rfl, rfl⟩
    · have hfollowing := hw.following i hic
      rw [hi] at hfollowing
      obtain ⟨rfl, hended⟩ := hfollowing
      exact ⟨rfl, rfl, hended⟩
  obtain ⟨hsegment, hring, hc⟩ := hended
  have hbuilding := hw.building
  rw [hc] at hbuilding
  obtain ⟨-, rfl⟩ := hbuilding
  refine ⟨hsegment, hc, ?_⟩
  have hperformed := (performed_new hcapacity w.ops).1
  rw [Handle.ring, hsegment, hring, hw.memory_eq, SharedMemory.segment_withNamed]
  generalize performed w.ops (new capacity) = r at hperformed ⊢
  subst hperformed
  rfl

theorem step_advance {i : ι} {o : Opening} {s : SharedMemory}
    (hstep : (w.openers i).step name capacity w.memory = (o, s)) :
    w.step name capacity (.advance i) = ⟨Function.update w.openers i o, s, w.ops⟩ := by
  simp only [step, hstep]

theorem Led.advance (hserves : s₀.Serves name) (hcapacity : 0 < capacity ∧ capacity ≤ maxCapacity)
    (hw : w.Led s₀ name capacity c m) (i : ι) :
    ∃ m', (w.step name capacity (.advance i)).Led s₀ name capacity c m' ∧
      (Ended s₀.segments.size capacity (w.openers c) → m' = m) := by
  obtain ⟨hmemory, hbuilding, hfollowing⟩ := hw
  by_cases hic : i = c
  · -- the creator: the others see its segment change, and nothing at all once it is done
    subst hic
    obtain ⟨o', m', hstep, hbuilding', hended⟩ := hbuilding.step hserves
    rw [← hmemory] at hstep
    rw [step_advance hstep]
    refine ⟨m', ⟨rfl, ?_, fun j hj => ?_⟩, fun h => (hended h).2⟩
    · simpa only [Function.update_self] using hbuilding'
    · simp only [Function.update_self, Function.update_of_ne hj]
      exact (hfollowing j hj).mono fun h => (hended h).1 ▸ h
  · -- another opener: the memory stays as it is
    obtain ⟨f', hstep, hfollowing'⟩ := (hfollowing i hic).step hserves hcapacity hbuilding
    rw [← hmemory] at hstep
    rw [step_advance hstep]
    refine ⟨m, ⟨hmemory, ?_, fun j hj => ?_⟩, fun _ => rfl⟩
    · simpa only [Function.update_of_ne (Ne.symm hic)] using hbuilding
    · simp only [Function.update_of_ne (Ne.symm hic)]
      by_cases hji : j = i
      · subst hji
        simpa only [Function.update_self] using hfollowing'
      · simpa only [Function.update_of_ne hji] using hfollowing j hj

/-- Work on the ring is the next of the operations. -/
theorem Led.work (hcapacity : capacity ≤ maxCapacity) (hw : w.Led s₀ name capacity c m) (i : ι)
    (op : Op) : ∃ m', (w.step name capacity (.work i op)).Led s₀ name capacity c m' := by
  simp only [step]
  split
  next => exact ⟨m, hw⟩
  next h hhandle =>
    obtain ⟨hsegment, hc, hring⟩ := hw.of_finished hcapacity (Opening.handle?_eq_some.1 hhandle)
    refine ⟨(performed (w.ops ++ [op]) (new capacity)).memory, ⟨?_, ?_, hw.following⟩⟩
    · rw [Handle.work_eq, hring, ← performed_concat, Handle.put, hsegment, hw.memory_eq,
        SharedMemory.modify_withNamed]
    · rw [hc]
      exact ⟨rfl, rfl⟩

/-- The first step binds the name, and whoever takes it is the creator. -/
theorem sound_advance_begin (hfree : s₀.Vacant name) (i : ι) :
    ((begin s₀).step name capacity (.advance i)).Led s₀ name capacity i (.zeroed 0) := by
  have hstep : Opening.step name capacity .start s₀
      = (.named s₀.segments.size, s₀.withNamed name (.zeroed 0)) := by
    rw [Opening.step, SharedMemory.createExclusive_of_vacant hfree]
  rw [step_advance hstep]
  refine ⟨rfl, ?_, fun j hj => ?_⟩
  · simp only [Function.update_self]
    exact ⟨rfl, rfl, rfl⟩
  · simp only [Function.update_of_ne hj]
    trivial

theorem sound_step (hserves : s₀.Serves name) (hfree : s₀.lookup? name = none)
    (hcapacity : 0 < capacity ∧ capacity ≤ maxCapacity) (hw : w.Sound s₀ name capacity)
    (a : Act ι) : (w.step name capacity a).Sound s₀ name capacity := by
  -- before the first step nobody has a ring to work on
  obtain rfl | ⟨c, m, hw⟩ := hw
  · cases a with
    | advance i => exact .inr ⟨i, _, sound_advance_begin ⟨hserves.refusal, hfree⟩ i⟩
    | work i op => exact .inl rfl
  · cases a with
    | advance i =>
        obtain ⟨m', hw', -⟩ := hw.advance hserves hcapacity i
        exact .inr ⟨c, m', hw'⟩
    | work i op =>
        obtain ⟨m', hw'⟩ := hw.work hcapacity.2 i op
        exact .inr ⟨c, m', hw'⟩

theorem sound_run (hserves : s₀.Serves name) (hfree : s₀.lookup? name = none)
    (hcapacity : 0 < capacity ∧ capacity ≤ maxCapacity) (acts : List (Act ι)) :
    ((begin s₀).run name capacity acts).Sound s₀ name capacity := by
  induction acts using List.reverseRecOn with
  | nil => exact .inl rfl
  | append_singleton acts a ih =>
      rw [run, List.foldl_concat]
      exact sound_step hserves hfree hcapacity ih a

/-! ### Ending

An opening has a number of steps that remain, at most five, and only its own steps use them up. So
whoever took five has ended, whatever the others did in between.
-/

/-- An opener that has taken so many steps has as many less to take. -/
theorem remaining_step_le (name : String) (capacity : Nat) (w : Race ι) (a : Act ι) (i : ι) :
    ((w.step name capacity a).openers i).remaining
      ≤ (w.openers i).remaining - if a = .advance i then 1 else 0 := by
  cases a with
  | advance j =>
      by_cases hji : j = i
      · subst hji
        simp only [step, Function.update_self, if_true]
        rcases Nat.eq_zero_or_pos (w.openers j).remaining with hzero | hpos
        · cases ho : w.openers j with
          | finished outcome => exact Nat.zero_le _
          | _ => simp [ho, Opening.remaining] at hzero
        · have hlt := Opening.remaining_step_lt name capacity (w.openers j) w.memory hpos
          omega
      · have hne : ¬ (Act.advance j : Act ι) = .advance i := fun h => hji (by injection h)
        simp only [step, Function.update_of_ne (Ne.symm hji), if_neg hne]
        omega
  | work j op =>
      simp only [step]
      split
      · simp
      · simp

theorem remaining_run_le (name : String) (capacity : Nat) (w : Race ι) (acts : List (Act ι))
    (i : ι) : ((w.run name capacity acts).openers i).remaining
      ≤ (w.openers i).remaining - acts.count (.advance i) := by
  induction acts using List.reverseRecOn with
  | nil => exact Nat.le_refl _
  | append_singleton acts a ih =>
      have hstep := remaining_step_le name capacity (w.run name capacity acts) a i
      have hcount : (acts ++ [a]).count (.advance i)
          = acts.count (.advance i) + if a = .advance i then 1 else 0 := by
        rw [List.count_append, List.count_singleton]
        simp only [beq_iff_eq]
      rw [hcount, run, List.foldl_concat]
      exact Nat.le_trans hstep (by rw [run] at *; omega)

theorem finished_of_remaining_eq_zero {o : Opening} (h : o.remaining = 0) :
    ∃ outcome, o = .finished outcome := by
  cases o with
  | finished outcome => exact ⟨outcome, rfl⟩
  | _ => simp [Opening.remaining] at h

/-! ### One ring comes of it -/

/-- Exactly one opener has made a segment. -/
theorem Led.made?_eq_some_iff (hw : w.Led s₀ name capacity c m) (j : ι) (id : Nat) :
    (w.openers j).made? = some id ↔ j = c ∧ id = s₀.segments.size := by
  by_cases hjc : j = c
  · rw [hjc, hw.building.made?]
    simp [eq_comm]
  · rw [(hw.following j hjc).made?]
    simp [hjc]

omit [DecidableEq ι] in
/-- What the creator's call can end with, and what the calls of the others can end with. -/
theorem Led.outcomes (hw : w.Led s₀ name capacity c m) :
    (∀ outcome, w.openers c = .finished outcome →
      outcome = .ok ⟨s₀.segments.size, capacity, true⟩) ∧
    ∀ j ≠ c, ∀ outcome, w.openers j = .finished outcome →
      outcome = .error (.notInitialized name) ∨
      outcome = .ok ⟨s₀.segments.size, capacity, false⟩ ∧
        w.openers c = .finished (.ok ⟨s₀.segments.size, capacity, true⟩) := by
  constructor
  · intro outcome hc
    have hbuilding := hw.building
    rw [hc] at hbuilding
    cases outcome with
    | ok h => exact congrArg _ hbuilding.1
    | error e => exact hbuilding.elim
  · intro j hj outcome hfinished
    have hfollowing := hw.following j hj
    rw [hfinished] at hfollowing
    cases outcome with
    | ok h => exact .inr ⟨congrArg _ hfollowing.1, hfollowing.2⟩
    | error e => exact .inl (congrArg _ hfollowing)

/-- **The race for a new ring is benign.** As soon as anyone has taken a step, there is one new
segment, the name is bound to it, and exactly one opener has made it; that one's call does not fail.
The call of any other ends with a ring that is not initialised, or it attaches, which the creator
was done before. Whoever has the ring in hand sees what the operations so far have made of a new
one, whose cursors are zero and whose capacity is recorded; and no opener, the creator included,
changes anything any more. Every call ends after five steps at most. -/
theorem creation_race_is_benign (hcapacity : 8 ≤ capacity ∧ capacity ≤ 4294967295)
    (hserves : s₀.Serves name) (hfree : s₀.lookup? name = none) (acts : List (Act ι)) :
    let w := (begin s₀).run name capacity acts
    let id := s₀.segments.size
    ((∃ i, w.openers i ≠ .start) →
      w.memory.lookup? name = some id ∧ w.memory.segments.size = id + 1 ∧
      ∃ c, (∀ j id', (w.openers j).made? = some id' ↔ j = c ∧ id' = id) ∧
        (∀ outcome, w.openers c = .finished outcome → outcome = .ok ⟨id, capacity, true⟩) ∧
        ∀ j ≠ c, ∀ outcome, w.openers j = .finished outcome →
          outcome = .error (.notInitialized name) ∨
          outcome = .ok ⟨id, capacity, false⟩ ∧
            w.openers c = .finished (.ok ⟨id, capacity, true⟩)) ∧
    (∀ j h, w.openers j = .finished (.ok h) →
      (∃ r, create capacity = .ok r ∧ writeCursor r.memory = 0 ∧ readCursor r.memory = 0 ∧
        recordedCapacity r.memory = capacity ∧ h.ring w.memory = performed w.ops r) ∧
      ∀ i, (w.step name capacity (.advance i)).memory = w.memory) ∧
    ∀ i, 5 ≤ acts.count (.advance i) → ∃ outcome, w.openers i = .finished outcome := by
  intro w id
  have hbounds : 0 < capacity ∧ capacity ≤ maxCapacity := ⟨by omega, hcapacity.2⟩
  have hcheck : checkCapacity capacity = .ok () := checkCapacity_eq_ok.2 hcapacity
  have hsound : w.Sound s₀ name capacity := sound_run hserves hfree hbounds acts
  refine ⟨?_, ?_, fun i hfive => ?_⟩
  · rintro ⟨i, hi⟩
    obtain hw | ⟨c, m, hw⟩ := hsound
    · exact absurd (congrArg (·.openers i) hw) hi
    · rw [hw.memory_eq]
      exact ⟨s₀.lookup?_withNamed_self name m, s₀.size_withNamed name m, c,
        hw.made?_eq_some_iff, hw.outcomes⟩
  · intro j h hj
    obtain hw | ⟨c, m, hw⟩ := hsound
    · have hstart : w.openers j = .start := congrArg (·.openers j) hw
      rw [hstart] at hj
      cases hj
    · obtain ⟨-, hc, hring⟩ := hw.of_finished hbounds.2 hj
      have hnew : create capacity = .ok (new capacity) := by
        rw [create, hcheck]
        rfl
      obtain ⟨-, hcarries⟩ := create_eq_ok hnew
      refine ⟨⟨new capacity, hnew, hcarries.writeCursor, hcarries.readCursor,
        recordedCapacity_publishCapacity _ hbounds.2, hring⟩, fun i => ?_⟩
      obtain ⟨m', hw', hsame⟩ := hw.advance hserves hbounds i
      rw [hw'.memory_eq, hw.memory_eq, hsame hc]
  · have hle : (w.openers i).remaining ≤ 5 - acts.count (.advance i) :=
      remaining_run_le name capacity (begin s₀) acts i
    exact finished_of_remaining_eq_zero (by omega)

/-- The second opener comes too early to find a ring. The third finds the segment sized and mapped,
and loads the capacity right after the creator has recorded it. -/
theorem early_opener_finds_no_ring :
    let acts : List (Act (Fin 3)) := [.advance 0, .advance 1, .advance 1, .advance 1, .advance 0,
      .advance 0, .advance 2, .advance 2, .advance 2, .advance 0, .advance 0, .advance 2,
      .work 2 (.write [7]), .advance 0, .advance 2, .work 0 .read, .advance 1, .advance 1]
    let w := (begin .empty).run "/ring" 8 acts
    (8 ≤ 8 ∧ 8 ≤ 4294967295) ∧ SharedMemory.empty.Serves "/ring" ∧
      SharedMemory.empty.lookup? "/ring" = none ∧
      w.openers 0 = .finished (.ok ⟨0, 8, true⟩) ∧
      w.openers 1 = .finished (.error (.notInitialized "/ring")) ∧
      w.openers 2 = .finished (.ok ⟨0, 8, false⟩) ∧
      ∀ h, w.openers 2 = .finished (.ok h) →
        (∃ r, create 8 = .ok r ∧ writeCursor r.memory = 0 ∧ readCursor r.memory = 0 ∧
          recordedCapacity r.memory = 8 ∧ h.ring w.memory = performed [.write [7], .read] r) ∧
        ∀ i, (w.step "/ring" 8 (.advance i)).memory = w.memory := by
  intro acts w
  have hserves : SharedMemory.empty.Serves "/ring" := ⟨rfl, fun _ => rfl⟩
  have hops : w.ops = [.write [7], .read] := by cbv
  obtain ⟨-, hring, -⟩ :=
    creation_race_is_benign (show 8 ≤ 8 ∧ 8 ≤ 4294967295 by decide) hserves rfl acts
  refine ⟨by decide, hserves, rfl, by cbv, by cbv, by cbv, fun h hh => ?_⟩
  rw [← hops]
  exact hring 2 h hh

end Race

end Ring

end Telemetry
