import Mathlib.Data.Set.Function
import Telemetry.Proofs.Ring.Accesses

/-!
# Rings in hostile memory

Whoever can map the region of a ring can store anything there: cursors that no ring could come to,
lengths that nothing was written behind, bytes of any kind. An operation stays within the control
block and the circle all the same (`Confined`): it stores nothing anywhere else, and nothing
anywhere else has a part in what it replies and stores. Every step of a read or a write is confined
as long as what it has found so far fits in the circle, and what it has found so far always does
(`Reading.confined_run`, `Writing.confined_run`). Beyond that, an operation that fails changes
nothing, one that takes a message takes no more than is unread, and one that writes a message
writes no more than is free (`operations_stay_within_the_ring`).

## How the proof goes

Confinement is about two memories that agree in the region: an operation replies the same in both
and leaves them agreeing. It passes from one step to the next (`Confined.andThen`), and through a
run for as long as an invariant of its states holds (`Confined.steps`). `Reading.Fits` and
`Writing.Fits` are those invariants. They are what the checks of a read and of a write are for: a
length that is loaded is only followed where it lies in what is unread, which is cut to the
capacity, whatever the cursors say.

That every single load stays in the region, and not only those that show, is a matter of the loads
themselves: `Telemetry.Proofs.Ring.Accesses` writes the operations out as loads and stores.
-/

namespace Telemetry.Ring

/-! ## Confinement -/

/-- An operation on memory that looks nowhere but at some positions, and stores nowhere but at
some. -/
structure Confined {α : Type} (looks stores : Set Nat) (op : Memory → α × Memory) : Prop where
  keeps : ∀ m, Set.EqOn (op m).2.get m.get storesᶜ
  blind : ∀ m m', Set.EqOn m.get m'.get looks →
    (op m).1 = (op m').1 ∧ Set.EqOn (op m).2.get (op m').2.get looks

namespace Confined

variable {α β σ : Type} {looks stores : Set Nat} {op : Memory → α × Memory}

/-- An operation that stores nothing has only to reply the same. -/
theorem of_still (hstill : ∀ m, (op m).2 = m)
    (hblind : ∀ m m', Set.EqOn m.get m'.get looks → (op m).1 = (op m').1) :
    Confined looks stores op := by
  constructor
  · intro m j _
    rw [hstill]
  · intro m m' h
    rw [hstill, hstill]
    exact ⟨hblind m m' h, h⟩

/-- A store of the same bytes at the same place in every memory. -/
theorem store {start : Nat} {bs : Bytes} (h : Set.Ico start (start + bs.length) ⊆ stores) (a : α) :
    Confined looks stores fun m => (a, m.store start bs) := by
  constructor
  · intro m j hj
    have hout : ¬ (start ≤ j ∧ j < start + bs.length) := fun hin => hj (h hin)
    rw [Memory.get_store, if_neg hout]
  · intro m m' hsame
    refine ⟨rfl, fun j hj => ?_⟩
    rw [Memory.get_store, Memory.get_store, hsame hj]

/-- An operation, and another one that its reply leads to. -/
theorem andThen (h : Confined looks stores op) (next : α → Memory → β × Memory)
    (hnext : ∀ m, Confined looks stores (next (op m).1)) :
    Confined looks stores fun m => next (op m).1 (op m).2 := by
  constructor
  · intro m j hj
    exact ((hnext m).keeps _ hj).trans (h.keeps m hj)
  · intro m m' hsame
    obtain ⟨hreply, hafter⟩ := h.blind m m' hsame
    rw [← hreply]
    exact (hnext m).blind _ _ hafter

theorem map (h : Confined looks stores op) (f : α → β) :
    Confined looks stores fun m => (f (op m).1, (op m).2) :=
  h.andThen (fun a m => (f a, m)) fun _ => of_still (fun _ => rfl) fun _ _ _ => rfl

/-- Steps until nothing remains, each of which is confined as long as an invariant holds. -/
theorem steps (step : σ → Memory → σ × Memory) {run : σ → Memory → α × Memory}
    (remaining : σ → Nat) {Inv : σ → Prop}
    (hend : ∀ s, remaining s = 0 → ∃ a, ∀ m, run s m = (a, m))
    (hrun : ∀ s m, 0 < remaining s → run s m = run (step s m).1 (step s m).2)
    (hlt : ∀ s m, 0 < remaining s → remaining (step s m).1 < remaining s)
    (hstep : ∀ s, Inv s → Confined looks stores (step s) ∧ ∀ m, Inv (step s m).1)
    (s : σ) (hs : Inv s) : Confined looks stores (run s) := by
  -- the next state depends on the memory, so the induction is on what remains, for every state
  induction hn : remaining s using Nat.strongRecOn generalizing s with
  | ind n ih =>
      subst hn
      rcases Nat.eq_zero_or_pos (remaining s) with hzero | hpos
      · obtain ⟨a, hend⟩ := hend s hzero
        rw [show run s = fun m => (a, m) from funext hend]
        exact of_still (fun _ => rfl) fun _ _ _ => rfl
      · rw [show run s = fun m => run (step s m).1 (step s m).2 from funext fun m => hrun s m hpos]
        obtain ⟨hconfined, hinv⟩ := hstep s hs
        exact hconfined.andThen run fun m => ih _ (hlt s m hpos) _ (hinv m) rfl

end Confined

/-! ## Parts of operations -/

variable {α : Type} {capacity : Nat} {m m' : Memory}

/-- A number that is stored in the control block. -/
theorem confined_storeNat {looks stores : Set Nat} {start width n : Nat}
    (h : Set.Ico start (start + width) ⊆ stores) (a : α) :
    Confined looks stores fun m => (a, m.storeNat start width n) :=
  .store (by rw [Bytes.length_ofNat]; exact h) a

/-- Bytes that are copied into the circle, wherever a cursor points. -/
theorem confined_copyIn {looks stores : Set Nat} {bs : Bytes} (hfits : bs.length ≤ capacity)
    (hcircle : circle capacity ⊆ stores) (cursor : UInt64) (a : α) :
    Confined looks stores fun m => (a, copyIn capacity m cursor bs) := by
  obtain ⟨hfront, hrest⟩ := parts_subset_circle hfits cursor
  simp only [copyIn, List.splitAt_eq]
  exact (Confined.store (hfront.trans hcircle) a).andThen (fun a m => (a, m.store controlSize _))
    fun _ => .store (hrest.trans hcircle) a

/-- What is copied out of the circle, wherever a cursor points. -/
theorem copyOut_congr (h : Set.EqOn m.get m'.get (region capacity)) {length : Nat}
    (hfits : length ≤ capacity) (cursor : UInt64) :
    copyOut capacity m cursor length = copyOut capacity m' cursor length := by
  have hload {start width : Nat} (hin : Set.Ico start (start + width) ⊆ circle capacity) :
      m.load start width = m'.load start width :=
    Memory.load_congr fun _ hle hlt => h (circle_subset_region (hin ⟨hle, hlt⟩))
  simp only [copyOut]
  rw [hload (front_subset_circle (Nat.min_le_right ..)),
    hload (rest_subset_circle (Nat.le_trans (Nat.sub_le ..) hfits))]

theorem cursors_eq (h : Set.EqOn m.get m'.get (region capacity)) :
    writeCursor m = writeCursor m' ∧ readCursor m = readCursor m' :=
  cursors_congr fun _ hj => h (Nat.lt_of_lt_of_le hj (Nat.le_add_right _ _))

theorem admitLength_congr (h : Set.EqOn m.get m'.get (region capacity))
    (hfits : lengthSize ≤ capacity) (cursor : UInt64) (unread : Nat) :
    admitLength capacity m cursor unread = admitLength capacity m' cursor unread := by
  rw [admitLength, admitLength, copyOut_congr h hfits]

/-! ## Reads -/

/-- What a read has found so far fits in the circle. -/
def Reading.Fits (capacity : Nat) : Reading → Prop
  | .admitted _ unread => lengthSize ≤ unread ∧ unread ≤ capacity
  | .lengthCopied _ length => lengthSize + length ≤ capacity
  | _ => True

namespace Reading

variable {room : Option Nat}

theorem fits_step {s : Reading} (hs : s.Fits capacity) (m : Memory) :
    (step capacity room s m).1.Fits capacity := by
  cases s with
  | start => trivial
  | cursorLoaded cursor =>
      simp only [step]
      -- the memory is any, so all there is to go by is that the check was passed
      cases hunread : admitUnread capacity cursor (writeCursor m) with
      | error e => trivial
      | ok unread => exact admitUnread_le hunread
  | admitted cursor unread =>
      simp only [step]
      cases hlength : admitLength capacity m cursor unread with
      | error e => trivial
      | ok length =>
          -- the length was compared with what is unread, and that was cut to the capacity
          have hle := length_of_admitLength hlength
          obtain ⟨hfour, hcircle⟩ := hs
          dsimp only
          split
          · trivial
          · show lengthSize + length ≤ capacity
            omega
  | lengthCopied cursor length => trivial
  | messageCopied cursor message => trivial
  | finished outcome => trivial

theorem confined_step {s : Reading} (hs : s.Fits capacity) :
    Confined (region capacity) readCursorField (step capacity room s) := by
  cases s with
  | start => exact .of_still (fun _ => rfl) fun m m' h => congrArg cursorLoaded (cursors_eq h).2
  | cursorLoaded cursor =>
      refine .of_still (fun m => ?_) fun m m' h => ?_
      · rw [step]
        split <;> rfl
      · rw [step, step, (cursors_eq h).1]
        split <;> rfl
  | admitted cursor unread =>
      refine .of_still (fun m => ?_) fun m m' h => ?_
      · rw [step]
        split
        · rfl
        · split <;> rfl
      · rw [step, step, admitLength_congr h (Nat.le_trans hs.1 hs.2)]
        split
        · rfl
        · split <;> rfl
  | lengthCopied cursor length =>
      refine .of_still (fun _ => rfl) fun m m' h => ?_
      rw [step, step, copyOut_congr h (Nat.le_trans (Nat.le_add_left ..) hs)]
  | messageCopied cursor message => exact confined_storeNat (Set.Subset.refl _) _
  | finished outcome => exact .of_still (fun _ => rfl) fun _ _ _ => rfl

theorem run_step {s : Reading} (m : Memory) (h : 0 < s.remaining) :
    run capacity room s m
      = run capacity room (step capacity room s m).1 (step capacity room s m).2 := by
  cases s with
  | finished outcome => cases h
  | _ => rw [run]

theorem confined_run (room : Option Nat) (s : Reading) (hs : s.Fits capacity) :
    Confined (region capacity) readCursorField (run capacity room s) := by
  refine Confined.steps (step capacity room) remaining ?_
    (fun _ m h => run_step m h) (fun s m h => remaining_step_lt capacity room s m h)
    (fun s hs => ⟨confined_step hs, fits_step hs⟩) s hs
  intro s hs
  cases s with
  | finished outcome => exact ⟨outcome, fun m => by rw [run]⟩
  | _ => cases hs

end Reading

/-! ## Writes -/

/-- A write that was admitted fits in the circle. -/
def Writing.Fits (capacity : Nat) (message : Bytes) : Writing → Prop
  | .admitted _ | .lengthCopied _ => footprint message ≤ capacity
  | _ => True

namespace Writing

variable {message : Bytes}

theorem fits_step {s : Writing} (hs : s.Fits capacity message) (m : Memory) :
    (step capacity message s m).1.Fits capacity message := by
  cases s with
  | start =>
      simp only [step]
      split <;> trivial
  | cursorLoaded cursor =>
      simp only [step]
      split
      · trivial
      · show footprint message ≤ capacity
        omega
  | admitted cursor => exact hs
  | lengthCopied cursor => trivial
  | messageCopied cursor => trivial
  | finished outcome => trivial

theorem confined_step {s : Writing} (hs : s.Fits capacity message) :
    Confined (region capacity) (writeCursorField ∪ circle capacity) (step capacity message s) := by
  cases s with
  | start =>
      refine .of_still (fun m => ?_) fun m m' h => ?_
      · rw [step]
        split <;> rfl
      · rw [step, step, (cursors_eq h).1]
        split <;> rfl
  | cursorLoaded cursor =>
      refine .of_still (fun m => ?_) fun m m' h => ?_
      · simp only [step]
        split <;> rfl
      · simp only [step, (cursors_eq h).2]
        split <;> rfl
  | admitted cursor =>
      refine confined_copyIn ?_ (Set.subset_union_right) cursor _
      rw [Bytes.length_ofNat]
      exact Nat.le_trans (Nat.le_add_left ..) hs
  | lengthCopied cursor =>
      exact confined_copyIn (Nat.le_trans (Nat.le_add_right ..) hs) Set.subset_union_right _ _
  | messageCopied cursor => exact confined_storeNat Set.subset_union_left _
  | finished outcome => exact .of_still (fun _ => rfl) fun _ _ _ => rfl

theorem run_step {s : Writing} (m : Memory) (h : 0 < s.remaining) :
    run capacity message s m
      = run capacity message (step capacity message s m).1 (step capacity message s m).2 := by
  cases s with
  | finished outcome => cases h
  | _ => rw [run]

theorem confined_run (message : Bytes) (s : Writing) (hs : s.Fits capacity message) :
    Confined (region capacity) (writeCursorField ∪ circle capacity) (run capacity message s) := by
  refine Confined.steps (step capacity message) remaining ?_
    (fun _ m h => run_step m h) (fun s m h => remaining_step_lt capacity message s m h)
    (fun s hs => ⟨confined_step hs, fits_step hs⟩) s hs
  intro s hs
  cases s with
  | finished outcome => exact ⟨outcome, fun m => by rw [run]⟩
  | _ => cases hs

end Writing

/-! ## Whole operations -/

theorem peek_congr (h : Set.EqOn m.get m'.get (region capacity)) :
    peek ⟨capacity, m⟩ = peek ⟨capacity, m'⟩ := by
  simp only [peek, bind, Except.bind, cursors_eq h]
  cases hunread : admitUnread capacity (readCursor m') (writeCursor m') with
  | error e => rfl
  | ok unread =>
      obtain ⟨hfour, hcircle⟩ := admitUnread_le hunread
      exact admitLength_congr h (Nat.le_trans hfour hcircle) _ unread

theorem confined_onMemory (op : Op) (capacity : Nat) :
    Confined (region capacity) (op.stores capacity) (op.onMemory capacity) := by
  cases op with
  | write message =>
      exact (Writing.confined_run message .start trivial).map
        (Except.map fun _ => Reply.done)
  | readInto room =>
      exact (Reading.confined_run (some room) .start trivial).map (Except.map Reply.message)
  | read =>
      exact (Reading.confined_run none .start trivial).map (Except.map Reply.message)
  | peek =>
      refine .of_still (fun _ => rfl) fun m m' h => ?_
      rw [Op.onMemory, Op.onMemory, perform, perform, peek_congr h]
  | claimWriter process => exact confined_storeNat (Set.Subset.refl _) (Except.ok Reply.done)
  | claimReader process => exact confined_storeNat (Set.Subset.refl _) (Except.ok Reply.done)

/-- A message was taken: it was unread and fits in the circle with its length, and the read cursor
has come as much closer to the write cursor. -/
structure Took (r : Ring) (message : Bytes) (r' : Ring) : Prop where
  unread : footprint message ≤ min r.backlog r.capacity
  readCursor_eq :
    readCursor r'.memory = readCursor r.memory + UInt64.ofNat (footprint message)
  writeCursor_eq : writeCursor r'.memory = writeCursor r.memory
  backlog_eq : r'.backlog + footprint message = r.backlog

theorem read_cases (r : Ring) (room : Option Nat) :
    (∃ e, Reading.run r.capacity room .start r.memory = (.error e, r.memory)) ∨
    ∃ message memory, Reading.run r.capacity room .start r.memory = (.ok message, memory) ∧
      r.Took message { r with memory } ∧ ∀ n ∈ room, message.length ≤ n := by
  rcases Reading.run_start_cases r.capacity room r.memory with h | ⟨message, hrun, hunread, hroom⟩
  · exact .inl h
  · rw [Nat.add_comm lengthSize] at hrun hunread
    refine .inr ⟨message, _, hrun, ⟨hunread, ?_, ?_, ?_⟩, hroom⟩
    · exact readCursor_setReadCursor ..
    · exact writeCursor_setReadCursor ..
    · exact backlog_setReadCursor (Nat.le_trans hunread (Nat.min_le_left ..))

theorem write_cases (r : Ring) (message : Bytes) :
    (∃ e, r.write message = (.error e, r)) ∨
    ((r.write message).1 = .ok () ∧ r.backlog + footprint message ≤ r.capacity) := by
  rw [write, Writing.run_start]
  by_cases hlong : r.capacity / 2 < message.length
  · rw [if_pos hlong]
    exact .inl ⟨_, rfl⟩
  · by_cases hfull : r.capacity - unreadBetween r.capacity (readCursor r.memory)
        (writeCursor r.memory) < footprint message
    · simp only [if_neg hlong, if_pos hfull]
      exact .inl ⟨_, rfl⟩
    · simp only [if_neg hlong, if_neg hfull]
      refine .inr ⟨trivial, ?_⟩
      -- some room is left, so what is unread was not cut to the capacity
      have hsize : 0 < footprint message := Nat.succ_pos _
      have hunread : unreadBetween r.capacity (readCursor r.memory) (writeCursor r.memory)
          = min r.backlog r.capacity := rfl
      omega

theorem length_of_peek {r : Ring} {n : Nat} (h : r.peek = .ok n) :
    n + lengthSize ≤ min r.backlog r.capacity := by
  simp only [peek, bind, Except.bind] at h
  cases hunread : admitUnread r.capacity (readCursor r.memory) (writeCursor r.memory) with
  | error e => simp [hunread] at h
  | ok unread =>
      rw [hunread] at h
      have hle := length_of_admitLength h
      obtain ⟨hfour, heq⟩ := admitUnread_eq_ok hunread
      rw [show min r.backlog r.capacity = unread from heq.symm]
      omega

/-- An operation fails and leaves everything as it is, takes a message, tells a length, or is
done. -/
theorem perform_cases (r : Ring) (op : Op) :
    (∃ e, perform op r = (.error e, r)) ∨
    (∃ message r', perform op r = (.ok (.message message), r') ∧ r.Took message r' ∧
      ∀ room, op = .readInto room → message.length ≤ room) ∨
    (∃ n, perform op r = (.ok (.length n), r) ∧ n + lengthSize ≤ min r.backlog r.capacity) ∨
    (∃ r', perform op r = (.ok .done, r') ∧
      ∀ message, op = .write message → r.backlog + footprint message ≤ r.capacity) := by
  cases op with
  | write message =>
      rcases r.write_cases message with ⟨e, hwrite⟩ | ⟨hdone, hfits⟩
      · exact .inl ⟨e, by rw [perform, hwrite]; rfl⟩
      · refine .inr (.inr (.inr ⟨_, by rw [perform, hdone]; rfl, ?_⟩))
        rintro _ ⟨⟩
        exact hfits
  | readInto room =>
      rcases r.read_cases (some room) with ⟨e, hrun⟩ | ⟨message, memory, hrun, htook, hroom⟩
      · exact .inl ⟨e, by rw [perform, readInto, hrun]; rfl⟩
      · refine .inr (.inl ⟨message, _, by rw [perform, readInto, hrun]; rfl, htook, ?_⟩)
        rintro _ ⟨⟩
        exact hroom room rfl
  | read =>
      rcases r.read_cases none with ⟨e, hrun⟩ | ⟨message, memory, hrun, htook, -⟩
      · exact .inl ⟨e, by rw [perform, read, hrun]; rfl⟩
      · refine .inr (.inl ⟨message, _, by rw [perform, read, hrun]; rfl, htook, ?_⟩)
        rintro _ ⟨⟩
  | peek =>
      cases hpeek : r.peek with
      | error e => exact .inl ⟨e, by rw [perform, hpeek]; rfl⟩
      | ok n => exact .inr (.inr (.inl ⟨n, by rw [perform, hpeek]; rfl, length_of_peek hpeek⟩))
  | claimWriter process =>
      refine .inr (.inr (.inr ⟨_, rfl, ?_⟩))
      rintro _ ⟨⟩
  | claimReader process =>
      refine .inr (.inr (.inr ⟨_, rfl, ?_⟩))
      rintro _ ⟨⟩

/-- Whatever the memory holds, an operation on a ring looks at nothing but the control block and the
circle, and stores only in its part of them: neither does what it comes to depend on any other byte,
nor is any of its loads and stores made elsewhere. If it fails, everything stays as it is; a message
that it takes or asks for was unread, and one that it takes brings the read cursor closer to the
write cursor and not past it; a message that it writes fits in what was free. -/
theorem operations_stay_within_the_ring (r : Ring) (op : Op) :
    Confined (region r.capacity) (op.stores r.capacity) (op.onMemory r.capacity) ∧
    op.stores r.capacity ⊆ region r.capacity ∧
    (let run := (op.traced r.capacity).run ⟨r.memory, []⟩;
      (run.1, run.2.memory) = op.onMemory r.capacity r.memory ∧
        ∀ a ∈ run.2.accesses, a.Within (region r.capacity) (op.stores r.capacity)) ∧
    (∀ e, (perform op r).1 = .error e → (perform op r).2 = r) ∧
    (∀ message, (perform op r).1 = .ok (.message message) →
      r.Took message (perform op r).2 ∧ ∀ room, op = .readInto room → message.length ≤ room) ∧
    (∀ n, (perform op r).1 = .ok (.length n) → n + lengthSize ≤ min r.backlog r.capacity) ∧
    (∀ message, op = .write message → (perform op r).1 = .ok .done →
      r.backlog + footprint message ≤ r.capacity) := by
  refine ⟨confined_onMemory op r.capacity, stores_subset_region op,
    traced_stays_within op r.capacity r.memory, ?_⟩
  rcases r.perform_cases op with ⟨e, h⟩ | ⟨message, r', h, htook⟩ | ⟨n, h, hle⟩ | ⟨r', h, hfits⟩
  · simp [h]
  · simpa [h] using htook
  · simpa [h] using hle
  · simpa [h] using hfits

/-- A write cursor behind the read cursor passes for a full ring, and the length in front of the
next message may still be believed or not. -/
example :
    let behind := setReadCursor (setWriteCursor (.zeroed 208) 1) 5
    let r (length : Nat) : Ring := ⟨16, behind.storeNat (controlSize + 5) lengthSize length⟩
    (r 13).read.1 = .error (.corrupted 13 12) ∧
      (r 12).readInto 11 = (.error (.bufferTooSmall 12), r 12) ∧
      (r 12).read.1 = .ok (List.replicate 12 0) ∧ ((r 12).write []).1 = .error (.full 4 0) := by
  cbv

end Telemetry.Ring
