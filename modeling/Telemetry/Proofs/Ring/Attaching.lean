import Telemetry.Proofs.Ring.Confinement
import Telemetry.Proofs.Ring.FailedOpening

/-!
# Attaching to whatever is found

A name may be bound to a segment of any size, with anything in it: its creator may not be done yet,
or it may never have been a ring. Where no call fails (`SharedMemory.Serves`), an opener that finds
the name bound goes through the same steps in every case and stores nothing on its way
(`openShared_of_bound`); what it makes of the segment is a verdict on three numbers, the size, the
capacity that is recorded and the capacity that is asked for. A ring that is attached to lies in the
segment, so that nothing that is done with it leads out of there (`attaching_is_safe`).

The memory is known to stay from the steps alone, one after another (`run_of_bound`), so all of
`attaching_is_safe` is about the verdict. Its cases are those of `Opening.judge`, in its order. The
size that the recorded capacity needs is a 64-bit sum: for a capacity that is asked for it is exact,
and for one that is merely found it is taken modulo 2^64 (`Opening.neededSize_eq`), which can only
let a capacity pass that is not the one asked for.
-/

namespace Telemetry

namespace SharedMemory

/-! ## Calls that do not fail -/

/-- No call fails for those who use a name. -/
structure Serves (s : SharedMemory) (name : String) : Prop where
  refusal : s.refusals.lookup name = none
  faults : ∀ call, s.faults.lookup call = none

namespace Serves

variable {s : SharedMemory} {name : String} {id : Nat}

theorem map_eq (h : s.Serves name) : s.map = (.ok (), s) := by
  obtain ⟨-, hmap⟩ | ⟨e, s', hsome, -⟩ := s.map_cases
  · exact hmap
  · rw [h.faults] at hsome
    cases hsome

theorem resize_eq (h : s.Serves name) (id size : Nat) :
    s.resize id size = (.ok (), s.modify id fun m => { m with size }) := by
  obtain ⟨-, hresize⟩ | ⟨e, s', hsome, -⟩ := s.resize_cases id size
  · exact hresize
  · rw [h.faults] at hsome
    cases hsome

theorem stat_eq (h : s.Serves name) (id : Nat) : s.stat id = (.ok (s.segment id).size, s) := by
  rw [stat, takeFault, h.faults]

theorem openExisting_eq (h : s.Serves name) (hbound : s.lookup? name = some id) :
    s.openExisting name = (.ok id, s) := by
  rw [openExisting, h.refusal, takeFault, h.faults]
  simp only [hbound]

theorem createExclusive_of_bound (h : s.Serves name) (hbound : s.lookup? name = some id) :
    s.createExclusive name = (.error .exists_, s) := by
  rw [createExclusive, h.refusal]
  simp only [hbound, Option.isSome_some, if_true]

end Serves

end SharedMemory

namespace Ring

namespace Opening

variable {s : SharedMemory} {name : String} {capacity id : Nat}

/-! ## The way of an opener that attaches -/

theorem step_start_of_bound (h : s.Serves name) (hbound : s.lookup? name = some id) :
    step name capacity start s = (taken, s) := by
  rw [step, h.createExclusive_of_bound hbound]
  rfl

theorem step_taken_of_bound (h : s.Serves name) (hbound : s.lookup? name = some id) :
    step name capacity taken s = (attached id, s) := by
  rw [step, h.openExisting_eq hbound]

/-- An opener goes on with a segment that has a size. -/
theorem step_attached (h : s.Serves name) :
    step name capacity (attached id) s =
      (if (s.segment id).size = 0 then finished (.error (.notInitialized name))
        else mapped id (s.segment id).size, s) := by
  rw [step, h.stat_eq]
  dsimp only
  split
  · rfl
  · rw [h.map_eq]

/-- The verdict on a segment without a size is that there is no ring. -/
theorem judge_of_empty (name : String) (capacity id found : Nat) :
    judge name capacity id 0 found = .error (.notInitialized name) := by
  rw [judge, if_pos (.inl (by decide))]

/-- All steps together: a verdict on what is found, and nothing else. -/
theorem run_of_bound (h : s.Serves name) (hbound : s.lookup? name = some id) :
    run name capacity start s =
      (judge name capacity id (s.segment id).size (recordedCapacity (s.segment id)), s) := by
  rw [run, step_start_of_bound h hbound, run, step_taken_of_bound h hbound, run, step_attached h]
  by_cases hempty : (s.segment id).size = 0
  · rw [if_pos hempty, run, hempty, judge_of_empty]
  · rw [if_neg hempty, run, step, run]

/-- The verdict is that there is no ring where the segment is too small for the control block, or
for the capacity that it records, or records none. -/
theorem judge_of_not_ring {size found : Nat}
    (h : size < controlSize ∨ found = 0 ∨ size < neededSize found) :
    judge name capacity id size found = .error (.notInitialized name) := by
  rw [judge, if_pos h]

theorem judge_of_other {size found : Nat}
    (h : ¬ (size < controlSize ∨ found = 0 ∨ size < neededSize found)) (hne : found ≠ capacity) :
    judge name capacity id size found = .error (.capacityMismatch capacity found) := by
  rw [judge, if_neg h, if_pos hne]

theorem judge_of_match {size : Nat}
    (h : ¬ (size < controlSize ∨ capacity = 0 ∨ size < neededSize capacity)) :
    judge name capacity id size capacity = .ok ⟨id, capacity, false⟩ := by
  rw [judge, if_neg h, if_neg (not_not.2 rfl)]

end Opening

variable {s : SharedMemory} {name : String} {id : Nat}

/-- Opening a name that is bound changes nothing at all, and ends with a verdict. -/
theorem openShared_of_bound (hname : checkName name = .ok ()) (hbound : s.lookup? name = some id)
    (hserves : s.Serves name) (capacity : Nat) :
    openShared s name capacity =
      (checkCapacity capacity >>= fun _ => Opening.judge name capacity id (s.segment id).size
        (recordedCapacity (s.segment id)), s) := by
  rw [openShared, hname]
  cases checkCapacity capacity with
  | error e => rfl
  | ok _ => exact Opening.run_of_bound hserves hbound

/-- **Attaching is safe, whatever is found.** Opening a name that is bound changes nothing. It
succeeds if and only if the capacity asked for is in range and is the one recorded, and the segment
has room for it behind the control block; the handle is then no creator's, and shows the ring that
was found, cursors and all, every part of which lies in the segment. Otherwise the error names the
first thing that is wrong: the capacity asked for, then a segment that is no ring, then a ring of
another capacity. The size that a recorded capacity needs is a 64-bit sum, which is exact unless the
capacity lies within 192 of the largest word. -/
theorem attaching_is_safe (hname : checkName name = .ok ()) (hbound : s.lookup? name = some id)
    (hserves : s.Serves name) (capacity : Nat) :
    let m := s.segment id
    let found := recordedCapacity m
    let proper := 8 ≤ capacity ∧ capacity ≤ 4294967295
    let needed := (192 + found) % 18446744073709551616
    let noRing := m.size < 192 ∨ found = 0 ∨ m.size < needed
    (found < 18446744073709551616 - 192 → needed = 192 + found) ∧
    ∃ outcome, openShared s name capacity = (outcome, s) ∧
      ((∃ h, outcome = .ok h) ↔ proper ∧ found = capacity ∧ 192 + capacity ≤ m.size) ∧
      (∀ h, outcome = .ok h →
        h.created = false ∧ h.ring s = ⟨capacity, m⟩ ∧ region capacity ⊆ Set.Iio m.size) ∧
      (¬ proper → outcome = .error (.invalidCapacity capacity)) ∧
      (proper → noRing → outcome = .error (.notInitialized name)) ∧
      (proper → ¬ noRing → found ≠ capacity →
        outcome = .error (.capacityMismatch capacity found)) := by
  intro m found proper needed noRing
  refine ⟨fun hbelow => Nat.mod_eq_of_lt (by omega), _,
    openShared_of_bound hname hbound hserves capacity, ?_⟩
  have hneeded : Opening.neededSize found = needed := Opening.neededSize_eq found
  by_cases hproper : proper
  · have hcheck : checkCapacity capacity = .ok () := checkCapacity_eq_ok.2 hproper
    rw [hcheck, show (Except.ok () >>= fun _ => Opening.judge name capacity id m.size found)
      = Opening.judge name capacity id m.size found from rfl]
    by_cases hring : noRing
    · -- the capacity asked for is too small to wrap the sum, so it is not the one that was found
      have hmissing : ¬ (found = capacity ∧ 192 + capacity ≤ m.size) := by
        have hring' : m.size < 192 ∨ found = 0 ∨ m.size < (192 + found) % 18446744073709551616 :=
          hring
        obtain ⟨hleast, hmost⟩ := hproper
        omega
      rw [Opening.judge_of_not_ring (hneeded ▸ hring)]
      simp [hproper, hring, hmissing]
    · have hring' : ¬ (m.size < controlSize ∨ found = 0 ∨ m.size < Opening.neededSize found) :=
        hneeded ▸ hring
      by_cases hsame : found = capacity
      · have hroom : 192 + capacity ≤ m.size := by
          have hmost : capacity ≤ 4294967295 := hproper.2
          rw [Opening.neededSize_eq, controlSize] at hring'
          omega
        rw [hsame] at hring'
        rw [hsame, Opening.judge_of_match hring']
        refine ⟨by simp [hproper, hroom], ?_, by simp [hproper, hring]⟩
        rintro _ ⟨⟩
        exact ⟨rfl, rfl, Set.Iio_subset_Iio hroom⟩
      · rw [Opening.judge_of_other hring' hsame]
        simp [hproper, hring, hsame]
  · have hcheck : checkCapacity capacity = .error (.invalidCapacity capacity) := if_neg hproper
    rw [hcheck]
    simp [hproper, bind, Except.bind]

/-- A segment larger than its ring, whose cursors no ring could come to, is attached to as it is. -/
theorem attaching_keeps_wild_cursors :
    let m := setWriteCursor (setReadCursor (publishCapacity (Memory.zeroed 300) 64) 70) 5
    let s : SharedMemory := ⟨#[m], [("/ring", 0)], [], []⟩
    checkName "/ring" = .ok () ∧ s.lookup? "/ring" = some 0 ∧ s.Serves "/ring" ∧
      ∃ h, openShared s "/ring" 64 = (.ok h, s) ∧ h.created = false ∧ h.ring s = ⟨64, m⟩ ∧
        readCursor (h.ring s).memory = 70 ∧ writeCursor (h.ring s).memory = 5 := by
  intro m s
  have hname : checkName "/ring" = .ok () := by decide +kernel
  have hserves : s.Serves "/ring" := ⟨rfl, fun call => rfl⟩
  have hfound : recordedCapacity (s.segment 0) = 64 := by cbv
  have hsize : (s.segment 0).size = 300 := by cbv
  obtain ⟨-, outcome, hopen, hok, hring, -⟩ := attaching_is_safe hname (s := s) rfl hserves 64
  obtain ⟨h, rfl⟩ := hok.2 ⟨by decide, hfound, by rw [hsize]; decide⟩
  obtain ⟨hcreated, hfound, -⟩ := hring h rfl
  refine ⟨hname, rfl, hserves, h, hopen, hcreated, hfound, ?_, ?_⟩
  · rw [hfound]
    exact (readCursor_setWriteCursor _ _).trans (readCursor_setReadCursor _ _)
  · rw [hfound]
    exact writeCursor_setWriteCursor _ _

end Ring

end Telemetry
