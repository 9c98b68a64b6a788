import Mathlib.Logic.Function.Basic
import Telemetry.Bridge.Basic

/-!
# Bridges that share names

Any number of bridges, each with a configuration of its own, and any number of visitors, who just
open a ring, see the same shared memory. A start comes in steps: the configuration is checked, a
shared ring is opened, which is several calls of the operating system, and what works on it is
started. Between any two steps the others may take theirs. Where a step needs a host, a process or a
publisher, these are in whatever state they are in by then. Stopping is one step: all it does to
names is one call at its end.

That the steps are those of a bridge is `BridgeStage.run_start`: with nobody in between, a bridge
that begins, takes the steps of opening its ring and launches has started, or has failed, as
`Bridge.start` does. An opening takes five steps at most, and a step that it does not need any more
does nothing, so five are taken in every case (`run_ofOpening`, by induction on the steps that
remain). The rest is the same checks in the same order on both sides.
-/

namespace Telemetry

namespace Ring.Opening

/-- The outcome of an opening is that of what a step makes of it. -/
theorem run_step (name : String) (capacity : Nat) (o : Opening) (s : SharedMemory) :
    run name capacity (step name capacity o s).1 (step name capacity o s).2 =
      run name capacity o s := by
  cases o with
  | finished outcome => rfl
  | start | named _ | sized _ | zeroed _ | cursorsStored _ | taken | attached _ | mapped _ _ =>
      rw [run.eq_def name capacity _ s]

theorem remaining_step_le (name : String) (capacity : Nat) (o : Opening) (s : SharedMemory) :
    (step name capacity o s).1.remaining ≤ o.remaining - 1 := by
  rcases Nat.eq_zero_or_pos o.remaining with hzero | hpos
  · cases o with
    | finished outcome => exact Nat.zero_le _
    | _ => simp [remaining] at hzero
  · have hlt := remaining_step_lt name capacity o s hpos
    omega

end Ring.Opening

/-- How far a bridge has come. -/
inductive BridgeStage where
  /-- Nothing was done yet. -/
  | idle
  /-- The configuration is in order, and the shared ring is being opened. -/
  | opening (registry : Registry) (o : Ring.Opening)
  /-- The ring is open, and nothing is started. -/
  | opened (registry : Registry) (ring : Ring.Handle)
  /-- The bridge was started; whether it is stopped it says itself. -/
  | started (b : Bridge)
  /-- The start has failed. -/
  | failed (e : BridgeError)
  /-- The bridge is gone. -/
  | dropped
  deriving Inhabited

namespace BridgeStage

variable {σ : Type}

/-- What happens to a bridge. -/
inductive Deed (σ : Type) where
  /-- A start begins: checks, and a ring without a name at once. -/
  | begin
  /-- The next step of opening a shared ring. -/
  | proceed
  /-- With the ring open, the start comes to its end. -/
  | launch (now : Nat) (site : Site σ)
  /-- With the ring open, the start fails for want of a thread for the consumer. -/
  | giveUp (process : Nat) (e : BridgeError)
  /-- Cycles, with wake-ups that are so late. -/
  | run (now : Nat) (late : List Nat) (site : Site σ)
  | stop (now : Nat) (site : Site σ)
  /-- The bridge is dropped, which stops it. -/
  | drop (now : Nat) (site : Site σ)

/-- Begins a start. -/
def begin (config : BridgeConfig) (s : SharedMemory) : BridgeStage × SharedMemory :=
  match config.validate, Registry.ofSpecs config.sampledVariables with
  | .error e, _ => (failed e, s)
  | .ok (), .error e => (failed e, s)
  | .ok (), .ok registry =>
    if config.ring.inProcess then
      match Ring.openPrivate s config.ring.capacity.toNat with
      | (.ok ring, s) => (opened registry ring, s)
      | (.error e, s) => (failed (.ring e), s)
    else
      match Ring.checkCapacity config.ring.capacity.toNat, Ring.checkName config.ring.name with
      | .error e, _ => (failed (.ring e), s)
      | .ok _, .error e => (failed (.ring e), s)
      | .ok _, .ok _ => (opening registry .start, s)

/-- Where a start stands when the opening of its ring has come so far. -/
def ofOpening (registry : Registry) : Ring.Opening → BridgeStage
  | .finished (.ok ring) => opened registry ring
  | .finished (.error e) => failed (.ring e)
  | o => opening registry o

/-- What a deed makes of a bridge and of the memory. A deed that does not fit the stage of the
bridge does nothing. -/
def step (publisher : Publisher σ) (config : BridgeConfig) :
    Deed σ → BridgeStage → SharedMemory → BridgeStage × SharedMemory
  | .begin, idle, s => begin config s
  | .proceed, opening registry o, s =>
    let (o, s) := o.step config.ring.name config.ring.capacity.toNat s
    (ofOpening registry o, s)
  | .launch now site, opened registry ring, s =>
    match (Bridge.assemble config registry ring site.host.backend now).launch publisher
        { site with memory := s } with
    | (.ok b, site) => (started b, site.memory)
    | (.error e, site) => (failed e, site.memory)
  | .giveUp process e, opened _ ring, s =>
    (failed e, Bridge.releaseRing config.ring (Bridge.owns config.ring ring)
      (Bridge.claim process ring s))
  | .run now late site, started b, s =>
    let (b, site, _) := b.run publisher now late { site with memory := s }
    (started b, site.memory)
  | .stop now site, started b, s =>
    let (b, site) := b.stop publisher now { site with memory := s }
    (started b, site.memory)
  | .drop now site, started b, s =>
    (dropped, (b.stop publisher now { site with memory := s }).2.memory)
  | _, stage, s => (stage, s)

/-- One deed after another. -/
def run (publisher : Publisher σ) (config : BridgeConfig) (deeds : List (Deed σ))
    (stage : BridgeStage) (s : SharedMemory) : BridgeStage × SharedMemory :=
  deeds.foldl (fun (stage, s) deed => stage.step publisher config deed s) (stage, s)

/-- The ring that a bridge has in hand. -/
def ring? : BridgeStage → Option Ring.Handle
  | opened _ ring => some ring
  | started b => some b.ring
  | _ => none

/-- Whether a bridge has stopped, was dropped, or has failed to start. -/
def isOver : BridgeStage → Bool
  | started b => b.stopped
  | failed _ | dropped => true
  | _ => false

/-! ### A start in steps -/

section Steps

variable (publisher : Publisher σ) (config : BridgeConfig) (registry : Registry)

theorem run_cons (deed : Deed σ) (deeds : List (Deed σ)) (stage : BridgeStage)
    (s : SharedMemory) : run publisher config (deed :: deeds) stage s =
      run publisher config deeds (step publisher config deed stage s).1
        (step publisher config deed stage s).2 := rfl

theorem run_append (first second : List (Deed σ)) (stage : BridgeStage) (s : SharedMemory) :
    run publisher config (first ++ second) stage s =
      run publisher config second (run publisher config first stage s).1
        (run publisher config first stage s).2 :=
  List.foldl_append ..

theorem step_ofOpening (o : Ring.Opening) (s : SharedMemory) :
    step publisher config .proceed (ofOpening registry o) s =
      (ofOpening registry (o.step config.ring.name config.ring.capacity.toNat s).1,
        (o.step config.ring.name config.ring.capacity.toNat s).2) := by
  cases o with
  | finished outcome =>
      cases outcome with
      | ok _ | error _ => rfl
  | start | named _ | sized _ | zeroed _ | cursorsStored _ | taken | attached _ | mapped _ _ => rfl

/-- As many steps as remain bring the opening of a ring to its end. -/
theorem run_ofOpening {o : Ring.Opening} {n : Nat} (hn : o.remaining ≤ n) (s : SharedMemory) :
    run publisher config (List.replicate n .proceed) (ofOpening registry o) s =
      (ofOpening registry (.finished (o.run config.ring.name config.ring.capacity.toNat s).1),
        (o.run config.ring.name config.ring.capacity.toNat s).2) := by
  induction n generalizing o s with
  | zero =>
      cases o with
      | finished outcome => rw [Ring.Opening.run]; rfl
      | start | named _ | sized _ | zeroed _ | cursorsStored _ | taken | attached _ | mapped _ _ =>
          cases hn
  | succ n ih =>
      -- a step brings the opening closer to its end, and its outcome stays the same
      have hnext := o.remaining_step_le config.ring.name config.ring.capacity.toNat s
      rw [← o.run_step, ← ih (by omega), List.replicate_succ, run_cons, step_ofOpening]

theorem run_failed (deeds : List (Deed σ)) (e : BridgeError) (s : SharedMemory) :
    run publisher config deeds (failed e) s = (failed e, s) := by
  induction deeds with
  | nil => rfl
  | cons deed deeds ih => cases deed <;> exact ih

/-- How a start stands after its outcome. -/
def ofOutcome : Except BridgeError Bridge → BridgeStage
  | .ok b => started b
  | .error e => failed e

/-- The end of a start, from what opening the ring gave. -/
def launched (now : Nat) (site : Site σ) :
    Except RingError Ring.Handle × SharedMemory → BridgeStage × SharedMemory
  | (.ok ring, s) =>
    let outcome := (Bridge.assemble config registry ring site.host.backend now).launch publisher
      { site with memory := s }
    (ofOutcome outcome.1, outcome.2.memory)
  | (.error e, s) => (failed (.ring e), s)

theorem run_launch (now : Nat) (site : Site σ) {o : Ring.Opening} (ho : o.remaining ≤ 5)
    (s : SharedMemory) :
    run publisher config (List.replicate 5 .proceed ++ [.launch now site])
        (ofOpening registry o) s =
      launched publisher config registry now site
        (o.run config.ring.name config.ring.capacity.toNat s) := by
  rw [run_append, run_ofOpening publisher config registry ho]
  generalize o.run config.ring.name config.ring.capacity.toNat s = opened
  obtain ⟨outcome, s'⟩ := opened
  cases outcome with
  | error e => rfl
  | ok ring =>
      rw [run_cons, ofOpening, step, launched]
      generalize Bridge.launch _ _ _ = outcome
      obtain ⟨outcome, site'⟩ := outcome
      cases outcome with
      | ok _ | error _ => rfl

theorem start_of_openRing {config : BridgeConfig} {registry : Registry}
    (hvalid : config.validate = .ok ())
    (hregistry : Registry.ofSpecs config.sampledVariables = .ok registry) (now : Nat)
    (site : Site σ) :
    (ofOutcome (Bridge.start publisher config now site).1,
        (Bridge.start publisher config now site).2.memory) =
      launched publisher config registry now site (Bridge.openRing config.ring site.memory) := by
  rw [Bridge.start, hvalid, hregistry]
  generalize Bridge.openRing config.ring site.memory = opened
  obtain ⟨outcome, s⟩ := opened
  cases outcome with
  | ok _ | error _ => rfl

/-- Left alone, a bridge that begins, takes the steps of opening its ring and launches has started,
or failed, as a start in one go does. -/
theorem run_start (now : Nat) (site : Site σ) :
    run publisher config (.begin :: (List.replicate 5 .proceed ++ [.launch now site])) idle
      site.memory = (ofOutcome (Bridge.start publisher config now site).1,
        (Bridge.start publisher config now site).2.memory) := by
  rw [run_cons, step]
  cases hvalid : config.validate with
  | error e => rw [begin, Bridge.start, hvalid, run_failed]; rfl
  | ok _ =>
      cases hregistry : Registry.ofSpecs config.sampledVariables with
      | error e => rw [begin, Bridge.start, hvalid, hregistry, run_failed]; rfl
      | ok registry =>
          rw [start_of_openRing publisher hvalid hregistry, begin, hvalid, hregistry,
            Bridge.openRing]
          -- a ring without a name is opened with the first step, and the five others pass it by
          cases config.ring.inProcess with
          | true =>
              simp only [if_true]
              generalize Ring.openPrivate site.memory config.ring.capacity.toNat = opened
              obtain ⟨outcome, s⟩ := opened
              cases outcome with
              | error e => exact run_failed ..
              | ok ring =>
                  have hlaunch := run_launch publisher config registry now site
                    (o := .finished (.ok ring)) (Nat.zero_le 5) s
                  rwa [Ring.Opening.run] at hlaunch
          | false =>
              simp only [Bool.false_eq_true, if_false, Ring.openShared]
              cases Ring.checkCapacity config.ring.capacity.toNat with
              | error e => exact run_failed ..
              | ok _ =>
                  cases Ring.checkName config.ring.name with
                  | error e => exact run_failed ..
                  | ok _ =>
                      exact run_launch publisher config registry now site (o := .start)
                        (Nat.le_refl 5) site.memory

end Steps

end BridgeStage

/-- Bridges and visitors, and the memory that they share. -/
structure Fleet (ι κ : Type) where
  bridges : ι → BridgeStage
  visitors : κ → Ring.Opening
  memory : SharedMemory

namespace Fleet

variable {ι κ σ : Type}

/-- What happens: something to a bridge, or a visitor takes the next step of opening a ring. -/
inductive Act (ι κ σ : Type) where
  | bridge (i : ι) (deed : BridgeStage.Deed σ)
  | visit (k : κ)

/-- Nothing was started or opened yet. -/
def begin (s : SharedMemory) : Fleet ι κ := ⟨fun _ => .idle, fun _ => .start, s⟩

variable [DecidableEq ι] [DecidableEq κ]

/-- What an act makes of a fleet. Each bridge has its configuration, and each visitor wants the ring
of a name with a capacity. -/
def step (publisher : Publisher σ) (config : ι → BridgeConfig) (wanted : κ → String × Nat)
    (w : Fleet ι κ) : Act ι κ σ → Fleet ι κ
  | .bridge i deed =>
    let next := (w.bridges i).step publisher (config i) deed w.memory
    { w with bridges := Function.update w.bridges i next.1, memory := next.2 }
  | .visit k =>
    let next := (w.visitors k).step (wanted k).1 (wanted k).2 w.memory
    { w with visitors := Function.update w.visitors k next.1, memory := next.2 }

/-- Acts one after another. -/
def run (publisher : Publisher σ) (config : ι → BridgeConfig) (wanted : κ → String × Nat)
    (w : Fleet ι κ) (acts : List (Act ι κ σ)) : Fleet ι κ :=
  acts.foldl (step publisher config wanted) w

end Fleet

end Telemetry
