import Telemetry.Proofs.Bridge.Fleet
import Telemetry.Proofs.Ring.Race

/-!
# What a bridge does to names

Where no call of the operating system fails, a bridge does one of three things to the names of
segments with each deed (`Effect`): nothing, or it binds the name of its ring, which was free, to a
new segment, or it releases the ring that it has in hand. The last it does only with a ring whose
segment it has made, and then it is over. `step_effect` says so of every deed at every stage, and
`isOver_step` that what is over stays over.

## How the proof goes

Names are looked at and not the bytes of segments, which may change in any way. Two memories that
differ in bytes, and in segments without a name, at most are related by `Quiet`. That relation is
transitive, and all that a bridge does with its ring while it is started is quiet, whatever is sent
and received: by induction on the cycles of a run (`Bridge.run_keeps`), in a stop up to its last
call (`Bridge.stop_releases`), in a launch that fails up to its last call (`Bridge.launch_cases`).
What is not quiet is the first step of an opening that finds the name free
(`Ring.Opening.step_cases`), and a release.

A bridge is said to hold a segment from the step that made it until it is over (`held?`). What a
release does follows from two things only: that the bridge remembers of its ring what fits its
configuration (`Sound`), and that the segment it holds is the one its name is bound to. With both,
each deed that fits a stage has a lemma of its own below, and `step_effect` puts them together.

The second of the two is not in the hands of one bridge, since others go for the same names. Here it
is a hypothesis; `Telemetry.Proofs.Bridge.Ownership` shows that a whole fleet keeps it.
-/

namespace Telemetry

namespace SharedMemory

/-! ## Names and the segments they are bound to

`Quiet` is for what a bridge does while it works, where names stay exactly as they are. `Ages` is
weaker and holds of every deed: names may come and go, but a name that goes never comes back to a
segment that was there before, since only new segments are bound. It is all that the rest of a fleet
has to know of one bridge.
-/

/-- At most bytes of segments were changed and segments without a name added. -/
structure Quiet (s s' : SharedMemory) : Prop where
  names_eq : s'.names = s.names
  refusals_eq : s'.refusals = s.refusals
  faults_eq : s'.faults = s.faults
  size_le : s.segments.size ≤ s'.segments.size

namespace Quiet

variable {s s' s'' : SharedMemory}

theorem refl (s : SharedMemory) : s.Quiet s := ⟨rfl, rfl, rfl, Nat.le_refl _⟩

theorem trans (h : s.Quiet s') (h' : s'.Quiet s'') : s.Quiet s'' :=
  ⟨h'.names_eq.trans h.names_eq, h'.refusals_eq.trans h.refusals_eq,
    h'.faults_eq.trans h.faults_eq, Nat.le_trans h.size_le h'.size_le⟩

theorem lookup?_eq (h : s.Quiet s') (name : String) : s'.lookup? name = s.lookup? name := by
  rw [lookup?, lookup?, h.names_eq]

end Quiet

theorem quiet_modify (s : SharedMemory) (id : Nat) (f : Memory → Memory) :
    s.Quiet (s.modify id f) :=
  ⟨rfl, rfl, rfl, Nat.le_of_eq (s.size_modify id f).symm⟩

theorem lookup?_unbind (s : SharedMemory) (name n : String) :
    (s.unbind name).lookup? n = if n = name then none else s.lookup? n := by
  by_cases h : n = name
  · rw [if_pos h, lookup?, unbind, List.lookup_eq_none_iff]
    rintro ⟨n', id⟩ hmem
    have hne : n' ≠ name := by simpa using (List.mem_filter.1 hmem).2
    simpa [h] using Ne.symm hne
  · rw [if_neg h]
    exact lookup_filter_ne h

/-- Names are bound to new segments at most, and segments are only added. -/
structure Ages (s s' : SharedMemory) : Prop where
  refusals_eq : s'.refusals = s.refusals
  faults_eq : s'.faults = s.faults
  size_le : s.segments.size ≤ s'.segments.size
  fresh : ∀ n id, s'.lookup? n = some id →
    s.lookup? n = some id ∨ s.segments.size ≤ id ∧ id < s'.segments.size

theorem Ages.serves {s s' : SharedMemory} (h : s.Ages s') {name : String}
    (hserves : s.Serves name) : s'.Serves name :=
  ⟨h.refusals_eq ▸ hserves.refusal, h.faults_eq ▸ hserves.faults⟩

/-- A name is never bound to an old segment again. -/
theorem Ages.lookup?_ne {s s' : SharedMemory} (h : s.Ages s') {n : String} {id : Nat}
    (hlt : id < s.segments.size) (hne : s.lookup? n ≠ some id) : s'.lookup? n ≠ some id := by
  intro hbound
  obtain hbound | ⟨hle, -⟩ := h.fresh n id hbound
  · exact hne hbound
  · exact Nat.not_lt.2 hle hlt

theorem Quiet.ages {s s' : SharedMemory} (h : s.Quiet s') : s.Ages s' :=
  ⟨h.refusals_eq, h.faults_eq, h.size_le, fun n _ hn => .inl (h.lookup?_eq n ▸ hn)⟩

theorem ages_withNamed (s : SharedMemory) (name : String) (m : Memory) :
    s.Ages (s.withNamed name m) := by
  refine ⟨rfl, rfl, by rw [size_withNamed]; omega, fun n id hn => ?_⟩
  rw [lookup?_withNamed] at hn
  split at hn
  · obtain rfl := Option.some.inj hn
    exact .inr ⟨Nat.le_refl _, by rw [size_withNamed]; omega⟩
  · exact .inl hn

theorem ages_unbind {s s' : SharedMemory} (h : s.Quiet s') (name : String) :
    s.Ages (s'.unbind name) := by
  refine ⟨h.refusals_eq, h.faults_eq, h.size_le, fun n id hn => .inl ?_⟩
  rw [lookup?_unbind] at hn
  split at hn
  · cases hn
  · rwa [← h.lookup?_eq]

theorem lookup?_withNamed_of_free {s : SharedMemory} {name n : String} {id : Nat} {m : Memory}
    (hfree : s.lookup? name = none) (hn : s.lookup? n = some id) :
    (s.withNamed name m).lookup? n = some id := by
  rw [lookup?_withNamed, if_neg, hn]
  rintro rfl
  simp [hfree] at hn

end SharedMemory

namespace Ring

theorem quiet_put (h : Handle) (s : SharedMemory) (r : Ring) : s.Quiet (h.put s r) :=
  s.quiet_modify h.segment _

theorem quiet_openPrivate (s : SharedMemory) (capacity : Nat) :
    s.Quiet (openPrivate s capacity).2 := by
  rw [openPrivate]
  split
  · exact .refl s
  · exact ⟨rfl, rfl, rfl, by simp [SharedMemory.allocate]⟩

theorem unlink_of_bound {s : SharedMemory} {name : String} {id : Nat}
    (hname : checkName name = .ok ()) (hserves : s.Serves name)
    (hbound : s.lookup? name = some id) : unlink s name = (.ok (), s.unbind name) := by
  rw [unlink, hname]
  simp only [SharedMemory.remove, hserves.refusal, hbound]

namespace Opening

/-! ## Steps of an opening -/

/-- A step of opening a ring binds the name, if that is free, or changes nothing but bytes. -/
theorem step_cases {s : SharedMemory} {name : String} (capacity : Nat) (o : Opening)
    (hserves : s.Serves name) :
    (o = start ∧ s.lookup? name = none ∧
      step name capacity o s
        = (named s.segments.size, s.withNamed name (Memory.zeroed 0))) ∨
    ((step name capacity o s).1.made? = o.made? ∧ s.Quiet (step name capacity o s).2) := by
  cases o with
  | start =>
      -- the one step that can bind a name, and it does only if the name is free
      by_cases hfree : s.lookup? name = none
      · refine .inl ⟨rfl, hfree, ?_⟩
        rw [step, SharedMemory.createExclusive_of_vacant ⟨hserves.refusal, hfree⟩]
      · obtain ⟨id, hbound⟩ := Option.ne_none_iff_exists'.1 hfree
        rw [step_start_of_bound hserves hbound]
        exact .inr ⟨rfl, .refl s⟩
  | named id =>
      rw [step, hserves.resize_eq]
      exact .inr ⟨rfl, s.quiet_modify id _⟩
  | sized id =>
      rw [step, hserves.map_eq]
      exact .inr ⟨rfl, s.quiet_modify id _⟩
  | zeroed id => exact .inr ⟨rfl, s.quiet_modify id _⟩
  | cursorsStored id => exact .inr ⟨rfl, s.quiet_modify id _⟩
  | taken =>
      -- the name was taken when the opening began, and may be free again by now
      cases hbound : s.lookup? name with
      | none =>
          rw [step, SharedMemory.openExisting, hserves.refusal, SharedMemory.takeFault,
            hserves.faults]
          simp only [hbound]
          exact .inr ⟨rfl, .refl s⟩
      | some id =>
          rw [step_taken_of_bound hserves hbound]
          exact .inr ⟨rfl, .refl s⟩
  | attached id =>
      rw [step_attached hserves]
      refine .inr ⟨?_, .refl s⟩
      split
      · rfl
      · rfl
  | mapped id size =>
      refine .inr ⟨?_, .refl s⟩
      show (finished (judge name capacity id size (recordedCapacity (s.segment id)))).made? = none
      generalize hjudge : judge name capacity id size (recordedCapacity (s.segment id)) = outcome
      cases outcome with
      | error e => rfl
      -- an opener that attaches never says that it created the ring
      | ok h => rw [made?, not_created_of_judge hjudge, if_neg (by decide)]
  | finished outcome => exact .inr ⟨rfl, .refl s⟩

end Opening

end Ring

namespace Bridge

variable {σ : Type}

/-! ## Bridges at work

A run and a stop do a lot to a ring, all of it through a handle, which puts bytes into one segment
(`Ring.quiet_put`). So each of these lemmas comes down to a chain of quiet puts; what is exact in
them is the last call, the only one that can reach a name.
-/

/-- What a bridge says of its ring is as before. -/
structure SameRing (b b' : Bridge) : Prop where
  config_eq : b'.config = b.config
  ring_eq : b'.ring = b.ring
  owned_eq : b'.owned = b.owned

/-- What a bridge says of its ring is as before, and it was not stopped. -/
structure SameHold (b b' : Bridge) : Prop extends SameRing b b' where
  stopped_eq : b'.stopped = b.stopped

theorem SameHold.refl (b : Bridge) : b.SameHold b := ⟨⟨rfl, rfl, rfl⟩, rfl⟩

theorem SameHold.trans {b b' b'' : Bridge} (h : b.SameHold b') (h' : b'.SameHold b'') :
    b.SameHold b'' :=
  ⟨⟨h'.config_eq.trans h.config_eq, h'.ring_eq.trans h.ring_eq, h'.owned_eq.trans h.owned_eq⟩,
    h'.stopped_eq.trans h.stopped_eq⟩

theorem quiet_claim (process : Nat) (ring : Ring.Handle) (s : SharedMemory) :
    s.Quiet (claim process ring s) := Ring.quiet_put ..

/-- Whatever a fold does with a bridge and a site, they are kept if each step keeps them. -/
theorem foldl_keeps {α β : Type} {f : α × Bridge × Site σ → β → α × Bridge × Site σ}
    (hf : ∀ (x : α × Bridge × Site σ) (y : β),
      x.2.1.SameHold (f x y).2.1 ∧ x.2.2.memory.Quiet (f x y).2.2.memory)
    (ys : List β) (x : α × Bridge × Site σ) :
    x.2.1.SameHold (ys.foldl f x).2.1 ∧ x.2.2.memory.Quiet (ys.foldl f x).2.2.memory := by
  induction ys generalizing x with
  | nil => exact ⟨.refl _, .refl _⟩
  | cons y ys ih =>
      obtain ⟨hhold, hquiet⟩ := hf x y
      obtain ⟨hhold', hquiet'⟩ := ih (f x y)
      exact ⟨hhold.trans hhold', hquiet.trans hquiet'⟩

theorem cycle_keeps (publisher : Publisher σ) (now : Nat) (b : Bridge) (site : Site σ) :
    b.SameHold (b.cycle publisher now site).1 ∧
      site.memory.Quiet (b.cycle publisher now site).2.memory :=
  ⟨⟨⟨rfl, rfl, rfl⟩, rfl⟩, (Ring.quiet_put ..).trans (Ring.quiet_put ..)⟩

/-- The next cycle of the loop, the bridge and the site. -/
def nextCycle (publisher : Publisher σ) (pace : Scheduling.Pace)
    (x : Scheduling.Loop × Bridge × Site σ) (late : Nat) : Scheduling.Loop × Bridge × Site σ :=
  (x.1.cycle pace 0 late, x.2.1.cycle publisher x.1.now x.2.2)

theorem run_eq (publisher : Publisher σ) (now : Nat) (late : List Nat) (b : Bridge)
    (site : Site σ) :
    let pace := b.config.realtime.pace
    let x := late.foldl (nextCycle publisher pace)
      (Scheduling.Loop.start pace now b.task.statistics, b, site)
    b.run publisher now late site =
      ({ x.2.1 with task := { x.2.1.task with statistics := x.1.statistics } }, x.2.2, x.1.now) :=
  rfl

theorem run_keeps (publisher : Publisher σ) (now : Nat) (late : List Nat) (b : Bridge)
    (site : Site σ) : b.SameHold (b.run publisher now late site).1 ∧
      site.memory.Quiet (b.run publisher now late site).2.1.memory := by
  rw [run_eq]
  obtain ⟨hhold, hquiet⟩ := foldl_keeps (f := nextCycle publisher b.config.realtime.pace)
    (fun x _ => cycle_keeps publisher x.1.now x.2.1 x.2.2) late
    (Scheduling.Loop.start b.config.realtime.pace now b.task.statistics, b, site)
  exact ⟨hhold.trans ⟨⟨rfl, rfl, rfl⟩, rfl⟩, hquiet⟩

/-- Stopping a bridge that is not stopped releases its ring, after what is done to the bytes. -/
theorem stop_releases (publisher : Publisher σ) (now : Nat) {b : Bridge} (site : Site σ)
    (hgoing : b.stopped = false) :
    b.SameRing (b.stop publisher now site).1 ∧ (b.stop publisher now site).1.stopped = true ∧
      ∃ s, site.memory.Quiet s ∧
        (b.stop publisher now site).2.memory = releaseRing b.config.ring b.owned s := by
  rw [stop, hgoing]
  exact ⟨⟨rfl, rfl, rfl⟩, rfl, _, (Ring.quiet_put ..).trans (Ring.quiet_put ..), rfl⟩

/-- A bridge that is stopped stays as it is. -/
theorem stop_of_stopped (publisher : Publisher σ) (now : Nat) {b : Bridge} (site : Site σ)
    (hstopped : b.stopped = true) : b.stop publisher now site = (b, site) := by
  rw [stop, if_pos hstopped]

/-- A bridge that was told to stop has stopped, and says of its ring what it said. -/
theorem stop_keeps (publisher : Publisher σ) (now : Nat) (b : Bridge) (site : Site σ) :
    b.SameRing (b.stop publisher now site).1 ∧ (b.stop publisher now site).1.stopped = true := by
  cases hgoing : b.stopped with
  | true =>
      rw [stop_of_stopped publisher now site hgoing]
      exact ⟨⟨rfl, rfl, rfl⟩, hgoing⟩
  | false =>
      obtain ⟨hring, hstopped, -⟩ := stop_releases publisher now site hgoing
      exact ⟨hring, hstopped⟩

/-- With a ring in hand a start succeeds, or releases the ring after what is done to the bytes. -/
theorem launch_cases (publisher : Publisher σ) (b : Bridge) (site : Site σ) :
    (∃ b' site', b.launch publisher site = (.ok b', site') ∧ b.SameHold b' ∧
      site.memory.Quiet site'.memory) ∨
    (∃ e s site', b.launch publisher site = (.error e, site') ∧ site.memory.Quiet s ∧
      site'.memory = releaseRing b.config.ring b.owned s) := by
  rw [launch]
  -- what the host answers decides, and the ring is released in one case only
  generalize b.task.start site.host = started
  obtain ⟨outcome, task, host⟩ := started
  cases outcome with
  | ok _ => exact .inl ⟨{ b with task }, _, rfl, ⟨⟨rfl, rfl, rfl⟩, rfl⟩, quiet_claim ..⟩
  | error e => exact .inr ⟨.scheduler e, _, _, rfl, (quiet_claim ..).trans (Ring.quiet_put ..), rfl⟩

/-- What releasing an owned ring does where nothing fails. -/
theorem releaseRing_of_bound {config : RingConfig} {s : SharedMemory} {id : Nat}
    (hname : Ring.checkName config.name = .ok ()) (hserves : s.Serves config.name)
    (hbound : s.lookup? config.name = some id) :
    releaseRing config true s = if config.unlinkOnExit then s.unbind config.name else s := by
  rw [releaseRing, Bool.true_and]
  split
  · rw [Ring.unlink_of_bound hname hserves hbound]
  · rfl

theorem owns_eq_true {config : RingConfig} {ring : Ring.Handle} :
    owns config ring = true ↔ config.inProcess = false ∧ ring.created = true := by
  simp [owns]

end Bridge

namespace BridgeStage

variable {σ : Type}

/-! ## What a deed does

A segment is made by an opening in its first step, and the ring is in hand only some steps later, so
`made?` looks into the opening. Once the ring is in hand, whether the bridge made its segment is
what it remembers (`owned`); that the two agree is `Sound`. What was made is held until the bridge
is over, which a stopped one is too, although it still remembers its ring.
-/

/-- The segment that a bridge, not dropped or failed yet, has made for a shared ring. -/
def made? (config : RingConfig) : BridgeStage → Option Nat
  | opening _ o => o.made?
  | opened _ ring => if Bridge.owns config ring then some ring.segment else none
  | started b => if b.owned then some b.ring.segment else none
  | idle | failed _ | dropped => none

/-- The segment that a bridge has made and has still to release. -/
def held? (config : RingConfig) (stage : BridgeStage) : Option Nat :=
  if stage.isOver then none else stage.made? config

/-- What a bridge remembers of its ring fits its configuration, and a shared ring has a proper
name. -/
def Sound (config : RingConfig) : BridgeStage → Prop
  | opening _ _ => config.inProcess = false ∧ Ring.checkName config.name = .ok ()
  | opened _ _ => config.inProcess = false → Ring.checkName config.name = .ok ()
  | started b => b.config.ring = config ∧ b.owned = Bridge.owns config b.ring ∧
      (config.inProcess = false → Ring.checkName config.name = .ok ())
  | idle | failed _ | dropped => True

variable {config : RingConfig} {stage stage' : BridgeStage} {s s' : SharedMemory}

theorem held?_of_isOver (h : stage.isOver = true) : stage.held? config = none := if_pos h

theorem held?_started (b : Bridge) : (started b).held? config =
    if b.stopped then none else if b.owned then some b.ring.segment else none := rfl

theorem held?_ofOpening (hshared : config.inProcess = false) (registry : Registry)
    (o : Ring.Opening) : (ofOpening registry o).held? config = o.made? ∧
      (ofOpening registry o).made? config = o.made? := by
  cases o with
  | finished outcome =>
      cases outcome with
      | error e => exact ⟨rfl, rfl⟩
      | ok ring => simp [ofOpening, held?, isOver, made?, Bridge.owns, hshared, Ring.Opening.made?]
  | start | named _ | sized _ | zeroed _ | cursorsStored _ | taken | attached _ | mapped _ _ =>
      exact ⟨rfl, rfl⟩

theorem made?_started (b : Bridge) :
    (started b).made? config = if b.owned then some b.ring.segment else none := rfl

theorem made?_of_held? {id : Nat} (h : stage.held? config = some id) :
    stage.made? config = some id := by
  rw [held?] at h
  split at h
  · cases h
  · exact h

theorem made?_of_none (h : stage'.made? config = none) (id : Nat)
    (hid : stage'.made? config = some id) : stage.made? config = some id := by
  rw [h] at hid
  cases hid

/-- What a deed does to names: nothing, or it binds the name that the bridge opens, which was free,
or it releases the ring in hand. -/
inductive Effect (config : RingConfig) (deed : Deed σ) (stage stage' : BridgeStage)
    (s s' : SharedMemory) : Prop where
  /-- No name is touched. -/
  | quiet (memory : s.Quiet s') (held : stage'.held? config = stage.held? config)
      (origin : ∀ id, stage'.made? config = some id → stage.made? config = some id)
  /-- The bridge makes its ring. -/
  | made (proceed : deed = .proceed) (free : s.lookup? config.name = none)
      (memory : s' = s.withNamed config.name (Memory.zeroed 0))
      (none_held : stage.held? config = none)
      (held : stage'.held? config = some s.segments.size)
  /-- The bridge is over, with a ring of its making in hand. -/
  | released {ring : Ring.Handle} {s₁ : SharedMemory} (ring_in_hand : stage.ring? = some ring)
      (owned : Bridge.owns config ring = true) (held : stage.held? config = some ring.segment)
      (memory : s.Quiet s₁)
      (memory' : s' = if config.unlinkOnExit then s₁.unbind config.name else s₁)
      (ended : stage'.isOver = true)
      (origin : ∀ id, stage'.made? config = some id → stage.made? config = some id)

/-- A deed that does not fit the stage does nothing. -/
theorem Effect.refl (config : RingConfig) (deed : Deed σ) (stage : BridgeStage)
    (s : SharedMemory) : Effect config deed stage stage s s :=
  .quiet (.refl s) rfl fun _ h => h

theorem Effect.ages {deed : Deed σ} (he : Effect config deed stage stage' s s') : s.Ages s' := by
  cases he with
  | quiet memory _ _ => exact memory.ages
  | made _ _ memory _ _ => exact memory ▸ s.ages_withNamed ..
  | released _ _ _ memory memory' _ _ =>
      subst memory'
      split
      · exact SharedMemory.ages_unbind memory _
      · exact memory.ages

/-- A name stays bound, unless it is that of a ring which the bridge releases. -/
theorem Effect.keeps {deed : Deed σ} {n : String} {id : Nat}
    (he : Effect config deed stage stage' s s') (hn : s.lookup? n = some id) :
    s'.lookup? n = some id ∨ n = config.name ∧ config.unlinkOnExit = true ∧
      stage'.isOver = true ∧ s'.lookup? n = none ∧ ∃ ring, stage.ring? = some ring ∧
        Bridge.owns config ring = true ∧ stage.held? config = some ring.segment := by
  cases he with
  | quiet memory _ _ => exact .inl (by rw [memory.lookup?_eq, hn])
  | made _ free memory _ _ => exact .inl (memory ▸ SharedMemory.lookup?_withNamed_of_free free hn)
  | released ring_in_hand owned held memory memory' ended _ =>
      -- the segment may stay while its name goes, or both stay
      subst memory'
      split
      · rename_i hunlink
        rw [SharedMemory.lookup?_unbind, memory.lookup?_eq]
        split
        · rename_i heq
          exact .inr ⟨heq, hunlink, ended, rfl, _, ring_in_hand, owned, held⟩
        · exact .inl hn
      · exact .inl (by rw [memory.lookup?_eq, hn])

/-- A deed that binds the name of a ring to a new segment. -/
def Binds (config : RingConfig) (deed : Deed σ) (s s' : SharedMemory) (id : Nat) : Prop :=
  deed = .proceed ∧ s.lookup? config.name = none ∧ s'.lookup? config.name = some id ∧
    id = s.segments.size ∧ id < s'.segments.size

theorem binds_withNamed (config : RingConfig) (hfree : s.lookup? config.name = none)
    (m : Memory) : Binds config (Deed.proceed : Deed σ) s (s.withNamed config.name m)
      s.segments.size :=
  ⟨rfl, hfree, by rw [SharedMemory.lookup?_withNamed, if_pos rfl], rfl,
    by rw [SharedMemory.size_withNamed]; omega⟩

/-- A segment that a bridge holds it held before, and its name is as it was, or it is new. -/
theorem Effect.held_cases {deed : Deed σ} {id : Nat} (he : Effect config deed stage stage' s s')
    (hid : stage'.held? config = some id) :
    stage.held? config = some id ∧ s'.lookup? config.name = s.lookup? config.name ∨
      Binds config deed s s' id := by
  cases he with
  | quiet memory held _ => exact .inl ⟨held ▸ hid, memory.lookup?_eq _⟩
  | made proceed free memory _ held =>
      obtain rfl := Option.some.inj (held.symm.trans hid)
      subst proceed memory
      exact .inr (binds_withNamed config free _)
  | released _ _ _ _ _ ended _ => simp [held?_of_isOver ended] at hid

/-- A segment that a bridge made it made with this deed or before. -/
theorem Effect.made_cases {deed : Deed σ} {id : Nat} (he : Effect config deed stage stage' s s')
    (hid : stage'.made? config = some id) :
    stage.made? config = some id ∨ Binds config deed s s' id := by
  cases he with
  | quiet _ _ origin | released _ _ _ _ _ _ origin => exact .inl (origin id hid)
  | made proceed free memory _ held =>
      obtain rfl := Option.some.inj ((made?_of_held? held).symm.trans hid)
      subst proceed memory
      exact .inr (binds_withNamed config free _)

/-- A segment that a bridge holds it holds on to until it is over. -/
theorem Effect.holds {deed : Deed σ} {id : Nat} (he : Effect config deed stage stage' s s')
    (hid : stage.held? config = some id) :
    stage'.held? config = some id ∨
      stage'.isOver = true ∧ (config.unlinkOnExit = true → s'.lookup? config.name = none) := by
  cases he with
  | quiet _ held _ => exact .inl (held.trans hid)
  | made _ _ _ none_held _ => simp [none_held] at hid
  | released _ _ _ _ memory' ended _ =>
      -- the name goes with the release, if it is to go
      refine .inr ⟨ended, fun hunlink => ?_⟩
      rw [memory', if_pos hunlink, SharedMemory.lookup?_unbind, if_pos rfl]

/-- If the name of its ring is bound with a deed, then the bridge has made the segment. -/
theorem Effect.of_bound {deed : Deed σ} {id : Nat} (he : Effect config deed stage stage' s s')
    (hfree : s.lookup? config.name = none) (hid : s'.lookup? config.name = some id) :
    stage'.held? config = some id ∧ id < s'.segments.size := by
  cases he with
  | quiet memory _ _ => simp [memory.lookup?_eq, hfree] at hid
  | made _ _ memory _ held =>
      subst memory
      rw [SharedMemory.lookup?_withNamed, if_pos rfl] at hid
      refine ⟨held.trans hid, ?_⟩
      obtain rfl := Option.some.inj hid
      rw [SharedMemory.size_withNamed]
      omega
  | released _ _ _ memory memory' _ _ =>
      subst memory'
      split at hid
      · rw [SharedMemory.lookup?_unbind, if_pos rfl] at hid
        cases hid
      · simp [memory.lookup?_eq, hfree] at hid

/-- A bridge that ends with a ring in hand releases it. -/
theorem Effect.of_release {deed : Deed σ} {ring : Ring.Handle} {s₁ : SharedMemory}
    (hserves : s.Serves config.name) (hname : config.inProcess = false →
      Ring.checkName config.name = .ok ())
    (hbound : ∀ id, stage.held? config = some id → s.lookup? config.name = some id)
    (hring : stage.ring? = some ring)
    (hheld : stage.held? config = if Bridge.owns config ring then some ring.segment else none)
    (hover : stage'.isOver = true)
    (horigin : ∀ id, stage'.made? config = some id → stage.made? config = some id)
    (hquiet : s.Quiet s₁)
    (hmemory : s' = Bridge.releaseRing config (Bridge.owns config ring) s₁) :
    Effect config deed stage stage' s s' := by
  cases howns : Bridge.owns config ring with
  | false =>
      -- the ring of somebody else is left alone, so names are as before
      rw [howns] at hheld hmemory
      refine .quiet (hmemory ▸ hquiet) ?_ horigin
      rw [held?_of_isOver hover, hheld]
      rfl
  | true =>
      rw [howns] at hheld hmemory
      -- what was done to the bytes before has not moved the name away from the segment
      have hlookup := (hquiet.lookup?_eq config.name).trans (hbound _ hheld)
      have hvalid := hname (Bridge.owns_eq_true.1 howns).1
      rw [Bridge.releaseRing_of_bound hvalid (hquiet.ages.serves hserves) hlookup] at hmemory
      exact .released hring howns hheld hquiet hmemory hover horigin

/-! ### Starting -/

theorem begin_failed (config : RingConfig) (e : BridgeError) (hquiet : s.Quiet s') :
    (failed e).Sound config ∧ Effect config (Deed.begin : Deed σ) idle (failed e) s s' :=
  ⟨trivial, .quiet hquiet rfl (made?_of_none rfl)⟩

theorem begin_effect (config : BridgeConfig) (s : SharedMemory) :
    (begin config s).1.Sound config.ring ∧
      Effect config.ring (Deed.begin : Deed σ) idle (begin config s).1 s (begin config s).2 := by
  rw [begin]
  split
  · exact begin_failed _ _ (.refl s)
  · exact begin_failed _ _ (.refl s)
  · split
    · rename_i hprivate
      -- a ring in private memory has no name, so there is nothing to hold
      have hquiet := Ring.quiet_openPrivate s config.ring.capacity.toNat
      split
      · rename_i ring s' hopen
        rw [hopen] at hquiet
        refine ⟨fun hshared => absurd hprivate (by simp [hshared]), .quiet hquiet ?_ ?_⟩
        · simp [held?, isOver, made?, Bridge.owns, hprivate]
        · simp [made?, Bridge.owns, hprivate]
      · rename_i e s' hopen
        rw [hopen] at hquiet
        exact begin_failed _ _ hquiet
    · rename_i hshared
      split
      · exact begin_failed _ _ (.refl s)
      · exact begin_failed _ _ (.refl s)
      · rename_i hname
        exact ⟨⟨by simpa using hshared, hname⟩, .quiet (.refl s) rfl (made?_of_none rfl)⟩

theorem sound_ofOpening (hshared : config.inProcess = false)
    (hname : Ring.checkName config.name = .ok ()) (registry : Registry) (o : Ring.Opening) :
    (ofOpening registry o).Sound config := by
  cases o with
  | finished outcome =>
      cases outcome with
      | error e => trivial
      | ok ring => exact fun _ => hname
  | start | named _ | sized _ | zeroed _ | cursorsStored _ | taken | attached _ | mapped _ _ =>
      exact ⟨hshared, hname⟩

theorem proceed_effect {config : BridgeConfig} {registry : Registry} {o : Ring.Opening}
    (publisher : Publisher σ) (hserves : s.Serves config.ring.name)
    (hsound : (opening registry o).Sound config.ring) :
    let next := step publisher config .proceed (opening registry o) s
    next.1.Sound config.ring ∧
      Effect config.ring (Deed.proceed : Deed σ) (opening registry o) next.1 s next.2 := by
  obtain ⟨hshared, hname⟩ := hsound
  refine ⟨sound_ofOpening hshared hname _ _, ?_⟩
  rw [step]
  -- an opening makes its segment in one step, and every other step leaves it what it has made
  obtain ⟨rfl, hfree, hstep⟩ | ⟨hmade, hquiet⟩ := Ring.Opening.step_cases _ o hserves
  · rw [hstep]
    exact .made rfl hfree rfl rfl rfl
  · obtain ⟨hheld', hmade'⟩ := held?_ofOpening hshared registry
      (o.step config.ring.name config.ring.capacity.toNat s).1
    exact .quiet hquiet (hheld'.trans hmade) fun id h => by rwa [hmade', hmade] at h

theorem launch_effect {config : BridgeConfig} {registry : Registry} {ring : Ring.Handle}
    (publisher : Publisher σ) (now : Nat) (site : Site σ) (hserves : s.Serves config.ring.name)
    (hsound : (opened registry ring).Sound config.ring)
    (hbound : ∀ id, (opened registry ring).held? config.ring = some id →
      s.lookup? config.ring.name = some id) :
    let next := step publisher config (.launch now site) (opened registry ring) s
    next.1.Sound config.ring ∧
      Effect config.ring (.launch now site) (opened registry ring) next.1 s next.2 := by
  rw [step]
  obtain ⟨b, site', hlaunch, hhold, hquiet⟩ | ⟨e, s₁, site', hlaunch, hquiet, hmemory⟩ :=
    Bridge.launch_cases publisher (Bridge.assemble config registry ring site.host.backend now)
      { site with memory := s }
  · rw [hlaunch]
    have howned : b.owned = Bridge.owns config.ring ring := hhold.owned_eq
    have hring : b.ring = ring := hhold.ring_eq
    have hgoing : b.stopped = false := hhold.stopped_eq
    refine ⟨⟨by rw [hhold.config_eq]; rfl, by rw [howned, hring], hsound⟩, .quiet hquiet ?_ ?_⟩
    · rw [held?_started, hgoing, howned, hring]
      rfl
    · intro id hid
      rwa [made?_started, howned, hring] at hid
  · rw [hlaunch]
    exact ⟨trivial, .of_release hserves hsound hbound rfl rfl rfl (made?_of_none rfl) hquiet
      hmemory⟩

theorem giveUp_effect {config : BridgeConfig} {registry : Registry} {ring : Ring.Handle}
    (publisher : Publisher σ) (process : Nat) (e : BridgeError)
    (hserves : s.Serves config.ring.name) (hsound : (opened registry ring).Sound config.ring)
    (hbound : ∀ id, (opened registry ring).held? config.ring = some id →
      s.lookup? config.ring.name = some id) :
    let next := step publisher config (.giveUp process e) (opened registry ring) s
    next.1.Sound config.ring ∧
      Effect config.ring (.giveUp process e : Deed σ) (opened registry ring) next.1 s next.2 :=
  ⟨trivial, .of_release hserves hsound hbound rfl rfl rfl (made?_of_none rfl)
    (Bridge.quiet_claim ..) rfl⟩

/-! ### Once started

A run leaves the names and what the bridge holds as they were. A stop and a drop do the same to
names, so `stop_effect` leaves open what the stage is afterwards.
-/

theorem Sound.of_sameRing {b b' : Bridge} (hsound : (started b).Sound config)
    (hring : b.SameRing b') : (started b').Sound config := by
  obtain ⟨hconfig, howned, hname⟩ := hsound
  exact ⟨by rw [hring.config_eq, hconfig], by rw [hring.owned_eq, hring.ring_eq, howned], hname⟩

theorem made?_of_sameRing {b b' : Bridge} (hring : b.SameRing b') :
    (started b').made? config = (started b).made? config := by
  rw [made?_started, made?_started, hring.owned_eq, hring.ring_eq]

theorem run_effect {config : BridgeConfig} {b : Bridge} (publisher : Publisher σ) (now : Nat)
    (late : List Nat) (site : Site σ) (hsound : (started b).Sound config.ring) :
    let next := step publisher config (.run now late site) (started b) s
    next.1.Sound config.ring ∧
      Effect config.ring (.run now late site) (started b) next.1 s next.2 := by
  obtain ⟨hhold, hquiet⟩ := Bridge.run_keeps publisher now late b { site with memory := s }
  refine ⟨hsound.of_sameRing hhold.toSameRing, .quiet hquiet ?_ fun id hid =>
    (made?_of_sameRing hhold.toSameRing).symm.trans hid⟩
  rw [step, held?_started, held?_started, hhold.stopped_eq, hhold.owned_eq, hhold.ring_eq]

/-- Stopping a bridge, whatever is made of it then. -/
theorem stop_effect {config : BridgeConfig} {b : Bridge} {deed : Deed σ} (publisher : Publisher σ)
    (now : Nat) (site : Site σ) (hserves : s.Serves config.ring.name)
    (hsound : (started b).Sound config.ring)
    (hbound : ∀ id, (started b).held? config.ring = some id →
      s.lookup? config.ring.name = some id)
    (hover : stage'.isOver = true)
    (horigin : ∀ id, stage'.made? config.ring = some id → (started b).made? config.ring = some id) :
    Effect config.ring deed (started b) stage' s
      (b.stop publisher now { site with memory := s }).2.memory := by
  cases hgoing : b.stopped with
  | true =>
      -- the ring was released by the stop before this one
      rw [Bridge.stop_of_stopped publisher now _ hgoing]
      refine .quiet (.refl s) ?_ horigin
      rw [held?_of_isOver hover, held?_started, if_pos hgoing]
  | false =>
      obtain ⟨-, -, s₁, hquiet, hmemory⟩ :=
        Bridge.stop_releases publisher now { site with memory := s } hgoing
      obtain ⟨hconfig, howned, hname⟩ := hsound
      rw [hconfig, howned] at hmemory
      refine .of_release hserves hname hbound rfl ?_ hover horigin hquiet hmemory
      rw [held?_started, hgoing, howned]
      rfl

/-- What each deed does to names. -/
theorem step_effect (publisher : Publisher σ) (config : BridgeConfig) (deed : Deed σ)
    (stage : BridgeStage) (s : SharedMemory) (hserves : s.Serves config.ring.name)
    (hsound : stage.Sound config.ring)
    (hbound : ∀ id, stage.held? config.ring = some id → s.lookup? config.ring.name = some id) :
    let next := stage.step publisher config deed s
    next.1.Sound config.ring ∧ Effect config.ring deed stage next.1 s next.2 := by
  -- a deed that fits the stage has its lemma, and one that does not fit does nothing
  cases deed with
  | begin =>
      cases stage with
      | idle => exact begin_effect config s
      | opening _ _ | opened _ _ | started _ | failed _ | dropped => exact ⟨hsound, .refl ..⟩
  | proceed =>
      cases stage with
      | opening registry o => exact proceed_effect publisher hserves hsound
      | idle | opened _ _ | started _ | failed _ | dropped => exact ⟨hsound, .refl ..⟩
  | launch now site =>
      cases stage with
      | opened registry ring => exact launch_effect publisher now site hserves hsound hbound
      | idle | opening _ _ | started _ | failed _ | dropped => exact ⟨hsound, .refl ..⟩
  | giveUp process e =>
      cases stage with
      | opened registry ring => exact giveUp_effect publisher process e hserves hsound hbound
      | idle | opening _ _ | started _ | failed _ | dropped => exact ⟨hsound, .refl ..⟩
  | run now late site =>
      cases stage with
      | started b => exact run_effect publisher now late site hsound
      | idle | opening _ _ | opened _ _ | failed _ | dropped => exact ⟨hsound, .refl ..⟩
  | stop now site =>
      cases stage with
      | started b =>
          obtain ⟨hring, hstopped⟩ := b.stop_keeps publisher now { site with memory := s }
          exact ⟨hsound.of_sameRing hring, stop_effect publisher now site hserves hsound hbound
            hstopped fun id hid => (made?_of_sameRing hring).symm.trans hid⟩
      | idle | opening _ _ | opened _ _ | failed _ | dropped => exact ⟨hsound, .refl ..⟩
  | drop now site =>
      cases stage with
      | started b =>
          exact ⟨trivial, stop_effect publisher now site hserves hsound hbound rfl
            (made?_of_none rfl)⟩
      | idle | opening _ _ | opened _ _ | failed _ | dropped => exact ⟨hsound, .refl ..⟩

/-- What is over stays over. -/
theorem isOver_step (publisher : Publisher σ) (config : BridgeConfig) (deed : Deed σ)
    (s : SharedMemory) (hover : stage.isOver = true) :
    (stage.step publisher config deed s).1.isOver = true := by
  cases stage with
  | idle | opening _ _ | opened _ _ => cases hover
  | failed _ | dropped => cases deed <;> rfl
  | started b =>
      cases deed with
      | begin | proceed | launch _ _ | giveUp _ _ => exact hover
      | run now late site =>
          obtain ⟨hhold, -⟩ := b.run_keeps publisher now late { site with memory := s }
          exact hhold.stopped_eq.trans hover
      | stop now site => exact (b.stop_keeps publisher now { site with memory := s }).2
      | drop now site => rfl

end BridgeStage

end Telemetry
