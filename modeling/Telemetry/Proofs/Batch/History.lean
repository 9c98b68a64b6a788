import Mathlib.Data.List.DropRight
import Telemetry.Batch
import Telemetry.Proofs.Frame.Numbering
import Telemetry.Proofs.Transfer.Receiving

/-!
# What a batch has been through

Samples are added to a batch, it is asked whether it is ready, serialized, flushed and cleared, and
time goes by in between. The history of such a run lists its events: each action together with the
batch and the time that it found. What one event does to what waits is said by `entries_after`, and
what the frame of one event holds by `read_frame`. From there on the history says it all: what waits
was added since the batch was last emptied, a frame holds what waited when it was made, and a
failure changes nothing. Where the batch is never cleared, what was sent and what waits are together
what was added (`history_accounts_for_all`).

## How the proof goes

Making a frame and flushing are looked into once, in `serialize_cases` and `flush_cases`: what may
come of them, with the batch that is left in each case. As actions of a run they are `act_serialize`
and `act_flush`. Every statement about events is a case split by the action, in which these two are
the cases with something to prove. Statements about runs go by induction from the last event, since
it is the end of a history that says what waits (`Clocked.entries_run`); a failure and a frame are
matters of one event and need no induction.
-/

namespace Telemetry

namespace Batch

/-- What samples that are added one after another make of a batch. -/
theorem foldl_push_eq (samples : List Variable) (b : Batch) :
    samples.foldl push b = { b with entries := b.entries ++ samples.toArray } := by
  induction samples generalizing b with
  | nil => simp
  | cons v samples ih =>
      rw [List.foldl_cons, ih, push]
      simp

/-! ## Frames of a batch -/

/-- What comes of making a frame: what waits is refused, and the batch is as it was; or a frame is
made that is read as what waits. -/
theorem serialize_cases (b : Batch) (now : Nat) :
    (∃ e, Frame.refusal? b.entries.toList = some e ∧ b.serialize now = (.error e, b)) ∨
    (Frame.refusal? b.entries.toList = none ∧ ∃ frame builder bytes header,
      b.serialize now = (.ok frame, { b with builder }) ∧
      Receiver.read frame = .ok (bytes, ⟨header, b.entries.toList⟩)) := by
  rw [serialize, Frame.Builder.buildBatch]
  rcases Frame.build_cases_of_refusal b.builder .batch b.entries.toList (Clock.stamp now) with
    ⟨e, hrefusal, h⟩ | ⟨hrefusal, frame, h⟩
  · exact .inl ⟨e, hrefusal, by rw [h]⟩
  · obtain ⟨bytes, header, hread⟩ := Receiver.read_buildBatch h
    exact .inr ⟨hrefusal, frame, _, bytes, header, by rw [h], hread⟩

/-- What a flush makes of a batch: where nothing waits, nothing; where what waits is refused, an
error, and the batch is as it was; and else a frame that is read as what waited. -/
theorem flush_cases (b : Batch) (now : Nat) :
    (b.entries = #[] ∧ b.flush now = (.ok none, { b with restarted := now })) ∨
    (b.entries ≠ #[] ∧ ∃ e,
      Frame.refusal? b.entries.toList = some e ∧ b.flush now = (.error e, b)) ∨
    (b.entries ≠ #[] ∧ Frame.refusal? b.entries.toList = none ∧ ∃ frame builder bytes header,
      b.flush now = (.ok (some frame), { b with builder, entries := #[], restarted := now }) ∧
      Receiver.read frame = .ok (bytes, ⟨header, b.entries.toList⟩)) := by
  rw [flush]
  -- a flush with nothing waiting restarts the clock all the same
  by_cases hempty : b.isEmpty = true
  · rw [if_pos hempty]
    exact .inl ⟨Array.isEmpty_iff.1 hempty, rfl⟩
  · rw [if_neg hempty]
    have hsome : b.entries ≠ #[] := fun h => hempty (Array.isEmpty_iff.2 h)
    rcases b.serialize_cases now with ⟨e, hrefusal, hserialize⟩ |
      ⟨hrefusal, frame, builder, bytes, header, hserialize, hread⟩
    · rw [hserialize]
      exact .inr (.inl ⟨hsome, e, hrefusal, rfl⟩)
    · rw [hserialize]
      exact .inr (.inr ⟨hsome, hrefusal, frame, builder, bytes, header, rfl, hread⟩)

/-! ## Runs -/

/-- What can be done to a batch, and to its clock. -/
inductive Action where
  /-- Add a value of no type in particular, captured now. -/
  | add (name : String) (value : Bytes)
  /-- Add a value that is captured now. -/
  | addTyped (name : String) (dataType : DataType) (value : Bytes)
  /-- Add a value with the time when it was captured. -/
  | addAt (v : Variable)
  /-- Ask whether the batch should be sent. -/
  | ask
  | serialize
  | flush
  | clear
  /-- Let some nanoseconds go by. -/
  | wait (nanos : Nat)
  deriving DecidableEq, Repr

/-- What an action replies. -/
inductive Reply where
  | ready (yes : Bool)
  /-- A frame, if there was anything to send, or why none could be made. -/
  | frame (outcome : Except Frame.FrameError (Option Bytes))
  | nothing

/-- A batch, and the time. -/
structure Clocked where
  batch : Batch
  now : Nat

namespace Clocked

/-- A new batch. -/
def new (config : BatchConfig) (builder : Frame.Builder) (now : Nat) : Clocked :=
  ⟨.empty config builder now, now⟩

/-- Takes in what came of adding a sample. -/
def grow (s : Clocked) : Bool × Batch → Reply × Clocked
  | (ready, batch) => (.ready ready, { s with batch })

/-- Does an action. -/
def act (s : Clocked) : Action → Reply × Clocked
  | .add name value => s.grow (s.batch.add name value s.now)
  | .addTyped name dataType value => s.grow (s.batch.addTyped name dataType value s.now)
  | .addAt v => s.grow (s.batch.addAt v s.now)
  | .ask => (.ready (s.batch.isReady s.now), s)
  | .serialize =>
    let (outcome, batch) := s.batch.serialize s.now
    (.frame (outcome.map some), { s with batch })
  | .flush =>
    let (outcome, batch) := s.batch.flush s.now
    (.frame outcome, { s with batch })
  | .clear => (.nothing, { s with batch := s.batch.clear s.now })
  | .wait nanos => (.nothing, { s with now := s.now + nanos })

/-- One action after another. -/
def run (s : Clocked) (actions : List Action) : Clocked :=
  actions.foldl (fun s a => (s.act a).2) s

end Clocked

/-- An action, and the batch that it found. -/
structure Event where
  before : Clocked
  action : Action

/-- The events of a run. -/
def Clocked.history (s : Clocked) : List Action → List Event
  | [] => []
  | a :: actions => ⟨s, a⟩ :: (s.act a).2.history actions

theorem Clocked.run_concat (s : Clocked) (actions : List Action) (a : Action) :
    s.run (actions ++ [a]) = ((s.run actions).act a).2 := List.foldl_concat ..

theorem Clocked.history_concat (s : Clocked) (actions : List Action) (a : Action) :
    s.history (actions ++ [a]) = s.history actions ++ [⟨s.run actions, a⟩] := by
  induction actions generalizing s with
  | nil => rfl
  | cons b actions ih => exact congrArg (⟨s, b⟩ :: ·) (ih (s.act b).2)

/-- What comes of serializing: an error, and all is as it was; or a frame of what waits. -/
theorem Clocked.act_serialize (s : Clocked) :
    (∃ e, Frame.refusal? s.batch.entries.toList = some e ∧
      s.act .serialize = (.frame (.error e), s)) ∨
    (Frame.refusal? s.batch.entries.toList = none ∧ ∃ frame builder bytes header,
      s.act .serialize = (.frame (.ok (some frame)), { s with batch := { s.batch with builder } }) ∧
      Receiver.read frame = .ok (bytes, ⟨header, s.batch.entries.toList⟩)) := by
  rcases s.batch.serialize_cases s.now with ⟨e, hrefusal, h⟩ |
    ⟨hrefusal, frame, builder, bytes, header, h, hread⟩
  · exact .inl ⟨e, hrefusal, by rw [act, h]; rfl⟩
  · exact .inr ⟨hrefusal, frame, builder, bytes, header, by rw [act, h]; rfl, hread⟩

/-- What comes of a flush: nothing where nothing waits; an error, and all is as it was; or a frame
of what waited. -/
theorem Clocked.act_flush (s : Clocked) :
    (s.batch.entries = #[] ∧
      s.act .flush = (.frame (.ok none), { s with batch := { s.batch with restarted := s.now } })) ∨
    (s.batch.entries ≠ #[] ∧ ∃ e, Frame.refusal? s.batch.entries.toList = some e ∧
      s.act .flush = (.frame (.error e), s)) ∨
    (s.batch.entries ≠ #[] ∧ Frame.refusal? s.batch.entries.toList = none ∧
      ∃ frame builder bytes header,
      s.act .flush = (.frame (.ok (some frame)),
        { s with batch := { s.batch with builder, entries := #[], restarted := s.now } }) ∧
      Receiver.read frame = .ok (bytes, ⟨header, s.batch.entries.toList⟩)) := by
  rcases s.batch.flush_cases s.now with ⟨hnone, h⟩ | ⟨hsome, e, hrefusal, h⟩ |
    ⟨hsome, hrefusal, frame, builder, bytes, header, h, hread⟩
  · exact .inl ⟨hnone, by rw [act, h]⟩
  · exact .inr (.inl ⟨hsome, e, hrefusal, by rw [act, h]⟩)
  · exact .inr (.inr ⟨hsome, hrefusal, frame, builder, bytes, header, by rw [act, h], hread⟩)

/-! ## Events -/

/-- The samples that a frame is read as. -/
def carried (frame : Bytes) : List Variable :=
  match Receiver.read frame with
  | .ok (_, f) => f.entries
  | .error _ => []

namespace Event

/-- What was replied. -/
def reply (e : Event) : Reply := (e.before.act e.action).1

/-- The batch as the action left it. -/
def after (e : Event) : Clocked := (e.before.act e.action).2

/-- The samples that were added. -/
def samples (e : Event) : List Variable :=
  match e.action with
  | .add name value => [⟨name, .custom, value, Clock.stamp e.before.now⟩]
  | .addTyped name dataType value => [⟨name, dataType, value, Clock.stamp e.before.now⟩]
  | .addAt v => [v]
  | _ => []

/-- The frame that was made, if one was. -/
def frame? (e : Event) : Option Bytes :=
  match e.reply with
  | .frame (.ok frame) => frame
  | _ => none

/-- The frame that a flush made, if one did. -/
def sent? (e : Event) : Option Bytes :=
  match e.action with
  | .flush => e.frame?
  | _ => none

/-- Whether the batch was emptied: it was cleared, or flushed into a frame. -/
def empties (e : Event) : Bool :=
  match e.action with
  | .clear => true
  | _ => e.sent?.isSome

/-- Whether a frame of what waits was asked for: the batch was serialized, or flushed while
something waited. -/
def asks (e : Event) : Bool :=
  match e.action with
  | .serialize => true
  | .flush => !e.before.batch.isEmpty
  | _ => false

/-- How the batch answers when a frame is asked for: with a frame if what waits goes into one, and
else with the error of the refusal. A flush that answers with a frame leaves the batch empty. -/
structure Answered (e : Event) : Prop where
  made_iff : (∃ frame, e.frame? = some frame) ↔ Frame.Encodable e.before.batch.entries.toList
  refused_iff : ∀ error, e.reply = .frame (.error error) ↔
    Frame.refusal? e.before.batch.entries.toList = some error
  emptied : ∀ frame, e.sent? = some frame → e.after.batch.entries = #[]

/-- What waits after an event. -/
theorem entries_after (e : Event) : e.after.batch.entries.toList =
    if e.empties then [] else e.before.batch.entries.toList ++ e.samples := by
  obtain ⟨s, action⟩ := e
  cases action with
  | add name value => exact Array.toList_push
  | addTyped name dataType value => exact Array.toList_push
  | addAt v => exact Array.toList_push
  | ask => exact (List.append_nil _).symm
  | serialize =>
      rcases s.act_serialize with ⟨e, -, h⟩ | ⟨-, frame, builder, bytes, header, h, -⟩
      · simp [after, h, empties, sent?, samples]
      · simp [after, h, empties, sent?, samples]
  | flush =>
      rcases s.act_flush with ⟨-, h⟩ | ⟨-, e, -, h⟩ | ⟨-, -, frame, builder, bytes, header, h, -⟩
      · simp [after, h, empties, sent?, frame?, reply, samples]
      · simp [after, h, empties, sent?, frame?, reply, samples]
      · simp [after, h, empties, sent?, frame?, reply]
  | clear => rfl
  | wait nanos => exact (List.append_nil _).symm

/-- A frame is read as what waited when it was made. -/
theorem read_frame {e : Event} {frame : Bytes} (hframe : e.frame? = some frame) :
    ∃ bytes header,
      Receiver.read frame = .ok (bytes, ⟨header, e.before.batch.entries.toList⟩) := by
  obtain ⟨s, action⟩ := e
  cases action with
  | serialize =>
      rcases s.act_serialize with ⟨e, -, h⟩ | ⟨-, made, builder, bytes, header, h, hread⟩
      · simp [frame?, reply, h] at hframe
      · obtain rfl : made = frame := by simpa [frame?, reply, h] using hframe
        exact ⟨bytes, header, hread⟩
  | flush =>
      rcases s.act_flush with ⟨-, h⟩ | ⟨-, e, -, h⟩ |
        ⟨-, -, made, builder, bytes, header, h, hread⟩
      · simp [frame?, reply, h] at hframe
      · simp [frame?, reply, h] at hframe
      · obtain rfl : made = frame := by simpa [frame?, reply, h] using hframe
        exact ⟨bytes, header, hread⟩
  | _ => cases hframe

/-- Where no frame could be made everything is as it was. -/
theorem after_of_failed {e : Event} {error : Frame.FrameError}
    (hfailed : e.reply = .frame (.error error)) : e.after = e.before := by
  obtain ⟨s, action⟩ := e
  cases action with
  | serialize =>
      rcases s.act_serialize with ⟨e, -, h⟩ | ⟨-, frame, builder, bytes, header, h, -⟩
      · rw [after, h]
      · simp [reply, h] at hfailed
  | flush =>
      rcases s.act_flush with ⟨-, h⟩ | ⟨-, e, -, h⟩ | ⟨-, -, frame, builder, bytes, header, h, -⟩
      · simp [reply, h] at hfailed
      · rw [after, h]
      · simp [reply, h] at hfailed
  | _ => cases hfailed

theorem flush_of_sent {e : Event} {frame : Bytes} (hsent : e.sent? = some frame) :
    e.action = .flush ∧ e.frame? = some frame := by
  rw [sent?] at hsent
  split at hsent
  · exact ⟨‹_›, hsent⟩
  · cases hsent

theorem answered_of_refused {s s' : Clocked} {action : Action} {error : Frame.FrameError}
    (hrefusal : Frame.refusal? s.batch.entries.toList = some error)
    (h : s.act action = (.frame (.error error), s')) : Answered ⟨s, action⟩ where
  made_iff := by simp [frame?, reply, h, ← Frame.refusal?_eq_none_iff, hrefusal]
  refused_iff := by simp [reply, h, hrefusal]
  emptied := by
    intro frame hsent
    have hframe := (flush_of_sent hsent).2
    simp [frame?, reply, h] at hframe

theorem answered_of_made {s s' : Clocked} {action : Action} {frame : Bytes}
    (hrefusal : Frame.refusal? s.batch.entries.toList = none)
    (h : s.act action = (.frame (.ok (some frame)), s'))
    (hempty : action = .flush → s'.batch.entries = #[]) : Answered ⟨s, action⟩ where
  made_iff := by simp [frame?, reply, h, ← Frame.refusal?_eq_none_iff, hrefusal]
  refused_iff := by simp [reply, h, hrefusal]
  emptied := by
    intro frame hsent
    rw [after, h]
    exact hempty (flush_of_sent hsent).1

/-- A frame that is asked for is made or refused. -/
theorem answered_of_asks {e : Event} (hasks : e.asks = true) : e.Answered := by
  obtain ⟨s, action⟩ := e
  cases action with
  | serialize =>
      rcases s.act_serialize with ⟨e, hrefusal, h⟩ | ⟨hrefusal, frame, builder, bytes, header, h, -⟩
      · exact answered_of_refused hrefusal h
      · exact answered_of_made hrefusal h (by simp)
  | flush =>
      rcases s.act_flush with ⟨hnone, -⟩ | ⟨-, e, hrefusal, h⟩ |
        ⟨-, hrefusal, frame, builder, bytes, header, h, -⟩
      · simp [asks, isEmpty, hnone] at hasks
      · exact answered_of_refused hrefusal h
      · exact answered_of_made hrefusal h fun _ => rfl
  | _ => cases hasks

/-- A flush that finds nothing waiting makes no frame and does not fail. -/
theorem reply_of_idle {e : Event} (hflush : e.action = .flush)
    (hnone : e.before.batch.entries = #[]) : e.reply = .frame (.ok none) := by
  obtain ⟨s, action⟩ := e
  subst hflush
  rcases s.act_flush with ⟨-, h⟩ | ⟨hsome, -⟩ | ⟨hsome, -⟩
  · rw [reply, h]
  · exact absurd hnone hsome
  · exact absurd hnone hsome

theorem empties_of_ne_clear {e : Event} (hclear : e.action ≠ .clear) :
    e.empties = e.sent?.isSome := by
  rw [empties]
  split
  · exact absurd ‹_› hclear
  · rfl

/-- Only a clearing loses what waited: all else waits after an event, or was sent by it. -/
theorem sent_append_entries {e : Event} (hclear : e.action ≠ .clear) :
    e.sent?.toList.flatMap carried ++ e.after.batch.entries.toList
      = e.before.batch.entries.toList ++ e.samples := by
  have hafter := e.entries_after
  rw [empties_of_ne_clear hclear] at hafter
  cases hsent : e.sent? with
  | none =>
      rw [hsent] at hafter
      exact hafter
  | some frame =>
      obtain ⟨hflush, hframe⟩ := flush_of_sent hsent
      obtain ⟨bytes, header, hread⟩ := read_frame hframe
      -- what a flush sends is all that waited, and it adds nothing
      have hcarried : carried frame = e.before.batch.entries.toList := by rw [carried, hread]
      have hsamples : e.samples = [] := by rw [samples, hflush]
      rw [hsent] at hafter
      rw [hafter, hsamples]
      simp [hcarried]

end Event

/-! ## Histories -/

namespace Clocked

/-- What waits after a run from an empty batch is what came since it was last emptied. -/
theorem entries_run (s : Clocked) (hs : s.batch.entries = #[]) (actions : List Action) :
    (s.run actions).batch.entries.toList
      = ((s.history actions).rtakeWhile fun e => !e.empties).flatMap Event.samples := by
  -- from the end of the run: whether the last event empties the batch decides what is left of it
  induction actions using List.reverseRecOn with
  | nil => exact congrArg Array.toList hs
  | append_singleton actions a ih =>
      have hafter := Event.entries_after ⟨s.run actions, a⟩
      rw [run_concat, history_concat, List.rtakeWhile_concat]
      by_cases hempties : Event.empties ⟨s.run actions, a⟩ = true
      · rw [if_pos hempties] at hafter
        rw [if_neg (by simpa using hempties)]
        exact hafter
      · rw [if_neg hempties] at hafter
        rw [if_pos (by simpa using hempties), List.flatMap_append, ← ih, List.flatMap_singleton]
        exact hafter

/-- What was sent and what waits are together what waited first and what was added since. -/
theorem sent_append_entries_run (s : Clocked) (actions : List Action)
    (hclear : .clear ∉ actions) :
    ((s.history actions).filterMap Event.sent?).flatMap carried
        ++ (s.run actions).batch.entries.toList
      = s.batch.entries.toList ++ (s.history actions).flatMap Event.samples := by
  induction actions using List.reverseRecOn with
  | nil => exact (List.append_nil _).symm
  | append_singleton actions a ih =>
      rw [List.mem_append, List.mem_singleton, not_or] at hclear
      obtain ⟨hbefore, hlast⟩ := hclear
      have hkept := Event.sent_append_entries (e := ⟨s.run actions, a⟩) (Ne.symm hlast)
      rw [run_concat, history_concat, List.filterMap_append, List.flatMap_append,
        List.append_assoc, List.flatMap_append, ← List.append_assoc s.batch.entries.toList,
        ← ih hbefore, List.append_assoc _ (s.run actions).batch.entries.toList,
        List.flatMap_singleton, ← hkept]
      cases hsent : Event.sent? ⟨s.run actions, a⟩ with
      | none => simp [hsent, Event.after]
      | some frame => simp [hsent, Event.after]

end Clocked

/-! ## The whole history -/

/-- What waits is what was added since the batch was last emptied. Whenever a frame is asked for, it
is made if what waits goes into one and is refused with an error if not; a flush that makes one
leaves the batch empty, and one that finds nothing waiting makes none. Each frame holds what waited
when it was made, and where no frame could be made everything stayed as it was. Where the batch was
never cleared, the frames that were sent hold, one after another, all that was added and does not
wait. -/
theorem history_accounts_for_all (config : BatchConfig) (builder : Frame.Builder) (start : Nat)
    (actions : List Action) :
    let s := Clocked.new config builder start
    let events := s.history actions
    let pending := (s.run actions).batch.entries.toList
    pending = (events.rtakeWhile fun e => !e.empties).flatMap Event.samples ∧
    (∀ e ∈ events, e.asks = true → e.Answered) ∧
    (∀ e ∈ events, e.action = .flush → e.before.batch.entries = #[] →
      e.reply = .frame (.ok none)) ∧
    (∀ e ∈ events, ∀ frame, e.frame? = some frame → ∃ restored header,
      Frame.restore frame = .ok restored ∧
      Frame.decode restored.bytes = .ok ⟨header, e.before.batch.entries.toList⟩) ∧
    (∀ e ∈ events, ∀ error, e.reply = .frame (.error error) → e.after = e.before) ∧
    (.clear ∉ actions →
      (events.filterMap Event.sent?).flatMap carried ++ pending
        = events.flatMap Event.samples) := by
  refine ⟨Clocked.entries_run _ rfl actions, ?_, ?_, ?_, ?_,
    Clocked.sent_append_entries_run _ actions⟩
  · intro e _ hasks
    exact Event.answered_of_asks hasks
  · intro e _ hflush hnone
    exact Event.reply_of_idle hflush hnone
  · intro e _ frame hframe
    obtain ⟨bytes, header, hread⟩ := Event.read_frame hframe
    obtain ⟨restored, hrestore, -, hdecode⟩ := Receiver.read_eq_ok hread
    exact ⟨restored, header, hrestore, hdecode⟩
  · intro e _ error hfailed
    exact Event.after_of_failed hfailed

end Batch

end Telemetry
