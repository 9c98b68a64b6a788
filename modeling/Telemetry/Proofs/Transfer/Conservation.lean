import Mathlib
import Telemetry.Proofs.Ring.Queue
import Telemetry.Proofs.Transfer.Sending
import Telemetry.Transfer.Basic

/-!
# Every sample is accounted for

The ledger of a run lists the shipments that its flushes made, each with the samples of its batch
and their fate. It is kept beside the run and not by it: the counters only count. When the sender is
gone and the ring drained nothing waits any more, and the ledger, the counters and the publisher
agree (`every_sample_is_accounted_for`).

## How the proof goes

The invariant (`Kept`) says where every sample is: in the ledger or still waiting to be sent; and
those of written frames have been published or lie in the ring, in the order in which they were
polled. It is kept by samples that are taken in (`kept_take`), by a flush in each of its outcomes
(`kept_of_flush`), and by the receipt of a message, which moves a frame from the ring to the
publisher (`kept_consume`); so by every event (`kept_step`) and, by induction on the events, by
every run (`kept_run`). The frames in the ring carry the samples they were made of, since what a
builder made is read back, packed or not (`Receiver.read_build`, by way of `Sender.flush_cases`).

That the ring is a queue rests on counts of bytes that fit a word. The bytes sent only grow
(`le_bytesSent_run`), so it is enough that those at the end of the run do. Draining is receipts
alone: each takes one frame off (`kept_drain`), and none touches the sender.
-/

namespace Telemetry

open Telemetry.Ring (Queue Exact)

/-! ## The ledger of a run -/

/-- The samples of each written frame of a ledger. -/
def writtenBatches (ledger : List Shipment) : List (List Variable) :=
  (ledger.filter fun s => s.fate = .written).map Shipment.samples

/-- What a variable is published as. -/
def Variable.message (root : String) (v : Variable) : Message := ⟨root ++ "/" ++ v.name, v.value⟩

namespace Transfer

variable {σ : Type}

/-- A sender and a receiver of nothing yet, at a ring. -/
def new (batch : Batch) (ring : Ring) (root : String) : Transfer (Array Message) :=
  ⟨Sender.new batch, ring, Receiver.new root .perVariable, #[]⟩

/-- The samples that an event delivers. -/
def Event.samples : Event → List Variable
  | .cycle _ samples => samples
  | .flush _ | .consume | .drop _ => []

/-- The shipments that an event makes. -/
def shipments (t : Transfer σ) : Event → List Shipment
  | .cycle now samples =>
    let s := t.sender.take samples samples.length
    if s.batch.isReady now then s.shipments now t.ring else []
  | .flush now | .drop now => t.sender.shipments now t.ring
  | .consume => []

/-- What the receipt of a message comes to. -/
def receipts (publisher : Publisher σ) (t : Transfer σ) :
    Event → List (Except RingError (Bytes × Except BridgeError Nat))
  | .cycle .. | .flush _ | .drop _ => []
  | .consume => [(t.consume publisher).1]

/-- What is seen of each event of a run, all together. -/
def trace {α : Type} (publisher : Publisher σ) (see : Transfer σ → Event → List α)
    (t : Transfer σ) : List Event → List α
  | [] => []
  | e :: events => see t e ++ trace publisher see (t.step publisher e) events

/-! ## What every run keeps -/

/-- The counters of the sender agree with a ledger. -/
structure Tallies (c : SendingCounts) (ledger : List Shipment) : Prop where
  written : c.framesWritten = (ledger.map Shipment.fate).count .written
  dropped : c.framesDropped = (ledger.map Shipment.fate).count .dropped
  rejected : c.framesRejected = (ledger.map Shipment.fate).count .rejected

theorem count_fate_append (shipped : List Shipment) (fate fate' : Fate) (samples : List Variable) :
    ((shipped ++ [(⟨fate', samples⟩ : Shipment)]).map Shipment.fate).count fate
      = (shipped.map Shipment.fate).count fate + if fate' = fate then 1 else 0 := by
  rw [List.map_append, List.count_append, List.map_singleton, List.count_singleton]
  simp only [beq_iff_eq]

/-- A shipment is counted under its fate. -/
theorem Tallies.append {c : SendingCounts} {shipped : List Shipment} (h : Tallies c shipped)
    (length : Nat) (fate : Fate) (samples : List Variable) :
    Tallies (fate.tally c length) (shipped ++ [⟨fate, samples⟩]) := by
  constructor
  · rw [count_fate_append, ← h.written]
    cases fate <;> rfl
  · rw [count_fate_append, ← h.dropped]
    cases fate <;> rfl
  · rw [count_fate_append, ← h.rejected]
    cases fate <;> rfl

/-- Where every sample is. The batches of the written frames are those already handled and those of
the frames in the ring, which are still to be read. -/
structure Kept (t : Transfer (Array Message)) (root : String) (polled : List Variable)
    (ledger : List Shipment) (read : Nat) (handled : List (List Variable))
    (waiting : List (Bytes × List Variable)) : Prop where
  carries : t.ring.Carries read (waiting.map Prod.fst)
  readable : ∀ w ∈ waiting, ∃ bytes header, Receiver.read w.1 = .ok (bytes, ⟨header, w.2⟩)
  polled_eq : polled = ledger.flatMap Shipment.samples ++ t.sender.batch.entries.toList
  written_eq : writtenBatches ledger = handled ++ waiting.map Prod.snd
  tallies : Tallies t.sender.counts ledger
  sent_eq : read + Queue.used (waiting.map Prod.fst) = t.sender.counts.bytesSent
  mode_eq : t.receiver.mode = .perVariable
  root_eq : t.receiver.root = root
  received_eq : t.receiver.counts.framesReceived = handled.length
  published_eq : t.published.toList = handled.flatten.map (Variable.message root)

theorem kept_new {batch : Batch} (hbatch : batch.entries = #[]) {ring : Ring}
    (hring : ring.Carries 0 []) (root : String) :
    (new batch ring root).Kept (topicRoot root) [] [] 0 [] [] where
  carries := hring
  readable := fun _ hw => absurd hw List.not_mem_nil
  polled_eq := by
    rw [new, Sender.new, hbatch]
    rfl
  written_eq := rfl
  tallies := ⟨rfl, rfl, rfl⟩
  sent_eq := rfl
  mode_eq := rfl
  root_eq := rfl
  received_eq := rfl
  published_eq := rfl

variable {t : Transfer (Array Message)} {root : String} {samples : List Variable}
  {shipped : List Shipment} {read : Nat} {handled : List (List Variable)}
  {waiting : List (Bytes × List Variable)}

/-- Samples that are taken in wait to be sent. -/
theorem kept_take (h : t.Kept root samples shipped read handled waiting) (more : List Variable) :
    Kept { t with sender := t.sender.take more more.length } root (samples ++ more) shipped read
      handled waiting :=
  { h with
    polled_eq := by
      rw [h.polled_eq, List.append_assoc]
      show _ = _ ++ (t.sender.take more more.length).batch.entries.toList
      rw [Sender.entries_take]
    tallies := ⟨h.tallies.written, h.tallies.dropped, h.tallies.rejected⟩
    sent_eq := h.sent_eq }

theorem writtenBatches_append (first second : List Shipment) :
    writtenBatches (first ++ second) = writtenBatches first ++ writtenBatches second := by
  rw [writtenBatches, List.filter_append, List.map_append]
  rfl

theorem writtenBatches_of_lost {fate : Fate} (h : fate ≠ .written) (samples : List Variable) :
    writtenBatches [⟨fate, samples⟩] = [] := by
  rw [writtenBatches, List.filter_cons_of_neg (by simpa using h)]
  rfl

/-- A flush sends what waits, and the ledger gets an entry for it. -/
theorem kept_of_flush (h : t.Kept root samples shipped read handled waiting) {s : Sender}
    {ring : Ring} {made : List Shipment}
    (hflush : Sender.Flush t.sender t.ring (Queue.used (waiting.map Prod.fst)) s ring made)
    (hexact : Exact t.ring.capacity s.counts.bytesSent) :
    ∃ waiting', Kept { t with sender := s, ring } root samples (shipped ++ made) read handled
      waiting' := by
  cases hflush with
  -- nothing waited, so there is no shipment
  | idle hnone hempty hcounts =>
    refine ⟨waiting, ?_⟩
    rw [List.append_nil]
    exact { h with
      polled_eq := by rw [h.polled_eq, hnone, hempty]
      tallies := by rw [hcounts]; exact h.tallies
      sent_eq := by rw [hcounts]; exact h.sent_eq }
  | @written frame bytes header hread hlong hfits hempty hcounts =>
    have hsent : s.counts.bytesSent
        = read + Queue.used (waiting.map Prod.fst) + Ring.footprint frame := by
      rw [hcounts, bytesSent_tally_written, h.sent_eq]
      rfl
    rw [hsent] at hexact
    -- the frame lies behind those that are in the ring
    have hcarries := h.carries.append_carries hlong hfits hexact
    refine ⟨waiting ++ [(frame, t.sender.batch.entries.toList)], { h with
      carries := ?_, readable := ?_, polled_eq := ?_, written_eq := ?_, tallies := ?_
      sent_eq := ?_ }⟩
    · rw [List.map_append]
      exact hcarries
    · intro w hw
      rcases List.mem_append.1 hw with hold | hnew
      · exact h.readable w hold
      · rw [List.mem_singleton.1 hnew]
        exact ⟨bytes, header, hread⟩
    · rw [h.polled_eq, hempty]
      simp
    · rw [writtenBatches_append, h.written_eq, List.map_append, List.append_assoc]
      rfl
    · rw [hcounts]
      exact h.tallies.append _ _ _
    · rw [hsent, List.map_append, Queue.used_append, Nat.add_assoc]
      simp
  | @lost fate hfate hempty hcounts =>
    -- dropped or rejected: the ring stays as it is, and the samples are in the ledger
    refine ⟨waiting, { h with
      polled_eq := ?_, written_eq := ?_, tallies := ?_, sent_eq := ?_ }⟩
    · rw [h.polled_eq, hempty]
      simp
    · rw [writtenBatches_append, writtenBatches_of_lost hfate, List.append_nil, h.written_eq]
    · rw [hcounts]
      exact h.tallies.append _ _ _
    · rw [hcounts, bytesSent_tally _ _ hfate, h.sent_eq]

theorem kept_flush (h : t.Kept root samples shipped read handled waiting) (now : Nat)
    (hexact : Exact t.ring.capacity (t.flush now).sender.counts.bytesSent) :
    ∃ waiting', (t.flush now).Kept root samples (shipped ++ t.sender.shipments now t.ring) read
      handled waiting' :=
  kept_of_flush h (Sender.flush_cases h.carries now) hexact

/-- What came of a receipt when nothing went wrong: there was nothing to read, or a message was
handled. -/
def Smooth (receipt : Except RingError (Bytes × Except BridgeError Nat)) : Prop :=
  receipt = .error .empty ∨ ∃ m n, receipt = .ok (m, .ok n)

theorem kept_consume_nil (h : t.Kept root samples shipped read handled []) :
    t.consume .accepting = (.error .empty, t) := by
  rw [consume, h.carries.read_nil]

/-- The oldest frame in the ring is handled. -/
theorem kept_consume_cons {w : Bytes × List Variable}
    (h : t.Kept root samples shipped read handled (w :: waiting)) :
    ∃ n, (t.consume .accepting).1 = .ok (w.1, .ok n) ∧
      (t.consume .accepting).2.Kept root samples shipped (read + Ring.footprint w.1)
        (handled ++ [w.2]) waiting := by
  obtain ⟨bytes, header, hread⟩ := h.readable w (List.mem_cons_self ..)
  obtain ⟨receiver, hhandle, hroot, hmode, hreceived⟩ :=
    Receiver.handle_accepting h.mode_eq hread t.published
  have hcarries : t.ring.Carries read (w.1 :: waiting.map Prod.fst) := h.carries
  have hconsume : t.consume .accepting = (.ok (w.1, .ok w.2.length),
      { t with
        ring := t.ring.drop w.1, receiver
        published := t.published ++ (w.2.map (Variable.message t.receiver.root)).toArray }) := by
    simp only [consume, hcarries.read_cons, handle, hhandle]
    rfl
  rw [hconsume]
  refine ⟨w.2.length, rfl, { h with
    carries := hcarries.drop_carries
    readable := fun w' hw' => h.readable w' (List.mem_cons_of_mem _ hw')
    written_eq := ?_, sent_eq := ?_, mode_eq := hmode.trans h.mode_eq
    root_eq := hroot.trans h.root_eq, received_eq := ?_, published_eq := ?_ }⟩
  · rw [h.written_eq, List.map_cons, List.append_assoc]
    rfl
  · rw [← h.sent_eq, List.map_cons, Queue.used_cons, Nat.add_assoc]
  · rw [hreceived, h.received_eq, List.length_append, List.length_singleton]
  · rw [h.root_eq, Array.toList_append, h.published_eq]
    simp

theorem kept_consume (h : t.Kept root samples shipped read handled waiting) :
    Smooth (t.consume .accepting).1 ∧ ∃ read' handled',
      (t.consume .accepting).2.Kept root samples shipped read' handled' waiting.tail := by
  cases waiting with
  | nil =>
    rw [kept_consume_nil h]
    exact ⟨.inl rfl, read, handled, h⟩
  | cons w waiting =>
    obtain ⟨n, hreceipt, hkept⟩ := kept_consume_cons h
    exact ⟨.inr ⟨w.1, n, hreceipt⟩, _, _, hkept⟩

/-! ## Runs -/

/-- A cycle takes samples in, and is a flush if it is time for one. -/
theorem cycle_eq (t : Transfer σ) (now : Nat) (more : List Variable) :
    t.cycle now more =
      if (t.sender.take more more.length).batch.isReady now then
        flush { t with sender := t.sender.take more more.length } now
      else { t with sender := t.sender.take more more.length } := by
  rw [cycle, Sender.cycle]
  dsimp only
  by_cases hready : (t.sender.take more more.length).batch.isReady now = true
  · rw [if_pos hready, if_pos hready]
    rfl
  · rw [if_neg hready, if_neg hready]

/-- A receipt touches neither the sender nor the capacity. -/
theorem consume_keeps (publisher : Publisher σ) (t : Transfer σ) :
    (t.consume publisher).2.sender = t.sender ∧
      (t.consume publisher).2.ring.capacity = t.ring.capacity := by
  rw [consume]
  split
  · rename_i e ring hread
    exact ⟨rfl, by rw [← Ring.capacity_read t.ring, hread]⟩
  · rename_i message ring hread
    exact ⟨rfl, by rw [← Ring.capacity_read t.ring, hread]; rfl⟩

theorem capacity_step (publisher : Publisher σ) (t : Transfer σ) (e : Event) :
    (t.step publisher e).ring.capacity = t.ring.capacity := by
  cases e with
  | cycle now more =>
    rw [step, cycle_eq]
    split
    · exact Sender.capacity_flush (t.sender.take more more.length) now t.ring
    · rfl
  | flush now | drop now => exact Sender.capacity_flush t.sender now t.ring
  | consume => exact (consume_keeps publisher t).2

theorem le_bytesSent_step (publisher : Publisher σ) (t : Transfer σ) (e : Event) :
    t.sender.counts.bytesSent ≤ (t.step publisher e).sender.counts.bytesSent := by
  cases e with
  | cycle now more =>
    rw [step, cycle_eq]
    split
    · exact Sender.le_bytesSent_flush (t.sender.take more more.length) now t.ring
    · exact Nat.le_refl _
  | flush now | drop now => exact Sender.le_bytesSent_flush t.sender now t.ring
  | consume =>
    have hsame := congrArg (fun s => s.counts.bytesSent) (consume_keeps publisher t).1
    exact Nat.le_of_eq hsame.symm

theorem le_bytesSent_run (publisher : Publisher σ) : ∀ (events : List Event) (t : Transfer σ),
    t.sender.counts.bytesSent ≤ (t.run publisher events).sender.counts.bytesSent
  | [], _ => Nat.le_refl _
  | e :: events, t =>
    Nat.le_trans (le_bytesSent_step publisher t e)
      (le_bytesSent_run publisher events (t.step publisher e))

/-- Every event keeps the account: the samples that it delivers and the shipments that it makes are
entered, and a receipt goes smoothly. -/
theorem kept_step (h : t.Kept root samples shipped read handled waiting) (e : Event)
    (hexact : Exact t.ring.capacity (t.step .accepting e).sender.counts.bytesSent) :
    (∀ receipt ∈ t.receipts .accepting e, Smooth receipt) ∧ ∃ read' handled' waiting',
      (t.step .accepting e).Kept root (samples ++ e.samples) (shipped ++ t.shipments e) read'
        handled' waiting' := by
  cases e with
  | cycle now more =>
    refine ⟨fun _ hin => absurd hin List.not_mem_nil, ?_⟩
    have htaken := kept_take h more
    rw [step, cycle_eq] at hexact ⊢
    rw [shipments]
    by_cases hready : (t.sender.take more more.length).batch.isReady now = true
    · rw [if_pos hready] at hexact ⊢
      rw [if_pos hready]
      obtain ⟨waiting', hkept⟩ := kept_flush htaken now hexact
      exact ⟨read, handled, waiting', hkept⟩
    · rw [if_neg hready, if_neg hready, List.append_nil]
      exact ⟨read, handled, waiting, htaken⟩
  | flush now | drop now =>
    refine ⟨fun _ hin => absurd hin List.not_mem_nil, ?_⟩
    obtain ⟨waiting', hkept⟩ := kept_flush h now hexact
    rw [Event.samples, List.append_nil]
    exact ⟨read, handled, waiting', hkept⟩
  | consume =>
    obtain ⟨hsmooth, read', handled', hkept⟩ := kept_consume h
    rw [Event.samples, shipments, List.append_nil, List.append_nil]
    refine ⟨?_, read', handled', _, hkept⟩
    intro receipt hin
    rw [receipts, List.mem_singleton] at hin
    rw [hin]
    exact hsmooth

theorem kept_run : ∀ (events : List Event) {t : Transfer (Array Message)} {samples : List Variable}
    {shipped : List Shipment} {read : Nat} {handled : List (List Variable)}
    {waiting : List (Bytes × List Variable)}, t.Kept root samples shipped read handled waiting →
    Exact t.ring.capacity (t.run .accepting events).sender.counts.bytesSent →
    (∀ receipt ∈ t.trace .accepting (receipts .accepting) events, Smooth receipt) ∧
      ∃ read' handled' waiting', (t.run .accepting events).Kept root
        (samples ++ events.flatMap Event.samples) (shipped ++ t.trace .accepting shipments events)
        read' handled' waiting'
  | [], t, samples, shipped, read, handled, waiting, h, _ => by
      refine ⟨fun _ hin => absurd hin List.not_mem_nil, read, handled, waiting, ?_⟩
      rw [List.flatMap_nil, trace, List.append_nil, List.append_nil]
      exact h
  | e :: events, t, samples, shipped, read, handled, waiting, h, hexact => by
      -- the bytes sent only grow, so they can be counted after the first event too
      have hnext : Exact t.ring.capacity (t.step .accepting e).sender.counts.bytesSent :=
        hexact.mono (le_bytesSent_run .accepting events (t.step .accepting e))
      obtain ⟨hsmooth, _, _, _, hstep⟩ := kept_step h e hnext
      rw [← capacity_step .accepting t e] at hexact
      obtain ⟨hsmooth', read', handled', waiting', hrun⟩ := kept_run events hstep hexact
      refine ⟨?_, read', handled', waiting', ?_⟩
      · intro receipt hin
        rw [trace] at hin
        rcases List.mem_append.1 hin with hfirst | hrest
        · exact hsmooth receipt hfirst
        · exact hsmooth' receipt hrest
      · rw [List.flatMap_cons, trace, ← List.append_assoc, ← List.append_assoc]
        exact hrun

/-! ## Draining -/

theorem run_append (publisher : Publisher σ) (t : Transfer σ) (first second : List Event) :
    t.run publisher (first ++ second) = (t.run publisher first).run publisher second :=
  List.foldl_append

theorem sender_drain (publisher : Publisher σ) : ∀ (drains : Nat) (t : Transfer σ),
    (t.run publisher (List.replicate drains .consume)).sender = t.sender
  | 0, _ => rfl
  | drains + 1, t => by
      rw [List.replicate_succ]
      exact (sender_drain publisher drains _).trans (consume_keeps publisher t).1

/-- As many receipts as there are frames in the ring leave none there. -/
theorem kept_drain : ∀ (drains : Nat) {t : Transfer (Array Message)} {read : Nat}
    {handled : List (List Variable)} {waiting : List (Bytes × List Variable)},
    t.Kept root samples shipped read handled waiting → waiting.length ≤ drains →
    ∃ read' handled', (t.run .accepting (List.replicate drains .consume)).Kept root samples shipped
      read' handled' []
  | 0, _, read, handled, waiting, h, hlength => by
      rw [List.eq_nil_of_length_eq_zero (Nat.le_zero.1 hlength)] at h
      exact ⟨read, handled, h⟩
  | drains + 1, t, _, _, waiting, h, hlength => by
      obtain ⟨-, _, _, hnext⟩ := kept_consume h
      rw [List.replicate_succ]
      refine kept_drain drains hnext ?_
      rw [List.length_tail]
      exact Nat.sub_le_of_le_add hlength

theorem isEmpty_iff (h : t.Kept root samples shipped read handled waiting) :
    t.ring.isEmpty = true ↔ waiting = [] := by
  rw [Ring.isEmpty, h.carries.availableRead_eq, beq_iff_eq]
  cases waiting with
  | nil => simp
  | cons w waiting =>
    rw [List.map_cons, Queue.used_cons, Ring.footprint]
    have hpos : 0 < Ring.lengthSize := by decide
    constructor
    · intro hzero
      omega
    · intro hnil
      cases hnil

theorem length_writtenBatches (shipped : List Shipment) :
    (writtenBatches shipped).length = (shipped.map Shipment.fate).count .written := by
  rw [writtenBatches, List.length_map, List.count, List.countP_map, List.countP_eq_length_filter]
  congr 1

/-- The frames in the ring are some of those that were written. -/
theorem length_waiting_le (h : t.Kept root samples shipped read handled waiting) :
    handled.length + waiting.length = t.sender.counts.framesWritten := by
  rw [h.tallies.written, ← length_writtenBatches, h.written_eq, List.length_append,
    List.length_map]

/-! ## The end of a run -/

/-- Nothing is lost without being counted: every sample that was polled is in the batch of exactly
one shipment, the shipments are counted by their fates, what was published is the samples of the
written frames in the order in which they were polled, and every written frame was received. -/
structure Accounted (t : Transfer (Array Message)) (root : String) (polled : List Variable)
    (shipped : List Shipment)
    (receipts : List (Except RingError (Bytes × Except BridgeError Nat))) : Prop where
  samples_eq : shipped.flatMap Shipment.samples = polled
  tallies : Tallies t.sender.counts shipped
  published_eq :
    t.published.toList = (writtenBatches shipped).flatten.map (Variable.message root)
  received_eq : t.receiver.counts.framesReceived = t.sender.counts.framesWritten
  smooth : ∀ receipt ∈ receipts, Smooth receipt

theorem Kept.accounted (h : t.Kept root samples shipped read handled [])
    (hempty : t.sender.batch.entries = #[])
    {receipts : List (Except RingError (Bytes × Except BridgeError Nat))}
    (hsmooth : ∀ receipt ∈ receipts, Smooth receipt) :
    t.Accounted root samples shipped receipts where
  samples_eq := by rw [h.polled_eq, hempty, List.append_nil]
  tallies := h.tallies
  published_eq := by rw [h.published_eq, h.written_eq, List.map_nil, List.append_nil]
  received_eq := h.received_eq.trans (length_waiting_le h)
  smooth := hsmooth

/-- Cycles, flushes and receipts in any order, from a new sender, a new ring and a new receiver,
then the end of the sender, and receipts until the ring is drained: as many as frames
were written drain it, and when it is drained every sample is accounted for. The cursors of the ring
only grow, so the bytes ever written must be countable in 64 bits, unless the capacity divides
2^64. -/
theorem every_sample_is_accounted_for {capacity : Nat} {ring : Ring}
    (hring : Ring.create capacity = .ok ring) (writer reader : Nat) (config : BatchConfig)
    (builder : Frame.Builder) (start last : Nat) (root : String) (events : List Event)
    {t : Transfer (Array Message)} {closed : List Event}
    (ht : t = new (.empty config builder start) ((ring.claimWriter writer).claimReader reader) root)
    (hclosed : closed = events ++ [.drop last])
    (hexact : Exact capacity (t.run .accepting closed).sender.counts.bytesSent) (drains : Nat) :
    let all := closed ++ List.replicate drains .consume
    ((t.run .accepting closed).sender.counts.framesWritten ≤ drains →
      (t.run .accepting all).ring.isEmpty = true) ∧
    ((t.run .accepting all).ring.isEmpty = true →
      Accounted (t.run .accepting all) (topicRoot root) (all.flatMap Event.samples)
        (t.trace .accepting shipments all) (t.trace .accepting (receipts .accepting) all)) := by
  intro all
  obtain ⟨hcapacity, hnew⟩ := Ring.create_eq_ok hring
  have hcarries := Ring.claimReader_carries (Ring.claimWriter_carries hnew writer) reader
  have hstart : t.Kept (topicRoot root) [] [] 0 [] [] := ht ▸ kept_new rfl hcarries root
  have hcircle : t.ring.capacity = capacity := by
    rw [ht, new, Ring.capacity_claimReader, Ring.capacity_claimWriter, hcapacity]
  rw [← hcircle] at hexact
  obtain ⟨-, _, _, waiting, hkept⟩ := kept_run closed hstart hexact
  -- receipts do not touch the sender: what it is after its last flush it stays
  have hsender : (t.run .accepting all).sender = (t.run .accepting closed).sender := by
    rw [run_append, sender_drain]
  have hempty : (t.run .accepting closed).sender.batch.entries = #[] := by
    rw [hclosed, run_append] at hexact ⊢
    obtain ⟨-, _, _, _, hevents⟩ :=
      kept_run events hstart (hexact.mono (le_bytesSent_run .accepting [.drop last] _))
    exact (Sender.flush_cases hevents.carries last).entries_eq
  constructor
  · intro hdrains
    have hwaiting := length_waiting_le hkept
    obtain ⟨_, _, hdrained⟩ := kept_drain drains hkept (by omega)
    rw [run_append]
    exact (isEmpty_iff hdrained).2 rfl
  · intro hdrained
    obtain ⟨hsmooth, _, _, _, hend⟩ := kept_run all hstart (by rw [hsender]; exact hexact)
    rw [(isEmpty_iff hend).1 hdrained] at hend
    exact hend.accounted (by rw [hsender, hempty]) hsmooth

/-- In a ring of 128 bytes two frames are written; one of four samples is too large for the ring and
is rejected, and the last sample goes out with the sender and is dropped. -/
theorem small_run_is_accounted_for :
    let v (name : String) : Variable := ⟨name, .uint8, [1], 0⟩
    let ring : Ring := ⟨128,
      Ring.publishCapacity (Ring.resetCursors (Memory.zeroed (Ring.controlSize + 128))) 128⟩
    let t := new (.empty ⟨2, 1000⟩ (.plain 0) 0) ((ring.claimWriter 1).claimReader 2) "plc/"
    let closed := [.cycle 0 [v "a", v "b"], .cycle 1 [v "c", v "d"],
      .cycle 2 [v "e", v "f", v "g", v "h"], .cycle 3 [v "i"]] ++ [.drop 4]
    let all := closed ++ List.replicate 2 .consume
    Ring.create 128 = .ok ring ∧ Exact 128 (t.run .accepting closed).sender.counts.bytesSent ∧
      (t.run .accepting closed).sender.counts = ⟨9, 2, 108, 1, 1⟩ ∧
      (t.run .accepting all).ring.isEmpty = true ∧
      Accounted (t.run .accepting all) (topicRoot "plc/") (all.flatMap Event.samples)
        (t.trace .accepting shipments all) (t.trace .accepting (receipts .accepting) all) := by
  intro v ring t closed all
  have hring : Ring.create 128 = .ok ring := rfl
  have hexact : Exact 128 (t.run .accepting closed).sender.counts.bytesSent :=
    .inr (by decide)
  have hcounts : (t.run .accepting closed).sender.counts = ⟨9, 2, 108, 1, 1⟩ := by cbv
  obtain ⟨hdrains, haccounted⟩ := every_sample_is_accounted_for hring 1 2 ⟨2, 1000⟩ (.plain 0) 0 4
    "plc/" _ (show t = _ from rfl) (show closed = _ from rfl) hexact 2
  have hwritten := congrArg SendingCounts.framesWritten hcounts
  have hempty : (t.run .accepting all).ring.isEmpty = true := hdrains (Nat.le_of_eq hwritten)
  exact ⟨hring, hexact, hcounts, hempty, haccounted hempty⟩

end Transfer

end Telemetry
