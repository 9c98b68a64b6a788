import Mathlib.Data.List.DropRight
import Telemetry.Proofs.Frame.Delimiting
import Telemetry.Proofs.Transfer.Receiving

/-!
# Handling is all or nothing

A publisher is watched: it answers as it would, and each message that it is offered is written down
beside its answer (`Publisher.watched`). So what a receiver offers can be told for every publisher,
whichever messages it refuses and whatever it remembers (`handle_watched`).

Bytes that hold no frame are counted as received, and nothing else happens. Those that hold one are
followed by all messages of the frame, none of which is left out because another was refused
(`handling_is_all_or_nothing`).
-/

namespace Telemetry

/-! ## Topics -/

/-- A text, and what is left of it without the slashes at its end. -/
structure Trimmed (text root : String) : Prop where
  slashes : ∃ n, text.toList = root.toList ++ List.replicate n '/'
  last_ne : root.toList.getLast? ≠ some '/'

theorem toList_topicRoot (text : String) :
    (topicRoot text).toList = text.toList.rdropWhile (· == '/') := by
  rw [topicRoot, String.toList_ofList, List.rdropWhile]

theorem trimmed_topicRoot (text : String) : Trimmed text (topicRoot text) where
  slashes := by
    have hslashes : ∀ c ∈ text.toList.rtakeWhile (· == '/'), c = '/' := by
      intro c hc
      have := List.mem_rtakeWhile_imp hc
      simpa using this
    refine ⟨(text.toList.rtakeWhile (· == '/')).length, ?_⟩
    rw [← List.eq_replicate_of_mem hslashes, toList_topicRoot, List.rdropWhile_append_rtakeWhile]
  last_ne := by
    rw [toList_topicRoot]
    intro hlast
    obtain ⟨hne, hslash⟩ := List.mem_getLast?_eq_getLast hlast
    exact List.rdropWhile_last_not _ _ hne (by simp [← hslash])

/-! ## Watched publishers -/

/-- A message that was offered, and whether it was accepted. -/
structure Offer where
  message : Message
  accepted : Bool
  deriving DecidableEq, Repr

/-- The same publisher, with a record of what it was offered. -/
def Publisher.watched {σ : Type} (publisher : Publisher σ) : Publisher (σ × List Offer) where
  name := publisher.name
  publish state m :=
    let (answer, after) := publisher.publish state.1 m
    (answer, after, state.2 ++ [⟨m, answer.isOk⟩])

namespace Receiver

/-- Takes in what became of messages that were offered. -/
def countOffers (r : Receiver) (offers : List Offer) : Receiver :=
  r.countOffered (offers.countP (·.accepted)) (offers.countP (!·.accepted))

theorem countOffers_cons (r : Receiver) (o : Offer) (offers : List Offer) :
    (r.countOffers [o]).countOffers offers = r.countOffers (o :: offers) := by
  rw [countOffers, countOffers, countOffered_countOffered, countOffers]
  simp only [List.countP_cons, List.countP_nil, Nat.zero_add, Nat.add_comm]

variable {σ : Type} (publisher : Publisher σ)

/-- A message is offered to a publisher as it is offered to the watched one, and counted by its
answer. -/
theorem offer_watched (r : Receiver) (state : σ) (log : List Offer) (m : Message) :
    ∃ accepted state',
      r.offer publisher state m = (accepted.toNat, r.countOffers [⟨m, accepted⟩], state') ∧
      r.offer publisher.watched (state, log) m
        = (accepted.toNat, r.countOffers [⟨m, accepted⟩], state', log ++ [⟨m, accepted⟩]) := by
  rcases hanswer : publisher.publish state m with ⟨e | u, state'⟩
  · refine ⟨false, state', ?_, ?_⟩
    · rw [offer, hanswer]
      rfl
    · simp only [offer, Publisher.watched, hanswer]
      rfl
  · refine ⟨true, state', ?_, ?_⟩
    · rw [offer, hanswer]
      rfl
    · simp only [offer, Publisher.watched, hanswer]
      rfl

/-- Messages are offered in order, each of them whatever became of those before it. -/
theorem offerAll_watched (messages : List Message) (r : Receiver) (state : σ) (log : List Offer) :
    ∃ offers state', offers.map Offer.message = messages ∧
      r.offerAll publisher state messages
        = (offers.countP (·.accepted), r.countOffers offers, state') ∧
      r.offerAll publisher.watched (state, log) messages
        = (offers.countP (·.accepted), r.countOffers offers, state', log ++ offers) := by
  induction messages generalizing r state log with
  | nil => exact ⟨[], state, rfl, rfl, by rw [List.append_nil]; rfl⟩
  | cons m rest ih =>
      obtain ⟨accepted, state', hoffer, hwatched⟩ := offer_watched publisher r state log m
      obtain ⟨offers, state'', hmessages, hoffers, hwatcheds⟩ :=
        ih (r.countOffers [⟨m, accepted⟩]) state' (log ++ [⟨m, accepted⟩])
      have hcount : accepted.toNat + offers.countP (·.accepted)
          = (⟨m, accepted⟩ :: offers : List Offer).countP (·.accepted) := by
        cases accepted <;> simp [Nat.add_comm]
      refine ⟨⟨m, accepted⟩ :: offers, state'', ?_, ?_, ?_⟩
      · rw [List.map_cons, hmessages]
      · simp only [offerAll, hoffer, hoffers, hcount, countOffers_cons]
      · simp only [offerAll, hwatched, hwatcheds, hcount, countOffers_cons, List.append_assoc,
          List.singleton_append]

/-- Bytes that hold no frame are counted, and the publisher is left alone. -/
theorem handle_refused {r : Receiver} {raw : Bytes} {cause : Frame.FrameError}
    (hread : read raw = .error cause) (state : σ) :
    r.handle publisher state raw = (.error (.frame cause), r.countFrame, state) := by
  rw [handle, hread]

/-- Of bytes that hold a frame all messages are offered. -/
theorem handle_watched {r : Receiver} {raw bytes : Bytes} {f : Frame.Decoded}
    (hread : read raw = .ok (bytes, f)) (state : σ) :
    ∃ offers state', offers.map Offer.message = r.messages bytes f ∧
      r.handle publisher state raw = (.ok (offers.countP (·.accepted)),
        (r.countFrame.follow f.header.sequence).countOffers offers, state') ∧
      r.handle publisher.watched (state, []) raw = (.ok (offers.countP (·.accepted)),
        (r.countFrame.follow f.header.sequence).countOffers offers, state', offers) := by
  obtain ⟨offers, state', hmessages, hoffers, hwatched⟩ := offerAll_watched publisher
    (r.messages bytes f) (r.countFrame.follow f.header.sequence) state []
  -- neither the count nor the sequence number has a part in the messages
  have hsame : (r.countFrame.follow f.header.sequence).messages bytes f = r.messages bytes f := rfl
  refine ⟨offers, state', hmessages, ?_, ?_⟩
  · simp only [handle, hread, hsame, hoffers]
  · simp only [handle, hread, hsame, hwatched, List.nil_append]

/-! ## Frames -/

/-- What is read is the frame that is received, with the bytes that it was decoded from. -/
theorem map_read (raw : Bytes) : (read raw).map Prod.snd = Frame.receive raw := by
  rw [read, Frame.receive]
  cases Frame.restore raw with
  | error e => rfl
  | ok restored =>
      simp only [bind, Except.bind]
      cases Frame.decode restored.bytes <;> rfl

/-- What a receiver in some mode offers of a frame: each variable under its name, in order, or the
bytes of the whole frame, from which it is decoded again. -/
structure Presents (root : String) (mode : PublishMode) (f : Frame.Decoded)
    (messages : List Message) : Prop where
  perVariable : mode = .perVariable →
    messages = f.entries.map fun v => ⟨root ++ "/" ++ v.name, v.value⟩
  whole : mode = .frame → ∃ payload, messages = [⟨root ++ "/frames", payload⟩] ∧
    payload.length = f.header.totalSize.toNat ∧ Frame.decode payload = .ok f

theorem presents_messages (r : Receiver) {bytes : Bytes} {f : Frame.Decoded}
    (h : Frame.decode bytes = .ok f) : Presents r.root r.mode f (r.messages bytes f) where
  perVariable := by
    intro hmode
    rw [messages, hmode]
  whole := by
    intro hmode
    rw [messages, hmode]
    exact ⟨_, rfl, Frame.decode_take h⟩

/-- What a receiver counts of a frame whose messages it offered, when `n` of them were accepted. -/
structure Counts (r r' : Receiver) (f : Frame.Decoded) (offers : List Offer) (n : Nat) : Prop where
  accepted_eq : n = offers.countP (·.accepted)
  received_eq : r'.counts.framesReceived = r.counts.framesReceived + 1
  published_eq : r'.counts.messagesPublished = r.counts.messagesPublished + n
  offered_eq : n + r'.counts.publishFailures = r.counts.publishFailures + offers.length
  rest_eq : r' = { r with expected := some (f.header.sequence + 1), counts := r'.counts }

theorem counts_countOffers (r : Receiver) (f : Frame.Decoded) (offers : List Offer) :
    Counts r ((r.countFrame.follow f.header.sequence).countOffers offers) f offers
      (offers.countP (·.accepted)) where
  accepted_eq := rfl
  received_eq := rfl
  published_eq := rfl
  offered_eq := by
    have hrefused : offers.length
        = offers.countP (·.accepted) + offers.countP (!·.accepted) := by
      simpa using List.length_eq_countP_add_countP Offer.accepted
    rw [hrefused]
    exact Nat.add_left_comm _ _ _
  rest_eq := rfl

/-- **Handling is all or nothing.** Whatever was received before, and however the publisher answers:
where the bytes hold no frame, an error is returned, the publisher is offered nothing, and nothing
changes but the number of frames received. Where they hold one, the publisher is offered all
messages of the frame, and those that it refuses are counted and stand in no other's way. -/
theorem handling_is_all_or_nothing (text : String) (mode : PublishMode) (expected : Option UInt32)
    (counts : ReceivingCounts) (state : σ) (raw : Bytes) :
    let r : Receiver := { new text mode with expected, counts }
    Trimmed text r.root ∧
    ∃ outcome r' state' offers,
      r.handle publisher state raw = (outcome, r', state') ∧
      r.handle publisher.watched (state, []) raw = (outcome, r', state', offers) ∧
      (∀ e, outcome = .error e →
        (∃ cause, Frame.receive raw = .error cause ∧ e = .frame cause) ∧
        offers = [] ∧ state' = state ∧
        r' = { r with counts := { counts with framesReceived := counts.framesReceived + 1 } }) ∧
      ∀ n, outcome = .ok n → ∃ f, Frame.receive raw = .ok f ∧
        Presents r.root mode f (offers.map Offer.message) ∧ Counts r r' f offers n := by
  intro r
  refine ⟨trimmed_topicRoot text, ?_⟩
  have hreceive := map_read raw
  cases hread : read raw with
  | error cause =>
      rw [hread] at hreceive
      refine ⟨.error (.frame cause), r.countFrame, state, [], handle_refused publisher hread state,
        handle_refused publisher.watched hread (state, []), ?_, ?_⟩
      · intro e he
        injection he with he
        exact ⟨⟨cause, hreceive.symm, he.symm⟩, rfl, rfl, rfl⟩
      · intro n hn
        cases hn
  | ok decoded =>
      obtain ⟨bytes, f⟩ := decoded
      rw [hread] at hreceive
      obtain ⟨restored, -, rfl, hdecode⟩ := read_eq_ok hread
      obtain ⟨offers, state', hmessages, hhandle, hwatched⟩ :=
        handle_watched (r := r) publisher hread state
      refine ⟨_, _, state', offers, hhandle, hwatched, ?_, ?_⟩
      · intro e he
        cases he
      · intro n hn
        injection hn with hn
        subst hn
        refine ⟨f, hreceive.symm, ?_, counts_countOffers r f offers⟩
        rw [hmessages]
        exact presents_messages r hdecode

/-- Of two variables in a compressed frame the first is refused and the second accepted. -/
theorem refusal_stands_in_no_way :
    let a : Variable := ⟨"a", .bool, [1], 0⟩
    let b : Variable := ⟨"b", .bool, [0], 0⟩
    let raw := Frame.Raw.bytes ⟨⟨1, .compressed, 2, 55, 1700, 7⟩,
      2 :: (Frame.spelled a ++ Frame.spelled b)⟩
    let publisher := Publisher.recording (· == "plc/a")
    let r := new "plc//" .perVariable
    let r' : Receiver := ⟨"plc", .perVariable, some 8, ⟨1, 1, 1, 0, 0, 0⟩⟩
    r.handle publisher #[] raw = (.ok 1, r', #[⟨"plc/b", [0]⟩]) ∧
      ∃ offers f, Frame.receive raw = .ok f ∧
        r.handle publisher.watched (#[], []) raw = (.ok 1, r', #[⟨"plc/b", [0]⟩], offers) ∧
        Presents r.root .perVariable f (offers.map Offer.message) ∧ Counts r r' f offers 1 := by
  intro a b raw publisher r r'
  have h : r.handle publisher #[] raw = (.ok 1, r', #[⟨"plc/b", [0]⟩]) := by decide +kernel
  obtain ⟨-, outcome, r₁, state₁, offers, hhandle, hwatched, -, hok⟩ :=
    handling_is_all_or_nothing publisher "plc//" .perVariable none .zero #[] raw
  obtain ⟨rfl, rfl, rfl⟩ : .ok 1 = outcome ∧ r' = r₁ ∧ #[⟨"plc/b", [0]⟩] = state₁ := by
    simpa using h.symm.trans hhandle
  obtain ⟨f, hreceive, hpresents, hcounts⟩ := hok 1 rfl
  exact ⟨h, offers, f, hreceive, hwatched, hpresents, hcounts⟩

end Receiver

end Telemetry
