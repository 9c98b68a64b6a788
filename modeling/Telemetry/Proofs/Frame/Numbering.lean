import Telemetry.Proofs.Frame.Grammar
import Telemetry.Proofs.Frame.Packing

/-!
# Frames are numbered

Whether variables go into one frame is a matter of four limits (`Encodable`). Where one is broken
the error is that of the first in a fixed order (`refusal?`): the count, then variable after
variable its name and its value, then the size of the whole. Laying out knows no other error and
keeps this order (`layOut_eq`). A run of requests on a builder that does not pack is answered one by
one, each with its error or with a frame that is read back as what was asked for; and the frames of
the run bear consecutive numbers, for a refused request takes none (`requests_are_answered`).

## How the proof goes

The limits are checked in different passes: the count first, then name and value of each variable
while their headers are made, then the size. Each pass is rewritten into its part of `refusal?`
(`mapM_variableHeader`, `encodeBody_eq`, `layOut_eq`), after which nothing has to be unfolded any
more. One request is `Builder.settles_answer`. A run is an induction on the requests
(`Builder.settles_serve`): the number that a request finds is the first one and the count of frames
among the answers before it, which `Builder.add_made_cons` carries from one answer to the next.
-/

namespace Telemetry.Frame

/-! ## Limits -/

/-- The bytes that a frame of variables takes. -/
def frameSize (vs : List Variable) : Nat :=
  20 + (vs.map fun v => 15 + v.name.utf8ByteSize + v.value.length).sum

/-- Whether variables go into one frame. -/
structure Encodable (vs : List Variable) : Prop where
  count_le : vs.length ≤ 65535
  fits : ∀ v ∈ vs, Fits v
  size_le : frameSize vs ≤ 4294967295

/-- What is too long about a variable, if anything is: its name, or else its value. -/
def tooLong? (v : Variable) : Option FrameError :=
  if 65535 < v.name.utf8ByteSize then some (.nameTooLong v.name.utf8ByteSize)
  else if 4294967295 < v.value.length then some (.valueTooLarge v.value.length)
  else none

/-- Why variables do not go into one frame, if they do not: there are too many, or else the first
that does not fit does not fit, or else all of them together are too large. -/
def refusal? (vs : List Variable) : Option FrameError :=
  if 65535 < vs.length then some (.tooManyVariables vs.length)
  else match vs.findSome? tooLong? with
    | some e => some e
    | none =>
      if 4294967295 < frameSize vs then some (.frameTooLarge (frameSize vs)) else none

theorem tooLong?_eq_none_iff {v : Variable} : tooLong? v = none ↔ Fits v := by
  unfold tooLong?
  constructor
  · intro h
    split at h
    next => cases h
    next hname =>
      split at h
      next => cases h
      next hvalue => exact ⟨Nat.le_of_not_lt hname, Nat.le_of_not_lt hvalue⟩
  · rintro ⟨hname, hvalue⟩
    rw [if_neg (Nat.not_lt.2 hname), if_neg (Nat.not_lt.2 hvalue)]

/-- Nothing is refused but what breaks a limit. -/
theorem refusal?_eq_none_iff {vs : List Variable} : refusal? vs = none ↔ Encodable vs := by
  have hfits : vs.findSome? tooLong? = none ↔ ∀ v ∈ vs, Fits v := by
    simp only [List.findSome?_eq_none_iff, tooLong?_eq_none_iff]
  unfold refusal?
  constructor
  · intro h
    split at h
    next => cases h
    next hcount =>
      split at h
      next => cases h
      next hnone =>
        split at h
        next => cases h
        next hsize => exact ⟨Nat.le_of_not_lt hcount, hfits.1 hnone, Nat.le_of_not_lt hsize⟩
  · rintro ⟨hcount, hall, hsize⟩
    rw [if_neg (Nat.not_lt.2 hcount), hfits.2 hall]
    exact if_neg (Nat.not_lt.2 hsize)

/-! ## Laying out -/

theorem variableHeader_eq (v : Variable) : variableHeader v =
    match tooLong? v with
    | some e => .error e
    | none => .ok (headerOf v) := by
  unfold variableHeader tooLong?
  by_cases hname : v.name.utf8ByteSize ≥ UInt16.size
  · rw [if_pos hname, if_pos (show 65535 < v.name.utf8ByteSize from hname)]
  · rw [if_neg hname, if_neg (show ¬ 65535 < v.name.utf8ByteSize from hname)]
    by_cases hvalue : v.value.length ≥ UInt32.size
    · rw [if_pos hvalue, if_pos (show 4294967295 < v.value.length from hvalue)]
    · rw [if_neg hvalue, if_neg (show ¬ 4294967295 < v.value.length from hvalue)]
      rfl

/-- The first variable that does not fit ends the first pass over them. -/
theorem mapM_variableHeader (vs : List Variable) : vs.mapM variableHeader =
    match vs.findSome? tooLong? with
    | some e => .error e
    | none => .ok (vs.map headerOf) := by
  induction vs with
  | nil => rfl
  | cons v vs ih =>
      -- the first that does not fit, be it this one or one behind it
      rw [List.mapM_cons, variableHeader_eq, ih, List.findSome?_cons]
      cases tooLong? v with
      | some e => rfl
      | none => cases vs.findSome? tooLong? <;> rfl

theorem foldl_encodedLength_eq (vs : List Variable) (n : Nat) :
    vs.foldl (fun n v => n + encodedLength v) n
      = n + (vs.map fun v => 15 + v.name.utf8ByteSize + v.value.length).sum := by
  induction vs generalizing n with
  | nil => rfl
  | cons v vs ih =>
      rw [List.foldl_cons, ih, List.map_cons, List.sum_cons, ← Nat.add_assoc]
      rfl

theorem flatMap_zip_headerOf (vs : List Variable) :
    ((vs.map headerOf).zip vs).flatMap (fun (h, v) => encodeVariable h v)
      = vs.flatMap spelled := by
  induction vs with
  | nil => rfl
  | cons v vs ih =>
      rw [List.map_cons, List.zip_cons_cons, List.flatMap_cons, ih, List.flatMap_cons]
      rfl

theorem encodeBody_eq (vs : List Variable) : encodeBody vs =
    match vs.findSome? tooLong? with
    | some e => .error e
    | none =>
      if 4294967295 < frameSize vs then .error (.frameTooLarge (frameSize vs))
      else .ok (vs.flatMap spelled, frameSize vs) := by
  have htotal : vs.foldl (fun n v => n + encodedLength v) Header.size = frameSize vs :=
    foldl_encodedLength_eq vs Header.size
  unfold encodeBody
  rw [mapM_variableHeader]
  cases vs.findSome? tooLong? with
  | some e => rfl
  | none =>
      simp only [bind, Except.bind, htotal, flatMap_zip_headerOf]
      by_cases hsize : frameSize vs ≥ UInt32.size
      · rw [if_pos hsize, if_pos (show 4294967295 < frameSize vs from hsize)]
        rfl
      · rw [if_neg hsize, if_neg (show ¬ 4294967295 < frameSize vs from hsize)]
        rfl

/-- Variables are laid out unless they are refused, and the errors are those of the refusal. -/
theorem layOut_eq (b : Builder) (kind : PayloadKind) (vs : List Variable) (now : UInt64) :
    b.layOut kind vs now =
      match refusal? vs with
      | some e => .error e
      | none => .ok ⟨⟨Header.currentVersion, kind, UInt16.ofNat vs.length,
          UInt32.ofNat (frameSize vs), now, b.sequence⟩, vs.flatMap spelled⟩ := by
  unfold Builder.layOut refusal?
  dsimp only
  by_cases hcount : vs.length ≥ UInt16.size
  · rw [if_pos hcount, if_pos (show 65535 < vs.length from hcount)]
    rfl
  · rw [if_neg hcount, if_neg (show ¬ 65535 < vs.length from hcount), encodeBody_eq]
    cases vs.findSome? tooLong? with
    | some e => rfl
    | none =>
        dsimp only
        by_cases hsize : 4294967295 < frameSize vs
        · rw [if_pos hsize, if_pos hsize]
          rfl
        · rw [if_neg hsize, if_neg hsize]
          rfl

theorem layOut_eq_error_iff {b : Builder} {kind : PayloadKind} {vs : List Variable} {now : UInt64}
    {e : FrameError} : b.layOut kind vs now = .error e ↔ refusal? vs = some e := by
  rw [layOut_eq]
  cases refusal? vs with
  | some e' => simp
  | none => simp

/-- Building is refused, and the builder is as it was; or nothing stands against it, and a frame is
made. -/
theorem build_cases_of_refusal (b : Builder) (kind : PayloadKind) (vs : List Variable)
    (now : UInt64) :
    (∃ e, refusal? vs = some e ∧ b.build kind vs now = (.error e, b)) ∨
    (refusal? vs = none ∧ ∃ frame,
      b.build kind vs now = (.ok frame, { b with sequence := b.sequence + 1 })) := by
  rcases build_cases b kind vs now with ⟨e, hlay, h⟩ | ⟨f, hlay, h⟩
  · exact .inl ⟨e, layOut_eq_error_iff.1 hlay, h⟩
  · refine .inr ⟨?_, _, h⟩
    cases hrefusal : refusal? vs with
    | some e =>
        rw [layOut_eq_error_iff.2 hrefusal] at hlay
        cases hlay
    | none => rfl

/-! ## Requests -/

/-- A call for a frame: with one variable, or with variables in order. -/
inductive Request where
  | single (v : Variable) (now : UInt64)
  | batch (vs : List Variable) (now : UInt64)
  deriving DecidableEq, Repr

namespace Request

/-- The variables that the frame is to hold. -/
def entries : Request → List Variable
  | single v _ => [v]
  | batch vs _ => vs

def kind : Request → PayloadKind
  | single .. => .single
  | batch .. => .batch

/-- The time that the frame is to bear. -/
def now : Request → UInt64
  | single _ now => now
  | batch _ now => now

theorem kind_ne_compressed (q : Request) : q.kind ≠ .compressed := by cases q <;> simp [kind]

end Request

/-- A frame that was read back is the one that was asked for, under the number it was given. -/
structure Decoded.Serves (f : Decoded) (q : Request) (length : Nat) (sequence : UInt32) :
    Prop where
  version_eq : f.header.version = 1
  kind_eq : f.header.kind = q.kind
  count_eq : f.header.variableCount.toNat = q.entries.length
  size_eq : f.header.totalSize.toNat = length
  timestamp_eq : f.header.timestamp = q.now
  sequence_eq : f.header.sequence = sequence
  entries_eq : f.entries = q.entries

/-- How a request is answered where the next frame has a number: with a frame that is read back as
what was asked for exactly if the limits are kept, and else with the error of the refusal. -/
structure Settles (q : Request) (sequence : UInt32) (answer : Except FrameError Bytes) :
    Prop where
  made_iff : (∃ frame, answer = .ok frame) ↔ Encodable q.entries
  refused_iff : ∀ e, answer = .error e ↔ refusal? q.entries = some e
  serves : ∀ frame, answer = .ok frame →
    ∃ f, decode frame = .ok f ∧ f.Serves q frame.length sequence

namespace Builder

/-- Answers a request. -/
def answer (b : Builder) : Request → Except FrameError Bytes × Builder
  | .single v now => b.buildSingle v now
  | .batch vs now => b.buildBatch vs now

/-- Answers requests one after another: the answers, and the builder after them. -/
def serve (b : Builder) : List Request → List (Except FrameError Bytes) × Builder
  | [] => ([], b)
  | q :: requests =>
    let later := (b.answer q).2.serve requests
    ((b.answer q).1 :: later.1, later.2)

/-- The number of frames among some answers. -/
def made (answers : List (Except FrameError Bytes)) : Nat := answers.countP Except.isOk

theorem answer_eq_build (b : Builder) (q : Request) :
    b.answer q = b.build q.kind q.entries q.now := by
  cases q with
  | single v now => rfl
  | batch vs now => rfl

theorem packing_answer (b : Builder) (q : Request) : (b.answer q).2.packing = b.packing := by
  rw [answer_eq_build]
  exact BuilderPair.packing_build b q.kind q.entries q.now

/-- A frame takes a number, and a refusal takes none. -/
theorem sequence_answer (b : Builder) (q : Request) :
    (b.answer q).2.sequence = b.sequence + UInt32.ofNat (made [(b.answer q).1]) := by
  rw [answer_eq_build]
  rcases build_cases b q.kind q.entries q.now with ⟨e, -, h⟩ | ⟨f, -, h⟩
  · rw [h]
    exact (UInt32.add_zero b.sequence).symm
  · rw [h]
    rfl

/-- **One request.** -/
theorem settles_answer {b : Builder} (hplain : b.packing = false) (q : Request) :
    Settles q b.sequence (b.answer q).1 := by
  have hlay := layOut_eq b q.kind q.entries q.now
  rw [answer_eq_build, build, hplain]
  cases hrefusal : refusal? q.entries with
  | some e =>
      rw [hrefusal] at hlay
      rw [hlay]
      -- refused: there is no frame, and the error is the refusal's
      have hnot : ¬ Encodable q.entries := by
        rw [← refusal?_eq_none_iff, hrefusal]
        exact Option.some_ne_none e
      refine ⟨⟨?_, fun h => absurd h hnot⟩, ?_, ?_⟩
      · rintro ⟨frame, hframe⟩
        cases hframe
      · intro e'
        rw [hrefusal, Option.some.injEq]
        exact Except.error.injEq e e' ▸ Iff.rfl
      · intro frame hframe
        cases hframe
  | none =>
      rw [hrefusal] at hlay
      -- made: the frame carries its variables, and so it is read back
      obtain ⟨hcarries, hkind, htime, hsequence⟩ := layOut_eq_ok hlay
      rw [hlay]
      refine ⟨⟨fun _ => refusal?_eq_none_iff.1 hrefusal, fun _ => ⟨_, rfl⟩⟩, ?_, ?_⟩
      · intro e
        rw [hrefusal]
        constructor
        · intro h
          cases h
        · intro h
          cases h
      · rintro frame ⟨⟩
        have hdecode := decode_of_carries hcarries q.kind_ne_compressed []
        rw [List.append_nil] at hdecode
        refine ⟨_, hdecode, hcarries.version, hkind, hcarries.count, ?_, htime, hsequence, rfl⟩
        exact hcarries.size.trans (length_bytes _).symm

theorem length_serve (b : Builder) (requests : List Request) :
    (b.serve requests).1.length = requests.length := by
  induction requests generalizing b with
  | nil => rfl
  | cons q requests ih => rw [serve, List.length_cons, ih, List.length_cons]

/-- The number after an answer, and after answers that follow it. -/
theorem add_made_cons (b : Builder) (q : Request) (answers : List (Except FrameError Bytes)) :
    (b.answer q).2.sequence + UInt32.ofNat (made answers)
      = b.sequence + UInt32.ofNat (made ((b.answer q).1 :: answers)) := by
  have hcons : made ((b.answer q).1 :: answers) = made [(b.answer q).1] + made answers := by
    rw [made, made, made, ← List.countP_append, List.singleton_append]
  rw [sequence_answer, hcons, UInt32.ofNat_add, UInt32.add_assoc]

theorem sequence_serve (b : Builder) (requests : List Request) :
    (b.serve requests).2.sequence
      = b.sequence + UInt32.ofNat (made (b.serve requests).1) := by
  induction requests generalizing b with
  | nil => exact (UInt32.add_zero b.sequence).symm
  | cons q requests ih => rw [serve, ih, add_made_cons]

/-- Every request of a run finds the builder as the answers before it have left it. -/
theorem settles_serve {b : Builder} (hplain : b.packing = false) (requests : List Request) :
    ∀ (i : Nat) (q : Request) (answer : Except FrameError Bytes), requests[i]? = some q →
      (b.serve requests).1[i]? = some answer →
      Settles q (b.sequence + UInt32.ofNat (made ((b.serve requests).1.take i))) answer := by
  induction requests generalizing b with
  | nil =>
      intro i q answer hq
      cases hq
  | cons q₀ requests ih =>
      intro i q answer hq hanswer
      cases i with
      | zero =>
          cases hq
          cases hanswer
          rw [List.take_zero, show made [] = 0 from rfl]
          exact (UInt32.add_zero b.sequence).symm ▸ settles_answer hplain q₀
      | succ i =>
          have hlater := ih ((packing_answer b q₀).trans hplain) i q answer hq hanswer
          rw [add_made_cons] at hlater
          exact hlater

end Builder

/-- **A run of requests.** Every request on a builder that does not pack, whatever its first number
is, is answered: by a frame exactly if the limits are kept, else by the error of the refusal. The
frame is as long as its header says and is read back as the variables that were asked for, under
the first number and the count of frames made before, added modulo 2^32. -/
theorem requests_are_answered (sequence : UInt32) (requests : List Request) :
    let run := (Builder.plain sequence).serve requests
    run.1.length = requests.length ∧
      run.2.sequence = sequence + UInt32.ofNat (Builder.made run.1) ∧
      ∀ (i : Nat) (q : Request) (answer : Except FrameError Bytes),
        requests[i]? = some q → run.1[i]? = some answer →
        Settles q (sequence + UInt32.ofNat (Builder.made (run.1.take i))) answer := by
  intro run
  exact ⟨Builder.length_serve _ requests, Builder.sequence_serve _ requests,
    Builder.settles_serve rfl requests⟩

/-- After the largest number comes zero. -/
example :
    let run := (Builder.plain 0xFFFFFFFF).serve [.single ⟨"a", .bool, [1], 3⟩ 7, .batch [] 8]
    run.1.map (fun answer => answer.toOption.map fun frame => frame.drop 16)
      = [some [255, 255, 255, 255, 1, 0, 1, 1, 0, 0, 0, 3, 0, 0, 0, 0, 0, 0, 0, 97, 1],
        some [0, 0, 0, 0]] ∧ run.2.sequence = 1 := by decide +kernel

end Telemetry.Frame
