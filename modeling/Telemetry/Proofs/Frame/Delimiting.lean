import Telemetry.Proofs.Frame.Restoring

/-!
# Frames are self-delimiting

Whoever receives a frame restores it and then decodes it (`receive`). How far a frame goes is said
by its own header and by nothing around it: what follows its last byte has no part in what is
received (`receive_append`), and with a byte less it is refused, whether it is compressed or not
(`receive_short`). The two refusals come from different places: a compressed frame is found to be
short while it is restored, any other one passes as it is and is found to be short while it is
decoded. So a frame that is received is received from its own bytes, whatever follows them, and from
no fewer (`frames_are_self_delimiting`).
-/

namespace Telemetry

/-! ## Cuts -/

namespace Bytes

/-- Bytes of the length that is asked for are cut off from what follows them. -/
theorem split?_append {front : Bytes} {n : Nat} (hlength : front.length = n) (rest : Bytes) :
    (front ++ rest).split? n = some (front, rest) :=
  split?_eq_some_iff.2 ⟨hlength, rfl⟩

theorem split?_whole {front : Bytes} {n : Nat} (hlength : front.length = n) :
    front.split? n = some (front, []) :=
  split?_eq_some_iff.2 ⟨hlength, (List.append_nil front).symm⟩

theorem split?_short {bs : Bytes} {n : Nat} (hshort : bs.length < n) : bs.split? n = none := by
  rw [split?_eq, if_neg (Nat.not_le_of_lt hshort)]

end Bytes

namespace Frame

/-- The frame in some bytes: they are restored, and then decoded. -/
def receive (bs : Bytes) : Except FrameError Decoded := do
  decode (← restore bs).bytes

/-! ## Headers at the front -/

namespace Header

/-- A header is decoded from its bytes, whatever follows them. -/
theorem decode_mono {front bs : Bytes} {h : Header} (hbegins : front <+: bs)
    (hdecode : decode front = .ok h) : decode bs = .ok h := by
  obtain ⟨hversion, hsize, hfront⟩ := decode_eq_ok_iff.1 hdecode
  exact decode_eq_ok_iff.2 ⟨hversion, hsize, hfront.trans hbegins⟩

/-- A header is decoded from any front that is long enough to hold one. -/
theorem decode_take {bs : Bytes} {h : Header} {k : Nat} (hk : 20 ≤ k)
    (hdecode : decode bs = .ok h) : decode (bs.take k) = .ok h := by
  obtain ⟨hversion, hsize, hfront⟩ := decode_eq_ok_iff.1 hdecode
  refine decode_eq_ok_iff.2 ⟨hversion, hsize, List.prefix_take_iff.2 ⟨hfront, ?_⟩⟩
  rw [length_encode]
  exact hk

theorem decode_short {bs : Bytes} (hshort : bs.length < size) :
    decode bs = .error (.headerTooShort bs.length) := by
  rw [decode, parse, Bytes.split?_short hshort]
  rfl

end Header

/-! ## Frames at the front -/

section

variable {header : Header} {front : Bytes}

/-- Bytes behind a frame are not decoded. -/
theorem decode_append (hdecode : Header.decode front = .ok header)
    (hlength : front.length = header.totalSize.toNat) (rest : Bytes) :
    decode (front ++ rest) = decode front := by
  unfold decode
  rw [Header.decode_mono (List.prefix_append front rest) hdecode, hdecode]
  simp only [bind, Except.bind, Bytes.split?_append hlength, Bytes.split?_whole hlength]

/-- A frame that is decoded is decoded from its own bytes alone. -/
theorem decode_take {bs : Bytes} {f : Decoded} (h : decode bs = .ok f) :
    (bs.take f.header.totalSize.toNat).length = f.header.totalSize.toNat ∧
      decode (bs.take f.header.totalSize.toNat) = .ok f := by
  obtain ⟨hheader, -, ⟨rest, front, hlength, rfl, -⟩, -⟩ := decode_eq_ok h
  have hcover : 20 ≤ f.header.totalSize.toNat := (Header.decode_eq_ok_iff.1 hheader).2.1
  have hfront := Header.decode_take hcover hheader
  rw [List.take_left' hlength] at hfront ⊢
  exact ⟨hlength, (decode_append hfront hlength rest).symm.trans h⟩

/-- Bytes behind a compressed frame are not unpacked. -/
theorem restore_append (hdecode : Header.decode front = .ok header)
    (hkind : header.kind = .compressed) (hlength : front.length = header.totalSize.toNat)
    (rest : Bytes) : restore (front ++ rest) = restore front := by
  unfold restore
  rw [Header.decode_mono (List.prefix_append front rest) hdecode, hdecode]
  simp only [bind, Except.bind, hkind, ne_eq, not_true_eq_false, if_false,
    Bytes.split?_append hlength, Bytes.split?_whole hlength]

/-- A frame that is not compressed is only decoded. -/
theorem receive_of_plain {bs : Bytes} (hdecode : Header.decode bs = .ok header)
    (hkind : header.kind ≠ .compressed) : receive bs = decode bs := by
  have hrestore : restore bs = .ok ⟨bs, true⟩ :=
    restore_eq_ok_iff.2 (.inl ⟨header, hdecode, hkind, rfl⟩)
  rw [receive, hrestore]
  rfl

/-- What follows a frame has no part in what is received, be that a frame or an error. -/
theorem receive_append (hdecode : Header.decode front = .ok header)
    (hlength : front.length = header.totalSize.toNat) (rest : Bytes) :
    receive (front ++ rest) = receive front := by
  by_cases hkind : header.kind = .compressed
  · rw [receive, receive, restore_append hdecode hkind hlength]
  · have hdecode' : Header.decode (front ++ rest) = .ok header :=
      Header.decode_mono (List.prefix_append front rest) hdecode
    rw [receive_of_plain hdecode' hkind, receive_of_plain hdecode hkind,
      decode_append hdecode hlength]

end

/-! ## Frames cut short -/

section

variable {header : Header} {bs : Bytes}

/-- A frame of which a part is missing is refused, compressed or not. -/
theorem receive_short (hdecode : Header.decode bs = .ok header)
    (hshort : bs.length < header.totalSize.toNat) :
    receive bs = .error (.truncated header.totalSize.toNat bs.length) := by
  have hcut := Bytes.split?_short hshort
  by_cases hkind : header.kind = .compressed
  · have hrestore : restore bs = .error (.truncated header.totalSize.toNat bs.length) := by
      rw [restore, hdecode]
      simp only [bind, Except.bind, hkind, ne_eq, not_true_eq_false, if_false, hcut]
      rfl
    rw [receive, hrestore]
    rfl
  · rw [receive_of_plain hdecode hkind, decode, hdecode]
    simp only [bind, Except.bind, if_neg hkind, hcut]
    rfl

/-- What is too short for a header is refused for that. -/
theorem receive_headless (hshort : bs.length < 20) :
    receive bs = .error (.headerTooShort bs.length) := by
  rw [receive, restore, Header.decode_short hshort]
  rfl

/-- What is received has a header, and all the bytes that the header declares. -/
theorem header_of_receive {f : Decoded} (h : receive bs = .ok f) :
    ∃ header, Header.decode bs = .ok header ∧ header.totalSize.toNat ≤ bs.length := by
  cases hdecode : Header.decode bs with
  | error e =>
      rw [receive, restore, hdecode] at h
      cases h
  | ok header =>
      refine ⟨header, rfl, Nat.le_of_not_lt fun hshort => ?_⟩
      rw [receive_short hdecode hshort] at h
      cases h

end

/-- **Frames are self-delimiting.** Where a frame is received, it is received from as many bytes as
its own header declares, whatever follows these. From fewer no frame is received: below 20 bytes
there is no header, and from there on the frame is cut short. -/
theorem frames_are_self_delimiting (bs : Bytes) (f : Decoded) (h : receive bs = .ok f) :
    ∃ header, Header.decode bs = .ok header ∧
      (∀ rest, receive (bs.take header.totalSize.toNat ++ rest) = .ok f) ∧
      ∀ k < header.totalSize.toNat, receive (bs.take k) =
        .error (if k < 20 then .headerTooShort k else .truncated header.totalSize.toNat k) := by
  obtain ⟨header, hdecode, hsize⟩ := header_of_receive h
  have hcover : 20 ≤ header.totalSize.toNat := (Header.decode_eq_ok_iff.1 hdecode).2.1
  have hlength {k : Nat} (hk : k ≤ header.totalSize.toNat) : (bs.take k).length = k :=
    List.length_take_of_le (hk.trans hsize)
  refine ⟨header, hdecode, ?_, ?_⟩
  · intro rest
    have hfront := Header.decode_take hcover hdecode
    calc receive (bs.take header.totalSize.toNat ++ rest)
        = receive (bs.take header.totalSize.toNat) :=
          receive_append hfront (hlength (Nat.le_refl _)) rest
      _ = receive (bs.take header.totalSize.toNat ++ bs.drop header.totalSize.toNat) :=
          (receive_append hfront (hlength (Nat.le_refl _)) _).symm
      _ = .ok f := by rw [List.take_append_drop, h]
  · intro k hk
    have hlength := hlength (Nat.le_of_lt hk)
    by_cases hheader : k < 20
    · rw [if_pos hheader, receive_headless (by rw [hlength]; exact hheader), hlength]
    · have hfront := Header.decode_take (Nat.le_of_not_lt hheader) hdecode
      rw [if_neg hheader, receive_short hfront (by rw [hlength]; exact hk), hlength]

/-- A compressed frame of 33 bytes, with a byte behind it. -/
theorem packed_frame_is_self_delimiting :
    let bs := Raw.bytes ⟨⟨1, .compressed, 1, 33, 1700, 7⟩,
      [1, 1, 0, 2, 1, 0, 0, 0, 0xFF, 8, 0, 97, 7]⟩ ++ [0xAA]
    let f : Decoded := ⟨⟨1, .batch, 1, 37, 1700, 7⟩, [⟨"a", .uint8, [7], 0⟩]⟩
    receive bs = .ok f ∧
      ∃ header, Header.decode bs = .ok header ∧
        (∀ rest, receive (bs.take header.totalSize.toNat ++ rest) = .ok f) ∧
        ∀ k < header.totalSize.toNat, receive (bs.take k) =
          .error (if k < 20 then .headerTooShort k else .truncated header.totalSize.toNat k) := by
  intro bs f
  have h : receive bs = .ok f := by decide +kernel
  exact ⟨h, frames_are_self_delimiting bs f h⟩

end Frame

end Telemetry
