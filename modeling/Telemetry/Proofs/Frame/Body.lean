import Telemetry.Frame.Building
import Telemetry.Frame.Decoding
import Telemetry.Proofs.Frame.Header

/-!
# Bodies are read as they were written

A variable that has a header is read back from its bytes, whatever follows them
(`readVariable_append`), so a body gives back the variables it was made of
(`readVariables_encode`, `encodeBody_eq_ok`). A frame that is laid out carries its variables in the
sense of `Raw.Carries`, which is all that decoding asks for (`decode_of_carries`).

## How the proof goes

A body is made in three passes: all headers, then the size of the whole, then the bytes. It is read
in one, variable by variable. The two meet in the list of headers and variables zipped together, on
which `readVariables_encode` goes by induction, with whatever was read before in hand
(`readVariables_append` is its step). The size is that of the same list (`foldl_encodedLength`).
-/

namespace Telemetry.Frame

/-! ## One variable -/

/-- A variable has a header exactly when its name and its value are short enough. -/
theorem variableHeader_eq_ok {v : Variable} {h : VariableHeader} (hv : variableHeader v = .ok h) :
    v.name.utf8ByteSize < UInt16.size ∧ v.value.length < UInt32.size ∧
      h = ⟨UInt16.ofNat v.name.utf8ByteSize, v.dataType, UInt32.ofNat v.value.length,
        v.timestamp⟩ := by
  unfold variableHeader at hv
  split at hv
  · cases hv
  · rename_i hname
    split at hv
    · cases hv
    · rename_i hvalue
      injection hv with hv
      exact ⟨Nat.lt_of_not_le hname, Nat.lt_of_not_le hvalue, hv.symm⟩

theorem length_encodeVariable (h : VariableHeader) (v : Variable) :
    (encodeVariable h v).length = encodedLength v := by
  simp only [encodeVariable, encodedLength, List.length_append, VariableHeader.length_encode,
    Bytes.length_ofText]
  omega

/-- A variable is read back from its bytes. -/
theorem readVariable_append {v : Variable} {h : VariableHeader} (hv : variableHeader v = .ok h)
    (rest : Bytes) : readVariable (encodeVariable h v ++ rest) = .ok (v, rest) := by
  obtain ⟨hname, hvalue, rfl⟩ := variableHeader_eq_ok hv
  -- only the lengths of the header matter from here on, and they fit their fields
  generalize hh : (⟨UInt16.ofNat v.name.utf8ByteSize, v.dataType, UInt32.ofNat v.value.length,
    v.timestamp⟩ : VariableHeader) = h
  have hnameLength : h.nameLength.toNat = v.name.utf8ByteSize := by
    rw [← hh, UInt16.toNat_ofNat']
    exact Nat.mod_eq_of_lt hname
  have hvalueLength : h.valueLength.toNat = v.value.length := by
    rw [← hh, UInt32.toNat_ofNat']
    exact Nat.mod_eq_of_lt hvalue
  have hparse : VariableHeader.parse (encodeVariable h v ++ rest) = .ok h := by
    rw [encodeVariable, List.append_assoc, VariableHeader.parse_append]
  -- the variable is cut off, and then its name from its value
  have hcut : (encodeVariable h v ++ rest).split?
      (VariableHeader.size + v.name.utf8ByteSize + v.value.length)
        = some (encodeVariable h v, rest) :=
    Bytes.split?_eq_some_iff.2 ⟨length_encodeVariable h v, rfl⟩
  have hbody : ((encodeVariable h v).drop VariableHeader.size).splitAt v.name.utf8ByteSize
      = (Bytes.ofText v.name, v.value) := by
    rw [encodeVariable, ← VariableHeader.length_encode h, List.drop_left, List.splitAt_eq,
      ← Bytes.length_ofText, List.take_left, List.drop_left]
  unfold readVariable
  simp only [hparse, hnameLength, hvalueLength, hcut, hbody, Bytes.toText?_ofText]
  rw [← hh]

/-! ## Whole bodies -/

theorem readVariables_nil (done : Array Variable) : readVariables done [] = .ok done := by
  rw [readVariables]
  rfl

/-- Reading goes on after a variable that was read. -/
theorem readVariables_append {v : Variable} {bs rest : Bytes} (h : readVariable bs = .ok (v, rest))
    (done : Array Variable) : readVariables done bs = readVariables (done.push v) rest := by
  have hne : bs.isEmpty = false := by
    cases bs with
    | nil => exact absurd (length_lt_of_readVariable h) (Nat.not_lt_zero _)
    | cons b bs => rfl
  rw [readVariables]
  -- both branches of the match, one of which `h` excludes
  simp only [hne, Bool.false_eq_true, if_false]
  split
  · rename_i e he
    rw [h] at he
    cases he
  · rename_i v' rest' hok
    rw [h] at hok
    cases hok
    rfl

theorem readVariables_encode :
    ∀ (vs : List Variable) (hs : List VariableHeader) (done : Array Variable),
      vs.mapM variableHeader = .ok hs →
      readVariables done ((hs.zip vs).flatMap fun (h, v) => encodeVariable h v)
        = .ok (done ++ vs.toArray)
  | [], hs, done, hm => by
      rw [List.mapM_nil] at hm
      cases hm
      simpa using readVariables_nil done
  | v :: vs, hs, done, hm => by
      rw [List.mapM_cons] at hm
      cases hv : variableHeader v with
      | error e =>
          rw [hv] at hm
          cases hm
      | ok h =>
          cases hvs : vs.mapM variableHeader with
          | error e =>
              rw [hv, hvs] at hm
              cases hm
          | ok hs' =>
              rw [hv, hvs] at hm
              cases hm
              have ih := readVariables_encode vs hs' (done.push v) hvs
              rw [List.zip_cons_cons, List.flatMap_cons,
                readVariables_append (readVariable_append hv _), ih]
              simp

/-- The sizes that are added up for a body are the size of the body. -/
theorem foldl_encodedLength :
    ∀ (vs : List Variable) (hs : List VariableHeader) (n : Nat), hs.length = vs.length →
      vs.foldl (fun n v => n + encodedLength v) n
        = n + ((hs.zip vs).flatMap fun (h, v) => encodeVariable h v).length
  | [], hs, n, hlen => by
      rw [List.eq_nil_of_length_eq_zero hlen]
      rfl
  | v :: vs, [], n, hlen => by cases hlen
  | v :: vs, h :: hs, n, hlen => by
      have ih := foldl_encodedLength vs hs (n + encodedLength v) (by simpa using hlen)
      rw [List.foldl_cons, ih, List.zip_cons_cons, List.flatMap_cons, List.length_append,
        length_encodeVariable, Nat.add_assoc]

theorem length_of_mapM_ok {α β ε : Type} {f : α → Except ε β} :
    ∀ {xs : List α} {ys : List β}, xs.mapM f = .ok ys → ys.length = xs.length
  | [], ys, h => by
      rw [List.mapM_nil] at h
      cases h
      rfl
  | x :: xs, ys, h => by
      rw [List.mapM_cons] at h
      cases hx : f x with
      | error e =>
          rw [hx] at h
          cases h
      | ok y =>
          cases hxs : xs.mapM f with
          | error e =>
              rw [hx, hxs] at h
              cases h
          | ok ys' =>
              rw [hx, hxs] at h
              cases h
              simp [length_of_mapM_ok hxs]

/-- What a body that could be made says of the variables it was made of. -/
theorem encodeBody_eq_ok {vs : List Variable} {body : Bytes} {total : Nat}
    (h : encodeBody vs = .ok (body, total)) :
    parseBody body = .ok vs ∧ total = Header.size + body.length ∧ total < UInt32.size := by
  unfold encodeBody at h
  cases hm : vs.mapM variableHeader with
  | error e =>
      rw [hm] at h
      cases h
  | ok hs =>
      have hsum := foldl_encodedLength vs hs Header.size (length_of_mapM_ok hm)
      rw [hm] at h
      -- the size that is checked is the size of the bytes
      simp only [bind, Except.bind, hsum] at h
      by_cases hbig : Header.size
          + ((hs.zip vs).flatMap fun (h, v) => encodeVariable h v).length ≥ UInt32.size
      · rw [if_pos hbig] at h
        cases h
      · rw [if_neg hbig] at h
        cases h
        refine ⟨?_, rfl, Nat.lt_of_not_le hbig⟩
        rw [parseBody, readVariables_encode vs hs #[] hm]
        simp [bind, Except.bind, pure, Except.pure]

/-! ## Frames -/

/-- A frame that is sound and holds variables, in order. -/
structure Raw.Carries (f : Raw) (vs : List Variable) : Prop where
  version : f.header.version = Header.currentVersion
  count : f.header.variableCount.toNat = vs.length
  size : f.header.totalSize.toNat = Header.size + f.body.length
  body : parseBody f.body = .ok vs

theorem length_bytes (f : Raw) : f.bytes.length = Header.size + f.body.length := by
  rw [Raw.bytes, List.length_append, Header.length_encode]

/-- What a builder lays out. -/
theorem layOut_eq_ok {b : Builder} {kind : PayloadKind} {vs : List Variable} {now : UInt64}
    {f : Raw} (h : b.layOut kind vs now = .ok f) :
    f.Carries vs ∧ f.header.kind = kind ∧ f.header.timestamp = now ∧
      f.header.sequence = b.sequence := by
  unfold Builder.layOut at h
  by_cases hcount : vs.length ≥ UInt16.size
  · rw [if_pos hcount] at h
    cases h
  · rw [if_neg hcount] at h
    cases hbody : encodeBody vs with
    | error e =>
        rw [hbody] at h
        cases h
    | ok r =>
        obtain ⟨body, total⟩ := r
        rw [hbody] at h
        cases h
        -- size and count were checked, so neither was cut to its field
        obtain ⟨hparse, htotal, hlt⟩ := encodeBody_eq_ok hbody
        have hsize : (UInt32.ofNat total).toNat = Header.size + body.length := by
          rw [UInt32.toNat_ofNat', Nat.mod_eq_of_lt hlt, htotal]
        have hcount' : (UInt16.ofNat vs.length).toNat = vs.length := by
          rw [UInt16.toNat_ofNat']
          exact Nat.mod_eq_of_lt (Nat.lt_of_not_le hcount)
        exact ⟨⟨rfl, hcount', hsize, hparse⟩, rfl, rfl, rfl⟩

/-- The header of a sound frame is read back. -/
theorem decode_header_of_carries {f : Raw} {vs : List Variable} (h : f.Carries vs) (rest : Bytes) :
    Header.decode (f.bytes ++ rest) = .ok f.header := by
  have hsize : Header.size ≤ f.header.totalSize.toNat := by
    rw [h.size]
    exact Nat.le_add_right _ _
  rw [Raw.bytes, List.append_assoc]
  exact Header.decode_append f.header _ h.version hsize

/-- A sound frame that is not compressed is read back, whatever follows it. -/
theorem decode_of_carries {f : Raw} {vs : List Variable} (h : f.Carries vs)
    (hkind : f.header.kind ≠ .compressed) (rest : Bytes) :
    decode (f.bytes ++ rest) = .ok ⟨f.header, vs⟩ := by
  have hcut : (f.bytes ++ rest).split? f.header.totalSize.toNat = some (f.bytes, rest) :=
    Bytes.split?_eq_some_iff.2 ⟨by rw [length_bytes, h.size], rfl⟩
  have hdrop : f.bytes.drop Header.size = f.body := by
    rw [Raw.bytes, ← Header.length_encode f.header, List.drop_left]
  unfold decode
  rw [decode_header_of_carries h]
  simp only [bind, Except.bind, if_neg hkind, hcut, hdrop, h.body, h.count, ne_eq,
    not_true_eq_false, if_false]
  rfl

end Telemetry.Frame
