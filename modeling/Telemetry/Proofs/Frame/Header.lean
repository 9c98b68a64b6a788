import Telemetry.Frame.Header

/-!
# Headers are read as they were written

An encoded header, whatever follows it, is parsed into the header (`Header.parse_append`,
`VariableHeader.parse_append`). Every field lies at its own place in the encoding, and a number that
fits the width of its field comes back unchanged. The fields lie without gaps, so nothing else is
parsed into that header (`Header.parse_eq_ok_iff`, `VariableHeader.parse_eq_ok_iff`): parsing and
encoding undo each other (`headers_are_read_as_written`).

## How the proof goes

A parser cuts off the bytes of a header and reads the fields of just those (`ofFields`), so both
directions are about a string of 20 or 15 bytes. From header to bytes, `field_append` finds each
field behind those before it (`ofFields_encode`). From bytes to header, the string is taken apart
into its fields, front to back (`drop_eq_field_append`, `drop_eq_getD_cons`), and each of them is
what its number is encoded to (`encode_of_ofFields`). A kind and a data type are single bytes, each
of which names at most one (`PayloadKind.ofCode_eq_ok_iff`).
-/

namespace Telemetry

namespace Bytes

/-! ## Numbers of fixed width -/

theorem uint16_ofNat (n : UInt16) : UInt16.ofNat (toNat (ofNat 2 n.toNat)) = n := by
  have hlt : n.toNat < Nat.pow 256 2 := n.toNat_lt
  rw [toNat_ofNat, Nat.mod_eq_of_lt hlt, UInt16.ofNat_toNat]

theorem uint32_ofNat (n : UInt32) : UInt32.ofNat (toNat (ofNat 4 n.toNat)) = n := by
  have hlt : n.toNat < Nat.pow 256 4 := n.toNat_lt
  rw [toNat_ofNat, Nat.mod_eq_of_lt hlt, UInt32.ofNat_toNat]

theorem uint64_ofNat (n : UInt64) : UInt64.ofNat (toNat (ofNat 8 n.toNat)) = n := by
  have hlt : n.toNat < Nat.pow 256 8 := n.toNat_lt
  rw [toNat_ofNat, Nat.mod_eq_of_lt hlt, UInt64.ofNat_toNat]

/-- Bytes stand for a number below the bound of their width. -/
theorem toNat_lt {bs : Bytes} {width : Nat} (h : bs.length = width) :
    toNat bs < Nat.pow 256 width := by
  have hmod := toNat_ofNat bs.length (toNat bs)
  rw [ofNat_toNat, h] at hmod
  rw [hmod]
  exact Nat.mod_lt _ (Nat.pow_pos (by decide))

theorem ofNat_uint16 {bs : Bytes} (h : bs.length = 2) :
    ofNat 2 (UInt16.ofNat (toNat bs)).toNat = bs := by
  have hlt : toNat bs < 65536 := toNat_lt h
  rw [UInt16.toNat_ofNat', Nat.mod_eq_of_lt hlt, ← h, ofNat_toNat]

theorem ofNat_uint32 {bs : Bytes} (h : bs.length = 4) :
    ofNat 4 (UInt32.ofNat (toNat bs)).toNat = bs := by
  have hlt : toNat bs < 4294967296 := toNat_lt h
  rw [UInt32.toNat_ofNat', Nat.mod_eq_of_lt hlt, ← h, ofNat_toNat]

theorem ofNat_uint64 {bs : Bytes} (h : bs.length = 8) :
    ofNat 8 (UInt64.ofNat (toNat bs)).toNat = bs := by
  have hlt : toNat bs < 18446744073709551616 := toNat_lt h
  rw [UInt64.toNat_ofNat', Nat.mod_eq_of_lt hlt, ← h, ofNat_toNat]

end Bytes

namespace Frame

/-- A stretch of bytes is the field at the place where it starts. -/
theorem field_append (start width : Nat) (before bs rest : Bytes) (hs : before.length = start)
    (hw : bs.length = width) : field start width (before ++ (bs ++ rest)) = bs := by
  rw [field, ← hs, List.drop_left, ← hw, List.take_left]

theorem length_field {start width : Nat} {bs : Bytes} (h : start + width ≤ bs.length) :
    (field start width bs).length = width := by
  rw [field, List.length_take, List.length_drop]
  omega

/-- A field is followed by what lies behind it. -/
theorem drop_eq_field_append (start width : Nat) (bs : Bytes) :
    bs.drop start = field start width bs ++ bs.drop (start + width) := by
  rw [field, ← List.drop_drop, List.take_append_drop]

/-- A byte is followed by what lies behind it. -/
theorem drop_eq_getD_cons {start : Nat} {bs : Bytes} (h : start < bs.length) :
    bs.drop start = bs.getD start 0 :: bs.drop (start + 1) := by
  rw [List.drop_eq_getElem_cons h, List.getD_eq_getElem?_getD, List.getElem?_eq_getElem h,
    Option.getD_some]

/-! ## Kinds -/

/-- A byte names a kind exactly when it is that kind's own. -/
theorem PayloadKind.ofCode_eq_ok_iff {code : UInt8} {kind : PayloadKind} :
    ofCode code = .ok kind ↔ code = kind.code := by
  constructor
  · intro h
    unfold ofCode at h
    split at h
    next hcode =>
      cases h
      exact hcode
    next =>
      split at h
      next hcode =>
        cases h
        exact hcode
      next =>
        split at h
        next hcode =>
          cases h
          exact hcode
        next => cases h
  · rintro rfl
    exact ofCode_code kind

/-! ## The header of a frame -/

namespace Header

theorem ofFields_encode (h : Header) : ofFields h.encode = .ok h := by
  have hcode : h.encode.getD 1 0 = h.kind.code := rfl
  have hversion : h.encode.getD 0 0 = h.version := rfl
  have hcount : field 2 2 h.encode = Bytes.ofNat 2 h.variableCount.toNat := by
    have := field_append 2 2 [h.version, h.kind.code] (Bytes.ofNat 2 h.variableCount.toNat)
      (Bytes.ofNat 4 h.totalSize.toNat ++ Bytes.ofNat 8 h.timestamp.toNat ++
        Bytes.ofNat 4 h.sequence.toNat) rfl (Bytes.length_ofNat _ _)
    simpa [encode] using this
  have hsize : field 4 4 h.encode = Bytes.ofNat 4 h.totalSize.toNat := by
    have := field_append 4 4 (h.version :: h.kind.code :: Bytes.ofNat 2 h.variableCount.toNat)
      (Bytes.ofNat 4 h.totalSize.toNat)
      (Bytes.ofNat 8 h.timestamp.toNat ++ Bytes.ofNat 4 h.sequence.toNat) (by simp)
      (Bytes.length_ofNat _ _)
    simpa [encode] using this
  have htime : field 8 8 h.encode = Bytes.ofNat 8 h.timestamp.toNat := by
    have := field_append 8 8 (h.version :: h.kind.code :: (Bytes.ofNat 2 h.variableCount.toNat ++
      Bytes.ofNat 4 h.totalSize.toNat)) (Bytes.ofNat 8 h.timestamp.toNat)
      (Bytes.ofNat 4 h.sequence.toNat) (by simp) (Bytes.length_ofNat _ _)
    simpa [encode] using this
  have hsequence : field 16 4 h.encode = Bytes.ofNat 4 h.sequence.toNat := by
    have := field_append 16 4 (h.version :: h.kind.code :: (Bytes.ofNat 2 h.variableCount.toNat ++
      Bytes.ofNat 4 h.totalSize.toNat ++ Bytes.ofNat 8 h.timestamp.toNat))
      (Bytes.ofNat 4 h.sequence.toNat) [] (by simp) (Bytes.length_ofNat _ _)
    simpa [encode] using this
  rw [ofFields, hcode, PayloadKind.ofCode_code, hversion, hcount, hsize, htime, hsequence,
    Bytes.uint16_ofNat, Bytes.uint32_ofNat, Bytes.uint64_ofNat, Bytes.uint32_ofNat]
  rfl

/-- A header is parsed from its own bytes, whatever follows. -/
@[simp] theorem parse_append (h : Header) (rest : Bytes) : parse (h.encode ++ rest) = .ok h := by
  have hcut : (h.encode ++ rest).split? size = some (h.encode, rest) :=
    Bytes.split?_eq_some_iff.2 ⟨length_encode h, rfl⟩
  simp only [parse, hcut]
  exact ofFields_encode h

/-- Twenty bytes that are read as a header are the bytes of that header. -/
theorem encode_of_ofFields {raw : Bytes} {h : Header} (hlength : raw.length = size)
    (hread : ofFields raw = .ok h) : h.encode = raw := by
  have hlength' : raw.length = 20 := hlength
  unfold ofFields at hread
  cases hkind : PayloadKind.ofCode (raw.getD 1 0) with
  | error e =>
      rw [hkind] at hread
      cases hread
  | ok kind =>
      rw [hkind] at hread
      cases hread
      have hcode := PayloadKind.ofCode_eq_ok_iff.1 hkind
      have hcount := Bytes.ofNat_uint16 (length_field (show 2 + 2 ≤ raw.length by omega))
      have hsize := Bytes.ofNat_uint32 (length_field (show 4 + 4 ≤ raw.length by omega))
      have htime := Bytes.ofNat_uint64 (length_field (show 8 + 8 ≤ raw.length by omega))
      have hsequence := Bytes.ofNat_uint32 (length_field (show 16 + 4 ≤ raw.length by omega))
      have hend : raw.drop 20 = [] := List.drop_eq_nil_of_le (Nat.le_of_eq hlength')
      -- the fields one after another, up to the end of the string
      have hfields : raw = raw.getD 0 0 :: raw.getD 1 0 :: (field 2 2 raw ++ (field 4 4 raw ++
          (field 8 8 raw ++ (field 16 4 raw ++ [])))) := by
        rw [← hend, ← drop_eq_field_append, ← drop_eq_field_append, ← drop_eq_field_append,
          ← drop_eq_field_append, ← drop_eq_getD_cons (by omega), ← drop_eq_getD_cons (by omega),
          List.drop_zero]
      rw [List.append_nil, ← List.append_assoc, ← List.append_assoc] at hfields
      -- only the right side: the fields on the left speak of the string too
      conv => rhs; rw [hfields]
      simp only [encode, ← hcode, hcount, hsize, htime, hsequence]

/-- Bytes are parsed into a header exactly when they begin with its own. -/
theorem parse_eq_ok_iff {bs : Bytes} {h : Header} : parse bs = .ok h ↔ h.encode <+: bs := by
  constructor
  · intro hparse
    unfold parse at hparse
    split at hparse
    next => cases hparse
    next raw rest hcut =>
      obtain ⟨hlength, rfl⟩ := Bytes.split?_eq_some_iff.1 hcut
      rw [encode_of_ofFields hlength hparse]
      exact List.prefix_append raw rest
  · rintro ⟨rest, rfl⟩
    exact parse_append h rest

/-- Decoding adds two checks to parsing. -/
theorem decode_append (h : Header) (rest : Bytes) (hversion : h.version = currentVersion)
    (hsize : size ≤ h.totalSize.toNat) : decode (h.encode ++ rest) = .ok h := by
  have hlt : ¬ h.totalSize.toNat < size := Nat.not_lt.2 hsize
  rw [decode, parse_append]
  simp only [bind, Except.bind, ne_eq, hversion, not_true_eq_false, if_false, hlt]
  rfl

theorem decode_eq_ok_iff {bs : Bytes} {h : Header} :
    decode bs = .ok h ↔
      h.version = currentVersion ∧ size ≤ h.totalSize.toNat ∧ h.encode <+: bs := by
  constructor
  · intro hdecode
    unfold decode at hdecode
    cases hparse : parse bs with
    | error e =>
        rw [hparse] at hdecode
        cases hdecode
    | ok h' =>
        rw [hparse] at hdecode
        simp only [bind, Except.bind] at hdecode
        -- the two checks in their order
        by_cases hversion : h'.version = currentVersion
        · rw [if_neg (not_not_intro hversion)] at hdecode
          by_cases hsize : h'.totalSize.toNat < size
          · rw [if_pos hsize] at hdecode
            cases hdecode
          · rw [if_neg hsize] at hdecode
            cases hdecode
            exact ⟨hversion, Nat.le_of_not_lt hsize, parse_eq_ok_iff.1 hparse⟩
        · rw [if_pos hversion] at hdecode
          cases hdecode
  · rintro ⟨hversion, hsize, rest, rfl⟩
    exact decode_append h rest hversion hsize

end Header

/-! ## The header of a variable -/

namespace VariableHeader

theorem ofFields_encode (h : VariableHeader) : ofFields h.encode = .ok h := by
  have hname : field 0 2 h.encode = Bytes.ofNat 2 h.nameLength.toNat := by
    have := field_append 0 2 [] (Bytes.ofNat 2 h.nameLength.toNat)
      (h.dataType.tag :: (Bytes.ofNat 4 h.valueLength.toNat ++ Bytes.ofNat 8 h.timestamp.toNat))
      rfl (Bytes.length_ofNat _ _)
    simpa [encode] using this
  have htag : h.encode.getD 2 0 = h.dataType.tag := rfl
  have hvalue : field 3 4 h.encode = Bytes.ofNat 4 h.valueLength.toNat := by
    have := field_append 3 4 (Bytes.ofNat 2 h.nameLength.toNat ++ [h.dataType.tag])
      (Bytes.ofNat 4 h.valueLength.toNat) (Bytes.ofNat 8 h.timestamp.toNat) (by simp)
      (Bytes.length_ofNat _ _)
    simpa [encode] using this
  have htime : field 7 8 h.encode = Bytes.ofNat 8 h.timestamp.toNat := by
    have := field_append 7 8 (Bytes.ofNat 2 h.nameLength.toNat ++ h.dataType.tag ::
      Bytes.ofNat 4 h.valueLength.toNat) (Bytes.ofNat 8 h.timestamp.toNat) [] (by simp)
      (Bytes.length_ofNat _ _)
    simpa [encode] using this
  rw [ofFields, htag, DataType.ofTag?_tag]
  simp only [hname, hvalue, htime, Bytes.uint16_ofNat, Bytes.uint32_ofNat, Bytes.uint64_ofNat]

/-- A header is parsed from its own bytes, whatever follows. -/
@[simp] theorem parse_append (h : VariableHeader) (rest : Bytes) :
    parse (h.encode ++ rest) = .ok h := by
  have hcut : (h.encode ++ rest).split? size = some (h.encode, rest) :=
    Bytes.split?_eq_some_iff.2 ⟨length_encode h, rfl⟩
  simp only [parse, hcut]
  exact ofFields_encode h

/-- Fifteen bytes that are read as a header are the bytes of that header. -/
theorem encode_of_ofFields {raw : Bytes} {h : VariableHeader} (hlength : raw.length = size)
    (hread : ofFields raw = .ok h) : h.encode = raw := by
  have hlength' : raw.length = 15 := hlength
  unfold ofFields at hread
  dsimp only at hread
  split at hread
  next => cases hread
  next dataType hdataType =>
    cases hread
    have htag := DataType.ofTag?_eq_some_iff.1 hdataType
    have hname := Bytes.ofNat_uint16 (length_field (show 0 + 2 ≤ raw.length by omega))
    have hvalue := Bytes.ofNat_uint32 (length_field (show 3 + 4 ≤ raw.length by omega))
    have htime := Bytes.ofNat_uint64 (length_field (show 7 + 8 ≤ raw.length by omega))
    have hend : raw.drop 15 = [] := List.drop_eq_nil_of_le (Nat.le_of_eq hlength')
    have hfields : raw = field 0 2 raw ++ raw.getD 2 0 :: (field 3 4 raw ++
        (field 7 8 raw ++ [])) := by
      rw [← hend, ← drop_eq_field_append, ← drop_eq_field_append, ← drop_eq_getD_cons (by omega),
        ← drop_eq_field_append, List.drop_zero]
    rw [List.append_nil] at hfields
    conv => rhs; rw [hfields]
    simp only [encode, ← htag, hname, hvalue, htime]

/-- Bytes are parsed into a header exactly when they begin with its own. -/
theorem parse_eq_ok_iff {bs : Bytes} {h : VariableHeader} : parse bs = .ok h ↔ h.encode <+: bs := by
  constructor
  · intro hparse
    unfold parse at hparse
    split at hparse
    next => cases hparse
    next raw rest hcut =>
      obtain ⟨hlength, rfl⟩ := Bytes.split?_eq_some_iff.1 hcut
      rw [encode_of_ofFields hlength hparse]
      exact List.prefix_append raw rest
  · rintro ⟨rest, rfl⟩
    exact parse_append h rest

end VariableHeader

/-! ## Both headers -/

/-- **Headers are read as they were written.** A header of a frame or of a variable is parsed from
its bytes, whatever follows them, and a byte string is parsed into a header exactly when its first
20 or 15 bytes are those of that header. -/
theorem headers_are_read_as_written :
    (∀ (h : Header) (rest : Bytes), Header.parse (h.encode ++ rest) = .ok h) ∧
      (∀ (h : VariableHeader) (rest : Bytes), VariableHeader.parse (h.encode ++ rest) = .ok h) ∧
      (∀ (bs : Bytes) (h : Header), Header.parse bs = .ok h ↔ h.encode = bs.take 20) ∧
      ∀ (bs : Bytes) (h : VariableHeader),
        VariableHeader.parse bs = .ok h ↔ h.encode = bs.take 15 := by
  refine ⟨Header.parse_append, VariableHeader.parse_append, ?_, ?_⟩
  · intro bs h
    rw [Header.parse_eq_ok_iff, List.prefix_iff_eq_take, Header.length_encode, Header.size]
  · intro bs h
    rw [VariableHeader.parse_eq_ok_iff, List.prefix_iff_eq_take, VariableHeader.length_encode,
      VariableHeader.size]

end Frame

end Telemetry
