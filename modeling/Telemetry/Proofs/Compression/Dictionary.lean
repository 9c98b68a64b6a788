import Telemetry.Compression.Dictionary
import Telemetry.Proofs.Compression.Streaming

/-!
# Sliding-window compression loses nothing

The compressor stands at a cursor, with the bytes behind it, nearest first, and the bytes ahead. A
match names an offset and a length: the stretch that starts that far behind the cursor, and runs on
into the bytes ahead, agrees with the bytes ahead for that length (`Match.Fits`). The search keeps
to matches that fit (`search_fits`), and a copy of a match that fits puts out the bytes ahead
(`copyBack_fits`), also where it reaches into bytes of its own making. So the decompressor's output
is at every moment the part of the input that the tokens so far stand for (`feed_scan`). What was
put out before does not matter to it, so compressed forms may also be read one after another
(`sliding_window_lossless`).
-/

namespace Telemetry.Compression.Dictionary

/-! ## Candidates -/

/-- The bytes from `offset` behind the cursor on. -/
def candidate (behind ahead : Bytes) (offset : Nat) : Bytes :=
  (behind.take offset).reverse ++ ahead

@[simp] theorem candidate_zero (behind ahead : Bytes) : candidate behind ahead 0 = ahead := by
  simp [candidate]

/-- One offset further back, there is one byte more in front. -/
theorem candidate_succ (behind ahead : Bytes) (offset : Nat) (h : offset < behind.length) :
    candidate behind ahead (offset + 1) = behind[offset] :: candidate behind ahead offset := by
  simp only [candidate, List.take_add_one, List.getElem?_eq_getElem h, Option.toList_some,
    List.reverse_append, List.reverse_cons, List.reverse_nil, List.nil_append, List.cons_append]

/-- A cursor that moves over one byte has the same candidates one offset further back. -/
theorem candidate_cons (behind ahead : Bytes) (b : UInt8) (offset : Nat) :
    candidate (b :: behind) ahead (offset + 1) = candidate behind (b :: ahead) offset := by
  simp [candidate]

/-! ## Matches -/

/-- What the length that two inputs share says of them. -/
theorem sharedLength_spec (limit : Nat) (xs ys : Bytes) :
    sharedLength limit xs ys ≤ limit ∧
      xs.take (sharedLength limit xs ys) = ys.take (sharedLength limit xs ys) := by
  induction limit generalizing xs ys with
  | zero => simp [sharedLength]
  | succ limit ih =>
      match xs, ys with
      | [], _ => simp [sharedLength]
      | _ :: _, [] => simp [sharedLength]
      | x :: xs, y :: ys =>
          by_cases hxy : x = y
          · obtain ⟨hle, htake⟩ := ih xs ys
            rw [sharedLength, if_pos hxy]
            refine ⟨Nat.succ_le_succ hle, ?_⟩
            rw [List.take_succ_cons, List.take_succ_cons, hxy, htake]
          · simp [sharedLength, hxy]

/-- A match that a token can name and that is true of the bytes around the cursor. -/
structure Match.Fits (behind ahead : Bytes) (m : Match) : Prop where
  offset_pos : 0 < m.offset
  offset_le : m.offset ≤ behind.length
  offset_le_window : m.offset ≤ window
  min_le : minMatch ≤ m.length
  le_max : m.length ≤ maxMatch
  le_ahead : m.length ≤ ahead.length
  shared : (candidate behind ahead m.offset).take m.length = ahead.take m.length

/-- The search, started anywhere, ends with a match that fits, if it ends with one. -/
theorem search_fits (behind ahead : Bytes) :
    ∀ (reach offset : Nat) (best : Option Match), offset + reach ≤ window →
      (∀ m ∈ best, m.Fits behind ahead) →
      ∀ m ∈ search ahead (ahead.take maxMatch).length reach (behind.drop offset)
        (candidate behind ahead offset) offset best, m.Fits behind ahead
  | 0, offset, best, _, hbest => by
      intro m hm
      rw [search.eq_def] at hm
      exact hbest m hm
  | reach + 1, offset, best, hreach, hbest => by
      by_cases hlt : offset < behind.length
      · have hdrop : behind.drop offset = behind[offset] :: behind.drop (offset + 1) :=
          List.drop_eq_getElem_cons hlt
        have hgo := search_fits behind ahead reach (offset + 1)
        rw [hdrop, search, ← candidate_succ behind ahead offset hlt]
        generalize hlen : sharedLength (ahead.take maxMatch).length
          (candidate behind ahead (offset + 1)) ahead = length
        obtain ⟨hle, hshared⟩ := sharedLength_spec (ahead.take maxMatch).length
          (candidate behind ahead (offset + 1)) ahead
        rw [hlen, List.length_take] at hle
        rw [hlen] at hshared
        by_cases himp : improves length best = true
        · have hmin : minMatch ≤ length := by
            simp only [improves, Bool.and_eq_true, decide_eq_true_eq] at himp
            exact himp.1
          have hwindow : offset + 1 ≤ window := by omega
          have hmax : length ≤ maxMatch := by omega
          have hahead : length ≤ ahead.length := by omega
          have hfits : Match.Fits behind ahead ⟨offset + 1, length⟩ :=
            ⟨Nat.succ_pos _, hlt, hwindow, hmin, hmax, hahead, hshared⟩
          have hsome : ∀ m ∈ some (⟨offset + 1, length⟩ : Match), m.Fits behind ahead := by
            intro m hm
            rw [Option.mem_some_iff] at hm
            exact hm ▸ hfits
          rw [if_pos himp]
          split
          · exact hsome
          · exact hgo _ (by omega) hsome
        · rw [if_neg himp]
          exact hgo best (by omega) hbest
      · -- nothing is left behind the cursor
        intro m hm
        rw [List.drop_eq_nil_of_le (Nat.le_of_not_lt hlt), search.eq_def] at hm
        exact hbest m hm

/-- The match that is chosen fits. -/
theorem longestMatch_fits {behind ahead : Bytes} {m : Match}
    (h : longestMatch behind ahead = some m) : m.Fits behind ahead := by
  unfold longestMatch at h
  dsimp only at h
  split at h
  · cases h
  · have hfits := search_fits behind ahead window 0 none (by omega) (by simp)
    rw [List.drop_zero, candidate_zero] at hfits
    exact hfits m h

/-! ## The machine on written forms -/

/-- The machine between two tokens, with some output. -/
def Decoder.at (output : Bytes) : Decoder := ⟨output.toArray, .token⟩

theorem flagged_ne_zero (x : UInt8) : (flag ||| x) &&& flag ≠ 0 := by
  obtain ⟨x⟩ := x
  revert x
  decide +kernel

theorem flagged_and_nibble (x : UInt8) : (flag ||| (x &&& 0x0F)) &&& 0x0F = x &&& 0x0F := by
  obtain ⟨x⟩ := x
  revert x
  decide +kernel

theorem toNat_nibble {n : Nat} (h : n < 16) : (UInt8.ofNat n &&& 0x0F).toNat = n := by
  rw [UInt8.toNat_and, UInt8.toNat_ofNat']
  show n % 256 &&& 2 ^ 4 - 1 = n
  rw [Nat.and_two_pow_sub_one_eq_mod]
  omega

theorem feed_literal (output : Bytes) (v : UInt8) :
    (Token.literal v).encode.foldl Decoder.feed (.at output) = .at (output ++ [v]) := by
  by_cases hv : v &&& flag = 0
  · simp [Token.encode, Decoder.at, Decoder.feed, hv]
  · have hflag : ¬ flag &&& flag = 0 := by decide
    have hoffset : (flag &&& 0x0F).toNat * 256 + (0 : UInt8).toNat = 0 := by decide
    simp only [Token.encode, if_neg hv, Decoder.at, List.foldl_cons, List.foldl_nil, Decoder.feed,
      if_neg hflag, hoffset, if_true, List.push_toArray]

/-- A copy token is read back as the offset and the length it was made of. -/
theorem feed_copy (output : Bytes) (m : Match) (hpos : 0 < m.offset)
    (hle : m.offset ≤ output.length) (hwindow : m.offset ≤ window) (hmin : minMatch ≤ m.length)
    (hmax : m.length ≤ maxMatch) :
    (Token.copy m).encode.foldl Decoder.feed (.at output)
      = ⟨copyBack m.offset m.length output.toArray, .token⟩ := by
  simp only [window, minMatch, maxMatch] at hwindow hmin hmax
  have hoffset : (UInt8.ofNat (m.offset / 256) &&& 0x0F).toNat * 256
      + (UInt8.ofNat m.offset).toNat = m.offset := by
    rw [toNat_nibble (by omega), UInt8.toNat_ofNat']
    omega
  have hlength : (UInt8.ofNat (m.length - minMatch) &&& 0x0F &&& 0x0F).toNat + minMatch
      = m.length := by
    rw [UInt8.and_assoc, UInt8.and_self, toNat_nibble (by simp only [minMatch]; omega)]
    simp only [minMatch]
    omega
  have hzero : ¬ m.offset = 0 := by omega
  have hfar : ¬ m.offset > output.toArray.size := by simpa using hle
  simp only [Token.encode, Decoder.at, List.foldl_cons, List.foldl_nil, Decoder.feed,
    if_neg (flagged_ne_zero _), flagged_and_nibble, hoffset, hlength, if_neg hzero, if_neg hfar]

/-- A copy of a stretch that agrees with the bytes ahead puts the bytes ahead out. The stretch may
run on into the bytes ahead: then the copy reads what it has put out itself. -/
theorem copyBack_fits (base : Bytes) (offset : Nat) :
    ∀ (n : Nat) (behind ahead : Bytes), offset + 1 ≤ behind.length → n ≤ ahead.length →
      (candidate behind ahead (offset + 1)).take n = ahead.take n →
      copyBack (offset + 1) n (base ++ behind.reverse).toArray
        = (base ++ behind.reverse ++ ahead.take n).toArray
  | 0, behind, ahead, _, _, _ => by simp [copyBack]
  | n + 1, behind, [], _, hn, _ => by simp at hn
  | n + 1, behind, b :: ahead, hle, hn, hshared => by
      have hlt : offset < behind.length := hle
      rw [candidate_succ _ _ _ hlt, List.take_succ_cons, List.take_succ_cons,
        ← candidate_cons, List.cons.injEq] at hshared
      obtain ⟨hbyte, hrest⟩ := hshared
      -- counted from the end of the output, the byte copied is the one `offset` behind the cursor
      have hget : (base ++ behind.reverse).toArray.getD
          ((base ++ behind.reverse).toArray.size - (offset + 1)) 0 = b := by
        have hidx : base.length ≤ base.length + behind.length - (offset + 1) := by omega
        have hin : behind.length - 1 - (base.length + behind.length - (offset + 1) - base.length)
            = offset := by omega
        rw [← hbyte]
        simp only [List.size_toArray, List.length_append, List.length_reverse,
          Array.getD_eq_getD_getElem?, List.getElem?_toArray, List.getElem?_append_right hidx,
          List.getElem?_reverse (show base.length + behind.length - (offset + 1) - base.length
            < behind.length by omega), hin, List.getElem?_eq_getElem hlt, Option.getD_some]
      have hpush : (base ++ behind.reverse).toArray.push b
          = (base ++ (b :: behind).reverse).toArray := by simp
      have ih := copyBack_fits base offset n (b :: behind) ahead (by simp; omega)
        (by simpa using hn) hrest
      rw [copyBack, hget, hpush, ih]
      simp

/-- A token of a match that fits puts out the bytes it stands for. -/
theorem feed_match {behind ahead : Bytes} {m : Match} (h : m.Fits behind ahead) (base : Bytes) :
    (Token.copy m).encode.foldl Decoder.feed (.at (base ++ behind.reverse))
      = .at (base ++ behind.reverse ++ ahead.take m.length) := by
  have hle : m.offset ≤ (base ++ behind.reverse).length := by
    have := h.offset_le
    simp
    omega
  obtain ⟨offset, hoffset⟩ : ∃ offset, m.offset = offset + 1 := ⟨m.offset - 1, by
    have := h.offset_pos
    omega⟩
  have hcopy := copyBack_fits base offset m.length behind ahead (hoffset ▸ h.offset_le) h.le_ahead
    (hoffset ▸ h.shared)
  rw [feed_copy _ m h.offset_pos hle h.offset_le_window h.min_le h.le_max, hoffset, hcopy]
  rfl

/-! ## Scanning -/

/-- The tokens already cut stay in front of those still to come. -/
theorem scan_done (ahead : Bytes) :
    ∀ (skip : Nat) (behind : Bytes) (done : Array Token),
      (scan skip behind done ahead).toList
        = done.toList ++ (scan skip behind #[] ahead).toList := by
  induction ahead with
  | nil => intro skip behind done; simp [scan]
  | cons b ahead ih =>
      intro skip behind done
      match skip with
      | skip + 1 => rw [scan, scan, ih]
      | 0 =>
          rw [scan, scan]
          split
          · rw [ih, ih _ _ (Array.push #[] _)]
            simp
          · rw [ih, ih _ _ (Array.push #[] _)]
            simp

/-- The tokens that a scan cuts put out the bytes ahead, of which the first `skip` are there
already. Between two tokens the output is the input up to the cursor. -/
theorem feed_scan (base ahead : Bytes) :
    ∀ (skip : Nat) (behind : Bytes), skip ≤ ahead.length →
      ((scan skip behind #[] ahead).toList.flatMap Token.encode).foldl Decoder.feed
        (.at (base ++ behind.reverse ++ ahead.take skip))
          = .at (base ++ behind.reverse ++ ahead) := by
  induction ahead with
  | nil => intro skip behind _; simp [scan]
  | cons b ahead ih =>
      intro skip behind hskip
      match skip, hskip with
      | skip + 1, hskip =>
          have hgo := ih skip (b :: behind) (by simpa using hskip)
          rw [scan]
          simpa using hgo
      | 0, _ =>
          rw [scan]
          split
          · rename_i m hm
            have hfits := longestMatch_fits hm
            have hlen : m.length = (m.length - 1) + 1 := by
              have := hfits.min_le
              simp only [minMatch] at this
              omega
            have hle : m.length - 1 ≤ ahead.length := by
              have := hfits.le_ahead
              simp only [List.length_cons] at this
              omega
            -- the token puts out the byte at the cursor and the bytes that are skipped next
            have hgo := ih (m.length - 1) (b :: behind) hle
            rw [scan_done, List.flatMap_append, List.foldl_append, List.take_zero, List.append_nil]
            have hcopy := feed_match hfits base
            rw [hlen, List.take_succ_cons] at hcopy
            simp only [List.flatMap_cons, List.flatMap_nil, List.append_nil, List.nil_append,
              Array.toList_push]
            rw [hcopy]
            simpa using hgo
          · have hgo := ih 0 (b :: behind) (Nat.zero_le _)
            rw [scan_done, List.flatMap_append, List.foldl_append, List.take_zero, List.append_nil]
            simp only [List.flatMap_cons, List.flatMap_nil, List.append_nil, List.nil_append,
              Array.toList_push]
            rw [feed_literal]
            simpa using hgo

/-- **Round trip of the machine**: after any output, the written form of an input puts out that
input. -/
theorem feed_compress (output bs : Bytes) :
    (compress bs).foldl Decoder.feed (.at output) = .at (output ++ bs) := by
  have h := feed_scan output bs 0 [] (Nat.zero_le _)
  simpa [compress, tokens] using h

/-- Where the machine, started afresh, ends between two tokens, its output is the result. -/
theorem decompress_eq {form bs : Bytes} (h : form.foldl Decoder.feed (.at []) = .at bs) :
    decompress form = bs := by
  rw [decompress, show Decoder.start = .at [] from rfl, h]
  simp [Decoder.at]

@[simp] theorem decompress_compress (bs : Bytes) : decompress (compress bs) = bs :=
  decompress_eq (feed_compress [] bs)

/-! ## Forms one after another -/

/-- The machine reads form after form: no form looks back past its own start, and each leaves the
machine between two tokens. -/
theorem feed_flatMap_compress (output : Bytes) (parts : List Bytes) :
    (parts.flatMap compress).foldl Decoder.feed (.at output) = .at (output ++ parts.flatten) := by
  have hmachine : Restores Decoder.feed Decoder.at compress := feed_compress
  exact hmachine.flatMap output parts

/-- **Sliding-window compression is lossless**: an input is restored from its compressed form, and
inputs whose forms are strung together are restored strung together. -/
theorem sliding_window_lossless :
    (∀ bs : Bytes, decompress (compress bs) = bs) ∧
      ∀ parts : List Bytes, decompress (parts.flatMap compress) = parts.flatten := by
  refine ⟨decompress_compress, ?_⟩
  intro parts
  exact decompress_eq (feed_flatMap_compress [] parts)

/-- Compression does not distribute over stringing inputs together: a longer input has more to look
back at. -/
example : compress [1, 2, 3, 1, 2, 3] = [1, 2, 3, 0x80, 3, 0] ∧
    [[1, 2, 3], [1, 2, 3]].flatMap compress = [1, 2, 3, 1, 2, 3] := by decide

end Telemetry.Compression.Dictionary
