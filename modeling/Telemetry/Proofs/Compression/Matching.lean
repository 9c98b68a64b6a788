import Telemetry.Proofs.Compression.Dictionary

/-!
# The nearest of the longest matches

What an offset is worth is how far the input goes on alike from `offset` bytes before the cursor and
from the cursor (`echo`). The search goes back from the cursor and keeps a match only for a longer
one, so what it holds is at every moment the nearest of the longest matches among the offsets tried
so far (`Leads`). A match of full length ends the search early, since no offset is worth more. So
the search finds a match exactly where there is one, and it is the longest, and of those the nearest
(`match_is_longest_and_nearest`).
-/

namespace Telemetry.Compression.Dictionary

/-! ## What an offset is worth -/

/-- How many bytes two inputs have in common at their start. -/
def commonLength (xs ys : Bytes) : Nat :=
  ((xs.zip ys).takeWhile fun (x, y) => x == y).length

theorem commonLength_cons (x y : UInt8) (xs ys : Bytes) :
    commonLength (x :: xs) (y :: ys) = if x = y then commonLength xs ys + 1 else 0 := by
  by_cases hxy : x = y
  · simp [commonLength, hxy]
  · simp [commonLength, hxy]

theorem commonLength_le_right (xs ys : Bytes) : commonLength xs ys ≤ ys.length := by
  have hzip : commonLength xs ys ≤ (xs.zip ys).length := (List.takeWhile_prefix _).length_le
  rw [List.length_zip] at hzip
  omega

/-- The length that two inputs share is what they have in common, up to the limit. -/
theorem sharedLength_eq (limit : Nat) (xs ys : Bytes) :
    sharedLength limit xs ys = min limit (commonLength xs ys) := by
  induction limit generalizing xs ys with
  | zero => simp [sharedLength]
  | succ limit ih =>
      cases xs with
      | nil => simp [sharedLength, commonLength]
      | cons x xs =>
          cases ys with
          | nil => simp [sharedLength, commonLength]
          | cons y ys =>
              rw [sharedLength, commonLength_cons]
              by_cases hxy : x = y
              · rw [if_pos hxy, if_pos hxy, ih, Nat.add_min_add_right]
              · rw [if_neg hxy, if_neg hxy, Nat.min_zero]

/-- Two inputs that begin with the same `n` bytes have at least `n` in common. -/
theorem le_commonLength {n : Nat} {xs ys : Bytes} (hlength : n ≤ ys.length)
    (htake : xs.take n = ys.take n) : n ≤ commonLength xs ys := by
  induction n generalizing xs ys with
  | zero => exact Nat.zero_le _
  | succ n ih =>
      cases ys with
      | nil => simp at hlength
      | cons y ys =>
          cases xs with
          | nil => simp at htake
          | cons x xs =>
              rw [List.take_succ_cons, List.take_succ_cons, List.cons.injEq] at htake
              rw [commonLength_cons, if_pos htake.1]
              exact Nat.succ_le_succ (ih (by simpa using hlength) htake.2)

/-- How far an input goes on alike from `offset` bytes before a position and from the position. -/
def echo (bs : Bytes) (pos offset : Nat) : Nat :=
  commonLength (bs.drop (pos - offset)) (bs.drop pos)

/-- A candidate is the input from some bytes before the cursor on. -/
theorem candidate_eq_drop {bs : Bytes} {pos offset : Nat} (hpos : pos ≤ bs.length)
    (hoffset : offset ≤ pos) :
    candidate (bs.take pos).reverse (bs.drop pos) offset = bs.drop (pos - offset) := by
  have hlength : (bs.take pos).length = pos := by simp [hpos]
  rw [candidate, List.take_reverse, List.reverse_reverse, hlength,
    ← List.drop_append_of_le_length (by omega), List.take_append_drop]

/-! ## The search -/

/-- How long a match at an offset is, up to the limit. -/
def lengthAt (behind ahead : Bytes) (limit offset : Nat) : Nat :=
  sharedLength limit (candidate behind ahead offset) ahead

theorem lengthAt_le (behind ahead : Bytes) (limit offset : Nat) :
    lengthAt behind ahead limit offset ≤ limit :=
  (sharedLength_spec limit _ _).1

/-- The nearest of the longest matches among the first `tried` offsets; none if none of them is
worth having. -/
def Leads (behind ahead : Bytes) (limit tried : Nat) : Option Match → Prop
  | none => ∀ o, 0 < o → o ≤ tried → lengthAt behind ahead limit o < minMatch
  | some m => m.offset ≤ tried ∧ minMatch ≤ m.length ∧ ∀ o, 0 < o → o ≤ tried →
      lengthAt behind ahead limit o ≤ m.length ∧
        (o < m.offset → lengthAt behind ahead limit o < m.length)

variable {behind ahead : Bytes} {limit tried length : Nat} {best : Option Match}

/-- The next offset takes the lead if its match is worth having and longer than the best so far. -/
theorem Leads.overtaken (h : Leads behind ahead limit tried best)
    (hlength : lengthAt behind ahead limit (tried + 1) = length)
    (himproves : improves length best = true) :
    Leads behind ahead limit (tried + 1) (some ⟨tried + 1, length⟩) := by
  simp only [improves, Bool.and_eq_true, decide_eq_true_eq] at himproves
  obtain ⟨hmin, hlonger⟩ := himproves
  have hshorter : ∀ o, 0 < o → o ≤ tried → lengthAt behind ahead limit o < length := by
    intro o hpos hle
    cases best with
    | none => exact Nat.lt_of_lt_of_le (h o hpos hle) hmin
    | some m =>
        have hm : m.length < length := by simpa using hlonger
        exact Nat.lt_of_le_of_lt (h.2.2 o hpos hle).1 hm
  refine ⟨Nat.le_refl _, hmin, fun o hpos hle => ?_⟩
  rcases Nat.lt_or_eq_of_le hle with hlt | rfl
  · have ho := hshorter o hpos (Nat.le_of_lt_succ hlt)
    exact ⟨Nat.le_of_lt ho, fun _ => ho⟩
  · exact ⟨Nat.le_of_eq hlength, fun hself => absurd hself (Nat.lt_irrefl _)⟩

/-- Otherwise the lead stays. -/
theorem Leads.kept (h : Leads behind ahead limit tried best)
    (hlength : lengthAt behind ahead limit (tried + 1) = length)
    (himproves : ¬ improves length best = true) : Leads behind ahead limit (tried + 1) best := by
  simp only [improves, Bool.and_eq_true, decide_eq_true_eq, not_and] at himproves
  cases best with
  | none =>
      intro o hpos hle
      rcases Nat.lt_or_eq_of_le hle with hlt | rfl
      · exact h o hpos (Nat.le_of_lt_succ hlt)
      · rw [hlength]
        exact Nat.lt_of_not_le fun hmin => himproves hmin rfl
  | some m =>
      obtain ⟨hoffset, hmin, hall⟩ := h
      refine ⟨Nat.le_succ_of_le hoffset, hmin, fun o hpos hle => ?_⟩
      rcases Nat.lt_or_eq_of_le hle with hlt | rfl
      · exact hall o hpos (Nat.le_of_lt_succ hlt)
      · have hnot : minMatch ≤ length → m.length ≥ length := by simpa using himproves
        exact ⟨by omega, fun hnear => by omega⟩

/-- A match of full length keeps the lead, whatever else is tried. -/
theorem Leads.of_full {m : Match} (h : Leads behind ahead limit tried (some m))
    (hfull : m.length = limit) {tried' : Nat} (hle : tried ≤ tried') :
    Leads behind ahead limit tried' (some m) := by
  obtain ⟨hoffset, hmin, hall⟩ := h
  refine ⟨Nat.le_trans hoffset hle, hmin, fun o hpos _ => ?_⟩
  refine ⟨hfull ▸ lengthAt_le behind ahead limit o, fun hnear => ?_⟩
  exact (hall o hpos (Nat.le_trans (Nat.le_of_lt hnear) hoffset)).2 hnear

/-- The search ends with the leader of all offsets that it can reach. -/
theorem search_leads (behind ahead : Bytes) (limit : Nat) :
    ∀ (reach tried : Nat) (best : Option Match), tried ≤ behind.length →
      Leads behind ahead limit tried best →
      Leads behind ahead limit (min behind.length (tried + reach))
        (search ahead limit reach (behind.drop tried) (candidate behind ahead tried) tried best)
  | 0, tried, best, htried, h => by
      rw [search.eq_def, Nat.add_zero, Nat.min_eq_right htried]
      exact h
  | reach + 1, tried, best, htried, h => by
      rcases Nat.lt_or_eq_of_le htried with hlt | heq
      · have hdrop : behind.drop tried = behind[tried] :: behind.drop (tried + 1) :=
          List.drop_eq_getElem_cons hlt
        have hgo := search_leads behind ahead limit reach (tried + 1)
        rw [show tried + 1 + reach = tried + (reach + 1) by omega] at hgo
        rw [hdrop, search, ← candidate_succ behind ahead tried hlt]
        generalize hlength : sharedLength limit (candidate behind ahead (tried + 1)) ahead = length
        split
        next himproves =>
          have hlead := h.overtaken hlength himproves
          split
          next hfull => exact hlead.of_full hfull (by omega)
          next => exact hgo _ hlt hlead
        next himproves => exact hgo best hlt (h.kept hlength himproves)
      · -- nothing is left behind the cursor
        rw [heq, List.drop_length, search.eq_def, Nat.min_eq_left (Nat.le_add_right _ _)]
        exact heq ▸ h

/-- The match that is chosen leads all offsets in the window. -/
theorem longestMatch_leads (behind ahead : Bytes) :
    Leads behind ahead (min maxMatch ahead.length) (min behind.length window)
      (longestMatch behind ahead) := by
  simp only [longestMatch, List.length_take]
  split
  next hshort =>
    intro o _ _
    exact Nat.lt_of_le_of_lt (lengthAt_le behind ahead _ o) hshort
  next =>
    have hnone : Leads behind ahead (min maxMatch ahead.length) 0 none := by
      intro o hpos hle
      omega
    have hleads := search_leads behind ahead _ window 0 none (Nat.zero_le _) hnone
    rw [Nat.zero_add, List.drop_zero, candidate_zero] at hleads
    exact hleads

/-! ## Matches in an input -/

variable {bs : Bytes} {pos offset : Nat}

theorem matchAt_eq (bs : Bytes) (pos : Nat) :
    matchAt bs pos = longestMatch (bs.take pos).reverse (bs.drop pos) := by
  rw [matchAt, List.splitAt_eq]

theorem lengthAt_eq_echo (hpos : pos ≤ bs.length) (hoffset : offset ≤ pos) (limit : Nat) :
    lengthAt (bs.take pos).reverse (bs.drop pos) limit offset = min limit (echo bs pos offset) := by
  rw [lengthAt, sharedLength_eq, candidate_eq_drop hpos hoffset, echo]

/-- An input is not alike for longer than it goes on. -/
theorem echo_le (bs : Bytes) (pos offset : Nat) : echo bs pos offset ≤ bs.length - pos := by
  have hle := commonLength_le_right (bs.drop (pos - offset)) (bs.drop pos)
  rwa [List.length_drop] at hle

/-- A match that fits is as long as the offset it names is worth, at most. -/
theorem Match.Fits.le_echo {m : Match} (h : m.Fits (bs.take pos).reverse (bs.drop pos))
    (hpos : pos ≤ bs.length) (hoffset : m.offset ≤ pos) : m.length ≤ echo bs pos m.offset := by
  have hshared := h.shared
  rw [candidate_eq_drop hpos hoffset] at hshared
  exact le_commonLength h.le_ahead hshared

/-- A match that fits repeats byte for byte what stands at its offset. -/
theorem Match.Fits.getElem?_eq {m : Match} (h : m.Fits (bs.take pos).reverse (bs.drop pos))
    (hpos : pos ≤ bs.length) (hoffset : m.offset ≤ pos) {k : Nat} (hk : k < m.length) :
    bs[pos - m.offset + k]? = bs[pos + k]? := by
  have hshared := h.shared
  rw [candidate_eq_drop hpos hoffset] at hshared
  have hbyte := congrArg (·[k]?) hshared
  simpa [List.getElem?_take_of_lt hk] using hbyte

/-- **The search is exact.** A match is found exactly where an offset in the window is worth three
bytes or more. It names an offset in the window and a length that a copy can carry, and repeats what
stands there; no offset in the window is worth more, up to the longest copy, and every nearer one is
worth less. -/
theorem match_is_longest_and_nearest (bs : Bytes) (pos : Nat) :
    ((∃ m, matchAt bs pos = some m) ↔
      ∃ offset, 1 ≤ offset ∧ offset ≤ min pos 4095 ∧ 3 ≤ echo bs pos offset) ∧
    ∀ m, matchAt bs pos = some m →
      (1 ≤ m.offset ∧ m.offset ≤ min pos 4095) ∧
      (3 ≤ m.length ∧ m.length ≤ min 18 (bs.length - pos)) ∧
      (∀ k < m.length, bs[pos - m.offset + k]? = bs[pos + k]?) ∧
      ∀ offset, 1 ≤ offset → offset ≤ min pos 4095 →
        min (min 18 (bs.length - pos)) (echo bs pos offset) ≤ m.length ∧
        (offset < m.offset → echo bs pos offset < m.length) := by
  rw [matchAt_eq]
  have hleads := longestMatch_leads (bs.take pos).reverse (bs.drop pos)
  rw [List.length_reverse, List.length_take, List.length_drop] at hleads
  rcases Nat.lt_or_ge bs.length pos with hbeyond | hpos
  · -- behind the end nothing is ahead
    have hecho (offset : Nat) : echo bs pos offset = 0 := by
      have := echo_le bs pos offset
      omega
    have hnone : longestMatch (bs.take pos).reverse (bs.drop pos) = none := by
      rw [List.drop_eq_nil_of_le (Nat.le_of_lt hbeyond)]
      rfl
    simp [hnone, hecho]
  · rw [Nat.min_eq_left hpos] at hleads
    have hworth (offset : Nat) (hoffset : offset ≤ min pos 4095) :
        lengthAt (bs.take pos).reverse (bs.drop pos) (min maxMatch (bs.length - pos)) offset
          = min (min 18 (bs.length - pos)) (echo bs pos offset) :=
      lengthAt_eq_echo hpos (Nat.le_trans hoffset (Nat.min_le_left ..)) _
    cases hmatch : longestMatch (bs.take pos).reverse (bs.drop pos) with
    | none =>
        rw [hmatch] at hleads
        refine ⟨⟨fun hfound => by simp at hfound, ?_⟩, fun m hm => by cases hm⟩
        rintro ⟨offset, hone, hle, hthree⟩
        have hshort : _ < 3 := hleads offset hone hle
        rw [hworth offset hle] at hshort
        have := echo_le bs pos offset
        omega
    | some m =>
        rw [hmatch] at hleads
        have hfits := longestMatch_fits hmatch
        have hoffset : m.offset ≤ pos := by simpa [hpos] using hfits.offset_le
        have hwindow : m.offset ≤ min pos 4095 := Nat.le_min.2 ⟨hoffset, hfits.offset_le_window⟩
        have hahead : m.length ≤ bs.length - pos := by simpa using hfits.le_ahead
        have hmin : 3 ≤ m.length := hfits.min_le
        have hecho := hfits.le_echo hpos hoffset
        refine ⟨⟨fun _ => ⟨m.offset, hfits.offset_pos, hwindow, by omega⟩, fun _ => ⟨m, rfl⟩⟩, ?_⟩
        rintro _ ⟨⟩
        refine ⟨⟨hfits.offset_pos, hwindow⟩, ⟨hmin, Nat.le_min.2 ⟨hfits.le_max, hahead⟩⟩,
          fun k hk => hfits.getElem?_eq hpos hoffset hk, fun offset hone hle => ?_⟩
        obtain ⟨hbest, hnearest⟩ := hleads.2.2 offset hone hle
        rw [hworth offset hle] at hbest hnearest
        refine ⟨hbest, fun hnear => ?_⟩
        have hcap : m.length ≤ 18 := hfits.le_max
        have := hnearest hnear
        omega

/-- Two offsets are worth four bytes and the nearer one is taken; a match may run on into the bytes
that it stands for, and beyond the window nothing is found. -/
example : matchAt [1, 2, 3, 4, 9, 1, 2, 3, 4, 1, 2, 3, 4] 9 = some ⟨4, 4⟩ ∧
    matchAt [7, 7, 7, 7, 7] 1 = some ⟨1, 4⟩ ∧ matchAt [1, 2, 1, 2] 2 = none := by decide

end Telemetry.Compression.Dictionary
