import Telemetry.Ring.Reading
import Telemetry.Ring.Writing

/-!
# The circle as an endless tape

The copies into and out of the circle are made in two parts and wrap at the end. Seen from outside,
the circle is a tape on which positions count on without end, and position `p` lies at `p` modulo
the capacity. A copy in writes consecutive positions and leaves all other bytes alone
(`get_copyIn`, `get_copyIn_of_ne`), a copy out reads consecutive positions (`copyOut_eq_stretch`).
So what was written is read back (`stretch_copyIn`), and what lies less than a turn in front of a
write is not touched by it (`stretch_copyIn_before`). Of single copies this is all there is to say
(`copies_wrap_byte_by_byte`).
-/

namespace Telemetry.Ring

/-! ## Stretches of the tape -/

/-- The bytes on the tape from a position on. -/
def stretch (capacity : Nat) (m : Memory) (start width : Nat) : Bytes :=
  (List.range width).map fun k => m.get (controlSize + (start + k) % capacity)

@[simp] theorem length_stretch (capacity : Nat) (m : Memory) (start width : Nat) :
    (stretch capacity m start width).length = width := by simp [stretch]

theorem stretch_add (capacity : Nat) (m : Memory) (start width more : Nat) :
    stretch capacity m start (width + more)
      = stretch capacity m start width ++ stretch capacity m (start + width) more := by
  simp only [stretch, List.range_add, List.map_append, List.map_map, Function.comp_def,
    Nat.add_assoc]

/-- A whole turn further on, the tape repeats itself. -/
theorem stretch_mod (capacity : Nat) (m : Memory) (start width : Nat) :
    stretch capacity m (start % capacity) width = stretch capacity m start width := by
  simp only [stretch, Nat.mod_add_mod]

/-- Two memories that agree on the positions of a stretch agree on the stretch. -/
theorem stretch_congr {capacity : Nat} {m m' : Memory} {start width : Nat}
    (h : ∀ k < width, m.get (controlSize + (start + k) % capacity)
      = m'.get (controlSize + (start + k) % capacity)) :
    stretch capacity m start width = stretch capacity m' start width := by
  apply List.map_congr_left
  intro k hk
  exact h k (List.mem_range.1 hk)

/-- Memory that does not reach past the end of the circle lies on the tape as it is. -/
theorem load_eq_stretch {capacity : Nat} (m : Memory) {start width : Nat}
    (h : start + width ≤ capacity) :
    m.load (controlSize + start) width = stretch capacity m start width := by
  rw [Memory.load, stretch, List.range'_eq_map_range, List.map_map]
  apply List.map_congr_left
  intro k hk
  have hlt : start + k < capacity := by
    have := List.mem_range.1 hk
    omega
  show m.get (controlSize + start + k) = _
  rw [Nat.mod_eq_of_lt hlt, Nat.add_assoc]

/-! ## Copying out -/

theorem place_lt {capacity : Nat} (h : 0 < capacity) (cursor : UInt64) :
    place capacity cursor < capacity := Nat.mod_lt _ h

/-- A copy out is a stretch of the tape. -/
theorem copyOut_eq_stretch {capacity length : Nat} (h : length ≤ capacity) (m : Memory)
    (cursor : UInt64) : copyOut capacity m cursor length
      = stretch capacity m cursor.toNat length := by
  rcases Nat.eq_zero_or_pos capacity with hzero | hpos
  · have hlength : length = 0 := by omega
    subst hlength
    simp [copyOut, Memory.load, stretch]
  · have hplace := place_lt hpos cursor
    -- the position is taken modulo the capacity, where the copy starts
    rw [← stretch_mod]
    show _ = stretch capacity m (place capacity cursor) length
    unfold copyOut
    dsimp only
    generalize place capacity cursor = start at hplace
    by_cases hwrap : length ≤ capacity - start
    · have hload := load_eq_stretch m
        (show start + length ≤ capacity by omega)
      rw [Nat.min_eq_left hwrap, hload, Nat.sub_self]
      simp [Memory.load]
    · have hsplit : length = (capacity - start) + (length - (capacity - start)) := by omega
      have hturn : start + (capacity - start) = capacity := by omega
      have hfront := load_eq_stretch m
        (show start + (capacity - start) ≤ capacity by omega)
      have hrest := load_eq_stretch m
        (show 0 + (length - (capacity - start)) ≤ capacity by omega)
      rw [Nat.add_zero, ← Nat.mod_self capacity, stretch_mod] at hrest
      rw [Nat.min_eq_right (by omega), hfront, hrest]
      conv => rhs; rw [hsplit, stretch_add, hturn]

/-! ## Copying in -/

/-- Where a byte string lands that is copied in: its front up to the end of the circle, the rest at
the start. -/
theorem get_copyIn_eq (capacity : Nat) (m : Memory) (cursor : UInt64) (bs : Bytes) (j : Nat) :
    (copyIn capacity m cursor bs).get j =
      let start := place capacity cursor
      let front := bs.take (capacity - start)
      let rest := bs.drop (capacity - start)
      if controlSize ≤ j ∧ j < controlSize + rest.length then rest.getD (j - controlSize) 0
      else if controlSize + start ≤ j ∧ j < controlSize + start + front.length then
        front.getD (j - (controlSize + start)) 0
      else m.get j := by
  simp only [copyIn, List.splitAt_eq, Memory.get_store]

/-- Byte `k` of what is copied in lands `k` positions behind the cursor. -/
theorem get_copyIn {capacity : Nat} (m : Memory) (cursor : UInt64) {bs : Bytes} {k : Nat}
    (hk : k < bs.length) (hfits : bs.length ≤ capacity) :
    (copyIn capacity m cursor bs).get (controlSize + (cursor.toNat + k) % capacity)
      = bs.getD k 0 := by
  have hplace := place_lt (show 0 < capacity by omega) cursor
  rw [← Nat.mod_add_mod]
  show (copyIn capacity m cursor bs).get (controlSize + (place capacity cursor + k) % capacity) = _
  rw [get_copyIn_eq]
  dsimp only
  generalize place capacity cursor = start at hplace
  simp only [List.length_take, List.length_drop]
  by_cases hwrap : k < capacity - start
  · -- in front of the end of the circle, where the rest does not reach
    have hmod : (start + k) % capacity = start + k := Nat.mod_eq_of_lt (by omega)
    rw [hmod, if_neg (by omega), if_pos (by omega)]
    have hindex : controlSize + (start + k) - (controlSize + start) = k := by omega
    rw [hindex, List.getD_eq_getElem?_getD, List.getElem?_take_of_lt hwrap,
      List.getD_eq_getElem?_getD]
  · have hmod : (start + k) % capacity = start + k - capacity := by
      rw [Nat.mod_eq_sub_mod (by omega), Nat.mod_eq_of_lt (by omega)]
    have hindex : capacity - start + (controlSize + (start + k - capacity) - controlSize) = k := by
      omega
    rw [hmod, if_pos (by omega), List.getD_eq_getElem?_getD, List.getElem?_drop, hindex,
      List.getD_eq_getElem?_getD]

/-- All other bytes stay. -/
theorem get_copyIn_of_ne {capacity : Nat} (hpos : 0 < capacity) (m : Memory) (cursor : UInt64)
    {bs : Bytes} {j : Nat} (hfits : bs.length ≤ capacity)
    (h : ∀ k < bs.length, j ≠ controlSize + (cursor.toNat + k) % capacity) :
    (copyIn capacity m cursor bs).get j = m.get j := by
  have hplace := place_lt hpos cursor
  have hplaces : ∀ k < bs.length, j ≠ controlSize + (place capacity cursor + k) % capacity := by
    intro k hk
    rw [place, Nat.mod_add_mod]
    exact h k hk
  rw [get_copyIn_eq]
  dsimp only
  generalize place capacity cursor = start at hplace hplaces
  simp only [List.length_take, List.length_drop]
  rw [if_neg, if_neg]
  · rintro ⟨hle, hlt⟩
    have hne := hplaces (j - (controlSize + start)) (by omega)
    rw [Nat.mod_eq_of_lt (by omega)] at hne
    omega
  · rintro ⟨hle, hlt⟩
    have hne := hplaces (capacity - start + (j - controlSize)) (by omega)
    have hsum : start + (capacity - start + (j - controlSize)) = j - controlSize + capacity := by
      omega
    rw [hsum, Nat.add_mod_right, Nat.mod_eq_of_lt (by omega)] at hne
    omega

/-- A copy in touches neither what lies in front of the circle nor what lies behind it. -/
theorem get_copyIn_of_lt {capacity : Nat} (hpos : 0 < capacity) (m : Memory) (cursor : UInt64)
    {bs : Bytes} {j : Nat} (hfits : bs.length ≤ capacity) (hj : j < controlSize) :
    (copyIn capacity m cursor bs).get j = m.get j := by
  refine get_copyIn_of_ne hpos m cursor hfits ?_
  intro k _
  omega

/-- What was copied in is read back, from whichever position the cursor stands for. -/
theorem stretch_copyIn {capacity : Nat} (m : Memory) {cursor : UInt64} {bs : Bytes} {position : Nat}
    (hcursor : cursor.toNat % capacity = position % capacity) (hfits : bs.length ≤ capacity) :
    stretch capacity (copyIn capacity m cursor bs) position bs.length = bs := by
  rw [← stretch_mod, ← hcursor, stretch_mod]
  apply List.ext_getElem (by simp)
  intro k _ hk
  simp only [stretch, List.getElem_map, List.getElem_range, get_copyIn m cursor hk hfits,
    List.getD_eq_getElem?_getD, List.getElem?_eq_getElem hk, Option.getD_some]

/-- Two positions less than a turn apart lie at different places. -/
theorem mod_ne_of_lt {capacity p q : Nat} (hlt : p < q) (hturn : q < p + capacity) :
    p % capacity ≠ q % capacity := by
  intro h
  have hdvd : capacity ∣ q - p :=
    Nat.dvd_of_mod_eq_zero (Nat.sub_mod_eq_zero_of_mod_eq h.symm)
  have hle := Nat.le_of_dvd (by omega) hdvd
  omega

/-- A byte in front of a copy in, less than a turn in front of its end, is not touched by it. -/
theorem get_copyIn_before {capacity : Nat} (hpos : 0 < capacity) (m : Memory) {cursor : UInt64}
    {bs : Bytes} {p position : Nat} (hcursor : cursor.toNat % capacity = position % capacity)
    (hbefore : p < position) (hturn : position + bs.length ≤ p + capacity) :
    (copyIn capacity m cursor bs).get (controlSize + p % capacity)
      = m.get (controlSize + p % capacity) := by
  refine get_copyIn_of_ne hpos m cursor (by omega) ?_
  -- if the copy touched it, it would lie at two positions less than a turn apart
  intro i hi heq
  rw [← Nat.mod_add_mod cursor.toNat, hcursor, Nat.mod_add_mod] at heq
  have hne := mod_ne_of_lt (show p < position + i by omega)
    (show position + i < p + capacity by omega)
  omega

/-- What ends where a copy in begins, or before, and begins less than a turn before the copy ends,
is not touched by it. -/
theorem stretch_copyIn_before {capacity : Nat} (hpos : 0 < capacity) (m : Memory)
    {cursor : UInt64} {bs : Bytes} {start width position : Nat}
    (hcursor : cursor.toNat % capacity = position % capacity) (hbefore : start + width ≤ position)
    (hturn : position + bs.length ≤ start + capacity) :
    stretch capacity (copyIn capacity m cursor bs) start width
      = stretch capacity m start width := by
  apply stretch_congr
  intro k hk
  exact get_copyIn_before hpos m hcursor (by omega) (by omega)

/-! ## A copy in, seen by copies out -/

@[simp] theorem size_copyIn (capacity : Nat) (m : Memory) (cursor : UInt64) (bs : Bytes) :
    (copyIn capacity m cursor bs).size = m.size := by simp [copyIn]

/-- A copy out from where a copy in was made gives what was copied in. -/
theorem copyOut_copyIn {capacity : Nat} (m : Memory) (cursor : UInt64) {bs : Bytes}
    (hfits : bs.length ≤ capacity) :
    copyOut capacity (copyIn capacity m cursor bs) cursor bs.length = bs := by
  rw [copyOut_eq_stretch hfits, stretch_copyIn m rfl hfits]

/-- A copy out from places that a copy in leaves alone gives what it gave before. -/
theorem copyOut_copyIn_of_apart {capacity : Nat} (hpos : 0 < capacity) (m : Memory)
    {cursor other : UInt64} {bs : Bytes} {length : Nat} (hfits : bs.length ≤ capacity)
    (hlength : length ≤ capacity) (hapart : ∀ i < bs.length, ∀ k < length,
      (cursor.toNat + i) % capacity ≠ (other.toNat + k) % capacity) :
    copyOut capacity (copyIn capacity m cursor bs) other length
      = copyOut capacity m other length := by
  rw [copyOut_eq_stretch hlength, copyOut_eq_stretch hlength]
  apply stretch_congr
  intro k hk
  refine get_copyIn_of_ne hpos m cursor hfits ?_
  intro i hi heq
  exact hapart i hi k hk (Nat.add_left_cancel heq).symm

/-- **Copies wrap byte by byte.** A copy out gives byte `k` from `k` positions behind its cursor,
and a copy in lays byte `k` down `k` positions behind its own, modulo the capacity, and changes no
other byte. So a copy out gives what was copied in at its cursor, and what it gave before if the two
have no place in common. -/
theorem copies_wrap_byte_by_byte {capacity : Nat} (hpos : 0 < capacity) (m : Memory)
    (cursor : UInt64) :
    (∀ length ≤ capacity, copyOut capacity m cursor length
      = (List.range length).map fun k => m.get (controlSize + (cursor.toNat + k) % capacity)) ∧
    ∀ bs : Bytes, bs.length ≤ capacity →
      let after := copyIn capacity m cursor bs
      after.size = m.size ∧
      (∀ (k : Nat) (hk : k < bs.length),
        after.get (controlSize + (cursor.toNat + k) % capacity) = bs[k]) ∧
      (∀ j, (∀ k < bs.length, j ≠ controlSize + (cursor.toNat + k) % capacity) →
        after.get j = m.get j) ∧
      copyOut capacity after cursor bs.length = bs ∧
      ∀ (other : UInt64) (length : Nat), length ≤ capacity →
        (∀ i < bs.length, ∀ k < length,
          (cursor.toNat + i) % capacity ≠ (other.toNat + k) % capacity) →
        copyOut capacity after other length = copyOut capacity m other length := by
  constructor
  · intro length hlength
    exact copyOut_eq_stretch hlength m cursor
  · intro bs hfits after
    refine ⟨size_copyIn capacity m cursor bs, ?_, ?_, copyOut_copyIn m cursor hfits, ?_⟩
    · intro k hk
      have hget := get_copyIn m cursor hk hfits
      simpa [hk] using hget
    · intro j hj
      exact get_copyIn_of_ne hpos m cursor hfits hj
    · intro other length hlength hapart
      exact copyOut_copyIn_of_apart hpos m hfits hlength hapart

/-- Five bytes go into a circle of eight, two in front of its end and three at its start, and the
three places that are left keep what they hold. -/
theorem five_bytes_wrap_in_eight :
    let m := Memory.zeroed (controlSize + 8)
    let cursor : UInt64 := 18446744073709551614
    let bs : Bytes := [1, 2, 3, 4, 5]
    let after := copyIn 8 m cursor bs
    0 < 8 ∧ bs.length ≤ 8 ∧ after.get (controlSize + 7) = 2 ∧ after.get (controlSize + 2) = 5 ∧
      after.get (controlSize + 3) = 0 ∧ copyOut 8 after cursor 5 = bs ∧
      copyOut 8 after 3 3 = [0, 0, 0] := by
  intro m cursor bs after
  have hpos : 0 < 8 := by decide
  have hfits : bs.length ≤ 8 := by decide
  obtain ⟨_, hin⟩ := copies_wrap_byte_by_byte hpos m cursor
  obtain ⟨_, hget, hother, hback, hapart⟩ := hin bs hfits
  have hfront : after.get (controlSize + (cursor.toNat + 1) % 8) = 2 := hget 1 (by decide)
  have hend : after.get (controlSize + (cursor.toNat + 4) % 8) = 5 := hget 4 (by decide)
  rw [show (cursor.toNat + 1) % 8 = 7 by decide] at hfront
  rw [show (cursor.toNat + 4) % 8 = 2 by decide] at hend
  have hkept : after.get (controlSize + 3) = 0 := by
    rw [hother (controlSize + 3) (by decide)]
    exact Memory.get_zeroed _ _
  have hrest : copyOut 8 after 3 3 = [0, 0, 0] := by
    rw [hapart 3 3 (by decide) (by decide), (copies_wrap_byte_by_byte hpos m 3).1 3 (by decide)]
    simp [m, List.range_succ]
  exact ⟨hpos, hfits, hfront, hend, hkept, hback, hrest⟩

end Telemetry.Ring
