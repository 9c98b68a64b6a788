import Std.Data.HashMap
import Telemetry.Bytes

/-!
# Regions of memory

A region has a size and starts out filled with zeros. Only bytes that were stored are kept, so a
region costs no more than what was stored in it, whatever its size. What a store does is said by
`get_set`; a stored byte string and a stored number are byte after byte.
-/

namespace Telemetry

/-- A region of bytes, zero where nothing was stored. -/
structure Memory where
  size : Nat
  cells : Std.HashMap Nat UInt8
  deriving Inhabited

namespace Memory

def zeroed (size : Nat) : Memory := ⟨size, ∅⟩

def get (m : Memory) (i : Nat) : UInt8 := m.cells.getD i 0

def set (m : Memory) (i : Nat) (b : UInt8) : Memory := { m with cells := m.cells.insert i b }

@[simp] theorem get_zeroed (size i : Nat) : (zeroed size).get i = 0 := by simp [get, zeroed]

/-- A store changes the byte it names and no other. -/
theorem get_set (m : Memory) (i j : Nat) (b : UInt8) :
    (m.set i b).get j = if i = j then b else m.get j := by
  simp [get, set, Std.HashMap.getD_insert]

@[simp] theorem size_set (m : Memory) (i : Nat) (b : UInt8) : (m.set i b).size = m.size := rfl

def store (m : Memory) (start : Nat) : Bytes → Memory
  | [] => m
  | b :: rest => (m.set start b).store (start + 1) rest

def load (m : Memory) (start width : Nat) : Bytes :=
  (List.range' start width).map m.get

@[simp] theorem length_load (m : Memory) (start width : Nat) :
    (m.load start width).length = width := by simp [load]

/-- Two memories that hold the same bytes in a stretch load it alike. -/
theorem load_congr {m m' : Memory} {start width : Nat}
    (h : ∀ j, start ≤ j → j < start + width → m.get j = m'.get j) :
    m.load start width = m'.load start width := by
  simp only [load, List.map_inj_left, List.mem_range'_1]
  exact fun j hj => h j hj.1 hj.2

@[simp] theorem size_store (m : Memory) (start : Nat) (bs : Bytes) :
    (m.store start bs).size = m.size := by
  induction bs generalizing m start with
  | nil => rfl
  | cons b rest ih => simp [store, ih]

/-- After a store, a position holds the stored byte if the store reached it, and what it held
before otherwise. -/
theorem get_store (m : Memory) (start : Nat) (bs : Bytes) (j : Nat) :
    (m.store start bs).get j =
      if start ≤ j ∧ j < start + bs.length then bs.getD (j - start) 0 else m.get j := by
  induction bs generalizing m start with
  | nil =>
    have h : ¬ (start ≤ j ∧ j < start + 0) := by omega
    simp only [store, List.length_nil, if_neg h]
  | cons b rest ih =>
    simp only [store, ih, get_set, List.length_cons]
    by_cases hj : start = j
    · have hin : ¬ (start + 1 ≤ j ∧ j < start + 1 + rest.length) := by omega
      have hout : start ≤ j ∧ j < start + (rest.length + 1) := by omega
      rw [if_neg hin, if_pos hj, if_pos hout]
      simp [hj]
    · by_cases hin : start + 1 ≤ j ∧ j < start + 1 + rest.length
      · have hout : start ≤ j ∧ j < start + (rest.length + 1) := by omega
        have hd : j - start = (j - (start + 1)) + 1 := by omega
        rw [if_pos hin, if_pos hout, hd]
        simp
      · have hout : ¬ (start ≤ j ∧ j < start + (rest.length + 1)) := by omega
        rw [if_neg hin, if_neg hj, if_neg hout]

@[simp] theorem load_store (m : Memory) (start : Nat) (bs : Bytes) :
    (m.store start bs).load start bs.length = bs := by
  apply List.ext_getElem (by simp)
  intro i hi _
  simp only [length_load] at hi
  simp [load, get_store, hi]

/-- A stretch that a store does not touch loads as before. -/
theorem load_store_of_disjoint (m : Memory) (start place width : Nat) (bs : Bytes)
    (h : place + width ≤ start ∨ start + bs.length ≤ place) :
    (m.store start bs).load place width = m.load place width := by
  apply load_congr
  intro j hle hlt
  have hout : ¬ (start ≤ j ∧ j < start + bs.length) := by omega
  rw [get_store, if_neg hout]

def loadNat (m : Memory) (start width : Nat) : Nat := Bytes.toNat (m.load start width)

def storeNat (m : Memory) (start width n : Nat) : Memory := m.store start (Bytes.ofNat width n)

/-- A number that was stored is loaded, modulo the width. -/
theorem loadNat_storeNat (m : Memory) (start width n : Nat) :
    (m.storeNat start width n).loadNat start width = n % Nat.pow 256 width := by
  have h := load_store m start (Bytes.ofNat width n)
  rw [Bytes.length_ofNat] at h
  rw [loadNat, storeNat, h, Bytes.toNat_ofNat]

theorem loadNat_storeNat_of_disjoint (m : Memory) (start width n place width' : Nat)
    (h : place + width' ≤ start ∨ start + width ≤ place) :
    (m.storeNat start width n).loadNat place width' = m.loadNat place width' := by
  rw [loadNat, storeNat, load_store_of_disjoint _ _ _ _ _ (by simpa using h), loadNat]

end Memory

end Telemetry
