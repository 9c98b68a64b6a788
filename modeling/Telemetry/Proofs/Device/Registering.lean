import Mathlib.Data.List.Induction
import Std.Data.HashMap.Lemmas
import Telemetry.Registry

/-!
# Registering variables

A registry keeps its variables twice: in a list by index, and as indices by name. Registering stores
in both, one after the other (`Registry.enroll`); all that is checked is checked before, so a call
that fails has stored nothing (`call_eq_register`). When a call succeeds and what it stores is said
by `call_cases`, and that it keeps the two in step by `Sound.store`. So after any calls, whichever
of them fail, the registry holds what the successful ones registered, in their order
(`registry_is_consistent`).

## How the proof goes

`Registry.enroll` is written in place, since a failure between the two stores would show there and
nowhere else; `call_eq_register` is the only lemma that looks into it. After that a call either
stores or leaves the registry as it was (`call_cases`), and there is one lemma for what a store does
to each view of a registry: its list, its size, an index, a name. `Sound` is the invariant. Its
clause on names is an equivalence, so that a name which leads nowhere is the name of no variable
(`Sound.lookup?_eq_none_iff`): the check for duplicates asks the one, what is said of names is about
the other.
-/

namespace Telemetry

/-! ## What can be registered -/

/-- The size that a variable is registered with: the one that its type fixes, else the one given. -/
def VariableSpec.valueSize (s : VariableSpec) : Nat :=
  s.dataType.fixedSize?.getD (s.size.elim 0 UInt64.toNat)

/-- What is asked of a variable that is to be registered, whatever else is registered. -/
structure VariableSpec.Admissible (s : VariableSpec) : Prop where
  name_pos : 1 ≤ s.name.utf8ByteSize
  name_le : s.name.utf8ByteSize ≤ 65535
  /-- A size that is given agrees with the one that the type fixes. -/
  agrees : ∀ fixed given, s.dataType.fixedSize? = some fixed → s.size = some given →
    given.toNat = fixed
  /-- A size is given where the type does not fix one. -/
  size_pos : 0 < s.valueSize

/-- What is true of a variable that is registered. -/
structure RegisteredVariable.Fits (v : RegisteredVariable) : Prop where
  name_pos : 1 ≤ v.name.utf8ByteSize
  name_le : v.name.utf8ByteSize ≤ 65535
  size_pos : 0 < v.size
  fixed : ∀ size, v.dataType.fixedSize? = some size → v.size = size

theorem DataType.fixedSize?_pos {t : DataType} {size : Nat} (h : t.fixedSize? = some size) :
    0 < size := by
  cases t <;> simp [fixedSize?] at h <;> omega

namespace Registry

theorem name_refused_iff {name : String} :
    (name.isEmpty || decide (UInt16.size ≤ name.utf8ByteSize)) = true ↔
      ¬(1 ≤ name.utf8ByteSize ∧ name.utf8ByteSize ≤ 65535) := by
  have hempty : name.isEmpty = true ↔ name.utf8ByteSize = 0 := by simp
  rw [Bool.or_eq_true, hempty, decide_eq_true_iff, UInt16.size]
  omega

/-- A size is settled exactly where it is admissible. -/
theorem checkSize_eq_ok_iff {name : String} {dataType : DataType} {given : Option UInt64}
    {size : Nat} : checkSize name dataType given = .ok size ↔
      (∀ fixed n, dataType.fixedSize? = some fixed → given = some n → n.toNat = fixed) ∧
        0 < dataType.fixedSize?.getD (given.elim 0 UInt64.toNat) ∧
        size = dataType.fixedSize?.getD (given.elim 0 UInt64.toNat) := by
  unfold checkSize
  cases hfixed : dataType.fixedSize? with
  | none =>
      cases given with
      | none => simp
      | some n => by_cases hpos : 0 < n.toNat <;> simp [hpos, eq_comm]
  | some fixed =>
      have hpos := DataType.fixedSize?_pos hfixed
      cases given with
      | none => simp [hpos, eq_comm]
      | some n =>
          by_cases heq : fixed = n.toNat
          · simp [heq, eq_comm]
            omega
          · simp [heq, eq_comm]

/-! ## One call -/

/-- Registers a variable in place: what is asked of it is checked, then it is stored, and then its
name is. What was stored before something fails would stay. -/
def enroll (spec : VariableSpec) : StateM Registry (Except BridgeError Nat) := do
  if spec.name.isEmpty || decide (UInt16.size ≤ spec.name.utf8ByteSize) then
    return .error (.invalidVariable spec.name "name must be 1 to 65535 bytes")
  if ((← get).lookup? spec.name).isSome then return .error (.duplicateVariable spec.name)
  match checkSize spec.name spec.dataType spec.size with
  | .error e => return .error e
  | .ok size =>
    let index := (← get).size
    modify fun r => { r with entries := r.entries.push ⟨index, spec.name, spec.dataType, size⟩ }
    modify fun r => { r with indices := r.indices.insert spec.name index }
    return .ok index

/-- What a call replies, and the registry that it leaves. -/
def call (r : Registry) (spec : VariableSpec) : Except BridgeError Nat × Registry :=
  (enroll spec).run r

/-- Registering in place comes to the same as registering: a call that fails has stored nothing. -/
theorem call_eq_register (r : Registry) (spec : VariableSpec) : r.call spec =
    match r.register spec with
    | .ok (index, after) => (.ok index, after)
    | .error e => (.error e, r) := by
  unfold call enroll register
  by_cases hname : (spec.name.isEmpty || decide (UInt16.size ≤ spec.name.utf8ByteSize)) = true
  · simp only [hname, if_true]
    rfl
  · by_cases hdup : (r.lookup? spec.name).isSome = true
    · simp only [hname, hdup, Bool.false_eq_true, if_false, StateT.run_bind, StateT.run_get,
        pure_bind]
      rfl
    · simp only [hname, hdup, Bool.false_eq_true, if_false, StateT.run_bind, StateT.run_get,
        pure_bind]
      cases checkSize spec.name spec.dataType spec.size with
      | error e => rfl
      | ok size => rfl

/-- A variable as it is registered behind those that are. -/
def next (r : Registry) (spec : VariableSpec) : RegisteredVariable :=
  ⟨r.size, spec.name, spec.dataType, spec.valueSize⟩

/-- The registry with a variable stored in both places. -/
def store (r : Registry) (spec : VariableSpec) : Registry where
  entries := r.entries.push (r.next spec)
  indices := r.indices.insert spec.name r.size

/-- Registering succeeds exactly where the variable is admissible and its name is new; then it gets
the next index and is stored in both places. -/
theorem register_cases (r : Registry) (spec : VariableSpec) :
    (spec.Admissible ∧ r.lookup? spec.name = none ∧
      r.register spec = .ok (r.size, r.store spec)) ∨
    (¬(spec.Admissible ∧ r.lookup? spec.name = none) ∧ ∃ e, r.register spec = .error e) := by
  unfold register
  by_cases hname : (spec.name.isEmpty || decide (UInt16.size ≤ spec.name.utf8ByteSize)) = true
  · right
    simp only [hname, if_true]
    refine ⟨?_, _, rfl⟩
    rintro ⟨⟨hpos, hle, -, -⟩, -⟩
    exact name_refused_iff.1 hname ⟨hpos, hle⟩
  · simp only [hname, Bool.false_eq_true, if_false]
    by_cases hdup : (r.lookup? spec.name).isSome = true
    · right
      simp only [hdup, if_true]
      refine ⟨?_, _, rfl⟩
      rintro ⟨-, hnew⟩
      simp [hnew] at hdup
    · simp only [hdup, Bool.false_eq_true, if_false]
      cases hsize : checkSize spec.name spec.dataType spec.size with
      | error e =>
          right
          refine ⟨?_, _, rfl⟩
          rintro ⟨⟨-, -, hagrees, hpos⟩, -⟩
          have hok : checkSize spec.name spec.dataType spec.size = .ok spec.valueSize :=
            checkSize_eq_ok_iff.2 ⟨hagrees, hpos, rfl⟩
          rw [hsize] at hok
          cases hok
      | ok size =>
          left
          obtain ⟨hagrees, hpos, rfl⟩ := checkSize_eq_ok_iff.1 hsize
          obtain ⟨hname_pos, hname_le⟩ := not_not.1 (mt name_refused_iff.2 hname)
          refine ⟨⟨hname_pos, hname_le, hagrees, hpos⟩, ?_, rfl⟩
          simpa using hdup

/-- A call registers a variable, or it fails and leaves all as it was. -/
theorem call_cases (r : Registry) (spec : VariableSpec) :
    (spec.Admissible ∧ r.lookup? spec.name = none ∧ r.call spec = (.ok r.size, r.store spec)) ∨
    (¬(spec.Admissible ∧ r.lookup? spec.name = none) ∧ ∃ e, r.call spec = (.error e, r)) := by
  rw [call_eq_register]
  rcases r.register_cases spec with ⟨hadmissible, hnew, h⟩ | ⟨hnot, e, h⟩
  · rw [h]
    exact .inl ⟨hadmissible, hnew, rfl⟩
  · rw [h]
    exact .inr ⟨hnot, e, rfl⟩

theorem call_of_admissible {r : Registry} {spec : VariableSpec} (hadmissible : spec.Admissible)
    (hnew : r.lookup? spec.name = none) : r.call spec = (.ok r.size, r.store spec) := by
  rcases r.call_cases spec with ⟨-, -, hcall⟩ | ⟨hnot, -⟩
  · exact hcall
  · exact absurd ⟨hadmissible, hnew⟩ hnot

/-! ## What is kept -/

@[simp] theorem toList_store (r : Registry) (spec : VariableSpec) :
    (r.store spec).toList = r.toList ++ [r.next spec] := Array.toList_push

@[simp] theorem size_store (r : Registry) (spec : VariableSpec) :
    (r.store spec).size = r.size + 1 := Array.size_push _

theorem get?_store (r : Registry) (spec : VariableSpec) (index : Nat) :
    (r.store spec).get? index = if index = r.size then some (r.next spec) else r.get? index :=
  Array.getElem?_push

theorem lookup?_store (r : Registry) (spec : VariableSpec) (name : String) :
    (r.store spec).lookup? name = if spec.name = name then some r.size else r.lookup? name := by
  simp [lookup?, store, Std.HashMap.getElem?_insert]

theorem lt_size_of_get? {r : Registry} {index : Nat} {v : RegisteredVariable}
    (h : r.get? index = some v) : index < r.size := (Array.getElem?_eq_some_iff.1 h).1

theorem mem_toList_iff {r : Registry} {v : RegisteredVariable} :
    v ∈ r.toList ↔ ∃ index, r.get? index = some v := by
  rw [toList, Array.mem_toList_iff, Array.mem_iff_getElem?]
  rfl

/-- The variables and their names are in step. -/
structure Sound (r : Registry) : Prop where
  /-- Each variable knows its place. -/
  indexed : r.toList.map RegisteredVariable.index = List.range r.size
  names_nodup : (r.toList.map RegisteredVariable.name).Nodup
  fits : ∀ v ∈ r.toList, v.Fits
  /-- A name leads to the variable of that name. -/
  lookup?_iff : ∀ name index, r.lookup? name = some index ↔
    ∃ v, r.get? index = some v ∧ v.name = name

theorem sound_empty : empty.Sound where
  indexed := rfl
  names_nodup := List.nodup_nil
  fits := by simp [toList, empty]
  lookup?_iff := by simp [lookup?, get?, empty]

/-- A name that leads nowhere is the name of no variable. -/
theorem Sound.lookup?_eq_none_iff {r : Registry} (h : r.Sound) {name : String} :
    r.lookup? name = none ↔ ∀ v ∈ r.toList, v.name ≠ name := by
  rw [Option.eq_none_iff_forall_ne_some]
  constructor
  · intro hnone v hv hname
    obtain ⟨index, hget⟩ := mem_toList_iff.1 hv
    exact hnone index ((h.lookup?_iff name index).2 ⟨v, hget, hname⟩)
  · intro hnew index hsome
    obtain ⟨v, hget, hname⟩ := (h.lookup?_iff name index).1 hsome
    exact hnew v (mem_toList_iff.2 ⟨index, hget⟩) hname

theorem fits_next {r : Registry} {spec : VariableSpec} (h : spec.Admissible) :
    (r.next spec).Fits where
  name_pos := h.name_pos
  name_le := h.name_le
  size_pos := h.size_pos
  fixed := by
    intro size hfixed
    have hfixed : spec.dataType.fixedSize? = some size := hfixed
    simp [next, VariableSpec.valueSize, hfixed]

theorem Sound.store {r : Registry} {spec : VariableSpec} (h : r.Sound)
    (hadmissible : spec.Admissible) (hnew : r.lookup? spec.name = none) :
    (r.store spec).Sound where
  indexed := by
    rw [toList_store, size_store, List.map_append, h.indexed, List.range_succ]
    rfl
  names_nodup := by
    rw [toList_store, List.map_append, List.nodup_append]
    refine ⟨h.names_nodup, by simp, ?_⟩
    intro name hname other hother
    obtain ⟨v, hv, rfl⟩ := List.mem_map.1 hname
    obtain rfl : other = spec.name := by simpa [next] using hother
    exact h.lookup?_eq_none_iff.1 hnew v hv
  fits := by
    rw [toList_store]
    intro v hv
    rcases List.mem_append.1 hv with hold | hlast
    · exact h.fits v hold
    · obtain rfl := List.mem_singleton.1 hlast
      exact fits_next hadmissible
  lookup?_iff := by
    intro name index
    -- the new name and the new index are split off on both sides
    rw [lookup?_store, get?_store]
    by_cases hname : spec.name = name
    · subst hname
      by_cases hindex : index = r.size
      · simp [hindex, next]
      · have hother := h.lookup?_iff spec.name index
        rw [hnew] at hother
        simpa [hindex, Ne.symm hindex] using hother
    · by_cases hindex : index = r.size
      · have hbeyond : r.lookup? name ≠ some r.size := by
          intro hsome
          obtain ⟨v, hget, -⟩ := (h.lookup?_iff name r.size).1 hsome
          exact absurd (lt_size_of_get? hget) (Nat.lt_irrefl _)
        simp [hname, hindex, hbeyond, next]
      · simp [hname, hindex, h.lookup?_iff]

/-! ## Runs -/

/-- A call, and what it replied. -/
structure Call where
  spec : VariableSpec
  reply : Except BridgeError Nat

/-- The variable that a call registered, if it did. -/
def Call.registered? (c : Call) : Option RegisteredVariable :=
  c.reply.toOption.map fun index => ⟨index, c.spec.name, c.spec.dataType, c.spec.valueSize⟩

/-- The calls of a run. -/
def calls (r : Registry) : List VariableSpec → List Call
  | [] => []
  | spec :: specs => ⟨spec, (r.call spec).1⟩ :: (r.call spec).2.calls specs

/-- The registry after a call for each variable. -/
def through (r : Registry) (specs : List VariableSpec) : Registry :=
  specs.foldl (fun r spec => (r.call spec).2) r

theorem through_cons (r : Registry) (spec : VariableSpec) (specs : List VariableSpec) :
    r.through (spec :: specs) = (r.call spec).2.through specs := rfl

theorem Sound.call {r : Registry} (h : r.Sound) (spec : VariableSpec) : (r.call spec).2.Sound := by
  rcases r.call_cases spec with ⟨hadmissible, hnew, hcall⟩ | ⟨-, e, hcall⟩
  · rw [hcall]
    exact h.store hadmissible hnew
  · rw [hcall]
    exact h

theorem Sound.through {r : Registry} (h : r.Sound) (specs : List VariableSpec) :
    (r.through specs).Sound := by
  induction specs generalizing r with
  | nil => exact h
  | cons spec specs ih => exact ih (h.call spec)

/-- A call adds at the end what it registered. -/
theorem toList_call (r : Registry) (spec : VariableSpec) :
    (r.call spec).2.toList = r.toList ++ (Call.registered? ⟨spec, (r.call spec).1⟩).toList := by
  rcases r.call_cases spec with ⟨-, -, hcall⟩ | ⟨-, e, hcall⟩
  · rw [hcall, toList_store]
    rfl
  · rw [hcall]
    exact (List.append_nil _).symm

theorem toList_through (r : Registry) (specs : List VariableSpec) :
    (r.through specs).toList = r.toList ++ (r.calls specs).filterMap Call.registered? := by
  induction specs generalizing r with
  | nil => exact (List.append_nil _).symm
  | cons spec specs ih =>
      rw [through_cons, ih, toList_call, calls, List.append_assoc]
      cases h : Call.registered? ⟨spec, (r.call spec).1⟩ with
      | none => simp [h]
      | some v => simp [h]

/-! ## Consistency -/

/-- **A registry is consistent.** After any calls it holds what the successful ones registered, in
their order, under the indices 0, 1, 2 and so on; the names are different and of 1 to 65535 bytes,
and the sizes are positive and those that the types fix; a name leads to an index exactly if the
variable there has that name. The next call succeeds exactly if its variable is admissible and of a
new name, and the registry stays as it was exactly if it fails. -/
theorem registry_is_consistent (specs : List VariableSpec) :
    let r := empty.through specs
    r.toList = (empty.calls specs).filterMap Call.registered? ∧
    r.toList.map RegisteredVariable.index = List.range r.size ∧
    (r.toList.map RegisteredVariable.name).Nodup ∧
    (∀ v ∈ r.toList, v.Fits) ∧
    (∀ name index, r.lookup? name = some index ↔ ∃ v, r.get? index = some v ∧ v.name = name) ∧
    (∀ spec, (∃ index, (r.call spec).1 = .ok index) ↔
      spec.Admissible ∧ ∀ v ∈ r.toList, v.name ≠ spec.name) ∧
    (∀ spec, (∃ error, (r.call spec).1 = .error error) ↔ (r.call spec).2 = r) := by
  intro r
  have hsound : r.Sound := sound_empty.through specs
  refine ⟨toList_through empty specs, hsound.indexed, hsound.names_nodup, hsound.fits,
    hsound.lookup?_iff, ?_, ?_⟩
  · intro spec
    rw [← hsound.lookup?_eq_none_iff]
    rcases r.call_cases spec with ⟨hadmissible, hnew, hcall⟩ | ⟨hnot, e, hcall⟩
    · simp [hcall, hadmissible, hnew]
    · simp [hcall, hnot]
  · intro spec
    rcases r.call_cases spec with ⟨-, -, hcall⟩ | ⟨-, e, hcall⟩
    · have hgrown : r.store spec ≠ r := by
        intro hsame
        have hsize := r.size_store spec
        rw [hsame] at hsize
        omega
      simp [hcall, hgrown]
    · simp [hcall]

end Registry

end Telemetry
