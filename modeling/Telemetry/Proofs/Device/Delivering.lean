import Mathlib.Data.List.Forall2
import Telemetry.Proofs.Device.Registering
import Telemetry.Simulation

/-!
# What a simulated device delivers

A device that is polled again and again delivers once in so many polls, and then the whole registry
(`delivery_eq`). Its values are as long as the registry says, since what a registry holds fits
(`length_value`), and a value that is no real is never that of the delivery before
(`value_ne_succ`): counting up by one changes the lowest byte, also where the number wraps around,
and the first letter of a text moves on.
-/

namespace Telemetry

/-- The low bytes of a number and of the next one differ, also where the number wraps around. -/
theorem Bytes.ofNat_ne_succ (width n : Nat) : ofNat (width + 1) n ≠ ofNat (width + 1) (n + 1) := by
  intro h
  simp only [ofNat, List.cons.injEq, ← UInt8.toNat_inj, UInt8.toNat_ofNat'] at h
  omega

namespace SimulatedDevice

/-! ## Values -/

/-- Letters next to each other in the alphabet differ, as do its last and its first. -/
theorem letter_ne_succ (n : Nat) : letter n ≠ letter (n + 1) := by
  intro h
  have ha : 'a'.toNat = 97 := rfl
  simp only [letter, ha, ← UInt8.toNat_inj, UInt8.toNat_ofNat'] at h
  omega

/-- Values are as long as the registry says. -/
theorem length_value {v : RegisteredVariable} (h : v.Fits) (delivery : Nat) :
    (value v.dataType v.size delivery).length = v.size := by
  have hfixed := h.fixed
  cases htype : v.dataType with
  | text => simp [value]
  | custom => simp [value]
  | _ =>
      rw [htype] at hfixed
      simp [value, hfixed _ rfl]

/-- From one delivery to the next a value changes, unless it is a real. -/
theorem value_ne_succ {dataType : DataType} {size : Nat} (hpos : 0 < size)
    (hreal32 : dataType ≠ .real32) (hreal64 : dataType ≠ .real64) (delivery : Nat) :
    value dataType size delivery ≠ value dataType size (delivery + 1) := by
  cases dataType with
  | bool =>
      intro h
      simp [value, Bytes.ofNat, ← UInt8.toNat_inj] at h
      omega
  | real32 => exact absurd rfl hreal32
  | real64 => exact absurd rfl hreal64
  | text | custom =>
      intro h
      have hfirst := congrArg (fun bytes => bytes[0]?) h
      simp [value, hpos] at hfirst
      exact letter_ne_succ delivery hfirst
  | _ => exact Bytes.ofNat_ne_succ _ delivery

/-! ## Polls -/

/-- The device after so many polls. They are numbered from one, and the clock tells when each is. -/
def polled (d : SimulatedDevice) (clock : Nat → Nat) : Nat → SimulatedDevice
  | 0 => d
  | c + 1 => ((d.polled clock c).poll (clock (c + 1))).2.2

/-- What a poll delivers, and how many samples it reports. -/
def delivery (d : SimulatedDevice) (clock : Nat → Nat) (c : Nat) : List Sample × Nat :=
  let (samples, delivered, _) := (d.polled clock (c - 1)).poll (clock c)
  (samples, delivered)

/-- The loop over the registry delivers each variable and counts it. -/
theorem deliver_eq (delivery now : Nat) (vs : List RegisteredVariable) :
    deliver delivery now vs
      = ((vs.map (sample delivery now)).toArray, vs.length) := by
  -- what was delivered and counted before stays in front
  have hloop : ∀ (samples : Array Sample) (delivered : Nat),
      vs.foldl (deliverNext delivery now) (samples, delivered)
        = (samples ++ (vs.map (sample delivery now)).toArray, delivered + vs.length) := by
    induction vs with
    | nil => simp
    | cons v vs ih =>
        intro samples delivered
        rw [List.foldl_cons, deliverNext, ih, List.length_cons, Nat.add_assoc, Nat.add_comm 1]
        simp
  rw [deliver, hloop]
  simp

theorem poll_eq (d : SimulatedDevice) (now : Nat) : d.poll now =
    let d := { d with cycle := d.cycle + 1 }
    if d.delivers then
      (d.registry.toList.map (sample (d.cycle / d.every) now), d.registry.toList.length, d)
    else ([], 0, d) := by
  rw [poll]
  dsimp only
  rw [deliver_eq]

theorem polled_eq (d : SimulatedDevice) (clock : Nat → Nat) (c : Nat) :
    d.polled clock c = { d with cycle := d.cycle + c } := by
  induction c with
  | zero => rfl
  | succ c ih =>
      rw [polled, ih, poll_eq]
      dsimp only
      split <;> rfl

/-- A device delivers its registry once in so many polls, and nothing otherwise. -/
theorem delivery_eq (name : String) (r : Registry) (every : Nat) (clock : Nat → Nat) {c : Nat}
    (hc : 0 < c) : (new name r every).delivery clock c =
      if max every 1 ∣ c then (r.toList.map (sample (c / max every 1) (clock c)), r.size)
      else ([], 0) := by
  have hcount : 0 + (c - 1) + 1 = c := by omega
  rw [delivery, polled_eq, poll_eq]
  simp only [delivers, new, hcount, beq_iff_eq, Nat.max_comm 1 every, Nat.dvd_iff_mod_eq_zero]
  split <;> rfl

/-! ## Faithfulness -/

/-- A sample is one of a variable: with its index, name and type, and a value of its size. -/
structure Presents (v : RegisteredVariable) (s : Sample) : Prop where
  index : s.index = v.index
  name : s.name = v.name
  dataType : s.dataType = v.dataType
  length : s.value.length = v.size

theorem presents_sample {v : RegisteredVariable} (h : v.Fits) (delivery now : Nat) :
    Presents v (sample delivery now v) :=
  ⟨rfl, rfl, rfl, length_value h delivery⟩

/-- The delivery that follows one comes `m` polls later. -/
theorem eq_add_of_consecutive {m c c' : Nat} (hlt : c < c') (hc : m ∣ c) (hc' : m ∣ c')
    (hnone : ∀ b, c < b → b < c' → ¬ m ∣ b) (hm : 0 < m) : c' = c + m := by
  have hle : m ≤ c' - c := Nat.le_of_dvd (by omega) (Nat.dvd_sub hc' hc)
  by_contra hne
  exact hnone (c + m) (by omega) (by omega) (Nat.dvd_add hc (Nat.dvd_refl m))

/-- **A device is faithful to its registry.** Whatever was registered, and however many polls make a
delivery: a poll delivers if its number is a multiple of that, and otherwise nothing, and reports
none; a delivery has each variable once, in the order of registration, with its index, name and type
and with a value of its size, and as many are reported; and from one delivery to the next every
value changes that is no real. -/
theorem device_is_faithful (specs : List VariableSpec) (name : String) (every : UInt32)
    (clock : Nat → Nat) :
    let r := Registry.empty.through specs
    let m := max every.toNat 1
    let delivery := (new name r every.toNat).delivery clock
    (∀ c, 0 < c → ¬ m ∣ c → delivery c = ([], 0)) ∧
    (∀ c, 0 < c → m ∣ c → List.Forall₂ Presents r.toList (delivery c).1 ∧
      (delivery c).2 = (delivery c).1.length ∧ (delivery c).2 = r.size) ∧
    (∀ c c', 0 < c → c < c' → m ∣ c → m ∣ c' → (∀ b, c < b → b < c' → ¬ m ∣ b) →
      List.Forall₂ (fun s t => s.dataType ≠ .real32 → s.dataType ≠ .real64 → s.value ≠ t.value)
        (delivery c).1 (delivery c').1) := by
  intro r m delivery
  have hfits : ∀ v ∈ r.toList, v.Fits := (Registry.sound_empty.through specs).fits
  have hm : 0 < m := Nat.lt_of_lt_of_le Nat.one_pos (Nat.le_max_right _ 1)
  have hdelivers : ∀ c, 0 < c → m ∣ c →
      delivery c = (r.toList.map (sample (c / m) (clock c)), r.size) := by
    intro c hc hdvd
    exact (delivery_eq name r every.toNat clock hc).trans (if_pos hdvd)
  refine ⟨?_, ?_, ?_⟩
  · intro c hc hdvd
    exact (delivery_eq name r every.toNat clock hc).trans (if_neg hdvd)
  · intro c hc hdvd
    rw [hdelivers c hc hdvd]
    refine ⟨?_, (List.length_map _).symm, rfl⟩
    rw [List.forall₂_map_right_iff, List.forall₂_same]
    intro v hv
    exact presents_sample (hfits v hv) (c / m) (clock c)
  · intro c c' hc hlt hdvd hdvd' hnone
    obtain rfl := eq_add_of_consecutive hlt hdvd hdvd' hnone hm
    rw [hdelivers c hc hdvd, hdelivers (c + m) (by omega) hdvd', Nat.add_div_right c hm,
      List.forall₂_map_left_iff, List.forall₂_map_right_iff, List.forall₂_same]
    intro v hv hreal32 hreal64
    exact value_ne_succ (hfits v hv).size_pos hreal32 hreal64 (c / m)

/-- A label of six letters, delivered once in three polls, has moved on by a letter in poll 6. -/
theorem label_rolls_on :
    let delivery := (new "sim" (Registry.empty.through [⟨"label", .text, some 6⟩])
      (3 : UInt32).toNat).delivery (· * 1000)
    delivery 5 = ([], 0) ∧ (delivery 3).2 = 1 ∧
      (delivery 3).1.map (·.value) = [Bytes.ofText "bcdefg"] ∧
      List.Forall₂ (fun s t => s.dataType ≠ .real32 → s.dataType ≠ .real64 → s.value ≠ t.value)
        (delivery 3).1 (delivery 6).1 := by
  obtain ⟨hnone, hall, hchange⟩ :=
    device_is_faithful [⟨"label", .text, some 6⟩] "sim" 3 (· * 1000)
  have hadmissible : VariableSpec.Admissible ⟨"label", .text, some 6⟩ :=
    ⟨by decide, by decide, by simp [DataType.fixedSize?], by decide⟩
  have hnew : Registry.empty.lookup? "label" = none := by
    simp [Registry.lookup?, Registry.empty]
  have hlist : (Registry.empty.through [⟨"label", .text, some 6⟩]).toList
      = [⟨0, "label", .text, 6⟩] := by
    rw [Registry.through_cons, Registry.call_of_admissible hadmissible hnew]
    rfl
  refine ⟨hnone 5 (by decide) (by decide), ?_, ?_, ?_⟩
  · rw [(hall 3 (by decide) (by decide)).2.2]
    exact congrArg List.length hlist
  · rw [delivery_eq _ _ _ _ (by decide), if_pos (by decide), hlist]
    decide
  · refine hchange 3 6 (by decide) (by decide) (by decide) (by decide) ?_
    intro b hlt hgt
    obtain rfl | rfl : b = 4 ∨ b = 5 := by omega
    · decide
    · decide

end SimulatedDevice

end Telemetry
