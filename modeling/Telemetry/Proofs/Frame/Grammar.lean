import Mathlib.Algebra.Order.Ring.Nat
import Telemetry.Proofs.Frame.Body

/-!
# The grammar of frames

A frame is spelled out as its header and then, variable after variable, a header, the name and the
value (`Decoded.spelling`). Not every frame may be: its version, its kind, the count and the size in
its header and the lengths in its variables' headers have to be right (`Decoded.Grammatical`).
Decoding accepts exactly what begins with the spelling of such a frame, and gives that frame
(`decode_accepts_the_grammar`). The bodies are the heart of it: read variable by variable, without
a bound known beforehand, they are accepted exactly if they are variables spelled out one after
another to the last byte (`parseBody_eq_ok_iff`).
-/

namespace Telemetry.Frame

/-! ## Spelling -/

/-- The header that a variable is spelled with. -/
def headerOf (v : Variable) : VariableHeader where
  nameLength := UInt16.ofNat v.name.utf8ByteSize
  dataType := v.dataType
  valueLength := UInt32.ofNat v.value.length
  timestamp := v.timestamp

/-- A variable in a frame: its header, its name and its value. -/
def spelled (v : Variable) : Bytes := (headerOf v).encode ++ (Bytes.ofText v.name ++ v.value)

/-- Whether the lengths of a variable's name and value fit their fields. -/
structure Fits (v : Variable) : Prop where
  name_le : v.name.utf8ByteSize ≤ 65535
  value_le : v.value.length ≤ 4294967295

/-- A frame in bytes: its header, and its variables in order. -/
def Decoded.spelling (f : Decoded) : Bytes := f.header.encode ++ f.entries.flatMap spelled

/-- Whether a frame may be spelled out: what its header says is so, and every length fits. -/
structure Decoded.Grammatical (f : Decoded) : Prop where
  version_eq : f.header.version = 1
  kind_eq : f.header.kind = .single ∨ f.header.kind = .batch
  count_eq : f.header.variableCount.toNat = f.entries.length
  size_eq : f.header.totalSize.toNat
    = 20 + (f.entries.map fun v => 15 + v.name.utf8ByteSize + v.value.length).sum
  fits : ∀ v ∈ f.entries, Fits v

theorem length_spelled (v : Variable) :
    (spelled v).length = 15 + v.name.utf8ByteSize + v.value.length := by
  rw [spelled, List.length_append, List.length_append, VariableHeader.length_encode,
    Bytes.length_ofText, VariableHeader.size, Nat.add_assoc]

theorem length_flatMap_spelled (vs : List Variable) : (vs.flatMap spelled).length
    = (vs.map fun v => 15 + v.name.utf8ByteSize + v.value.length).sum := by
  simp only [List.length_flatMap, length_spelled]

/-! ## Variables -/

theorem variableHeader_of_fits {v : Variable} (h : Fits v) :
    variableHeader v = .ok (headerOf v) := by
  have hname : ¬ v.name.utf8ByteSize ≥ UInt16.size := Nat.not_le_of_lt (Nat.lt_succ_of_le h.name_le)
  have hvalue : ¬ v.value.length ≥ UInt32.size := Nat.not_le_of_lt (Nat.lt_succ_of_le h.value_le)
  rw [variableHeader, if_neg hname, if_neg hvalue]
  rfl

/-- A header, and a name and a value of the lengths it says, are the spelling of a variable. -/
theorem spelled_of_header {h : VariableHeader} {name : String} {value : Bytes}
    (hname : name.utf8ByteSize = h.nameLength.toNat)
    (hvalue : value.length = h.valueLength.toNat) :
    Fits ⟨name, h.dataType, value, h.timestamp⟩ ∧
      spelled ⟨name, h.dataType, value, h.timestamp⟩
        = h.encode ++ (Bytes.ofText name ++ value) := by
  have hheader : headerOf ⟨name, h.dataType, value, h.timestamp⟩ = h := by
    simp [headerOf, hname, hvalue]
  refine ⟨⟨?_, ?_⟩, by rw [spelled, hheader]⟩
  · exact hname ▸ Nat.le_of_lt_succ h.nameLength.toNat_lt
  · exact hvalue ▸ Nat.le_of_lt_succ h.valueLength.toNat_lt

/-- A variable is read exactly where it is spelled out, and what follows is left. -/
theorem readVariable_eq_ok_iff {bs rest : Bytes} {v : Variable} :
    readVariable bs = .ok (v, rest) ↔ Fits v ∧ bs = spelled v ++ rest := by
  constructor
  · intro hread
    unfold readVariable at hread
    split at hread
    next => cases hread
    next h hparse =>
      dsimp only at hread
      split at hread
      next => cases hread
      next front rest' hcut =>
        obtain ⟨hlength, rfl⟩ := Bytes.split?_eq_some_iff.1 hcut
        rw [List.splitAt_eq] at hread
        dsimp only at hread
        split at hread
        next => cases hread
        next name htext =>
          cases hread
          have htext := Bytes.toText?_eq_some_iff.1 htext
          -- the part that was cut off is long enough to begin with the header as well
          have hfront : h.encode <+: front :=
            List.prefix_of_prefix_length_le (VariableHeader.parse_eq_ok_iff.1 hparse)
              (List.prefix_append front rest) (by simp; omega)
          obtain ⟨body, rfl⟩ := hfront
          rw [← VariableHeader.length_encode h, List.drop_left] at htext ⊢
          rw [List.length_append, VariableHeader.length_encode] at hlength
          have hname : name.utf8ByteSize = h.nameLength.toNat := by
            rw [← Bytes.length_ofText, ← htext, List.length_take]
            omega
          have hvalue : (body.drop h.nameLength.toNat).length = h.valueLength.toNat := by
            rw [List.length_drop]
            omega
          obtain ⟨hfits, hspelled⟩ := spelled_of_header hname hvalue
          refine ⟨hfits, ?_⟩
          rw [hspelled, ← htext, List.take_append_drop]
  · rintro ⟨hfits, rfl⟩
    exact readVariable_append (variableHeader_of_fits hfits) rest

/-! ## Bodies -/

/-- The body is cut into variables from the front: by induction on what is left of it. -/
theorem readVariables_eq_ok {bs : Bytes} {done all : Array Variable}
    (h : readVariables done bs = .ok all) :
    ∃ vs : List Variable, all = done ++ vs.toArray ∧ (∀ v ∈ vs, Fits v) ∧
      bs = vs.flatMap spelled := by
  fun_induction readVariables done bs with
  | case1 done bs hempty =>
      cases h
      exact ⟨[], by simp, by simp, by simpa using hempty⟩
  | case2 done bs hmore e he => cases h
  | case3 done bs hmore v rest hread ih =>
      obtain ⟨hfits, rfl⟩ := readVariable_eq_ok_iff.1 hread
      obtain ⟨vs, rfl, hall, rfl⟩ := ih h
      refine ⟨v :: vs, by simp, ?_, by rw [List.flatMap_cons]⟩
      rintro w (_ | ⟨_, hw⟩)
      · exact hfits
      · exact hall w hw

theorem readVariables_spelled (done : Array Variable) (vs : List Variable)
    (hfits : ∀ v ∈ vs, Fits v) :
    readVariables done (vs.flatMap spelled) = .ok (done ++ vs.toArray) := by
  induction vs generalizing done with
  | nil => simpa using readVariables_nil done
  | cons v vs ih =>
      have hread : readVariable (spelled v ++ vs.flatMap spelled) = .ok (v, vs.flatMap spelled) :=
        readVariable_eq_ok_iff.2 ⟨hfits v (List.mem_cons_self ..), rfl⟩
      rw [List.flatMap_cons, readVariables_append hread,
        ih (done.push v) fun w hw => hfits w (List.mem_cons_of_mem v hw)]
      simp

/-- A body is accepted exactly if it is variables that fit, spelled out to the last byte. -/
theorem parseBody_eq_ok_iff {body : Bytes} {vs : List Variable} :
    parseBody body = .ok vs ↔ (∀ v ∈ vs, Fits v) ∧ body = vs.flatMap spelled := by
  unfold parseBody
  constructor
  · intro h
    cases hread : readVariables #[] body with
    | error e =>
        rw [hread] at h
        cases h
    | ok all =>
        rw [hread] at h
        cases h
        obtain ⟨vs, rfl, hfits, hbody⟩ := readVariables_eq_ok hread
        simpa using ⟨hfits, hbody⟩
  · rintro ⟨hfits, rfl⟩
    rw [readVariables_spelled #[] vs hfits]
    simp [bind, Except.bind, pure, Except.pure]

/-! ## Frames -/

/-- A grammatical frame is one that is sound and holds its variables. -/
theorem Decoded.Grammatical.carries {f : Decoded} (h : f.Grammatical) :
    Raw.Carries ⟨f.header, f.entries.flatMap spelled⟩ f.entries where
  version := h.version_eq
  count := h.count_eq
  size := by
    rw [h.size_eq, ← length_flatMap_spelled]
    rfl
  body := parseBody_eq_ok_iff.2 ⟨h.fits, rfl⟩

/-- What is decoded has passed every check on the way. -/
theorem decode_eq_ok {bs : Bytes} {f : Decoded} (h : decode bs = .ok f) :
    Header.decode bs = .ok f.header ∧ f.header.kind ≠ .compressed ∧
      (∃ rest front, front.length = f.header.totalSize.toNat ∧ bs = front ++ rest ∧
        parseBody (front.drop Header.size) = .ok f.entries) ∧
      f.header.variableCount.toNat = f.entries.length := by
  unfold decode at h
  cases hheader : Header.decode bs with
  | error e =>
      rw [hheader] at h
      cases h
  | ok header =>
      rw [hheader] at h
      simp only [bind, Except.bind] at h
      by_cases hkind : header.kind = .compressed
      · rw [if_pos hkind] at h
        cases h
      · rw [if_neg hkind] at h
        split at h
        next => cases h
        next front rest hcut =>
          obtain ⟨hlength, hbs⟩ := Bytes.split?_eq_some_iff.1 hcut
          cases hbody : parseBody (front.drop Header.size) with
          | error e =>
              rw [hbody] at h
              cases h
          | ok vs =>
              rw [hbody] at h
              dsimp only at h
              by_cases hcount : vs.length = header.variableCount.toNat
              · rw [if_neg (not_not_intro hcount)] at h
                cases h
                exact ⟨rfl, hkind, ⟨rest, front, hlength, hbs, hbody⟩, hcount.symm⟩
              · rw [if_pos hcount] at h
                cases h

/-- Decoding accepts exactly what begins with the spelling of a grammatical frame, and it gives that
frame. -/
theorem decode_accepts_the_grammar (bs : Bytes) (f : Decoded) :
    decode bs = .ok f ↔ f.Grammatical ∧ f.spelling <+: bs := by
  constructor
  · intro h
    obtain ⟨hheader, hkind, ⟨rest, front, hlength, rfl, hbody⟩, hcount⟩ := decode_eq_ok h
    obtain ⟨hversion, hsize, hfront⟩ := Header.decode_eq_ok_iff.1 hheader
    obtain ⟨hfits, hbody⟩ := parseBody_eq_ok_iff.1 hbody
    -- the declared size covers the header, so the header lies in the part that was cut off
    obtain ⟨body, rfl⟩ : f.header.encode <+: front :=
      List.prefix_of_prefix_length_le hfront (List.prefix_append front rest)
        (by rw [Header.length_encode, hlength]; exact hsize)
    rw [← Header.length_encode f.header, List.drop_left] at hbody
    subst hbody
    have hkinds : f.header.kind = .single ∨ f.header.kind = .batch := by
      cases hk : f.header.kind <;> simp_all
    refine ⟨⟨hversion, hkinds, hcount, ?_, hfits⟩, List.prefix_append _ rest⟩
    rw [← hlength, List.length_append, length_flatMap_spelled, Header.length_encode, Header.size]
  · rintro ⟨hf, rest, rfl⟩
    have hkind : f.header.kind ≠ .compressed := by
      rcases hf.kind_eq with h | h <;> simp [h]
    exact decode_of_carries hf.carries hkind rest

end Telemetry.Frame
