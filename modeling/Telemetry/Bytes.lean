/-!
# Byte strings

Everything on a wire, in a ring or in a payload is a list of bytes. Numbers are packed least
significant byte first; `toNat` reads back what `ofNat` packs (`toNat_ofNat`), and packing at the
width of a byte string gives the byte string again (`ofNat_toNat`). `split?` cuts an exact number
of bytes off the front, and refuses where there are fewer.
-/

namespace Telemetry

abbrev Bytes := List UInt8

namespace Bytes

/-- The low `width` bytes of `n`, least significant first. -/
def ofNat : Nat → Nat → Bytes
  | 0, _ => []
  | width + 1, n => UInt8.ofNat n :: ofNat width (n / 256)

/-- The number that bytes pack, least significant first. -/
def toNat : Bytes → Nat
  | [] => 0
  | b :: rest => b.toNat + 256 * toNat rest

@[simp] theorem length_ofNat (width n : Nat) : (ofNat width n).length = width := by
  induction width generalizing n with
  | zero => rfl
  | succ width ih => simp [ofNat, ih]

/-- Packing keeps a number modulo the width. -/
theorem toNat_ofNat (width n : Nat) : toNat (ofNat width n) = n % Nat.pow 256 width := by
  induction width generalizing n with
  | zero => simp [ofNat, toNat, Nat.mod_one]
  | succ width ih =>
    have hb : (UInt8.ofNat n).toNat = n % 256 := by simp
    have hp : Nat.pow 256 (width + 1) = 256 * Nat.pow 256 width := Nat.pow_succ'
    rw [ofNat, toNat, ih, hb, hp, Nat.mod_mul]

/-- A byte string is the packing of its number at its own width. -/
theorem ofNat_toNat (bs : Bytes) : ofNat bs.length (toNat bs) = bs := by
  induction bs with
  | nil => rfl
  | cons b rest ih =>
    have hb : b.toNat < 256 := UInt8.toNat_lt b
    have hd : (b.toNat + 256 * toNat rest) / 256 = toNat rest := by omega
    have hm : UInt8.ofNat (b.toNat + 256 * toNat rest) = b := by
      apply UInt8.toNat_inj.1
      simp only [UInt8.toNat_ofNat']
      omega
    simp [ofNat, toNat, hd, hm, ih]

/-- The first `n` bytes and the rest, or nothing where there are fewer than `n`. -/
def split? (n : Nat) (bs : Bytes) : Option (Bytes × Bytes) :=
  let (front, rest) := bs.splitAt n
  if front.length = n then some (front, rest) else none

theorem split?_eq (n : Nat) (bs : Bytes) :
    split? n bs = if n ≤ bs.length then some (bs.take n, bs.drop n) else none := by
  simp only [split?, List.splitAt_eq, List.length_take]
  congr 1
  simp only [eq_iff_iff]
  omega

/-- A cut loses nothing: the front has the length asked for and the two parts join up. -/
theorem split?_eq_some_iff {n : Nat} {bs front rest : Bytes} :
    split? n bs = some (front, rest) ↔ front.length = n ∧ bs = front ++ rest := by
  rw [split?_eq]
  constructor
  · intro h
    split at h
    · simp only [Option.some.injEq, Prod.mk.injEq] at h
      obtain ⟨rfl, rfl⟩ := h
      simp [List.length_take]
      omega
    · cases h
  · rintro ⟨rfl, rfl⟩
    simp

/-- The UTF-8 bytes of a text. -/
def ofText (text : String) : Bytes := text.toUTF8.data.toList

/-- The text that bytes spell in UTF-8, if they do. -/
def toText? (bs : Bytes) : Option String := String.fromUTF8? ⟨bs.toArray⟩

@[simp] theorem length_ofText (text : String) : (ofText text).length = text.utf8ByteSize := by
  rfl

@[simp] theorem toText?_ofText (text : String) : toText? (ofText text) = some text := by
  have h : (⟨(ofText text).toArray⟩ : ByteArray) = text.toByteArray := rfl
  simp only [toText?, h, String.fromUTF8?, dif_pos text.isValidUTF8]
  rfl

/-- Bytes spell a text exactly when they are its UTF-8 bytes. -/
theorem toText?_eq_some_iff {bs : Bytes} {text : String} :
    toText? bs = some text ↔ bs = ofText text := by
  constructor
  · intro h
    simp only [toText?, String.fromUTF8?] at h
    split at h
    · cases h
      simp [ofText, String.fromUTF8]
    · cases h
  · rintro rfl
    exact toText?_ofText text

end Bytes

end Telemetry
