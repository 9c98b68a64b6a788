import Telemetry.Bytes

/-!
# Decompressing byte by byte

A decompressor is a machine that is fed one byte at a time. Three facts about single steps say what
it makes of a whole stream. Where it appends an input to whatever it has put out before, once it is
fed the written form of that input, it can go on: fed form after form it appends input after input
(`Restores.flatMap`). Where it never takes back what it has put out, a stream that is cut gives a
part of what the whole stream gives (`OnlyAdds.take`). And where its output is rationed by the byte,
a stream gives no more than its length allows (`Rationed.length_le`).
-/

namespace Telemetry.Compression

variable {σ : Type} {feed : σ → UInt8 → σ}

/-! ## Written forms one after another -/

/-- A machine that stands between two forms with some output is fed the form of an input, and stands
between two forms again, with the input behind the output. -/
def Restores (feed : σ → UInt8 → σ) (stand : Bytes → σ) (form : Bytes → Bytes) : Prop :=
  ∀ output bs : Bytes, (form bs).foldl feed (stand output) = stand (output ++ bs)

/-- No form looks at what lies in front of it, so forms may be strung together. -/
theorem Restores.flatMap {stand : Bytes → σ} {form : Bytes → Bytes} (h : Restores feed stand form)
    (output : Bytes) (parts : List Bytes) :
    (parts.flatMap form).foldl feed (stand output) = stand (output ++ parts.flatten) := by
  induction parts generalizing output with
  | nil => simp
  | cons part parts ih =>
      rw [List.flatMap_cons, List.foldl_append, h, ih, List.flatten_cons, List.append_assoc]

/-! ## Streams that are cut -/

variable {output : σ → Bytes}

/-- A machine that takes nothing back: a byte that it is fed only adds to its output. -/
def OnlyAdds (feed : σ → UInt8 → σ) (output : σ → Bytes) : Prop :=
  ∀ (s : σ) (b : UInt8), output s <+: output (feed s b)

theorem OnlyAdds.foldl (h : OnlyAdds feed output) (s : σ) (stream : Bytes) :
    output s <+: output (stream.foldl feed s) := by
  induction stream generalizing s with
  | nil => exact List.prefix_refl _
  | cons b stream ih => exact (h s b).trans (ih (feed s b))

/-- What was put out up to the cut is a part of what the whole stream puts out. -/
theorem OnlyAdds.take (h : OnlyAdds feed output) (s : σ) (stream : Bytes) (k : Nat) :
    output ((stream.take k).foldl feed s) <+: output (stream.foldl feed s) := by
  have hrest := h.foldl ((stream.take k).foldl feed s) (stream.drop k)
  rwa [← List.foldl_append, List.take_append_drop] at hrest

/-! ## How much is put out -/

variable {due : σ → Nat} {rate : Nat}

/-- A machine whose output is rationed. Each byte that it is fed earns it `rate` bytes of output;
what is `due` in a state was earned before and may still be put out. -/
def Rationed (feed : σ → UInt8 → σ) (output : σ → Bytes) (due : σ → Nat) (rate : Nat) : Prop :=
  ∀ (s : σ) (b : UInt8),
    (output (feed s b)).length + due (feed s b) ≤ (output s).length + due s + rate

/-- What is put out and what is due never exceed what was earned. -/
theorem Rationed.foldl (h : Rationed feed output due rate) (s : σ) (stream : Bytes) :
    (output (stream.foldl feed s)).length + due (stream.foldl feed s)
      ≤ (output s).length + due s + rate * stream.length := by
  induction stream generalizing s with
  | nil => exact Nat.le_add_right _ _
  | cons b stream ih =>
      have hfirst := h s b
      have hrest := ih (feed s b)
      rw [List.foldl_cons, List.length_cons, Nat.mul_succ]
      omega

/-- A machine that starts with nothing put out and nothing due puts out at most `rate` bytes for
each byte of a stream. -/
theorem Rationed.length_le (h : Rationed feed output due rate) {start : σ}
    (houtput : output start = []) (hdue : due start = 0) (stream : Bytes) :
    (output (stream.foldl feed start)).length ≤ rate * stream.length := by
  have hearned := h.foldl start stream
  simp only [houtput, hdue, List.length_nil, Nat.zero_add] at hearned
  exact Nat.le_trans (Nat.le_add_right _ _) hearned

end Telemetry.Compression
