import Mathlib.Tactic.Lemma
import Mathlib.Tactic.TypeStar

/-!
# Serialized values

A value goes into a store as a compressed text. Each direction can fail.

`RoundTrip.decode_encode`: what was written is read back, if the serializer and the compressor undo
what they did.
-/

namespace Lib

/-- A serializer and a compressor, with their inverses. -/
structure Codec (τ β γ : Type*) where
  marshal : τ → Option β
  unmarshal : β → Option τ
  compress : β → Option γ
  decompress : γ → Option β

namespace Codec

variable {τ β γ : Type*}

/-- What is stored for a value. -/
def encode (codec : Codec τ β γ) (value : τ) : Option γ :=
  (codec.marshal value).bind codec.compress

/-- The value that is read. -/
def decode (codec : Codec τ β γ) (stored : γ) : Option τ :=
  (codec.decompress stored).bind codec.unmarshal

/-- The inverses give back what was written. -/
structure RoundTrip (codec : Codec τ β γ) : Prop where
  unmarshal_marshal : ∀ value text, codec.marshal value = some text →
    codec.unmarshal text = some value
  decompress_compress : ∀ text stored, codec.compress text = some stored →
    codec.decompress stored = some text

/-- A stored value is read back. -/
theorem RoundTrip.decode_encode {codec : Codec τ β γ} (h : codec.RoundTrip) {value : τ} {stored : γ}
    (hstored : codec.encode value = some stored) : codec.decode stored = some value := by
  obtain ⟨text, htext, hcompressed⟩ := Option.bind_eq_some_iff.mp hstored
  rw [decode, h.decompress_compress text stored hcompressed, Option.bind_some]
  exact h.unmarshal_marshal value text htext

/-- The codec that does nothing. -/
def plain : Codec τ τ τ := ⟨some, some, some, some⟩

lemma roundTrip_plain : (plain : Codec τ τ τ).RoundTrip := by
  constructor
  · intro value text h
    rw [← Option.some.inj h]
    rfl
  · intro text stored h
    rw [← Option.some.inj h]
    rfl

end Codec

end Lib
