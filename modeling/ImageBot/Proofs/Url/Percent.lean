import ImageBot.Proofs.Text.Utf8
import ImageBot.Url.Percent
/-!
# Percent-encoded texts

An encoded text consists of ASCII characters outside the set and of `%` with hexadecimal
digits. If the set has the `%` itself, decoding gives the encoded text back.
-/
namespace ImageBot.Url

open Text

variable {set : CharSet} {s : List Char} {c : Char}

/-- Whether a character is a hexadecimal digit as they are written. -/
def IsHexUpper (c : Char) : Prop := ∃ k < 16, c = hexUpper k

theorem mem_escapeByte {b : UInt8} (h : c ∈ escapeByte b) : c = '%' ∨ IsHexUpper c := by
  have hb : b.toNat < 256 := b.toNat_lt
  simp only [escapeByte, List.mem_cons, List.not_mem_nil, or_false] at h
  rcases h with h | h | h
  · exact .inl h
  · exact .inr ⟨_, by omega, h⟩
  · exact .inr ⟨_, by omega, h⟩

/-- What an encoded text consists of. -/
theorem mem_encode (h : c ∈ encode set s) :
    c ∈ s ∧ c.toNat < 0x80 ∧ set c.toNat = false ∨ c = '%' ∨ IsHexUpper c := by
  obtain ⟨d, hd, hc⟩ := List.mem_flatMap.mp h
  rw [encodeChar] at hc
  split at hc
  · next hplain =>
    obtain rfl := List.mem_singleton.mp hc
    rw [Bool.and_eq_true, decide_eq_true_eq, Bool.not_eq_true'] at hplain
    exact .inl ⟨hd, hplain⟩
  · obtain ⟨b, -, hb⟩ := List.mem_flatMap.mp hc
    exact .inr (mem_escapeByte hb)

/-- A property of the characters outside a set, the `%` and the digits holds in every text
encoded for the set. -/
theorem forall_mem_encode {p : Char → Prop} (hset : ∀ c, c.toNat < 0x80 → set c.toNat = false → p c)
    (hpercent : p '%') (hdigit : ∀ k < 16, p (hexUpper k)) : ∀ c ∈ encode set s, p c := by
  intro c hc
  rcases mem_encode hc with ⟨-, hlt, hout⟩ | rfl | ⟨k, hk, rfl⟩
  · exact hset c hlt hout
  · exact hpercent
  · exact hdigit k hk

/-- A text without characters to encode stays as it is. -/
theorem encode_eq_self (h : ∀ c ∈ s, c.toNat < 0x80 ∧ set c.toNat = false) : encode set s = s := by
  induction s with
  | nil => rfl
  | cons c s ih =>
    have hc : encodeChar set c = [c] := by
      rw [encodeChar, if_pos]
      simp [h c List.mem_cons_self]
    rw [encode, List.flatMap_cons, hc]
    exact congrArg (c :: ·) (ih fun c hm => h c (List.mem_cons_of_mem _ hm))

theorem encode_cons (c : Char) (s : List Char) :
    encode set (c :: s) = encodeChar set c ++ encode set s := List.flatMap_cons

/-- An escaped byte is decoded. -/
theorem decodeBytes_escapeByte (b : UInt8) (rest : List UInt8) :
    decodeBytes (Utf8.encode (escapeByte b) ++ rest) = b :: decodeBytes rest := by
  have hdigit : ∀ k < 16, hexValue? (hexUpper k).toNat.toUInt8 = some k ∧
      (hexUpper k).toNat < 0x80 := by decide
  have hb : b.toNat < 256 := b.toNat_lt
  have hhigh := hdigit (b.toNat / 16) (by omega)
  have hlow := hdigit (b.toNat % 16) (by omega)
  have hascii : ∀ c ∈ escapeByte b, c.toNat < 0x80 := by
    simp only [escapeByte, List.forall_mem_cons, List.not_mem_nil, false_implies, implies_true,
      and_true]
    exact ⟨by decide, hhigh.2, hlow.2⟩
  have hvalue : (b.toNat / 16 * 16 + b.toNat % 16).toUInt8 = b := by
    rw [Nat.div_add_mod' b.toNat 16]
    simp
  rw [Utf8.encode_ascii hascii]
  simp only [escapeByte, List.map_cons, List.map_nil, List.cons_append, List.nil_append]
  rw [show '%'.toNat.toUInt8 = 0x25 from rfl, decodeBytes]
  simp only [hhigh.1, hlow.1, hvalue]

theorem decodeBytes_cons {a : UInt8} (h : a ≠ 0x25) (rest : List UInt8) :
    decodeBytes (a :: rest) = a :: decodeBytes rest := by
  cases rest with
  | nil => rw [decodeBytes]; simp
  | cons b rest =>
    cases rest with
    | nil => rw [decodeBytes]; simp
    | cons d rest =>
      rw [decodeBytes]
      intro a' b' rest' heq
      exact absurd heq h

/-- Decoding gives an encoded text back. -/
theorem decodeBytes_encode (hset : set '%'.toNat = true) (s : List Char) (rest : List UInt8) :
    decodeBytes (Utf8.encode (encode set s) ++ rest) = Utf8.encode s ++ decodeBytes rest := by
  have hescaped (bytes rest : List UInt8) :
      decodeBytes (Utf8.encode (bytes.flatMap escapeByte) ++ rest) = bytes ++ decodeBytes rest := by
    induction bytes with
    | nil => rfl
    | cons b bytes ih =>
      rw [List.flatMap_cons, Utf8.encode_append, List.append_assoc, decodeBytes_escapeByte, ih]
      rfl
  induction s with
  | nil => rfl
  | cons c s ih =>
    rw [encode_cons, Utf8.encode_append, Utf8.encode_cons, List.append_assoc, List.append_assoc]
    by_cases h : c.toNat < 0x80 && !set c.toNat
    · rw [encodeChar, if_pos h]
      rw [Bool.and_eq_true, decide_eq_true_eq, Bool.not_eq_true'] at h
      have hbyte : Utf8.encodeChar c = [c.toNat.toUInt8] := if_pos h.1
      have hne : c.toNat.toUInt8 ≠ 0x25 := by
        intro heq
        have hc : c.toNat = '%'.toNat := by
          have := congrArg UInt8.toNat heq
          rwa [Utf8.toNat_toUInt8 (by omega)] at this
        rw [hc, hset] at h
        exact absurd h.2 (by decide)
      rw [Utf8.encode_cons, Utf8.encode_nil, List.append_nil, hbyte, List.singleton_append,
        List.singleton_append, decodeBytes_cons hne, ih]
    · rw [encodeChar, if_neg h, hescaped, ih]

/-- Encoded texts are different if the texts are. -/
theorem encode_injective (hset : set '%'.toNat = true) {s t : List Char}
    (h : encode set s = encode set t) : s = t := by
  have hs := decodeBytes_encode hset s []
  rw [h, decodeBytes_encode hset t [], List.append_cancel_right_eq] at hs
  exact (Utf8.encode_injective hs).symm

end ImageBot.Url
