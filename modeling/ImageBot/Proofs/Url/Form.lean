import ImageBot.Proofs.Url.Percent
import ImageBot.Url.Domain
import ImageBot.Url.Form
/-!
# Reading the query of a form

A receiver splits a query at its ampersands, splits each part at its first equals sign, and
decodes the two texts. Pairs that are added to a query are read back behind those that it had:
ampersands and equals signs in their texts are encoded, so only those in between separate.
-/
namespace ImageBot.Url

open Text

theorem splitOn_ne_nil (c : Char) (s : List Char) : splitOn c s ≠ [] := by
  cases s with
  | nil => simp [splitOn]
  | cons d s =>
    rw [splitOn]
    split
    · simp
    · split <;> simp

theorem splitOn_append (c : Char) (s t : List Char) :
    splitOn c (s ++ c :: t) = splitOn c s ++ splitOn c t := by
  induction s with
  | nil => simp [splitOn]
  | cons d s ih =>
    rw [List.cons_append, splitOn, splitOn]
    by_cases hd : d = c
    · rw [if_pos hd, if_pos hd, ih, List.cons_append]
    · rw [if_neg hd, if_neg hd, ih]
      cases hs : splitOn c s with
      | nil => exact absurd hs (splitOn_ne_nil c s)
      | cons piece pieces => rfl

theorem splitOn_of_not_mem {c : Char} {s : List Char} (h : c ∉ s) : splitOn c s = [s] := by
  induction s with
  | nil => rfl
  | cons d s ih =>
    rw [List.mem_cons, not_or] at h
    rw [splitOn, if_neg (Ne.symm h.1), ih h.2]

namespace Form

/-- A plus sign stands for a space. -/
def spaced (c : Char) : Char := if c = '+' then ' ' else c

/-- What an encoded text stands for. Bytes that are no UTF-8 are replaced. -/
def decodeText (s : List Char) : String :=
  Utf8.textLossy (decodeBytes (Utf8.encode (s.map spaced)))

/-- The pair that a part of a query stands for. A part without an equals sign is a name. -/
def decodePair (s : List Char) : String × String :=
  (decodeText (s.takeWhile (· != '=')), decodeText ((s.dropWhile (· != '=')).drop 1))

/-- The pairs of a query. Empty parts count for nothing. -/
def decode (query : List Char) : List (String × String) :=
  ((splitOn '&' query).filter (!·.isEmpty)).map decodePair

@[simp] theorem decode_nil : decode [] = [] := rfl

/-- Parts are decoded each for itself. -/
theorem decode_append (s t : List Char) : decode (s ++ '&' :: t) = decode s ++ decode t := by
  rw [decode, splitOn_append, List.filter_append, List.map_append]
  rfl

/-! ### Encoded texts -/

/-- What stands for itself is ASCII. -/
theorem toNat_lt_of_isPlain {b : UInt8} (h : isPlain b) : b.toNat < 0x80 := by
  simp only [isPlain, Bool.or_eq_true, Bool.and_eq_true, decide_eq_true_eq, beq_iff_eq,
    UInt8.le_iff_toNat_le, ← UInt8.toNat_inj, UInt8.reduceToNat] at h
  omega

theorem forall_mem_encodeText {p : Char → Prop}
    (hplain : ∀ n < 0x80, isPlain (UInt8.ofNat n) → p (Char.ofNat n)) (hplus : p '+')
    (hpercent : p '%') (hdigit : ∀ k < 16, p (hexUpper k)) (s : String) :
    ∀ c ∈ encodeText s, p c := by
  intro c hc
  obtain ⟨b, -, hb⟩ := List.mem_flatMap.mp hc
  rw [encodeByte] at hb
  split at hb
  · next hb' =>
    obtain rfl := List.mem_singleton.mp hb
    exact hplain b.toNat (toNat_lt_of_isPlain hb') (by simpa using hb')
  · split at hb
    · obtain rfl := List.mem_singleton.mp hb
      exact hplus
    · rcases mem_escapeByte hb with rfl | ⟨k, hk, rfl⟩
      · exact hpercent
      · exact hdigit k hk

/-- No encoded text has a separator in it. -/
theorem ne_separator (s : String) : ∀ c ∈ encodeText s, c ≠ '&' ∧ c ≠ '=' :=
  forall_mem_encodeText (by decide) (by decide) (by decide) (by decide) s

/-- A byte is read back from how it is encoded. -/
theorem decodeBytes_encodeByte (b : UInt8) (rest : List UInt8) :
    decodeBytes (Utf8.encode ((encodeByte b).map spaced) ++ rest) = b :: decodeBytes rest := by
  rw [encodeByte]
  by_cases hplain : isPlain b
  · have hchar : ∀ n < 0x80, isPlain (UInt8.ofNat n) → spaced (Char.ofNat n) = Char.ofNat n ∧
        Utf8.encode [Char.ofNat n] = [UInt8.ofNat n] ∧ UInt8.ofNat n ≠ 0x25 := by decide
    obtain ⟨hspaced, hbytes, hne⟩ := hchar b.toNat (toNat_lt_of_isPlain hplain)
      (by simpa using hplain)
    rw [UInt8.ofNat_toNat] at hbytes hne
    rw [if_pos hplain, List.map_singleton, hspaced, hbytes, List.singleton_append,
      decodeBytes_cons hne]
  · rw [if_neg hplain]
    by_cases hspace : b = 0x20
    · subst hspace
      exact decodeBytes_cons (by decide) rest
    · have hmap : (escapeByte b).map spaced = escapeByte b := by
        have hdigit : ∀ k < 16, hexUpper k ≠ '+' := by decide
        refine (List.map_congr_left fun c hc => ?_).trans (List.map_id _)
        apply if_neg
        rcases mem_escapeByte hc with rfl | ⟨k, hk, rfl⟩
        · decide
        · exact hdigit k hk
      rw [if_neg (by simpa using hspace), hmap, decodeBytes_escapeByte]

/-- A text is read back from how it is encoded. -/
theorem decodeText_encodeText (s : String) : decodeText (encodeText s) = s := by
  have hbytes (bytes : List UInt8) :
      decodeBytes (Utf8.encode ((bytes.flatMap encodeByte).map spaced)) = bytes := by
    induction bytes with
    | nil => rw [List.flatMap_nil, List.map_nil, Utf8.encode_nil, decodeBytes]
    | cons b bytes ih =>
      rw [List.flatMap_cons, List.map_append, Utf8.encode_append, decodeBytes_encodeByte, ih]
  rw [decodeText, encodeText, hbytes, Utf8.textLossy_bytes]

/-- A pair is read back from how it is encoded. -/
theorem decode_encodePair (p : String × String) : decode (encodePair p) = [p] := by
  have hname : ∀ c ∈ encodeText p.1, (c != '=') = true :=
    fun c hc => by simp [(ne_separator p.1 c hc).2]
  have hamp : '&' ∉ encodePair p := by
    rw [encodePair, List.mem_append, List.mem_cons]
    rintro (h | h | h)
    · exact (ne_separator p.1 _ h).1 rfl
    · exact absurd h (by decide)
    · exact (ne_separator p.2 _ h).1 rfl
  have hpart : decodePair (encodePair p) = p := by
    rw [decodePair, encodePair, List.takeWhile_append_of_pos hname,
      List.dropWhile_append_of_pos hname, List.takeWhile_cons_of_neg (by decide),
      List.dropWhile_cons_of_neg (by decide), List.append_nil, List.drop_one, List.tail_cons,
      decodeText_encodeText, decodeText_encodeText]
  have hfilter : [encodePair p].filter (!·.isEmpty) = [encodePair p] := by simp [encodePair]
  rw [decode, splitOn_of_not_mem hamp, hfilter, List.map_singleton, hpart]

/-- Pairs that are added are read back behind those that were there. -/
theorem decode_append_pairs (query : List Char) (pairs : List (String × String)) :
    decode (append query pairs) = decode query ++ pairs := by
  -- the query grows with every pair; only the first one may find it empty
  induction pairs generalizing query with
  | nil => rw [append, List.append_nil]
  | cons p pairs ih =>
    rw [append, ih]
    by_cases hq : query.isEmpty
    · rw [if_pos hq, decode_encodePair, List.isEmpty_iff.mp hq, decode_nil]
      rfl
    · rw [if_neg hq, decode_append, decode_encodePair, List.append_assoc]
      rfl

/-! ### Where added pairs stand -/

end Form

end ImageBot.Url
