import ImageBot.Json.Printer
import ImageBot.Json.Str
import ImageBot.Proofs.Text.Utf8
/-!
# Reading strings that were written

A character that was written inside a string is read in one step, and as itself, however it
is escaped. So a string is read as what was written, up to its quotation mark.
-/
namespace ImageBot.Json

open Text

theorem hexValue?_hexLower : ∀ k < 16, hexValue? (hexLower k).toNat.toUInt8 = some k := by decide

/-- The first byte of a character is no sign of a string, unless it is the character. -/
theorem head_encodeChar {c : Char} {a : UInt8} {more : List UInt8}
    (h : Utf8.encodeChar c = a :: more) : a.toNat = c.toNat ∨ 0x80 ≤ a.toNat := by
  unfold Utf8.encodeChar at h
  simp only at h
  have hc := Utf8.isValidChar_toNat c
  split at h
  · left
    rw [← (List.cons.inj h).1, Utf8.toNat_toUInt8 (by omega)]
  · right
    split at h
    · rw [← (List.cons.inj h).1, Utf8.toNat_toUInt8 (by omega)]
      omega
    · split at h
      · rw [← (List.cons.inj h).1, Utf8.toNat_toUInt8 (by omega)]
        omega
      · rw [← (List.cons.inj h).1, Utf8.toNat_toUInt8 (by omega)]
        omega

namespace Str

/-- Nothing is wrong with what was read so far. -/
structure Slips.Clean (s : Slips) : Prop where
  inEscape : s.inEscape = none
  badByte : s.badByte = none

theorem Slips.Clean.grow {s : Slips} (h : s.Clean) (n : Nat) : (s.grow n).Clean :=
  ⟨h.inEscape, h.badByte⟩

variable {slips : Slips} {read : List Char} {c : Char} {offset fuel : Nat}

/-- A character that is not escaped is read as itself. -/
theorem scanFrom_plain (hquote : c ≠ '"') (hback : c ≠ '\\') (hc : 0x20 ≤ c.toNat)
    (more : List UInt8) :
    scanFrom (fuel + 1) read slips ⟨offset, Utf8.encodeChar c ++ more⟩ =
      scanFrom fuel (c :: read) (slips.grow (Utf8.encodeChar c).length)
        ⟨offset + (Utf8.encodeChar c).length, more⟩ := by
  obtain ⟨a, rest, hbytes, hstep⟩ := Utf8.step_encodeChar c more
  have hhead := head_encodeChar hbytes
  have hne (d : Char) (hd : d.toNat < 0x80) (hcd : c ≠ d) : a ≠ d.toNat.toUInt8 := by
    rintro rfl
    rw [Utf8.toNat_toUInt8 (by omega)] at hhead
    rcases hhead with hhead | hhead
    · exact hcd (Char.toNat_inj.mp hhead.symm)
    · omega
  have hquote' : a ≠ 0x22 := hne '"' (by decide) hquote
  have hback' : a ≠ 0x5C := hne '\\' (by decide) hback
  have hlow : ¬a < 0x20 := by
    rw [UInt8.lt_iff_toNat_lt]
    show ¬a.toNat < 32
    omega
  simp only [hbytes, List.cons_append, scanFrom, hquote', hback', hlow, if_false, hstep,
    List.drop_left, List.length_cons]
  rw [Nat.add_comm 1, Nat.add_assoc, Nat.add_comm 1]

/-- A letter behind a backslash is read as the character that it stands for. -/
theorem escape_simple {b : UInt8} (h : simpleEscape? b = some c) (offset : Nat)
    (more : List UInt8) : escape ⟨offset, [b] ++ more⟩ = .ok (.ok c, ⟨offset + 1, more⟩) := by
  simp only [List.singleton_append, escape, h]

/-- A control character is read from its two hexadecimal digits. -/
theorem escape_hex (hc : c.toNat < 0x20) (offset : Nat) (more : List UInt8) :
    escape ⟨offset, [0x75, 0x30, 0x30, (hexLower (c.toNat / 16)).toNat.toUInt8,
        (hexLower (c.toNat % 16)).toNat.toUInt8] ++ more⟩ =
      .ok (.ok c, ⟨offset + 5, more⟩) := by
  have hvalue : ((0 * 16 + 0) * 16 + c.toNat / 16) * 16 + c.toNat % 16 = c.toNat := by omega
  have hhex : hex4 ⟨offset + 1, [0x30, 0x30, (hexLower (c.toNat / 16)).toNat.toUInt8,
      (hexLower (c.toNat % 16)).toNat.toUInt8] ++ more⟩ = .ok (c.toNat, ⟨offset + 5, more⟩) := by
    simp only [hex4, List.cons_append, List.nil_append, show hexValue? 0x30 = some 0 from rfl,
      hexValue?_hexLower _ (by omega : c.toNat / 16 < 16),
      hexValue?_hexLower _ (by omega : c.toNat % 16 < 16), hvalue]
  have hbelow : c.toNat < 0xD800 ∨ 0xDFFF < c.toNat := by omega
  simp only [List.cons_append, escape, show simpleEscape? 0x75 = none from rfl, if_true]
  rw [← List.cons_append, ← List.cons_append, ← List.cons_append, ← List.cons_append, hhex]
  simp only [hbelow, if_true, Char.ofNat_toNat]

/-- An escape is read as the character that it was written for. -/
theorem escape_escapeChar (hc : c = '"' ∨ c = '\\' ∨ c.toNat < 0x20) :
    ∃ tail, Utf8.encode (escapeChar c) = 0x5C :: tail ∧ ∀ offset more,
      escape ⟨offset, tail ++ more⟩ = .ok (.ok c, ⟨offset + tail.length, more⟩) := by
  rcases hc with rfl | rfl | hc
  · exact ⟨[0x22], by decide, escape_simple rfl⟩
  · exact ⟨[0x5C], by decide, escape_simple rfl⟩
  · have hofNat : Char.ofNat c.toNat = c := Char.ofNat_toNat c
    have hquote : c ≠ '"' := by
      rintro rfl
      exact absurd hc (by decide)
    have hback : c ≠ '\\' := by
      rintro rfl
      exact absurd hc (by decide)
    rw [escapeChar]
    rw [if_neg hquote, if_neg hback, if_neg (by omega)]
    split
    · next h => exact ⟨[0x62], by decide, escape_simple (by rw [← hofNat, h]; rfl)⟩
    · next h => exact ⟨[0x74], by decide, escape_simple (by rw [← hofNat, h]; rfl)⟩
    · next h => exact ⟨[0x6E], by decide, escape_simple (by rw [← hofNat, h]; rfl)⟩
    · next h => exact ⟨[0x66], by decide, escape_simple (by rw [← hofNat, h]; rfl)⟩
    · next h => exact ⟨[0x72], by decide, escape_simple (by rw [← hofNat, h]; rfl)⟩
    · have hdigit : ∀ k < 16, (hexLower k).toNat < 0x80 := by decide
      refine ⟨_, ?_, escape_hex hc⟩
      rw [Utf8.encode_ascii]
      · rfl
      · simp only [List.forall_mem_cons, List.not_mem_nil, false_implies, implies_true, and_true]
        exact ⟨by decide, by decide, by decide, by decide, hdigit _ (by omega),
          hdigit _ (by omega)⟩

/-- A character that was written is read in one step. -/
theorem scanFrom_escapeChar (hs : slips.Clean) (fuel : Nat) (read : List Char) (offset : Nat)
    (c : Char) (more : List UInt8) :
    ∃ slips' : Slips, slips'.Clean ∧
      scanFrom (fuel + 1) read slips ⟨offset, Utf8.encode (escapeChar c) ++ more⟩ =
        scanFrom fuel (c :: read) slips'
          ⟨offset + (Utf8.encode (escapeChar c)).length, more⟩ := by
  by_cases hc : c = '"' ∨ c = '\\' ∨ c.toNat < 0x20
  · obtain ⟨tail, hbytes, hescape⟩ := escape_escapeChar hc
    refine ⟨slips.grow c.utf8Size, hs.grow _, ?_⟩
    rw [hbytes, List.cons_append, scanFrom]
    simp only [hescape, show ¬(0x5C : UInt8) = 0x22 from by decide, if_false, if_true,
      List.length_cons, Nat.add_assoc, Nat.add_comm 1]
  · simp only [not_or, Nat.not_lt] at hc
    obtain ⟨hquote, hback, hlow⟩ := hc
    have hplain : escapeChar c = [c] := by
      rw [escapeChar, if_neg hquote, if_neg hback, if_pos hlow]
    refine ⟨slips.grow (Utf8.encodeChar c).length, hs.grow _, ?_⟩
    rw [hplain, Utf8.encode_cons, Utf8.encode_nil, List.append_nil]
    exact scanFrom_plain hquote hback hlow more

theorem length_encode_escapeChar (c : Char) : 1 ≤ (Utf8.encode (escapeChar c)).length := by
  by_cases hc : c = '"' ∨ c = '\\' ∨ c.toNat < 0x20
  · obtain ⟨tail, hbytes, -⟩ := escape_escapeChar hc
    simp [hbytes]
  · simp only [not_or, Nat.not_lt] at hc
    obtain ⟨a, rest, hbytes, -⟩ := Utf8.step_encodeChar c []
    rw [escapeChar, if_neg hc.1, if_neg hc.2.1, if_pos hc.2.2]
    simp [hbytes]

/-- The characters of a string are read up to its quotation mark. -/
theorem scanFrom_quoted (hs : slips.Clean) (s : List Char) (more : List UInt8)
    (hfuel : (Utf8.encode (s.flatMap escapeChar)).length < fuel) :
    scanFrom fuel read slips ⟨offset, Utf8.encode (s.flatMap escapeChar) ++ 0x22 :: more⟩ =
      .ok (.ok (String.ofList (read.reverse ++ s)),
        ⟨offset + (Utf8.encode (s.flatMap escapeChar)).length + 1, more⟩) := by
  induction s generalizing slips read offset fuel with
  | nil =>
    cases fuel with
    | zero => omega
    | succ fuel =>
      simp [scanFrom, Slips.fault?, hs.inEscape, hs.badByte]
  | cons c s ih =>
    cases fuel with
    | zero => omega
    | succ fuel =>
      have hlength := length_encode_escapeChar c
      rw [List.flatMap_cons, Utf8.encode_append, List.length_append] at hfuel
      obtain ⟨slips', hclean, hstep⟩ := scanFrom_escapeChar hs fuel read offset c
        (Utf8.encode (s.flatMap escapeChar) ++ 0x22 :: more)
      rw [List.flatMap_cons, Utf8.encode_append, List.append_assoc, hstep,
        ih hclean (by omega)]
      simp [Nat.add_assoc]

/-- The bytes of a string between its quotation marks. -/
def inner (s : String) : List UInt8 := Utf8.encode (s.toList.flatMap escapeChar)

theorem bytes_quote (s : String) : Utf8.bytes (quote s) = 0x22 :: (inner s ++ [0x22]) := by
  have hmark : Utf8.encodeChar '"' = [0x22] := by decide
  rw [Utf8.bytes, quote, String.toList_ofList, Utf8.encode_cons, Utf8.encode_append,
    Utf8.encode_cons, Utf8.encode_nil, hmark]
  rfl

/-- **Strings are read as they were written.** -/
theorem scan_inner (s : String) (offset : Nat) (more : List UInt8) :
    scan ⟨offset, inner s ++ 0x22 :: more⟩ =
      .ok (.ok s, ⟨offset + (inner s).length + 1, more⟩) := by
  have hclean : Slips.start.Clean := ⟨rfl, rfl⟩
  have hfuel : (Utf8.encode (s.toList.flatMap escapeChar)).length <
      (Utf8.encode (s.toList.flatMap escapeChar) ++ 0x22 :: more).length + 1 := by
    rw [List.length_append]
    omega
  rw [scan, inner, scanFrom_quoted hclean s.toList more hfuel]
  simp

end Str

end ImageBot.Json
