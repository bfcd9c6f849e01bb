import ImageBot.Json.Number
import ImageBot.Json.Printer
import ImageBot.Proofs.Text.Utf8
/-!
# Reading integers that were written

An integer of 64 bits is read as itself, unless what is behind it would make a longer or
another number of it.
-/
namespace ImageBot.Json

open Text

/-- What a number does not go on with. -/
def EndsNumber (more : List UInt8) : Prop :=
  ∀ b ∈ more.head?, isDigit b = false ∧ b ≠ 0x2E ∧ b ≠ 0x65 ∧ b ≠ 0x45

/-- Digits as bytes. -/
def digitBytes (s : List Char) : List UInt8 := s.map fun c => c.toNat.toUInt8

/-- Digits by value. -/
def digitValues (s : List Char) : List Nat := s.map fun c => c.toNat - 48

variable {s : List Char} {more : List UInt8} {offset : Nat}

theorem toNat_of_isDigit {c : Char} (h : c.isDigit = true) : 48 ≤ c.toNat ∧ c.toNat ≤ 57 := by
  simpa [Char.isDigit, UInt32.le_iff_toNat_le] using h

theorem isDigit_toUInt8 {c : Char} (h : c.isDigit = true) : isDigit c.toNat.toUInt8 = true := by
  have hc := toNat_of_isDigit h
  have hbyte : c.toNat.toUInt8.toNat = c.toNat := Utf8.toNat_toUInt8 (by omega)
  rw [isDigit, Bool.and_eq_true, decide_eq_true_eq, decide_eq_true_eq, UInt8.le_iff_toNat_le,
    UInt8.le_iff_toNat_le, hbyte]
  exact hc

theorem isBlank_of_isDigit {b : UInt8} (h : isDigit b = true) : isBlank b = false := by
  have hb : 48 ≤ b.toNat ∧ b.toNat ≤ 57 := by
    simpa [isDigit, UInt8.le_iff_toNat_le] using h
  have hne (a : UInt8) (ha : a.toNat < 48) : b ≠ a := by
    rintro rfl
    omega
  simp [isBlank, hne 0x20 (by decide), hne 0x0A (by decide), hne 0x09 (by decide),
    hne 0x0D (by decide)]

/-- Digits are read as far as they go. -/
theorem digitsFrom_digitBytes (hs : ∀ c ∈ s, c.isDigit = true) (hmore : EndsNumber more)
    (offset : Nat) : Cursor.digitsFrom offset (digitBytes s ++ more) =
      (digitValues s, ⟨offset + s.length, more⟩) := by
  induction s generalizing offset with
  | nil =>
    cases more with
    | nil => rfl
    | cons b more =>
      have hb := (hmore b rfl).1
      simp [digitBytes, digitValues, Cursor.digitsFrom, hb]
  | cons c s ih =>
    rw [List.forall_mem_cons] at hs
    have hc := toNat_of_isDigit hs.1
    have hbyte : c.toNat.toUInt8.toNat = c.toNat := Utf8.toNat_toUInt8 (by omega)
    simp only [digitBytes, List.map_cons, List.cons_append, Cursor.digitsFrom,
      isDigit_toUInt8 hs.1, if_true, hbyte]
    rw [← digitBytes, ih hs.2]
    simp [digitValues, Nat.add_assoc, Nat.add_comm 1]

namespace Number

theorem le_ofDigitChars (s : List Char) (k : Nat) : k ≤ Nat.ofDigitChars 10 s k := by
  induction s generalizing k with
  | nil => simp
  | cons c s ih =>
    rw [Nat.ofDigitChars_cons]
    exact Nat.le_trans (by omega) (ih _)

/-- Digits are put onto a significand as long as they make no number that is too great. -/
theorem absorb_digitValues (k : Nat) (h : Nat.ofDigitChars 10 s k ≤ greatest) :
    absorb k (digitValues s) = (Nat.ofDigitChars 10 s k, []) := by
  induction s generalizing k with
  | nil => rfl
  | cons c s ih =>
    rw [Nat.ofDigitChars_cons] at h ⊢
    have hle := le_ofDigitChars s (10 * k + (c.toNat - '0'.toNat))
    have hstep : k * 10 + (c.toNat - 48) = 10 * k + (c.toNat - '0'.toNat) := by
      rw [Nat.mul_comm]
      rfl
    simp only [digitValues, List.map_cons, absorb]
    rw [hstep, if_pos (Nat.le_trans hle h)]
    exact ih _ h

/-- A number above zero does not start with a zero. -/
theorem head_toDigits {n : Nat} (hn : 0 < n) :
    ∃ c s, Nat.toDigits 10 n = c :: s ∧ c ≠ '0' := by
  have hdigit : ∀ k < 10, 0 < k → Nat.digitChar k ≠ '0' := by decide
  induction n using Nat.strongRecOn with
  | ind n ih =>
    rw [Nat.toDigits_eq_if (by decide)]
    split
    · next h => exact ⟨_, [], rfl, hdigit n h hn⟩
    · next h =>
      obtain ⟨c, s, hs, hc⟩ := ih (n / 10) (by omega) (by omega)
      exact ⟨c, s ++ [Nat.digitChar (n % 10)], by rw [hs]; rfl, hc⟩

/-- The whole part of a number is read from its digits. -/
theorem scanWhole_digits (n : Nat) (hmore : EndsNumber more) (offset : Nat) :
    scanWhole ⟨offset, digitBytes (Nat.toDigits 10 n) ++ more⟩ =
      .ok (digitValues (Nat.toDigits 10 n), ⟨offset + (Nat.toDigits 10 n).length, more⟩) := by
  have hdigits : ∀ c ∈ Nat.toDigits 10 n, c.isDigit = true :=
    fun c hc => Nat.isDigit_of_mem_toDigits (by decide) (by decide) hc
  have hread := digitsFrom_digitBytes hdigits hmore offset
  cases n with
  | zero =>
    have hhead : more.head?.any isDigit = false := by
      cases more with
      | nil => rfl
      | cons b more => exact (hmore b rfl).1
    simp [Nat.toDigits_zero, digitBytes, digitValues, scanWhole, hhead]
  | succ n =>
    obtain ⟨c, s, hs, hc⟩ := head_toDigits (Nat.succ_pos n)
    rw [hs] at hread hdigits ⊢
    have hcdigit := hdigits c List.mem_cons_self
    have hbounds := toNat_of_isDigit hcdigit
    have hne : c.toNat.toUInt8 ≠ 0x30 := by
      intro heq
      have hbyte := congrArg UInt8.toNat heq
      rw [Utf8.toNat_toUInt8 (by omega)] at hbyte
      exact hc (Char.toNat_inj.mp hbyte)
    rw [digitBytes, List.map_cons, List.cons_append] at hread ⊢
    simp only [scanWhole, hne, if_false, isDigit_toUInt8 hcdigit, if_true, Cursor.digits, hread]

/-- Nothing is read behind the whole part of an integer. -/
theorem scanFraction_ends (hmore : EndsNumber more) (offset : Nat) :
    scanFraction ⟨offset, more⟩ = .ok (false, [], ⟨offset, more⟩) := by
  cases more with
  | nil => rfl
  | cons b more =>
    have hb := (hmore b rfl).2.1
    simp [scanFraction, hb]

theorem scanExponent_ends (hmore : EndsNumber more) (offset : Nat) :
    scanExponent ⟨offset, more⟩ = .ok (none, ⟨offset, more⟩) := by
  cases more with
  | nil => rfl
  | cons b more =>
    have hb := (hmore b rfl).2.2
    simp [scanExponent, hb]

/-- The value of digits that make no number that is too great. -/
theorem value_digits (negative : Bool) {n : Nat} (hn : n ≤ greatest) (stop : Nat) :
    Parts.value ⟨negative, digitValues (Nat.toDigits 10 n), [], false, none, stop⟩ =
      .ok (ofInteger negative n) := by
  have habsorb := @absorb_digitValues (Nat.toDigits 10 n) 0
  rw [Nat.ofDigitChars_ten_toDigits] at habsorb
  simp [Parts.value, habsorb hn]

theorem bytes_toString (n : Nat) : Utf8.bytes (toString n) = digitBytes (Nat.toDigits 10 n) := by
  rw [Utf8.bytes, Nat.toString_eq_ofList_toDigits, String.toList_ofList]
  apply Utf8.encode_ascii
  intro c hc
  have hdigit := toNat_of_isDigit (Nat.isDigit_of_mem_toDigits (by decide) (by decide) hc)
  omega

theorem bytes_negSucc (n : Nat) :
    Utf8.bytes (toString (Int.negSucc n)) = 0x2D :: digitBytes (Nat.toDigits 10 (n + 1)) := by
  rw [show toString (Int.negSucc n) = "-" ++ toString (n + 1) from rfl, Utf8.bytes,
    String.toList_append, Utf8.encode_append, ← bytes_toString]
  rfl

/-- An integer is read from its sign and its digits. -/
theorem scan_minus {n : Nat} (hn : n ≤ greatest) (hmore : EndsNumber more) (offset : Nat) :
    scan ⟨offset, 0x2D :: (digitBytes (Nat.toDigits 10 n) ++ more)⟩ =
      .ok (.ok (ofInteger true n), ⟨offset + 1 + (Nat.toDigits 10 n).length, more⟩) := by
  simp only [scan, scanWhole_digits n hmore, scanFraction_ends hmore, scanExponent_ends hmore,
    bind, Except.bind, pure, Except.pure, value_digits true hn]

theorem scan_digits {n : Nat} (hn : n ≤ greatest) (hmore : EndsNumber more) (offset : Nat) :
    scan ⟨offset, digitBytes (Nat.toDigits 10 n) ++ more⟩ =
      .ok (.ok (ofInteger false n), ⟨offset + (Nat.toDigits 10 n).length, more⟩) := by
  have hsign : ∀ rest, digitBytes (Nat.toDigits 10 n) ++ more ≠ 0x2D :: rest := by
    intro rest heq
    cases hs : Nat.toDigits 10 n with
    | nil => exact Nat.toDigits_ne_nil hs
    | cons c s =>
      have hdigit := toNat_of_isDigit (Nat.isDigit_of_mem_toDigits (by decide) (by decide)
        (hs ▸ List.mem_cons_self : c ∈ Nat.toDigits 10 n))
      rw [hs] at heq
      have hbyte := congrArg UInt8.toNat (List.cons.inj heq).1
      rw [Utf8.toNat_toUInt8 (by omega)] at hbyte
      have hminus : c.toNat = 45 := hbyte
      omega
  simp only [scan, scanWhole_digits n hmore, scanFraction_ends hmore, scanExponent_ends hmore,
    bind, Except.bind, pure, Except.pure, value_digits false hn]

/-- An integer starts with its sign or a digit. -/
theorem head_toString (n : Int) :
    ∃ b rest, Utf8.bytes (toString n) = b :: rest ∧ (b = 0x2D ∨ isDigit b = true) := by
  cases n with
  | ofNat n =>
    have htext : Utf8.bytes (toString (Int.ofNat n)) = digitBytes (Nat.toDigits 10 n) :=
      bytes_toString n
    cases hs : Nat.toDigits 10 n with
    | nil => exact (Nat.toDigits_ne_nil hs).elim
    | cons c s =>
      have hdigit : c.isDigit = true := Nat.isDigit_of_mem_toDigits (by decide) (by decide)
        (hs ▸ List.mem_cons_self : c ∈ Nat.toDigits 10 n)
      rw [htext, hs]
      exact ⟨_, _, rfl, .inr (isDigit_toUInt8 hdigit)⟩
  | negSucc n => exact ⟨0x2D, _, bytes_negSucc n, .inl rfl⟩

/-- Whether an integer is kept exact. -/
def Fits (n : Int) : Prop := -(2 ^ 63) ≤ n ∧ n ≤ 2 ^ 64 - 1

/-- **Integers are read as they were written.** -/
theorem scan_toString {n : Int} (hn : Fits n) (hmore : EndsNumber more) (offset : Nat) :
    scan ⟨offset, Utf8.bytes (toString n) ++ more⟩ =
      .ok (.ok (.int n), ⟨offset + (Utf8.bytes (toString n)).length, more⟩) := by
  obtain ⟨hlow, hhigh⟩ := hn
  cases n with
  | ofNat n =>
    have hle : n ≤ greatest := by
      simp only [Int.ofNat_eq_natCast] at hhigh
      rw [greatest]
      omega
    have htext : toString (Int.ofNat n) = toString n := rfl
    rw [htext, bytes_toString, scan_digits hle hmore]
    simp [ofInteger, digitBytes]
  | negSucc n =>
    have hle : n + 1 ≤ 2 ^ 63 := by omega
    have hrange : 1 ≤ n + 1 ∧ n + 1 ≤ 2 ^ 63 := ⟨by omega, hle⟩
    rw [bytes_negSucc, List.cons_append, scan_minus (by rw [greatest]; omega) hmore]
    simp only [ofInteger, hrange, and_self, if_true, Bool.not_true, Bool.false_eq_true, if_false,
      List.length_cons, digitBytes, List.length_map]
    rw [Nat.add_right_comm, Nat.add_assoc]
    rfl

end Number

end ImageBot.Json
