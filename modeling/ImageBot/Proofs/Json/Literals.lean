import ImageBot.Proofs.Decimal.Integers
/-!
# Which numbers are integers

A number in a document is an integer of 64 bits if it is written as one: digits, perhaps behind a
minus sign, whose value is within the range. Any other number that is written with digits alone is
too great, and a fraction or an exponent makes it no integer even where the value is whole.
-/
namespace ImageBot.Json

open Decimal Text

/-- What numbers are written with. -/
def isNumberByte (b : UInt8) : Bool :=
  isDigit b || b == 0x2D || b == 0x2B || b == 0x2E || b == 0x65 || b == 0x45

/-- A number is written as an integer: digits, perhaps behind a minus sign. Zero has no minus
sign. -/
inductive WritesInt : List UInt8 → Int → Prop
  | natural {digits : List Char} {n : Nat} (h : DenotesNat digits n) :
    WritesInt (digitBytes digits) n
  | negative {digits : List Char} {n : Nat} (h : DenotesNat digits n) (hn : n ≠ 0) :
    WritesInt (0x2D :: digitBytes digits) (-n)

/-- From one cursor to another, over some bytes. -/
structure Cursor.Moves (c : Cursor) (bytes : List UInt8) (after : Cursor) : Prop where
  rest : c.rest = bytes ++ after.rest
  offset : after.offset = c.offset + bytes.length

namespace Cursor

variable {c d e : Cursor} {s t : List UInt8}

theorem Moves.refl (c : Cursor) : c.Moves [] c := ⟨rfl, rfl⟩

theorem Moves.trans (h : c.Moves s d) (h' : d.Moves t e) : c.Moves (s ++ t) e where
  rest := by rw [h.rest, h'.rest, List.append_assoc]
  offset := by rw [h'.offset, h.offset, List.length_append, Nat.add_assoc]

theorem moves_cons (offset : Nat) (b : UInt8) (rest : List UInt8) :
    Moves ⟨offset, b :: rest⟩ [b] ⟨offset + 1, rest⟩ := ⟨rfl, rfl⟩

end Cursor

/-! ### Digits -/

/-- Bytes that are digits. -/
structure IsDigits (digits : List Char) (bytes : List UInt8) (values : List Nat) : Prop where
  chars : ∀ c ∈ digits, c.isDigit
  bytes : bytes = digitBytes digits
  values : values = digitValues digits

theorem exists_digit {b : UInt8} (h : isDigit b) :
    ∃ c : Char, c.isDigit ∧ c.toNat.toUInt8 = b ∧ c.toNat - 48 = b.toNat - 48 := by
  have hb : 48 ≤ b.toNat ∧ b.toNat ≤ 57 := by
    simpa [isDigit, UInt8.le_iff_toNat_le] using h
  have hdigit : ∀ n < 58, 48 ≤ n → (Char.ofNat n).isDigit ∧ (Char.ofNat n).toNat = n := by decide
  obtain ⟨hchar, hnat⟩ := hdigit b.toNat (by omega) hb.1
  refine ⟨Char.ofNat b.toNat, hchar, ?_, by rw [hnat]⟩
  rw [hnat]
  exact UInt8.ofNat_toNat

theorem isNumberByte_of_isDigit {b : UInt8} (h : isDigit b) : isNumberByte b := by
  simp [isNumberByte, h]

theorem IsDigits.isNumberByte {digits : List Char} {bytes : List UInt8} {values : List Nat}
    (h : IsDigits digits bytes values) : ∀ b ∈ bytes, isNumberByte b := by
  rw [h.bytes, digitBytes, List.forall_mem_map]
  exact fun c hc => isNumberByte_of_isDigit (isDigit_toUInt8 (h.chars c hc))

namespace Cursor

/-- Digits are read as far as they go. -/
theorem exists_of_digitsFrom {offset : Nat} {rest : List UInt8} {values : List Nat} {after : Cursor}
    (h : digitsFrom offset rest = (values, after)) :
    ∃ digits bytes, IsDigits digits bytes values ∧ Moves ⟨offset, rest⟩ bytes after := by
  induction rest generalizing offset values with
  | nil =>
    cases h
    exact ⟨[], [], ⟨by simp, rfl, rfl⟩, .refl _⟩
  | cons b rest ih =>
    rw [digitsFrom] at h
    split at h
    · next hb =>
      generalize hread : digitsFrom (offset + 1) rest = result at h
      obtain ⟨values', after'⟩ := result
      cases h
      obtain ⟨digits, bytes, hdigits, hmoves⟩ := ih hread
      obtain ⟨c, hc, hbyte, hvalue⟩ := exists_digit hb
      refine ⟨c :: digits, b :: bytes, ⟨?_, ?_, ?_⟩, (moves_cons offset b rest).trans hmoves⟩
      · exact List.forall_mem_cons.mpr ⟨hc, hdigits.chars⟩
      · rw [hdigits.bytes, digitBytes, digitBytes, List.map_cons, hbyte]
      · rw [hdigits.values, digitValues, digitValues, List.map_cons, hvalue]
    · cases h
      exact ⟨[], [], ⟨by simp, rfl, rfl⟩, .refl _⟩

end Cursor

/-! ### What is an integer by how it is written -/

theorem digitBytes_eq_encode {digits : List Char} (h : ∀ c ∈ digits, c.isDigit) :
    digitBytes digits = Utf8.encode digits := by
  refine (Utf8.encode_ascii ?_).symm
  intro c hc
  have hdigit := toNat_of_isDigit (h c hc)
  omega

theorem eq_of_digitBytes_eq {digits digits' : List Char} {n : Nat}
    (h : DenotesNat digits' n) (hdigits : ∀ c ∈ digits, c.isDigit)
    (heq : digitBytes digits' = digitBytes digits) : digits' = digits := by
  rw [digitBytes_eq_encode h.chars, digitBytes_eq_encode hdigits] at heq
  exact Utf8.encode_injective heq

theorem minus_not_mem_digitBytes {digits : List Char} (h : ∀ c ∈ digits, c.isDigit) :
    0x2D ∉ digitBytes digits := by
  intro hmem
  obtain ⟨c, hc, hbyte⟩ := List.mem_map.mp hmem
  have hdigit := isDigit_toUInt8 (h c hc)
  rw [hbyte] at hdigit
  exact absurd hdigit (by decide)

theorem writesInt_digitBytes_iff {digits : List Char} {n : Int} (h : ∀ c ∈ digits, c.isDigit) :
    WritesInt (digitBytes digits) n ↔ ∃ k, DenotesNat digits k ∧ n = k := by
  constructor
  · generalize hbytes : digitBytes digits = bytes
    intro hwrites
    cases hwrites with
    | natural hk =>
      obtain rfl := eq_of_digitBytes_eq hk h hbytes.symm
      exact ⟨_, hk, rfl⟩
    | negative hk =>
      exact absurd (hbytes ▸ List.mem_cons_self) (minus_not_mem_digitBytes h)
  · rintro ⟨k, hk, rfl⟩
    exact .natural hk

theorem writesInt_minus_iff {digits : List Char} {n : Int} (h : ∀ c ∈ digits, c.isDigit) :
    WritesInt (0x2D :: digitBytes digits) n ↔
      ∃ k, DenotesNat digits k ∧ k ≠ 0 ∧ n = -(k : Int) := by
  constructor
  · generalize hbytes : 0x2D :: digitBytes digits = bytes
    intro hwrites
    cases hwrites with
    | natural hk =>
      exact absurd (hbytes ▸ List.mem_cons_self) (minus_not_mem_digitBytes hk.chars)
    | negative hk hne =>
      obtain rfl := eq_of_digitBytes_eq hk h (List.cons.inj hbytes).2.symm
      exact ⟨_, hk, hne, rfl⟩
  · rintro ⟨k, hk, hne, rfl⟩
    exact .negative hk hne

/-- The text of an integer writes it. -/
theorem writesInt_toString (n : Int) : WritesInt (Utf8.bytes (toString n)) n := by
  cases n with
  | ofNat n =>
    rw [show toString (Int.ofNat n) = toString n from rfl, Number.bytes_toString]
    exact .natural (denotesNat_toDigits n)
  | negSucc n =>
    rw [Number.bytes_negSucc]
    exact .negative (denotesNat_toDigits (n + 1)) n.succ_ne_zero

/-- What is written as an integer has nothing in it but digits and a minus sign. -/
theorem WritesInt.forall_mem {bytes : List UInt8} {n : Int} (h : WritesInt bytes n) :
    ∀ b ∈ bytes, isDigit b ∨ b = 0x2D := by
  have hdigits {digits : List Char} {k : Nat} (hk : DenotesNat digits k) :
      ∀ b ∈ digitBytes digits, isDigit b ∨ b = 0x2D :=
    List.forall_mem_map.mpr fun c hc => .inl (isDigit_toUInt8 (hk.chars c hc))
  cases h with
  | natural hk => exact hdigits hk
  | negative hk => exact List.forall_mem_cons.mpr ⟨.inr rfl, hdigits hk⟩

namespace Number

/-! ### The parts of a number -/

/-- Digits are put onto a significand to the last of them if they make no number that is too
great. -/
theorem absorb_left_eq_nil_iff {digits : List Char} {k : Nat} (hk : k ≤ greatest) :
    (absorb k (digitValues digits)).2 = [] ↔ Nat.ofDigitChars 10 digits k ≤ greatest := by
  constructor
  · induction digits generalizing k with
    | nil => exact fun _ => hk
    | cons c digits ih =>
      rw [Nat.ofDigitChars_cons, Nat.mul_comm 10]
      simp only [digitValues, List.map_cons, absorb]
      split
      · next hle => exact ih hle
      · intro h
        cases h
  · intro h
    rw [absorb_digitValues k h]

theorem ofInteger_eq_int_iff {negative : Bool} {k : Nat} {n : Int} :
    ofInteger negative k = .int n ↔
      negative = false ∧ n = k ∨ negative = true ∧ k ≠ 0 ∧ k ≤ 2 ^ 63 ∧ n = -(k : Int) := by
  rw [ofInteger]
  cases negative with
  | false => simp [eq_comm]
  | true =>
    by_cases hk : 1 ≤ k ∧ k ≤ 2 ^ 63
    · simp [hk, Nat.pos_iff_ne_zero.mp hk.1, eq_comm]
    · have hnot : ¬(k ≠ 0 ∧ k ≤ 2 ^ 63 ∧ n = -(k : Int)) :=
        fun h => hk ⟨Nat.pos_of_ne_zero h.1, h.2.1⟩
      simp [hk, hnot]

/-- Which numbers are integers: those without fraction and exponent whose digits make no number
that is too great. -/
theorem value_eq_int_iff {p : Parts} {digits : List Char} (hwhole : p.whole = digitValues digits)
    {n : Int} : p.value = .ok (.int n) ↔ p.hasFraction = false ∧ p.exponent = none ∧
      Nat.ofDigitChars 10 digits 0 ≤ greatest ∧
      ofInteger p.negative (Nat.ofDigitChars 10 digits 0) = .int n := by
  have hleft : (absorb 0 (digitValues digits)).2 = [] ↔ Nat.ofDigitChars 10 digits 0 ≤ greatest :=
    absorb_left_eq_nil_iff (Nat.zero_le greatest)
  rw [Parts.value, hwhole]
  by_cases hint : p.hasFraction = false ∧ p.exponent = none ∧
      Nat.ofDigitChars 10 digits 0 ≤ greatest
  · obtain ⟨hfraction, hexponent, hle⟩ := hint
    simp [hfraction, hexponent, hle, absorb_digitValues 0 hle]
  · refine iff_of_false ?_ fun h => hint ⟨h.1, h.2.1, h.2.2.1⟩
    have hnot : ¬(p.hasFraction = false ∧ p.exponent = none ∧
        (absorb 0 (digitValues digits)).2 = []) := by
      rwa [hleft]
    generalize absorb 0 (digitValues digits) = read at hnot ⊢
    obtain ⟨significand, left⟩ := read
    dsimp only at hnot ⊢
    rw [if_neg (by simpa [and_assoc] using hnot)]
    -- what is not exact is a floating-point number or none at all
    repeat' split
    all_goals simp

variable {c after : Cursor}

/-- The whole part is digits. -/
theorem exists_of_scanWhole {values : List Nat} (h : scanWhole c = .ok (values, after)) :
    ∃ digits bytes, IsDigits digits bytes values ∧ digits ≠ [] ∧ c.Moves bytes after := by
  obtain ⟨offset, rest⟩ := c
  rw [scanWhole] at h
  cases rest with
  | nil => cases h
  | cons b rest =>
    dsimp only at h
    split at h
    · next hzero =>
      split at h
      · cases h
      · cases h
        refine ⟨['0'], [b], ⟨List.forall_mem_singleton.mpr rfl, ?_, rfl⟩, by simp,
          Cursor.moves_cons offset b rest⟩
        rw [hzero]
        rfl
    split at h
    · next hb =>
      rw [Except.ok.injEq, Cursor.digits] at h
      obtain ⟨digits, bytes, hdigits, hmoves⟩ := Cursor.exists_of_digitsFrom h
      refine ⟨digits, bytes, hdigits, ?_, hmoves⟩
      rintro rfl
      have hvalues : (Cursor.digitsFrom offset (b :: rest)).1 = [] := by
        rw [h, hdigits.values]
        rfl
      simp [Cursor.digitsFrom, hb] at hvalues
    · cases h

/-- A part of a number that may be missing. If it is there, it has a byte that no integer has. -/
structure IsTail (present : Bool) (bytes : List UInt8) : Prop where
  number : ∀ b ∈ bytes, isNumberByte b
  absent : present = false → bytes = []
  mark : present = true → ∃ b ∈ bytes, isDigit b = false ∧ b ≠ 0x2D

theorem isTail_nil : IsTail false [] := ⟨by simp, fun _ => rfl, nofun⟩

theorem exists_of_scanFraction {present : Bool} {values : List Nat}
    (h : scanFraction c = .ok (present, values, after)) :
    ∃ bytes, IsTail present bytes ∧ c.Moves bytes after := by
  obtain ⟨offset, rest⟩ := c
  rw [scanFraction] at h
  cases rest with
  | nil =>
    cases h
    exact ⟨[], isTail_nil, .refl _⟩
  | cons b rest =>
    dsimp only at h
    split at h
    · next hpoint =>
      generalize hread : Cursor.digits ⟨offset + 1, rest⟩ = read at h
      obtain ⟨ds, last⟩ := read
      obtain ⟨digits, bytes, hdigits, hmoves⟩ := Cursor.exists_of_digitsFrom hread
      have htail : IsTail true ([b] ++ bytes) := by
        refine ⟨?_, by simp, fun _ => ⟨b, by simp, by rw [hpoint]; decide⟩⟩
        refine List.forall_mem_cons.mpr ⟨by rw [hpoint]; decide, hdigits.isNumberByte⟩
      split at h
      · split at h <;> cases h
      · next heq =>
        cases heq
        cases h
        exact ⟨_, htail, (Cursor.moves_cons offset b rest).trans hmoves⟩
    · cases h
      exact ⟨[], isTail_nil, .refl _⟩

/-- The sign of an exponent may be missing. -/
theorem exists_sign (offset : Nat) (b : UInt8) (rest : List UInt8) :
    ∃ sign, (∀ s ∈ sign, isNumberByte s) ∧ Cursor.Moves ⟨offset, b :: rest⟩ ([b] ++ sign)
      (match rest with
        | 0x2B :: r => (false, (⟨offset + 2, r⟩ : Cursor))
        | 0x2D :: r => (true, ⟨offset + 2, r⟩)
        | r => (false, ⟨offset + 1, r⟩)).2 := by
  split
  · exact ⟨[0x2B], List.forall_mem_singleton.mpr rfl, rfl, rfl⟩
  · exact ⟨[0x2D], List.forall_mem_singleton.mpr rfl, rfl, rfl⟩
  · exact ⟨[], by simp, Cursor.moves_cons offset b rest⟩

theorem exists_of_scanExponent {exponent : Option (Bool × Nat × List Nat)}
    (h : scanExponent c = .ok (exponent, after)) :
    ∃ bytes, IsTail exponent.isSome bytes ∧ c.Moves bytes after := by
  obtain ⟨offset, rest⟩ := c
  rw [scanExponent] at h
  cases rest with
  | nil =>
    cases h
    exact ⟨[], isTail_nil, .refl _⟩
  | cons b rest =>
    dsimp only at h
    split at h
    · next hletter =>
      have hmark : isNumberByte b ∧ isDigit b = false ∧ b ≠ 0x2D := by
        rcases hletter with rfl | rfl <;> decide
      obtain ⟨sign, hsign, hstart⟩ := exists_sign offset b rest
      split at h
      · obtain ⟨-, h⟩ | ⟨-, h⟩ := ite_eq_iff.mp h <;> cases h
      · next hread =>
        cases h
        obtain ⟨digits, bytes, hdigits, hmoves⟩ := Cursor.exists_of_digitsFrom hread
        refine ⟨_, ⟨?_, by simp, fun _ => ⟨b, by simp, hmark.2⟩⟩, hstart.trans hmoves⟩
        rw [List.forall_mem_append, List.forall_mem_append, List.forall_mem_singleton]
        exact ⟨⟨hmark.1, hsign⟩, hdigits.isNumberByte⟩
    · cases h
      exact ⟨[], isTail_nil, .refl _⟩

/-- What a number is by how it is written. -/
structure Spells (bytes : List UInt8) (reading : Reading Number) : Prop where
  number : ∀ b ∈ bytes, isNumberByte b
  integer : ∀ n, reading = .ok (.int n) ↔ WritesInt bytes n ∧ Fits n

/-- A minus sign, or none. -/
def minus (negative : Bool) : List UInt8 := if negative then [0x2D] else []

theorem writesInt_iff {negative : Bool} {digits : List Char} (hne : digits ≠ [])
    (hdigits : ∀ c ∈ digits, c.isDigit) {n : Int} :
    WritesInt (minus negative ++ digitBytes digits) n ∧ Fits n ↔
      Nat.ofDigitChars 10 digits 0 ≤ greatest ∧
        ofInteger negative (Nat.ofDigitChars 10 digits 0) = .int n := by
  have hdenotes {k : Nat} : DenotesNat digits k ↔ Nat.ofDigitChars 10 digits 0 = k :=
    ⟨fun h => h.value, fun h => ⟨hne, hdigits, h⟩⟩
  rw [ofInteger_eq_int_iff, greatest, Fits]
  cases negative with
  | false =>
    rw [minus, if_neg (by decide), List.nil_append, writesInt_digitBytes_iff hdigits]
    simp only [hdenotes, exists_eq_left', true_and, Bool.false_eq_true, false_and, or_false]
    omega
  | true =>
    rw [minus, if_pos rfl, List.singleton_append, writesInt_minus_iff hdigits]
    simp only [hdenotes, exists_eq_left', Bool.true_eq_false, false_and, true_and, false_or]
    omega

/-- What the parts of a number make of it. -/
theorem spells_parts {p : Parts} {digits : List Char} {whole fraction exponent : List UInt8}
    (hdigits : IsDigits digits whole p.whole) (hne : digits ≠ [])
    (hfraction : IsTail p.hasFraction fraction) (hexponent : IsTail p.exponent.isSome exponent) :
    Spells (minus p.negative ++ whole ++ fraction ++ exponent) p.value where
  number := by
    simp only [List.forall_mem_append]
    refine ⟨⟨⟨?_, hdigits.isNumberByte⟩, hfraction.number⟩, hexponent.number⟩
    cases p.negative with
    | false => simp [minus]
    | true => exact List.forall_mem_singleton.mpr rfl
  integer := by
    intro n
    rw [value_eq_int_iff hdigits.values]
    by_cases htails : p.hasFraction = false ∧ p.exponent = none
    · obtain ⟨hno, hnone⟩ := htails
      rw [hfraction.absent hno, hexponent.absent (by rw [hnone]; rfl), List.append_nil,
        List.append_nil, hdigits.bytes, writesInt_iff hne hdigits.chars]
      simp [hno, hnone]
    · have hmark : ∃ b ∈ fraction ++ exponent, isDigit b = false ∧ b ≠ 0x2D := by
        by_cases hno : p.hasFraction = false
        · have hsome : p.exponent.isSome = true :=
            Option.isSome_iff_ne_none.mpr fun hnone => htails ⟨hno, hnone⟩
          obtain ⟨b, hb, hb'⟩ := hexponent.mark hsome
          exact ⟨b, List.mem_append_right _ hb, hb'⟩
        · obtain ⟨b, hb, hb'⟩ := hfraction.mark (Bool.not_eq_false _ ▸ hno)
          exact ⟨b, List.mem_append_left _ hb, hb'⟩
      obtain ⟨b, hb, hdigit, hsign⟩ := hmark
      refine iff_of_false (fun h => htails ⟨h.1, h.2.1⟩) ?_
      rintro ⟨hwrites, -⟩
      have hmem : b ∈ minus p.negative ++ whole ++ fraction ++ exponent := by
        rw [List.append_assoc]
        exact List.mem_append_right _ hb
      rcases hwrites.forall_mem b hmem with h | h
      · rw [hdigit] at h
        cases h
      · exact hsign h

theorem exists_minus (c : Cursor) :
    let start := match c.rest with
      | 0x2D :: rest => (true, (⟨c.offset + 1, rest⟩ : Cursor))
      | _ => (false, c)
    c.Moves (minus start.1) start.2 := by
  obtain ⟨offset, rest⟩ := c
  dsimp only
  split
  · exact Cursor.moves_cons offset _ _
  · exact .refl _

/-- **What a number is.** It is an integer exactly if it is written as one that fits. -/
theorem exists_of_scan {reading : Reading Number} (h : scan c = .ok (reading, after)) :
    ∃ bytes, Spells bytes reading ∧ c.Moves bytes after := by
  have hminus := exists_minus c
  rw [scan] at h
  simp only [bind, Except.bind, pure, Except.pure] at h
  split at h
  · cases h
  next whole hwhole =>
  split at h
  · cases h
  next fraction hfraction =>
  split at h
  · cases h
  next exponent hexponent =>
  cases h
  obtain ⟨digits, bytes, hdigits, hne, hmoves⟩ := exists_of_scanWhole hwhole
  obtain ⟨_, htail, hmoves'⟩ := exists_of_scanFraction hfraction
  obtain ⟨_, htail', hmoves''⟩ := exists_of_scanExponent hexponent
  exact ⟨_, spells_parts hdigits hne htail htail',
    ((hminus.trans hmoves).trans hmoves').trans hmoves''⟩

end Number

end ImageBot.Json
