import ImageBot.Decimal.Integer
import ImageBot.Proofs.Json.Numbers
import Mathlib.Logic.Basic
/-!
# Which texts are integers

The digits are read from left to right and the bound is checked at each of them, but what has been
read so far is never more than what all of the digits tell. So the texts that are read are those
of digits alone whose number is within the bound.
-/
namespace ImageBot.Decimal

/-- Digits that are the number `n`. -/
structure DenotesNat (digits : List Char) (n : Nat) : Prop where
  nonempty : digits ≠ []
  chars : ∀ c ∈ digits, c.isDigit
  value : Nat.ofDigitChars 10 digits 0 = n

theorem digit?_eq_some_iff {c : Char} {d : Nat} :
    digit? c = some d ↔ c.isDigit ∧ c.toNat - '0'.toNat = d := by
  have hdigit : ('0' ≤ c ∧ c ≤ '9') ↔ c.isDigit := by
    rw [Char.isDigit, Bool.and_eq_true, decide_eq_true_eq, decide_eq_true_eq]
    rfl
  rw [digit?, if_congr hdigit rfl rfl, Option.ite_none_right_eq_some, Option.some.injEq]

/-- Digits are read onto a value that is within the bound exactly if what they make of it is. -/
theorem readDigits_eq_ok_iff {limit value n : Nat} {overflow : IntegerFault} {s : List Char}
    (hvalue : value ≤ limit) : readDigits limit overflow value s = .ok n ↔
      (∀ c ∈ s, c.isDigit) ∧ Nat.ofDigitChars 10 s value = n ∧ n ≤ limit := by
  induction s generalizing value with
  | nil =>
    rw [readDigits, Except.ok.injEq, Nat.ofDigitChars_nil]
    constructor
    · rintro rfl
      exact ⟨fun c hc => absurd hc List.not_mem_nil, rfl, hvalue⟩
    · exact fun h => h.2.1
  | cons c s ih =>
    rw [readDigits, List.forall_mem_cons, Nat.ofDigitChars_cons]
    cases hc : digit? c with
    | none =>
      have hnot : ¬c.isDigit := by
        intro h
        cases hc.symm.trans (digit?_eq_some_iff.mpr ⟨h, rfl⟩)
      simp [hnot]
    | some d =>
      obtain ⟨hdigit, rfl⟩ := digit?_eq_some_iff.mp hc
      have hle := Json.Number.le_ofDigitChars s (10 * value + (c.toNat - '0'.toNat))
      simp only [Nat.mul_comm value]
      split
      · next hbound => rw [ih hbound, and_iff_right hdigit]
      · next hbound =>
        have hover (h : Nat.ofDigitChars 10 s (10 * value + (c.toNat - '0'.toNat)) = n) :
            ¬n ≤ limit := by omega
        constructor
        · intro h
          cases h
        · rintro ⟨-, h, hn⟩
          exact absurd hn (hover h)

theorem denotesNat_toDigits (n : Nat) : DenotesNat (Nat.toDigits 10 n) n where
  nonempty := Nat.toDigits_ne_nil
  chars _ hc := Nat.isDigit_of_mem_toDigits (by decide) (by decide) hc
  value := Nat.ofDigitChars_ten_toDigits

/-- Digits are read if their number is within the bound. -/
theorem readDigits_zero_eq_ok_iff {limit n : Nat} {overflow : IntegerFault} {digits : List Char}
    (hne : digits ≠ []) :
    readDigits limit overflow 0 digits = .ok n ↔ DenotesNat digits n ∧ n ≤ limit := by
  rw [readDigits_eq_ok_iff (Nat.zero_le limit)]
  constructor
  · rintro ⟨hall, hvalue, hn⟩
    exact ⟨⟨hne, hall, hvalue⟩, hn⟩
  · rintro ⟨⟨-, hall, hvalue⟩, hn⟩
    exact ⟨hall, hvalue, hn⟩

/-- A sign is no digit. -/
theorem DenotesNat.isDigit_head {c : Char} {rest : List Char} {n : Nat}
    (h : DenotesNat (c :: rest) n) : c.isDigit :=
  h.chars c List.mem_cons_self

/-- A natural number is read from digits within the bound and nothing else, apart from a plus sign
in front. -/
theorem readNat_eq_ok_iff {limit n : Nat} {s : List Char} : readNat limit s = .ok n ↔
    ∃ digits, (s = digits ∨ s = '+' :: digits) ∧ DenotesNat digits n ∧ n ≤ limit := by
  have hplus (rest : List Char) (m : Nat) : ¬DenotesNat ('+' :: rest) m :=
    fun h => absurd h.isDigit_head (by decide)
  unfold readNat
  split
  · constructor
    · intro h
      cases h
    · rintro ⟨digits, hs | hs, hdenotes, -⟩
      · exact absurd hs.symm hdenotes.nonempty
      · cases hs
  · next digits =>
    constructor
    · intro h
      split at h
      · cases h
      · next hne => exact ⟨digits, .inr rfl, (readDigits_zero_eq_ok_iff (by simpa using hne)).mp h⟩
    · rintro ⟨digits', rfl | hs, hdenotes⟩
      · exact absurd hdenotes.1 (hplus digits n)
      · obtain rfl := (List.cons.inj hs).2
        rw [if_neg (by simpa using hdenotes.1.nonempty)]
        exact (readDigits_zero_eq_ok_iff hdenotes.1.nonempty).mpr hdenotes
  · next hne hsign =>
    rw [readDigits_zero_eq_ok_iff hne]
    constructor
    · intro h
      exact ⟨s, .inl rfl, h⟩
    · rintro ⟨digits, rfl | rfl, hdenotes⟩
      · exact hdenotes
      · exact absurd rfl (hsign digits)

/-- A text that is a decimal integer: digits, perhaps behind one sign. -/
inductive DenotesInt : List Char → Int → Prop
  | bare {digits : List Char} {n : Nat} (h : DenotesNat digits n) : DenotesInt digits n
  | plus {digits : List Char} {n : Nat} (h : DenotesNat digits n) : DenotesInt ('+' :: digits) n
  | minus {digits : List Char} {n : Nat} (h : DenotesNat digits n) :
    DenotesInt ('-' :: digits) (-n)

/-- An integer is denoted by its text. -/
theorem denotesInt_toString (n : Int) : DenotesInt (toString n).toList n := by
  cases n with
  | ofNat n =>
    rw [show toString (Int.ofNat n) = toString n from rfl, Nat.toString_eq_ofList_toDigits,
      String.toList_ofList]
    exact .bare (denotesNat_toDigits n)
  | negSucc n =>
    rw [show toString (Int.negSucc n) = "-" ++ toString (n + 1) from rfl, String.toList_append,
      Nat.toString_eq_ofList_toDigits]
    simp only [String.toList_ofList]
    exact .minus (denotesNat_toDigits (n + 1))

theorem not_denotesInt_nil {n : Int} : ¬DenotesInt [] n := by
  rintro ⟨h⟩
  exact h.nonempty rfl

theorem denotesInt_minus_iff {digits : List Char} {n : Int} :
    DenotesInt ('-' :: digits) n ↔ ∃ k, DenotesNat digits k ∧ n = -(k : Int) := by
  constructor
  · intro h
    cases h with
    | bare h => exact absurd h.isDigit_head (by decide)
    | minus h => exact ⟨_, h, rfl⟩
  · rintro ⟨k, h, rfl⟩
    exact .minus h

theorem denotesInt_plus_iff {digits : List Char} {n : Int} :
    DenotesInt ('+' :: digits) n ↔ ∃ k, DenotesNat digits k ∧ n = k := by
  constructor
  · intro h
    cases h with
    | bare h => exact absurd h.isDigit_head (by decide)
    | plus h => exact ⟨_, h, rfl⟩
  · rintro ⟨k, h, rfl⟩
    exact .plus h

theorem denotesInt_bare_iff {s : List Char} {n : Int} (hminus : ∀ rest, s ≠ '-' :: rest)
    (hplus : ∀ rest, s ≠ '+' :: rest) : DenotesInt s n ↔ ∃ k, DenotesNat s k ∧ n = k := by
  constructor
  · intro h
    cases h with
    | bare h => exact ⟨_, h, rfl⟩
    | plus h => exact absurd rfl (hplus _)
    | minus h => exact absurd rfl (hminus _)
  · rintro ⟨k, h, rfl⟩
    exact .bare h

/-- What a sign makes of digits, if their number is within the bound of the sign. -/
theorem readDigits_map_eq_ok_iff {limit : Nat} {overflow : IntegerFault} {digits : List Char}
    {n : Int} (hne : digits ≠ []) (sign : Int → Int) :
    (readDigits limit overflow 0 digits >>= fun k => pure (k : Int)).map sign = .ok n ↔
      ∃ k, DenotesNat digits k ∧ k ≤ limit ∧ n = sign k := by
  constructor
  · intro h
    cases hread : readDigits limit overflow 0 digits with
    | error f =>
      rw [hread] at h
      cases h
    | ok k =>
      rw [hread] at h
      cases h
      obtain ⟨hk, hle⟩ := (readDigits_zero_eq_ok_iff hne).mp hread
      exact ⟨k, hk, hle, rfl⟩
  · rintro ⟨k, hk, hle, rfl⟩
    rw [(readDigits_zero_eq_ok_iff hne).mpr ⟨hk, hle⟩]
    rfl

theorem readSigned_eq_ok_iff {limit : Nat} {overflow : IntegerFault} {digits : List Char} {n : Int}
    (sign : Int → Int) : (if digits.isEmpty then .error .invalidDigit
      else (readDigits limit overflow 0 digits >>= fun k => pure (k : Int)).map sign) = .ok n ↔
      ∃ k, DenotesNat digits k ∧ k ≤ limit ∧ n = sign k := by
  by_cases hne : digits = []
  · subst hne
    constructor
    · intro h
      cases h
    · rintro ⟨k, h, -⟩
      exact absurd rfl h.nonempty
  · rw [if_neg (by simpa using hne), readDigits_map_eq_ok_iff hne]

/-- **Which texts are integers of some bits.** A text is read if it is a decimal integer in the
range, and as this integer. -/
theorem readInt_eq_ok_iff {bits : Nat} {s : List Char} {n : Int} : readInt bits s = .ok n ↔
    DenotesInt s n ∧ -(Nat.pow 2 (bits - 1) : Int) ≤ n ∧ n ≤ (Nat.pow 2 (bits - 1) : Int) - 1 := by
  have hpos : 0 < Nat.pow 2 (bits - 1) := Nat.pow_pos (by decide)
  unfold readInt
  split
  · exact iff_of_false nofun fun h => not_denotesInt_nil h.1
  · next digits =>
    rw [denotesInt_minus_iff]
    refine (readSigned_eq_ok_iff fun k => -k).trans ⟨?_, ?_⟩
    · rintro ⟨k, hk, hle, rfl⟩
      exact ⟨⟨k, hk, rfl⟩, by omega, by omega⟩
    · rintro ⟨⟨k, hk, rfl⟩, hlow, -⟩
      exact ⟨k, hk, by omega, rfl⟩
  · next digits =>
    rw [denotesInt_plus_iff]
    refine (readSigned_eq_ok_iff fun k => k).trans ⟨?_, ?_⟩
    · rintro ⟨k, hk, hle, rfl⟩
      exact ⟨⟨k, hk, rfl⟩, by omega, by omega⟩
    · rintro ⟨⟨k, hk, rfl⟩, -, hhigh⟩
      exact ⟨k, hk, by omega, rfl⟩
  · next hne hminus hplus =>
    rw [denotesInt_bare_iff hminus hplus]
    refine (readDigits_map_eq_ok_iff hne fun k => k).trans ⟨?_, ?_⟩
    · rintro ⟨k, hk, hle, rfl⟩
      exact ⟨⟨k, hk, rfl⟩, by omega, by omega⟩
    · rintro ⟨⟨k, hk, rfl⟩, -, hhigh⟩
      exact ⟨k, hk, by omega, rfl⟩

end ImageBot.Decimal
