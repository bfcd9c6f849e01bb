import ImageBot.Text.Utf8
/-!
# Reading what was written as UTF-8

The bytes of a character are read back as this character, whatever comes behind them. So
every text is read back from its bytes, and no two texts have the same bytes. No other bytes
are read as a text.
-/
namespace ImageBot.Text.Utf8

theorem isValidChar_toNat (c : Char) :
    c.toNat < 0xD800 ∨ 0xDFFF < c.toNat ∧ c.toNat < 0x110000 := c.valid

/-- The first byte of two, and what may come second. -/
theorem form?_two {n : Nat} (hl : 0x80 ≤ n) (hu : n < 0x800) :
    form? (0xC0 + n / 0x40) = some (1, 0x80, 0xBF) := by
  rw [form?]
  rw [if_neg (by omega), if_pos (by omega)]

/-- The first byte of three, and what may come second. -/
theorem form?_three {n : Nat} (hl : 0x800 ≤ n) (hu : n < 0x10000)
    (hs : n < 0xD800 ∨ 0xDFFF < n) :
    ∃ low high, form? (0xE0 + n / 0x1000) = some (2, low, high) ∧
      low ≤ 0x80 + n / 0x40 % 0x40 ∧ 0x80 + n / 0x40 % 0x40 ≤ high := by
  rw [form?]
  rw [if_neg (by omega), if_neg (by omega)]
  by_cases h0 : n / 0x1000 = 0
  · rw [if_pos (by omega)]
    exact ⟨0xA0, 0xBF, rfl, by omega, by omega⟩
  · rw [if_neg (by omega)]
    by_cases hd : n / 0x1000 = 0xD
    · rw [if_pos (by omega)]
      exact ⟨0x80, 0x9F, rfl, by omega, by omega⟩
    · rw [if_neg (by omega), if_pos (by omega)]
      exact ⟨0x80, 0xBF, rfl, by omega, by omega⟩

/-- The first byte of four, and what may come second. -/
theorem form?_four {n : Nat} (hl : 0x10000 ≤ n) (hu : n < 0x110000) :
    ∃ low high, form? (0xF0 + n / 0x40000) = some (3, low, high) ∧
      low ≤ 0x80 + n / 0x1000 % 0x40 ∧ 0x80 + n / 0x1000 % 0x40 ≤ high := by
  rw [form?]
  rw [if_neg (by omega), if_neg (by omega), if_neg (by omega), if_neg (by omega),
    if_neg (by omega)]
  by_cases h0 : n / 0x40000 = 0
  · rw [if_pos (by omega)]
    exact ⟨0x90, 0xBF, rfl, by omega, by omega⟩
  · rw [if_neg (by omega)]
    by_cases h4 : n / 0x40000 = 4
    · rw [if_neg (by omega), if_pos (by omega)]
      exact ⟨0x80, 0x8F, rfl, by omega, by omega⟩
    · rw [if_pos (by omega)]
      exact ⟨0x80, 0xBF, rfl, by omega, by omega⟩

theorem toNat_toUInt8 {n : Nat} (h : n < 256) : n.toUInt8.toNat = n := by
  simp [Nat.mod_eq_of_lt h]

theorem not_toUInt8_lt {n : Nat} (hl : 0x80 ≤ n) (hu : n < 256) : ¬n.toUInt8 < 0x80 := by
  rw [UInt8.lt_iff_toNat_lt, toNat_toUInt8 hu]
  exact Nat.not_lt.mpr hl

/-- A continuation byte in bounds is taken onto the value. -/
theorem continuation_succ {n low high value k : Nat} {rest : List UInt8} (hl : low ≤ 0x80 + k)
    (hh : 0x80 + k ≤ high) (hk : k < 0x40) :
    continuation (n + 1) low high value ((0x80 + k).toUInt8 :: rest) =
      ((continuation n 0x80 0xBF (value * 0x40 + k) rest).1,
        (continuation n 0x80 0xBF (value * 0x40 + k) rest).2 + 1) := by
  have hb : (0x80 + k).toUInt8.toNat = 0x80 + k := toNat_toUInt8 (by omega)
  have hm : (0x80 + k) % 0x40 = k := by omega
  simp only [continuation, hb, hl, hh, and_self, if_true, hm]

theorem step_one {n : Nat} (h : n < 0x80) (rest : List UInt8) :
    step n.toUInt8 rest = (some (Char.ofNat n), 0) := by
  have hlt : n.toUInt8 < 0x80 := by
    rw [UInt8.lt_iff_toNat_lt, toNat_toUInt8 (by omega)]
    exact h
  rw [step, if_pos hlt, toNat_toUInt8 (by omega)]

theorem step_two {n : Nat} (hl : 0x80 ≤ n) (hu : n < 0x800) (rest : List UInt8) :
    step (0xC0 + n / 0x40).toUInt8 ((0x80 + n % 0x40).toUInt8 :: rest) =
      (some (Char.ofNat n), 1) := by
  have hvalue : (0xC0 + n / 0x40) % 0x20 * 0x40 + n % 0x40 = n := by omega
  rw [step, if_neg (not_toUInt8_lt (by omega) (by omega)), toNat_toUInt8 (by omega),
    form?_two hl hu]
  simp only [if_true]
  rw [continuation_succ (by omega) (by omega) (by omega), hvalue]
  simp only [continuation, Option.map_some]

theorem step_three {n : Nat} (hl : 0x800 ≤ n) (hu : n < 0x10000) (hs : n < 0xD800 ∨ 0xDFFF < n)
    (rest : List UInt8) :
    step (0xE0 + n / 0x1000).toUInt8
        ((0x80 + n / 0x40 % 0x40).toUInt8 :: (0x80 + n % 0x40).toUInt8 :: rest) =
      (some (Char.ofNat n), 2) := by
  obtain ⟨low, high, hform, hlow, hhigh⟩ := form?_three hl hu hs
  have hvalue : ((0xE0 + n / 0x1000) % 0x10 * 0x40 + n / 0x40 % 0x40) * 0x40 + n % 0x40 = n := by
    omega
  rw [step, if_neg (not_toUInt8_lt (by omega) (by omega)), toNat_toUInt8 (by omega), hform]
  simp only [if_true]
  rw [if_neg (by omega), continuation_succ hlow hhigh (by omega),
    continuation_succ (by omega) (by omega) (by omega), hvalue]
  simp only [continuation, Option.map_some]

theorem step_four {n : Nat} (hl : 0x10000 ≤ n) (hu : n < 0x110000) (rest : List UInt8) :
    step (0xF0 + n / 0x40000).toUInt8
        ((0x80 + n / 0x1000 % 0x40).toUInt8 :: (0x80 + n / 0x40 % 0x40).toUInt8 ::
          (0x80 + n % 0x40).toUInt8 :: rest) =
      (some (Char.ofNat n), 3) := by
  obtain ⟨low, high, hform, hlow, hhigh⟩ := form?_four hl hu
  have hvalue : (((0xF0 + n / 0x40000) % 0x08 * 0x40 + n / 0x1000 % 0x40) * 0x40 +
      n / 0x40 % 0x40) * 0x40 + n % 0x40 = n := by omega
  rw [step, if_neg (not_toUInt8_lt (by omega) (by omega)), toNat_toUInt8 (by omega), hform]
  simp only
  rw [if_neg (by omega), if_neg (by omega), continuation_succ hlow hhigh (by omega),
    continuation_succ (by omega) (by omega) (by omega),
    continuation_succ (by omega) (by omega) (by omega), hvalue]
  simp only [continuation, Option.map_some]

/-- The bytes of a character are read back as this character. -/
theorem step_encodeChar (c : Char) (rest : List UInt8) :
    ∃ a more, encodeChar c = a :: more ∧ step a (more ++ rest) = (some c, more.length) := by
  have hc := isValidChar_toNat c
  have hofNat : Char.ofNat c.toNat = c := Char.ofNat_toNat c
  rw [encodeChar]
  by_cases h1 : c.toNat < 0x80
  · rw [if_pos h1]
    refine ⟨_, _, rfl, ?_⟩
    rw [step_one h1, hofNat]
    rfl
  · rw [if_neg h1]
    by_cases h2 : c.toNat < 0x800
    · rw [if_pos h2]
      refine ⟨_, _, rfl, ?_⟩
      rw [List.cons_append, step_two (by omega) h2, hofNat]
      rfl
    · rw [if_neg h2]
      by_cases h3 : c.toNat < 0x10000
      · rw [if_pos h3]
        refine ⟨_, _, rfl, ?_⟩
        rw [List.cons_append, List.cons_append, step_three (by omega) h3 (by omega), hofNat]
        rfl
      · rw [if_neg h3]
        refine ⟨_, _, rfl, ?_⟩
        rw [List.cons_append, List.cons_append, List.cons_append,
          step_four (by omega) (by omega), hofNat]
        rfl

/-- What the first byte of a longer character says about those behind it. -/
theorem form?_bounds {a n low high : Nat} (h : form? a = some (n, low, high)) :
    0x80 ≤ low ∧ high ≤ 0xBF ∧
      (n = 1 ∧ 0xC2 ≤ a ∧ a < 0xE0 ∨
        n = 2 ∧ 0xE0 ≤ a ∧ a < 0xF0 ∧ (a = 0xE0 → 0xA0 ≤ low) ∧ (a = 0xED → high ≤ 0x9F) ∨
        n = 3 ∧ 0xF0 ≤ a ∧ a < 0xF5 ∧ (a = 0xF0 → 0x90 ≤ low) ∧ (a = 0xF4 → high ≤ 0x8F)) := by
  unfold form? at h
  repeat' split at h
  all_goals cases h
  all_goals omega

/-- A value that is taken on begins with a continuation byte in bounds. -/
theorem continuation_inv {n low high value w k : Nat} {rest : List UInt8} (hl : 0x80 ≤ low)
    (hh : high ≤ 0xBF) (h : continuation (n + 1) low high value rest = (some w, k)) :
    ∃ j more k', rest = (0x80 + j).toUInt8 :: more ∧ low ≤ 0x80 + j ∧ 0x80 + j ≤ high ∧
      j < 0x40 ∧ k = k' + 1 ∧ continuation n 0x80 0xBF (value * 0x40 + j) more = (some w, k') := by
  cases rest with
  | nil => simp [continuation] at h
  | cons b more =>
    rw [continuation] at h
    split at h
    case isFalse => simp at h
    case isTrue hb =>
      have hj : b.toNat % 0x40 = b.toNat - 0x80 := by omega
      obtain ⟨hw, rfl⟩ := Prod.mk.inj h
      refine ⟨b.toNat - 0x80, more, _, ?_, by omega, by omega, by omega, rfl, ?_⟩
      · rw [Nat.add_sub_cancel' (by omega)]
        simp
      · rw [← hj, ← hw]

theorem continuation_zero {low high value w k : Nat} {rest : List UInt8}
    (h : continuation 0 low high value rest = (some w, k)) : w = value ∧ k = 0 := by
  simpa [continuation, eq_comm] using h

theorem toNat_ofNat {n : Nat} (h : n < 0xD800 ∨ 0xDFFF < n ∧ n < 0x110000) :
    (Char.ofNat n).toNat = n := by
  have hn : n.isValidChar := h
  rw [Char.ofNat, dif_pos hn]
  rfl

/-- A byte is read as the beginning of a character only where the bytes of this character are. -/
theorem encodeChar_of_step {a : UInt8} {rest : List UInt8} {c : Char} {k : Nat}
    (h : step a rest = (some c, k)) : encodeChar c = a :: rest.take k := by
  have byte {n : Nat} (hn : n = a.toNat) : n.toUInt8 = a := by simp [hn]
  rw [step] at h
  split at h
  case isTrue hlt =>
    obtain ⟨hc, rfl⟩ := Prod.mk.inj h
    have hn : a.toNat < 0x80 := UInt8.lt_iff_toNat_lt.mp hlt
    rw [← Option.some.inj hc, encodeChar, toNat_ofNat (by omega), if_pos hn, byte rfl,
      List.take_zero]
  case isFalse =>
    split at h
    case h_1 => simp at h
    case h_2 n low high hform =>
      obtain ⟨hc, hk⟩ := Prod.mk.inj h
      obtain ⟨w, hw, rfl⟩ := Option.map_eq_some_iff.mp hc
      have hvalue := Prod.ext_iff.mpr (⟨hw, hk⟩ : _ = (some w, k).1 ∧ _ = (some w, k).2)
      obtain ⟨hl, hh, ⟨rfl, h1, h2⟩ | ⟨rfl, h1, h2, h3, h4⟩ | ⟨rfl, h1, h2, h3, h4⟩⟩ :=
        form?_bounds hform
      · obtain ⟨i, more, _, rfl, _, _, hi, rfl, hfirst⟩ := continuation_inv hl hh hvalue
        obtain ⟨rfl, rfl⟩ := continuation_zero hfirst
        rw [if_pos rfl, encodeChar, toNat_ofNat (by omega), if_neg (by omega), if_pos (by omega),
          byte (by omega), show (a.toNat % 0x20 * 0x40 + i) % 0x40 = i by omega]
        rfl
      · obtain ⟨i, _, _, rfl, _, _, hi, rfl, hfirst⟩ := continuation_inv hl hh hvalue
        obtain ⟨j, more, _, rfl, _, _, hj, rfl, hsecond⟩ :=
          continuation_inv (Nat.le_refl _) (Nat.le_refl _) hfirst
        obtain ⟨rfl, rfl⟩ := continuation_zero hsecond
        rw [if_neg (by omega), if_pos rfl, encodeChar, toNat_ofNat (by omega), if_neg (by omega),
          if_neg (by omega), if_pos (by omega), byte (by omega),
          show ((a.toNat % 0x10 * 0x40 + i) * 0x40 + j) / 0x40 % 0x40 = i by omega,
          show ((a.toNat % 0x10 * 0x40 + i) * 0x40 + j) % 0x40 = j by omega]
        rfl
      · obtain ⟨i, _, _, rfl, _, _, hi, rfl, hfirst⟩ := continuation_inv hl hh hvalue
        obtain ⟨j, _, _, rfl, _, _, hj, rfl, hsecond⟩ :=
          continuation_inv (Nat.le_refl _) (Nat.le_refl _) hfirst
        obtain ⟨m, more, _, rfl, _, _, hm, rfl, hthird⟩ :=
          continuation_inv (Nat.le_refl _) (Nat.le_refl _) hsecond
        obtain ⟨rfl, rfl⟩ := continuation_zero hthird
        rw [if_neg (by omega), if_neg (by omega), encodeChar, toNat_ofNat (by omega),
          if_neg (by omega), if_neg (by omega), if_neg (by omega), byte (by omega),
          show (((a.toNat % 0x08 * 0x40 + i) * 0x40 + j) * 0x40 + m) / 0x1000 % 0x40 = i by omega,
          show (((a.toNat % 0x08 * 0x40 + i) * 0x40 + j) * 0x40 + m) / 0x40 % 0x40 = j by omega,
          show (((a.toNat % 0x08 * 0x40 + i) * 0x40 + j) * 0x40 + m) % 0x40 = m by omega]
        rfl

@[simp] theorem encode_nil : encode [] = [] := rfl

@[simp] theorem encode_cons (c : Char) (s : List Char) :
    encode (c :: s) = encodeChar c ++ encode s := rfl

@[simp] theorem encode_append (s t : List Char) : encode (s ++ t) = encode s ++ encode t :=
  List.flatMap_append

/-- A text is read back from its bytes. -/
theorem decodeFrom_encode (start : Nat) (s : List Char) : decodeFrom start (encode s) = .ok s := by
  induction s generalizing start with
  | nil => rw [encode_nil, decodeFrom]
  | cons c s ih =>
    obtain ⟨a, more, hbytes, hstep⟩ := step_encodeChar c (encode s)
    rw [encode_cons, hbytes, List.cons_append, decodeFrom, hstep]
    simp only [List.drop_left, ih]

theorem decode_encode (s : List Char) : decode (encode s) = .ok s := decodeFrom_encode 0 s

/-- Bytes that are read as a text are those of this text. -/
theorem encode_of_decodeFrom {start : Nat} {b : List UInt8} {s : List Char}
    (h : decodeFrom start b = .ok s) : encode s = b := by
  induction start, b using decodeFrom.induct generalizing s with
  | case1 => simp_all [decodeFrom]
  | case2 start a rest hstep => simp [decodeFrom, hstep] at h
  | case3 start a rest c hstep cs hcs ih =>
    rw [decodeFrom, hstep] at h
    simp only [hcs, Except.ok.injEq] at h
    rw [← h, encode_cons, encodeChar_of_step (Prod.ext hstep rfl), ih hcs, List.cons_append,
      List.take_append_drop]
  | case4 start a rest c hstep n hn => simp [decodeFrom, hstep, hn] at h

theorem decode_eq_ok_iff {b : List UInt8} {s : List Char} : decode b = .ok s ↔ b = encode s := by
  constructor
  · exact fun h => (encode_of_decodeFrom h).symm
  · rintro rfl
    exact decode_encode s

/-- Where there are no faults none is replaced. -/
theorem decodeLossy_encode (s : List Char) : decodeLossy (encode s) = s := by
  induction s with
  | nil => rw [encode_nil, decodeLossy]
  | cons c s ih =>
    obtain ⟨a, more, hbytes, hstep⟩ := step_encodeChar c (encode s)
    rw [encode_cons, hbytes, List.cons_append, decodeLossy, hstep]
    simp only [Option.getD_some, List.drop_left, ih]

theorem textLossy_bytes (s : String) : textLossy (bytes s) = s := by
  rw [textLossy, bytes, decodeLossy_encode, String.ofList_toList]

/-- Different texts have different bytes. -/
theorem encode_injective {s t : List Char} (h : encode s = encode t) : s = t := by
  have hs := decode_encode s
  rw [h, decode_encode t] at hs
  exact (Except.ok.inj hs).symm

theorem bytes_injective {s t : String} (h : bytes s = bytes t) : s = t :=
  String.toList_injective (encode_injective h)

/-- What holds of all ASCII codes holds of all ASCII characters. -/
theorem forall_ascii {p : Char → Prop} (h : ∀ n < 0x80, p (Char.ofNat n)) :
    ∀ c : Char, c.toNat < 0x80 → p c := by
  intro c hc
  have hp := h c.toNat hc
  rwa [Char.ofNat_toNat] at hp

/-- ASCII characters are their own bytes. -/
theorem encode_ascii {s : List Char} (h : ∀ c ∈ s, c.toNat < 0x80) :
    encode s = s.map fun c => c.toNat.toUInt8 := by
  induction s with
  | nil => rfl
  | cons c s ih =>
    have hc : encodeChar c = [c.toNat.toUInt8] := if_pos (h c List.mem_cons_self)
    rw [encode_cons, hc, ih fun c hm => h c (List.mem_cons_of_mem _ hm)]
    rfl

end ImageBot.Text.Utf8
