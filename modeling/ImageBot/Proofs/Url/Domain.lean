import ImageBot.Proofs.Url.Percent
import ImageBot.Url.Parser
/-!
# The characters of a host

A host that was read has no characters in its text that would end it when it is read again:
no slash, no question mark, no number sign, and nothing that would be cut off.
-/
namespace ImageBot.Url

open Text

/-- Whether a character can stand in an authority: it does not end it, and is not cut off. -/
def isInner (c : Char) : Bool := 0x20 < c.toNat && !endsAuthority true c

/-- A text of which nothing ends an authority. -/
def AllInner (s : List Char) : Prop := ∀ c ∈ s, isInner c

instance (s : List Char) : Decidable (AllInner s) :=
  List.decidableBAll (fun c => isInner c = true) s

/-- What ends an authority is ASCII. -/
theorem isInner_of_le {c : Char} (h : 0x80 ≤ c.toNat) : isInner c := by
  have hne (d : Char) (hd : d.toNat < 0x80) : (c == d) = false := by
    rw [beq_eq_false_iff_ne]
    rintro rfl
    omega
  rw [isInner, endsAuthority, hne '/' (by decide), hne '?' (by decide), hne '#' (by decide),
    hne '\\' (by decide)]
  simp
  omega

namespace AllInner

variable {s t : List Char} {c : Char}

theorem nil : AllInner [] := fun _ h => absurd h List.not_mem_nil

theorem cons (hc : isInner c) (hs : AllInner s) : AllInner (c :: s) :=
  List.forall_mem_cons.mpr ⟨hc, hs⟩

theorem append (hs : AllInner s) (ht : AllInner t) : AllInner (s ++ t) :=
  List.forall_mem_append.mpr ⟨hs, ht⟩

theorem mono (hs : AllInner s) (h : ∀ c ∈ t, c ∈ s) : AllInner t := fun c hc => hs c (h c hc)

theorem flatten {l : List (List Char)} (h : ∀ s ∈ l, AllInner s) : AllInner l.flatten := by
  intro c hc
  obtain ⟨s, hs, hcs⟩ := List.mem_flatten.mp hc
  exact h s hs c hcs

theorem intercalate (hs : AllInner s) {l : List (List Char)} (hl : ∀ t ∈ l, AllInner t) :
    AllInner (s.intercalate l) := by
  induction l with
  | nil => exact nil
  | cons t l ih =>
    have ht := hl t List.mem_cons_self
    have hrest := ih fun u hu => hl u (List.mem_cons_of_mem _ hu)
    cases l with
    | nil => rwa [List.intercalate_singleton]
    | cons u l =>
      rw [List.intercalate_cons_cons]
      exact (ht.append hs).append hrest

/-- An encoded text can stand in an authority if the set has what cannot. -/
theorem encode {set : CharSet}
    (hset : ∀ c, c.toNat < 0x80 → set c.toNat = false → isInner c = true) (s : List Char) :
    AllInner (encode set s) :=
  forall_mem_encode hset (by decide) (by decide)

end AllInner

/-- Digits to a base up to 16 can stand in an authority. -/
theorem allInner_toDigits {base : Nat} (hb : 1 < base) (hle : base ≤ 16) (n : Nat) :
    AllInner (Nat.toDigits base n) := by
  have hdigit : ∀ k < 16, isInner (Nat.digitChar k) := by decide
  induction n using Nat.strongRecOn with
  | ind n ih =>
    rw [Nat.toDigits_eq_if hb]
    split
    · next h => exact .cons (hdigit n (by omega)) .nil
    · next h =>
      have hmod : n % base < base := Nat.mod_lt _ (by omega)
      exact (ih _ (Nat.div_lt_self (by omega) hb)).append (.cons (hdigit _ (by omega)) .nil)

theorem allInner_toString (n : Nat) : AllInner (toString n).toList := by
  rw [Nat.toString_eq_ofList_toDigits, String.toList_ofList]
  exact allInner_toDigits (by decide) (by decide) n

theorem Ipv4.allInner_text (address : Nat) : AllInner (text address).toList := by
  have hdot : AllInner (toString ".").toList := .cons (by decide) .nil
  have hpart (n : Nat) := allInner_toString (n % 256)
  simp only [text, String.toList_append]
  exact ((((((hpart _).append hdot).append (hpart _)).append hdot).append (hpart _)).append
    hdot).append (hpart _)

theorem Ipv6.allInner_text (pieces : List Nat) : AllInner (text pieces).toList := by
  have hcolon : AllInner ":".toList := by decide
  have hjoin (l : List Nat) : AllInner (String.intercalate ":" (l.map pieceText)).toList := by
    rw [String.toList_intercalate]
    refine .intercalate hcolon ?_
    intro t ht
    simp only [List.map_map, List.mem_map] at ht
    obtain ⟨n, -, rfl⟩ := ht
    rw [Function.comp_apply, pieceText, String.toList_ofList]
    exact allInner_toDigits (by decide) (by decide) n
  simp only [text]
  split
  · exact hjoin _
  · simp only [String.toList_append]
    exact ((hjoin _).append (.append hcolon hcolon)).append (hjoin _)

namespace Punycode

theorem isInner_digitChar {d : Nat} (h : d < 36) : isInner (digitChar d) := by
  have hall : ∀ d < 36, isInner (digitChar d) := by decide
  exact hall d h

theorem threshold_bounds (k bias : Nat) : 1 ≤ threshold k bias ∧ threshold k bias ≤ 26 := by
  rw [threshold]
  split
  · omega
  · split <;> omega

/-- A number is written in digits, as long as its places are not cut short. -/
theorem allInner_writeNumber (bias : Nat) {fuel : Nat} (k : Nat) {n : Nat} (h : n ≤ fuel) :
    AllInner (writeNumber bias fuel k n) := by
  induction fuel generalizing k n with
  | zero => exact .cons (isInner_digitChar (by omega)) .nil
  | succ fuel ih =>
    have ht := threshold_bounds k bias
    simp only [writeNumber]
    split
    · exact .cons (isInner_digitChar (by omega)) .nil
    · next hn =>
      have hdigit : (n - threshold k bias) % (36 - threshold k bias) < 36 - threshold k bias :=
        Nat.mod_lt _ (by omega)
      have hquot : (n - threshold k bias) / (36 - threshold k bias) ≤ n - threshold k bias :=
        Nat.div_le_self _ _
      exact .cons (isInner_digitChar (by omega)) (ih _ (by omega))

theorem allInner_pass (basic code : Nat) {w : Writer} (hw : AllInner w.digits) (c : Nat) :
    AllInner (w.pass basic code c).digits := by
  rw [Writer.pass]
  split
  · exact hw
  · split
    · exact hw.append (allInner_writeNumber _ _ (Nat.le_refl _))
    · exact hw

theorem allInner_run (text : List Nat) (basic : Nat) {w : Writer} (hw : AllInner w.digits)
    (next : Nat) (codes : List Nat) : AllInner (w.run text basic next codes).digits := by
  induction codes generalizing w next with
  | nil => exact hw
  | cons code codes ih =>
    have hfold (rest : List Nat) {w : Writer} (hw : AllInner w.digits) :
        AllInner (rest.foldl (Writer.pass basic code) w).digits := by
      induction rest generalizing w with
      | nil => exact hw
      | cons c rest ihr => exact ihr (allInner_pass basic code hw c)
    rw [Writer.run]
    apply ih
    exact hfold text hw

/-- Punycode adds digits and a hyphen to a text. -/
theorem allInner_encode {s : List Char} (hs : AllInner s) : AllInner (encode s) := by
  simp only [encode]
  refine .append (.append (hs.mono fun c hc => (List.mem_filter.mp hc).1) ?_)
    (allInner_run _ _ .nil _ _)
  split
  · exact .nil
  · exact .cons (by decide) .nil

end Punycode

theorem allInner_splitOn {separator : Char} {s : List Char} (hs : AllInner s) :
    ∀ t ∈ splitOn separator s, AllInner t := by
  induction s with
  | nil =>
    intro t ht
    rw [List.mem_singleton.mp ht]
    exact .nil
  | cons c s ih =>
    have hc : isInner c := hs c List.mem_cons_self
    have hrest := ih fun d hd => hs d (List.mem_cons_of_mem _ hd)
    rw [splitOn]
    split
    · exact List.forall_mem_cons.mpr ⟨.nil, hrest⟩
    · cases hp : splitOn separator s with
      | nil => exact List.forall_mem_singleton.mpr (.cons hc .nil)
      | cons piece pieces =>
        rw [hp, List.forall_mem_cons] at hrest
        exact List.forall_mem_cons.mpr ⟨.cons hc hrest.1, hrest.2⟩

/-- A label is written with its own characters, or in Punycode. -/
theorem Label.allInner_ascii {s : List Char} {l : Label} (hs : AllInner s)
    (h : ofMapped s = some l) : AllInner l.ascii := by
  unfold ofMapped at h
  split at h
  · split at h
    · cases h
    · split at h
      · cases h
        exact hs
      · cases h
  · split at h
    · cases h
      exact hs
    · split at h
      · cases h
        exact .append (by decide) (Punycode.allInner_encode hs)
      · cases h

theorem allInner_mapM_ofMapped {pieces : List (List Char)} {labels : List Label}
    (hp : ∀ s ∈ pieces, AllInner s) (h : pieces.mapM Label.ofMapped = some labels) :
    ∀ l ∈ labels, AllInner l.ascii := by
  induction pieces generalizing labels with
  | nil =>
    cases h
    intro l hl
    cases hl
  | cons s pieces ih =>
    rw [List.forall_mem_cons] at hp
    rw [List.mapM_cons] at h
    cases hl : Label.ofMapped s with
    | none => simp [hl] at h
    | some l =>
      cases hls : pieces.mapM Label.ofMapped with
      | none => simp [hl, hls] at h
      | some ls =>
        simp only [hl, hls, Option.pure_def, Option.bind_eq_bind, Option.bind_some,
          Option.some.injEq] at h
        rw [← h, List.forall_mem_cons]
        exact ⟨Label.allInner_ascii hp.1 hl, ih hp.2 hls⟩

/-- No character of a domain name would end an authority. -/
theorem allInner_mapDomain {s mapped : List Char} (h : mapDomain s = some mapped) :
    AllInner mapped := by
  have hset : ∀ c : Char, c.toNat < 0x80 → domainSet c.toNat = false → isInner c :=
    Utf8.forall_ascii (by decide)
  rw [mapDomain] at h
  split at h
  · cases h
  · next codes hcodes =>
    simp only at h
    split at h
    · cases h
    · next hany =>
      cases h
      intro c hc
      by_cases hlt : c.toNat < 0x80
      · have hout : domainSet c.toNat = false := by
          cases hd : domainSet c.toNat with
          | false => rfl
          | true => exact absurd (List.any_eq_true.mpr ⟨c, hc, by simp [hlt, hd]⟩) hany
        exact hset c hlt hout
      · exact isInner_of_le (by omega)

theorem allInner_domainToAscii {s name : List Char} (h : domainToAscii s = .ok name) :
    AllInner name := by
  rw [domainToAscii] at h
  split at h
  · cases h
  · split at h
    · cases h
    · next mapped hmapped =>
      split at h
      · cases h
      · next labels hlabels =>
        split at h
        · cases h
          refine .intercalate (by decide) ?_
          intro t ht
          obtain ⟨l, hl, rfl⟩ := List.mem_map.mp ht
          exact allInner_mapM_ofMapped (allInner_splitOn (allInner_mapDomain hmapped)) hlabels l hl
        · cases h

end ImageBot.Url
