import ImageBot.Http.Client
import ImageBot.Proofs.Decimal.Whole
import ImageBot.Proofs.Http.Conversation
import Mathlib.Order.MinMax
/-!
# Timeouts

A number of seconds below `2 ^ 64` that is not negative is rounded to whole nanoseconds, and
nothing else is a length of time. A timeout is such a length of time up to a cap; a setting that
gives none, or one of no nanoseconds, is left for the default. So no client waits forever or not
at all, whatever the settings are.
-/
namespace ImageBot

open Decimal

/-- A number of seconds that comes to `n` nanoseconds. -/
def Duration.Measures (x : Binary64) (n : ℕ) : Prop :=
  ∃ r, x.rational? = some r ∧ 0 ≤ r ∧ r < 2 ^ 64 ∧ IsNearest (r * 10 ^ 9) n

/-- The timeout that a setting leads to. -/
structure Duration.IsTimeout (setting : Binary64) (otherwise most timeout : Duration) : Prop where
  measured : ∀ n, Measures setting n → n ≠ 0 → timeout.nanos = min n most.nanos
  unusable : (∀ n, Measures setting n → n = 0) → timeout = otherwise

namespace Duration

variable {x : Binary64} {n : ℕ} {d otherwise most timeout : Duration}

theorem Measures.unique {n' : ℕ} (h : Measures x n) (h' : Measures x n') : n = n' := by
  obtain ⟨r, hr, -, -, hn⟩ := h
  obtain ⟨r', hr', -, -, hn'⟩ := h'
  obtain rfl := Option.some.inj (hr.symm.trans hr')
  exact hn.unique hn'

/-- The whole seconds are below a limit if all of it is. -/
theorem floor_lt_iff {m limit : ℕ} {q : ℤ} :
    Binary64.floor m q < limit ↔ (m : ℚ) * 2 ^ q < limit := by
  rw [← Int.ofNat_lt, Binary64.natCast_floor, Int.floor_lt, Int.cast_natCast]

/-- **Which numbers of seconds are lengths of time.** -/
theorem ofSeconds?_eq_some_iff : ofSeconds? x = some d ↔ Measures x d.nanos := by
  rw [ofSeconds?, Measures, Binary64.rational?]
  cases x.value with
  | nan => simp
  | infinite negative => simp
  | finite negative m q =>
    simp only [Option.some.injEq, exists_eq_left']
    have hpow : (0 : ℚ) < 2 ^ q := by positivity
    by_cases hneg : negative = true ∧ m ≠ 0
    · have hm : (0 : ℚ) < m := by exact_mod_cast Nat.pos_of_ne_zero hneg.2
      simp [hneg.1, hneg.2, hpow, hm]
    · -- a negative zero is zero
      have hsign : ((if negative then -1 else 1) * (m * 2 ^ q) : ℚ) = m * 2 ^ q := by
        cases negative with
        | false => simp
        | true => simp [show m = 0 by simpa using hneg]
      have hnonneg : (0 : ℚ) ≤ m * 2 ^ q := mul_nonneg (Nat.cast_nonneg m) hpow.le
      have hlimit := @floor_lt_iff m (2 ^ 64) q
      obtain ⟨hden, hratio⟩ := Binary64.scaled_eq m q 1000000000
      have hround := Binary64.isNearest_roundDiv hden (Binary64.scaled m q 1000000000).1
      rw [hratio] at hround
      rw [if_neg hneg, hsign]
      push_cast at hlimit hround
      split
      · next hover =>
        refine iff_of_false (Option.some_ne_none d).symm ?_
        rintro ⟨-, hless, -⟩
        exact Nat.not_lt.mpr hover (hlimit.mpr hless)
      · next hover =>
        have hless := hlimit.mp (Nat.lt_of_not_le hover)
        show some (Duration.mk _) = some d ↔ _
        rw [Option.some.injEq]
        constructor
        · rintro rfl
          exact ⟨hnonneg, hless, by norm_num at hround ⊢; exact hround⟩
        · rintro ⟨-, -, hnearest⟩
          have hsame := hround.unique (by norm_num at hnearest ⊢; exact hnearest)
          exact congrArg Duration.mk hsame

/-- What a bounded timeout is. -/
theorem isTimeout_bounded (x : Binary64) (otherwise most : Duration) :
    IsTimeout x otherwise most (bounded x otherwise most) := by
  rw [bounded]
  cases h : ofSeconds? x with
  | none =>
    have hnone (n : ℕ) : ¬Measures x n := by
      intro hn
      have hsome : ofSeconds? x = some ⟨n⟩ := ofSeconds?_eq_some_iff.mpr hn
      cases h.symm.trans hsome
    exact ⟨fun n hn => absurd hn (hnone n), fun _ => rfl⟩
  | some d =>
    have hd := ofSeconds?_eq_some_iff.mp h
    dsimp only
    split
    · next hzero =>
      exact ⟨fun n hn hpos => absurd ((hn.unique hd).trans hzero) hpos, fun _ => rfl⟩
    · next hpos =>
      refine ⟨?_, fun hall => absurd (hall _ hd) hpos⟩
      intro n hn _
      obtain rfl := hn.unique hd
      split
      · next hle => exact (min_eq_left hle).symm
      · next hle => exact (min_eq_right (Nat.le_of_not_le hle)).symm

/-- A timeout is neither zero nor above its cap, if the default is not. -/
theorem IsTimeout.bounds (h : IsTimeout x otherwise most timeout) (hpos : 0 < otherwise.nanos)
    (hle : otherwise.nanos ≤ most.nanos) : 0 < timeout.nanos ∧ timeout.nanos ≤ most.nanos := by
  by_cases hzero : ∀ n, Measures x n → n = 0
  · rw [h.unusable hzero]
    exact ⟨hpos, hle⟩
  · simp only [not_forall] at hzero
    obtain ⟨n, hn, hne⟩ := hzero
    rw [h.measured n hn hne]
    exact ⟨lt_min (Nat.pos_of_ne_zero hne) (hpos.trans_le hle), min_le_right _ _⟩

end Duration

namespace Http.Client

/-- Whether there is a client depends on the proxies alone, and what it is on the timeouts. -/
theorem withSettings_eq_map {s s' : OutgoingSettings} (h : s'.proxies = s.proxies) :
    withSettings s' = (withSettings s).map fun _ => timeouts s' := by
  have hlast (text : String) :
      (do checkProxy text; pure (timeouts s') : Except ClientFault Client) =
      (do checkProxy text; pure (timeouts s)).map fun _ => timeouts s' := by
    cases checkProxy text <;> rfl
  rw [withSettings, withSettings, h]
  cases s.proxies.all with
  | some all => exact hlast all
  | none =>
    cases s.proxies.http with
    | none =>
      cases s.proxies.https with
      | none => rfl
      | some https => exact hlast https
    | some http =>
      cases s.proxies.https with
      | none => exact hlast http
      | some https =>
        show (checkProxy http >>= fun _ => _) = (checkProxy http >>= fun _ => _).map _
        cases checkProxy http with
        | error f => rfl
        | ok u => exact hlast https

theorem eq_timeouts_of_withSettings {s : OutgoingSettings} {c : Client}
    (h : withSettings s = .ok c) : c = timeouts s := by
  have hsame : withSettings s = (withSettings s).map fun _ => timeouts s := withSettings_eq_map rfl
  rw [h] at hsame
  exact Except.ok.inj hsame

/-- **Timeouts are bounded.** Whatever numbers the settings have for the two timeouts, there is a
client if there is one at all, and it waits for some time, but no more than 30 and 120 seconds. Each
timeout depends on its own setting only: it is this number of seconds, rounded to the nearest
nanosecond and capped, and the default where that is no length of time or none at all. -/
theorem withSettings_timeouts {s : OutgoingSettings} {c : Client} (h : withSettings s = .ok c) :
    (0 < c.searchTimeout.nanos ∧ c.searchTimeout.nanos ≤ 30 * 10 ^ 9) ∧
    (0 < c.uploadTimeout.nanos ∧ c.uploadTimeout.nanos ≤ 120 * 10 ^ 9) ∧
    Duration.IsTimeout s.searchTimeout (.seconds 5) (.seconds 30) c.searchTimeout ∧
    Duration.IsTimeout s.uploadTimeout (.seconds 30) (.seconds 120) c.uploadTimeout ∧
    (∀ s' c', withSettings s' = .ok c' →
      (s'.searchTimeout = s.searchTimeout → c'.searchTimeout = c.searchTimeout) ∧
      (s'.uploadTimeout = s.uploadTimeout → c'.uploadTimeout = c.uploadTimeout)) ∧
    ∀ search upload, ∃ c', withSettings
      { s with searchTimeout := search, uploadTimeout := upload } = .ok c' := by
  have hsearch : Duration.IsTimeout s.searchTimeout (.seconds 5) (.seconds 30) c.searchTimeout := by
    rw [eq_timeouts_of_withSettings h]
    exact Duration.isTimeout_bounded _ _ _
  have hupload : Duration.IsTimeout s.uploadTimeout (.seconds 30) (.seconds 120)
      c.uploadTimeout := by
    rw [eq_timeouts_of_withSettings h]
    exact Duration.isTimeout_bounded _ _ _
  refine ⟨hsearch.bounds (by decide) (by decide), hupload.bounds (by decide) (by decide), hsearch,
    hupload, ?_, ?_⟩
  · intro s' c' h'
    rw [eq_timeouts_of_withSettings h, eq_timeouts_of_withSettings h']
    exact ⟨fun hsame => by simp only [timeouts, hsame], fun hsame => by simp only [timeouts, hsame]⟩
  · intro search upload
    let s' : OutgoingSettings := { s with searchTimeout := search, uploadTimeout := upload }
    have hbuilt : withSettings s' = (withSettings s).map fun _ => timeouts s' :=
      withSettings_eq_map rfl
    rw [h] at hbuilt
    exact ⟨_, hbuilt⟩

/-- Three 1024ths of a second lie half way between two whole numbers of nanoseconds, and `2 ^ 64`
seconds are no length of time. -/
theorem withSettings_timeouts_tie :
    let s : OutgoingSettings := { Settings.defaultOutgoing with
      searchTimeout := ⟨0x3F68000000000000⟩, uploadTimeout := ⟨0x43F0000000000000⟩ }
    let c : Client := ⟨⟨2929688⟩, .seconds 30, 10⟩
    withSettings s = .ok c ∧ s.searchTimeout.rational? = some (3 / 1024) ∧
    s.uploadTimeout.rational? = some (2 ^ 64) ∧
    (0 < c.searchTimeout.nanos ∧ c.searchTimeout.nanos ≤ 30 * 10 ^ 9) ∧
    (0 < c.uploadTimeout.nanos ∧ c.uploadTimeout.nanos ≤ 120 * 10 ^ 9) ∧
    Duration.IsTimeout s.searchTimeout (.seconds 5) (.seconds 30) c.searchTimeout ∧
    Duration.IsTimeout s.uploadTimeout (.seconds 30) (.seconds 120) c.uploadTimeout := by
  intro s c
  have hbuilt : withSettings s = .ok c := toOption_eq_some_iff.mp (by decide +kernel)
  obtain ⟨hsearch, hupload, hs, hu, -, -⟩ := withSettings_timeouts hbuilt
  exact ⟨hbuilt, by decide +kernel, by decide +kernel, hsearch, hupload, hs, hu⟩

end Http.Client

end ImageBot
