import ImageBot.Proofs.Http.Timeouts
import ImageBot.Proofs.Settings.Validation
/-!
# Valid timeouts

Validation passes every positive number of seconds. Of these the ones that come to at least a
nanosecond and to less than `2 ^ 64` seconds are honoured: they are rounded and capped, so that a
longer one never gives a shorter timeout. In place of the others there is the default.
-/
namespace ImageBot

open Decimal Http

namespace Duration

/-- A number of seconds that is not rounded to nothing, and is not too great. -/
def IsUsable (a : ℚ) : Prop := 1 / 2 < a * 10 ^ 9 ∧ a < 2 ^ 64

/-- How timeouts of `a` and `b` seconds are honoured by two that last `c` and `d`. -/
structure Honoured (a b : ℚ) (otherwise most c d : Duration) : Prop where
  monotone : IsUsable a → IsUsable b → a ≤ b → c.nanos ≤ d.nanos
  exact : IsUsable a → a * 10 ^ 9 ≤ most.nanos → IsNearest (a * 10 ^ 9) c.nanos
  capped : IsUsable a → most.nanos ≤ a * 10 ^ 9 → c = most
  unusable : ¬IsUsable a → c = otherwise

variable {x y : Binary64} {a b : ℚ} {n : ℕ} {otherwise most c d : Duration}

theorem measures_iff (ha : x.rational? = some a) :
    Measures x n ↔ 0 ≤ a ∧ a < 2 ^ 64 ∧ IsNearest (a * 10 ^ 9) n := by
  simp only [Measures, ha, Option.some.injEq, exists_eq_left']

/-- A usable number is rounded and capped. -/
theorem IsTimeout.exists_nanos (h : IsTimeout x otherwise most c) (ha : x.rational? = some a)
    (husable : IsUsable a) : ∃ n, IsNearest (a * 10 ^ 9) n ∧ c.nanos = min n most.nanos := by
  have hpos : 0 ≤ a * 10 ^ 9 := by linarith [husable.1]
  obtain ⟨n, hn⟩ := exists_isNearest hpos
  have hne : n ≠ 0 := (hn.pos_iff.mpr husable.1).ne'
  exact ⟨n, hn, h.measured n ((measures_iff ha).mpr ⟨by linarith, husable.2, hn⟩) hne⟩

theorem honoured (hx : IsTimeout x otherwise most c) (hy : IsTimeout y otherwise most d)
    (ha : x.rational? = some a) (hb : y.rational? = some b) :
    Honoured a b otherwise most c d where
  monotone hua hub hle := by
    obtain ⟨n, hn, hc⟩ := hx.exists_nanos ha hua
    obtain ⟨n', hn', hd⟩ := hy.exists_nanos hb hub
    rw [hc, hd]
    exact min_le_min_right _ (hn.le hn' (by linarith))
  exact hua hle := by
    obtain ⟨n, hn, hc⟩ := hx.exists_nanos ha hua
    rwa [hc, min_eq_left (hn.le (.natCast _) hle)]
  capped hua hle := by
    obtain ⟨n, hn, hc⟩ := hx.exists_nanos ha hua
    rw [min_eq_right ((IsNearest.natCast _).le hn hle)] at hc
    exact congrArg Duration.mk hc
  unusable hua := by
    apply hx.unusable
    intro n hn
    obtain ⟨-, hlimit, hnearest⟩ := (measures_iff ha).mp hn
    by_contra hne
    exact hua ⟨hnearest.pos_iff.mp (Nat.pos_of_ne_zero hne), hlimit⟩

end Duration

namespace Settings

open Duration

/-- **Valid timeouts.** Validation passes positive numbers of seconds. Those that are usable are
honoured: they are rounded to the nearest nanosecond up to the cap, which is what there is for
anything above it, and so a greater one never gives a shorter timeout. For the others, which are
rounded to nothing or too great for a length of time, there is the default. -/
theorem validate_timeouts {s t : Settings} (hs : s.validate = .ok ()) (ht : t.validate = .ok ())
    {c d : Client} (hc : Client.withSettings s.outgoing = .ok c)
    (hd : Client.withSettings t.outgoing = .ok d) :
    (∃ a b, s.outgoing.searchTimeout.rational? = some a ∧
      t.outgoing.searchTimeout.rational? = some b ∧ 0 < a ∧ 0 < b ∧
      Honoured a b (.seconds 5) (.seconds 30) c.searchTimeout d.searchTimeout) ∧
    ∃ a b, s.outgoing.uploadTimeout.rational? = some a ∧
      t.outgoing.uploadTimeout.rational? = some b ∧ 0 < a ∧ 0 < b ∧
      Honoured a b (.seconds 30) (.seconds 120) c.uploadTimeout d.uploadTimeout := by
  obtain ⟨a, ha, hapos⟩ := Binary64.isFinite_and_isPositive_iff.mp
    (validate_eq_ok_iff.mp hs).searchTimeout
  obtain ⟨b, hb, hbpos⟩ := Binary64.isFinite_and_isPositive_iff.mp
    (validate_eq_ok_iff.mp ht).searchTimeout
  obtain ⟨a', ha', hapos'⟩ := Binary64.isFinite_and_isPositive_iff.mp
    (validate_eq_ok_iff.mp hs).uploadTimeout
  obtain ⟨b', hb', hbpos'⟩ := Binary64.isFinite_and_isPositive_iff.mp
    (validate_eq_ok_iff.mp ht).uploadTimeout
  rw [Client.eq_timeouts_of_withSettings hc, Client.eq_timeouts_of_withSettings hd]
  exact ⟨⟨a, b, ha, hb, hapos, hbpos, honoured (isTimeout_bounded _ _ _) (isTimeout_bounded _ _ _)
      ha hb⟩,
    a', b', ha', hb', hapos', hbpos', honoured (isTimeout_bounded _ _ _) (isTimeout_bounded _ _ _)
      ha' hb'⟩

/-- Valid settings with given timeouts. -/
def patient (search upload : Binary64) : Settings :=
  { reaching defaultSearchUrl defaultMatrix.homeserverUrl "token" with
    outgoing := { defaultOutgoing with searchTimeout := search, uploadTimeout := upload } }

theorem validate_patient {search upload : Binary64} (hs : search.isFinite ∧ search.isPositive)
    (hu : upload.isFinite ∧ upload.isPositive) : (patient search upload).validate = .ok () := by
  have hvalid : (reaching defaultSearchUrl defaultMatrix.homeserverUrl "token").IsValid :=
    isValid_reaching ⟨_, parse_defaultSearchUrl⟩ ⟨_, parse_defaultHomeserverUrl⟩ (by decide)
  exact validate_eq_ok_iff.mpr { hvalid with searchTimeout := hs, uploadTimeout := hu }

/-- A search timeout on a tie with one above the cap, and an upload timeout of a tenth of a
nanosecond with one above the cap. -/
theorem validate_timeouts_above_cap :
    let s := patient ⟨0x3F68000000000000⟩ ⟨0x3DDB7CDFD9D7BDBB⟩
    let t := patient ⟨0x4044000000000000⟩ ⟨0x4069000000000000⟩
    let c : Client := ⟨⟨2929688⟩, .seconds 30, 10⟩
    let d : Client := ⟨.seconds 30, .seconds 120, 10⟩
    s.validate = .ok () ∧ t.validate = .ok () ∧ Client.withSettings s.outgoing = .ok c ∧
    Client.withSettings t.outgoing = .ok d ∧
    (∃ a b, s.outgoing.searchTimeout.rational? = some a ∧
      t.outgoing.searchTimeout.rational? = some b ∧ 0 < a ∧ 0 < b ∧
      Honoured a b (.seconds 5) (.seconds 30) c.searchTimeout d.searchTimeout) ∧
    ∃ a b, s.outgoing.uploadTimeout.rational? = some a ∧
      t.outgoing.uploadTimeout.rational? = some b ∧ 0 < a ∧ 0 < b ∧
      Honoured a b (.seconds 30) (.seconds 120) c.uploadTimeout d.uploadTimeout := by
  intro s t c d
  have hs : s.validate = .ok () := validate_patient (by decide) (by decide)
  have ht : t.validate = .ok () := validate_patient (by decide) (by decide)
  have hc : Client.withSettings s.outgoing = .ok c := toOption_eq_some_iff.mp (by decide +kernel)
  have hd : Client.withSettings t.outgoing = .ok d := toOption_eq_some_iff.mp (by decide +kernel)
  exact ⟨hs, ht, hc, hd, validate_timeouts hs ht hc hd⟩

/-- Validation passes a tenth of a nanosecond and `2 ^ 64` seconds, for which there is the default:
the first one gives a longer timeout than one second does, and the other one is not capped. -/
theorem validate_timeouts_default :
    let tiny := patient ⟨0x3DDB7CDFD9D7BDBB⟩ ⟨0x3DDB7CDFD9D7BDBB⟩
    let second := patient ⟨0x3FF0000000000000⟩ ⟨0x3FF0000000000000⟩
    let huge := patient ⟨0x43F0000000000000⟩ ⟨0x43F0000000000000⟩
    (tiny.validate = .ok () ∧ second.validate = .ok () ∧ huge.validate = .ok ()) ∧
    tiny.outgoing.searchTimeout.rational? = some (7737125245533627 / 2 ^ 86) ∧
    second.outgoing.searchTimeout.rational? = some 1 ∧
    huge.outgoing.searchTimeout.rational? = some (2 ^ 64) ∧
    Client.withSettings tiny.outgoing = .ok ⟨.seconds 5, .seconds 30, 10⟩ ∧
    Client.withSettings second.outgoing = .ok ⟨.seconds 1, .seconds 1, 10⟩ ∧
    Client.withSettings huge.outgoing = .ok ⟨.seconds 5, .seconds 30, 10⟩ ∧
    ¬(Duration.seconds 5).nanos ≤ (Duration.seconds 1).nanos ∧
    Duration.seconds 5 ≠ .seconds maxSearchTimeout ∧
    Duration.seconds 30 ≠ .seconds maxUploadTimeout := by
  intro tiny second huge
  exact ⟨⟨validate_patient (by decide) (by decide), validate_patient (by decide) (by decide),
    validate_patient (by decide) (by decide)⟩, by decide +kernel, by decide +kernel,
    by decide +kernel, toOption_eq_some_iff.mp (by decide +kernel),
    toOption_eq_some_iff.mp (by decide +kernel), toOption_eq_some_iff.mp (by decide +kernel),
    by decide, by decide, by decide⟩

end Settings

end ImageBot
