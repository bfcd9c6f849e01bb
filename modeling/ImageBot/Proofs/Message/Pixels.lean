import ImageBot.Proofs.Command.Execution
import ImageBot.Proofs.Decimal.Whole
/-!
# Sizes of images

A search tells the height and the width of an image as numbers of any kind, and a message has them
in whole pixels that fit in 32 bits. The whole part of a number is kept as long as it fits. What is
too great becomes the greatest number of pixels, and what is negative or no number becomes zero, so
no size wraps around and a greater number never gives a smaller size.
-/
namespace ImageBot

open Decimal Http

/-- The number of pixels that a length has: its whole part between zero and the greatest number in
32 bits, and zero for what is no number. -/
structure IsPixels (x : Binary64) (n : UInt32) : Prop where
  nan : x.value = .nan → n = 0
  bottom : x.value = .infinite true → n = 0
  top : x.value = .infinite false → n = 4294967295
  negative : ∀ r, x.rational? = some r → r < 0 → n = 0
  whole : ∀ r, x.rational? = some r → 0 ≤ r → r < 2 ^ 32 - 1 → (n.toNat : ℤ) = ⌊r⌋
  great : ∀ r, x.rational? = some r → 2 ^ 32 - 1 ≤ r → n = 4294967295

/-- An image has the size that a descriptor tells. -/
structure ImageInfo.HasSize (info : ImageInfo) (image : Search.Descriptor) : Prop where
  height : IsPixels image.height info.height
  width : IsPixels image.width info.width

variable {x y : Binary64} {n k : UInt32} {r : ℚ}

/-- A length that is a rational number is cut down to whole pixels, and to what 32 bits hold. -/
theorem toNat_pixels (h : x.rational? = some r) :
    ((pixels x).toNat : ℤ) = max 0 (min ⌊r⌋ (2 ^ 32 - 1)) := by
  rw [Binary64.rational?] at h
  rw [pixels]
  cases hx : x.value with
  | nan => simp [hx] at h
  | infinite negative => simp [hx] at h
  | finite negative m q =>
    simp only [hx, Option.some.injEq] at h
    subst h
    cases negative with
    | true =>
      have hnonneg : (0 : ℚ) ≤ m * 2 ^ q := mul_nonneg (Nat.cast_nonneg m) (by positivity)
      have hle : ⌊-1 * (m * 2 ^ q : ℚ)⌋ ≤ 0 := Int.floor_nonpos (by linarith)
      simp only [if_true, UInt32.toNat_zero]
      omega
    | false =>
      have hfloor := Binary64.natCast_floor m q
      simp only [Bool.false_eq_true, if_false, one_mul, Nat.toUInt32, UInt32.toNat_ofNat']
      omega

/-- The pixels of a rational number are told by its whole part. -/
theorem isPixels_iff_of_rational? (h : x.rational? = some r) :
    IsPixels x n ↔ (n.toNat : ℤ) = max 0 (min ⌊r⌋ (2 ^ 32 - 1)) := by
  have hnegative : r < 0 ↔ ⌊r⌋ < 0 := by
    rw [Int.floor_lt, Int.cast_zero]
  have hgreat : r < 2 ^ 32 - 1 ↔ ⌊r⌋ < 2 ^ 32 - 1 := by
    rw [Int.floor_lt]
    norm_num
  have hmost : (4294967295 : UInt32).toNat = 2 ^ 32 - 1 := rfl
  constructor
  · intro hn
    by_cases hlow : ⌊r⌋ < 0
    · rw [hn.negative r h (hnegative.mpr hlow), UInt32.toNat_zero]
      omega
    · have hr : 0 ≤ r := le_of_not_gt (mt hnegative.mp hlow)
      by_cases hhigh : ⌊r⌋ < 2 ^ 32 - 1
      · rw [hn.whole r h hr (hgreat.mpr hhigh)]
        omega
      · rw [hn.great r h (le_of_not_gt (mt hgreat.mp hhigh)), hmost]
        omega
  · intro hn
    have hvalue : x.value ≠ .nan ∧ ∀ negative, x.value ≠ .infinite negative := by
      rw [Binary64.rational?] at h
      cases hx : x.value <;> simp [hx] at h ⊢
    exact
      { nan := fun hv => absurd hv hvalue.1
        bottom := fun hv => absurd hv (hvalue.2 true)
        top := fun hv => absurd hv (hvalue.2 false)
        negative := by
          intro s hs hlow
          obtain rfl := Option.some.inj (h.symm.trans hs)
          rw [hnegative] at hlow
          rw [← UInt32.toNat_inj, UInt32.toNat_zero]
          omega
        whole := by
          intro s hs hlow hhigh
          obtain rfl := Option.some.inj (h.symm.trans hs)
          rw [← not_lt, hnegative] at hlow
          rw [hgreat] at hhigh
          omega
        great := by
          intro s hs hhigh
          obtain rfl := Option.some.inj (h.symm.trans hs)
          rw [← not_lt, hgreat] at hhigh
          rw [← UInt32.toNat_inj, hmost]
          omega }

/-- Every length has its number of pixels. -/
theorem isPixels_pixels (x : Binary64) : IsPixels x (pixels x) := by
  cases hx : x.rational? with
  | some r => exact (isPixels_iff_of_rational? hx).mpr (toNat_pixels hx)
  | none =>
    rw [Binary64.rational?] at hx
    cases hv : x.value with
    | nan => constructor <;> simp [pixels, Binary64.rational?, hv]
    | infinite negative => constructor <;> simp +contextual [pixels, Binary64.rational?, hv]
    | finite negative m q => simp [hv] at hx

/-- A greater length does not have fewer pixels. -/
theorem IsPixels.le (hx : IsPixels x n) (hy : IsPixels y k) (h : x.AtMost y) : n ≤ k := by
  rw [UInt32.le_iff_toNat_le]
  cases h with
  | finite ha hb hle =>
    have hfloor := Int.floor_mono hle
    have hn := (isPixels_iff_of_rational? ha).mp hx
    have hk := (isPixels_iff_of_rational? hb).mp hy
    omega
  | bottom hbottom _ =>
    rw [hx.bottom hbottom]
    exact Nat.zero_le _
  | top _ htop =>
    rw [hy.top htop]
    exact Nat.le_of_lt_succ n.toNat_lt

/-- A length of so many pixels has just as many. -/
theorem IsPixels.eq_of_rational? (hx : IsPixels x n) {v : UInt32}
    (h : x.rational? = some (v.toNat : ℚ)) : n = v := by
  have hn := (isPixels_iff_of_rational? h).mp hx
  have hless := v.toNat_lt
  rw [Int.floor_natCast] at hn
  rw [← UInt32.toNat_inj]
  omega

theorem ImageInfo.hasSize_ofDescriptor (image : Search.Descriptor) (mimetype : String) :
    (ImageInfo.ofDescriptor image mimetype).HasSize image :=
  ⟨isPixels_pixels image.height, isPixels_pixels image.width⟩

/-- The image in a message is described by an item that was found. -/
theorem Relay.info_of_handle {r : Relay} {phrase : String} {n m : Network} {content : ImageMessage}
    (h : (r.handle phrase).run n = (.ok (.image content), m)) :
    ∃ t k item, r.search.client.Leaves (r.search.request phrase) t ∧ n.Carries [t] k ∧
      t.Finds item ∧ content.info = .ofDescriptor item.image item.mime := by
  rw [run_handle_iff] at h
  cases h with
  | @posted trail item k _ _ hs hc hl hu =>
    obtain ⟨t, rfl, hf⟩ := (hs.ok_iff item).mp rfl
    cases hs with
    | replied ht => exact ⟨t, k, item, ht, hc, hf, rfl⟩

/-- **Sizes in whole pixels.** Whatever numbers a descriptor has for the height and the width of an
image, they become numbers of pixels, and so do those of the item that a message is made for. A
greater number never becomes a smaller size, and every whole number in 32 bits, which is a binary64
number, is kept as it is. -/
theorem ImageInfo.sizes_of_descriptors :
    (∀ image mimetype, (ofDescriptor image mimetype).HasSize image) ∧
    (∀ (r : Relay) (phrase : String) (n m : Network) (content : ImageMessage),
      (r.handle phrase).run n = (.ok (.image content), m) →
      ∃ t k item, r.search.client.Leaves (r.search.request phrase) t ∧ n.Carries [t] k ∧
        t.Finds item ∧ content.info.HasSize item.image) ∧
    (∀ (info info' : ImageInfo) (image image' : Search.Descriptor),
      info.HasSize image → info'.HasSize image' →
      (image.height.AtMost image'.height → info.height ≤ info'.height) ∧
      (image.width.AtMost image'.width → info.width ≤ info'.width)) ∧
    ∀ v : UInt32, (Binary64.ofNat v.toNat).rational? = some (v.toNat : ℚ) ∧
      ∀ (info : ImageInfo) (image : Search.Descriptor), info.HasSize image →
        (image.height.rational? = some (v.toNat : ℚ) → info.height = v) ∧
        (image.width.rational? = some (v.toNat : ℚ) → info.width = v) := by
  refine ⟨hasSize_ofDescriptor, ?_, ?_, ?_⟩
  · intro r phrase n m content h
    obtain ⟨t, k, item, ht, hc, hf, hinfo⟩ := Relay.info_of_handle h
    refine ⟨t, k, item, ht, hc, hf, ?_⟩
    rw [hinfo]
    exact hasSize_ofDescriptor item.image item.mime
  · intro info info' image image' h h'
    exact ⟨h.height.le h'.height, h.width.le h'.width⟩
  · intro v
    have hsmall : v.toNat < 2 ^ 53 := v.toNat_lt.trans (by decide)
    refine ⟨Binary64.rational?_ofNat hsmall, ?_⟩
    intro info image h
    exact ⟨h.height.eq_of_rational?, h.width.eq_of_rational?⟩

/-- An image of 480 by 480 pixels next to one of infinite height, and one that is found with a
height below 481 and a width above the greatest size. -/
theorem ImageInfo.sizes_of_descriptors_example :
    let square : Search.Descriptor :=
      ⟨"", ⟨0x407E000000000000⟩, ⟨0x407E000000000000⟩, 0, "", .zero, .zero⟩
    let tall : Search.Descriptor :=
      ⟨"", ⟨0x7FF0000000000000⟩, ⟨0x407E0FD70A3D70A4⟩, 0, "", .zero, .zero⟩
    let body := "\x7b\"items\":[\x7b\"link\":\"http://images.example/cat.png\"," ++
      "\"image\":\x7b\"height\":480.99,\"width\":4294967295.5\x7d\x7d]\x7d"
    let r : Relay := ⟨.ofSettings (.timeouts Settings.defaultOutgoing) Settings.defaultGoogle,
      fun _ => pure (.ok ⟨"mxc://example.org/1"⟩)⟩
    let n : Network := ⟨[.answered 200 [] (.plain (Text.Utf8.bytes body))], .lost .timeout, []⟩
    let content : ImageMessage := ⟨"cats", ⟨"mxc://example.org/1"⟩, ⟨480, 4294967295, ""⟩⟩
    ((r.handle "cats").run n).1 = .ok (.image content) ∧
    (∃ t k item, r.search.client.Leaves (r.search.request "cats") t ∧ n.Carries [t] k ∧
      t.Finds item ∧ content.info.HasSize item.image) ∧
    ((ofDescriptor tall "").HasSize tall ∧ ofDescriptor tall "" = ⟨4294967295, 480, ""⟩) ∧
    (square.height.AtMost tall.height ∧
      (ofDescriptor square "").height ≤ (ofDescriptor tall "").height) ∧
    (square.width.AtMost tall.width ∧
      (ofDescriptor square "").width ≤ (ofDescriptor tall "").width) ∧
    (square.height.rational? = some ((480 : UInt32).toNat : ℚ) ∧
      (ofDescriptor square "").height = 480) ∧
    square.width.rational? = some ((480 : UInt32).toNat : ℚ) ∧
      (ofDescriptor square "").width = 480 := by
  intro square tall body r n content
  obtain ⟨hsize, hposted, hle, hexact⟩ := sizes_of_descriptors
  have hrun : ((r.handle "cats").run n).1 = .ok (.image content) :=
    toOption_eq_some_iff.mp (by decide +kernel)
  have hsquare := hsize square ""
  have htall := hsize tall ""
  have hheight : square.height.rational? = some ((480 : UInt32).toNat : ℚ) := by decide +kernel
  have hwidth : square.width.rational? = some ((480 : UInt32).toNat : ℚ) := by decide +kernel
  have hbelow : square.height.AtMost tall.height := .top (by decide +kernel) (by decide +kernel)
  have hnarrow : square.width.AtMost tall.width :=
    .finite hwidth (b := 2115416391375913 / 2 ^ 42) (by decide +kernel) (by decide +kernel)
  have hmeasured := (hexact 480).2 _ _ hsquare
  have hordered := hle _ _ _ _ hsquare htall
  exact ⟨hrun, hposted r "cats" n _ content (Prod.ext hrun rfl),
    ⟨htall, by decide +kernel⟩, ⟨hbelow, hordered.1 hbelow⟩, ⟨hnarrow, hordered.2 hnarrow⟩,
    ⟨hheight, hmeasured.1 hheight⟩, hwidth, hmeasured.2 hwidth⟩

end ImageBot
