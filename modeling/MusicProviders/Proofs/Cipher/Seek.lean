import MusicProviders.Deezer.Provider

/-! # Where a seek starts

A stream opened at a position in seconds starts its download at a whole segment,
estimated as if the bit rate were constant: `size / (2048 * duration)` segments a second,
times the position. Both products saturate at the 64-bit limit, and so does the byte
offset of the segment.

* `seekSegmentIndex_eq_documented` — on 64-bit inputs the index is the documented
  `size / (2048 * duration) * seekPosition`, saturated, except in one corner: when
  `2048 * duration` saturates and the size is the largest 64-bit value, the saturated
  divisor equals the size, so the index is the position itself where the formula gives
  zero (`seekSegmentIndex_of_saturated_divisor`).
* `seekSegmentIndex_mono`, `segmentOffset_seekSegmentIndex_le` — a later position never
  starts at an earlier segment, and a position within the track starts at an offset
  within the file, the saturations included.
* `seek_monotone_within_file` — hence the stream request of details of known size and
  duration asks, for a seek within the track, for no range past the end of the file.
-/

namespace MusicProviders

namespace Stripe

/-! ## Saturating products -/

theorem saturatingMul_le_u64Max (a b : Nat) : saturatingMul a b ≤ u64Max :=
  Nat.min_le_right _ _

theorem saturatingMul_le_mul (a b : Nat) : saturatingMul a b ≤ a * b :=
  Nat.min_le_left _ _

theorem saturatingMul_of_le {a b : Nat} (fits : a * b ≤ u64Max) : saturatingMul a b = a * b :=
  Nat.min_eq_left fits

theorem saturatingMul_of_lt {a b : Nat} (past : u64Max < a * b) : saturatingMul a b = u64Max :=
  Nat.min_eq_right (Nat.le_of_lt past)

theorem saturatingMul_mono_right (a : Nat) {b b' : Nat} (le : b ≤ b') :
    saturatingMul a b ≤ saturatingMul a b' := by
  have grown := Nat.mul_le_mul_left a le
  unfold saturatingMul
  omega

@[simp] theorem saturatingMul_zero_left (b : Nat) : saturatingMul 0 b = 0 := by
  simp [saturatingMul]

theorem u64Max_pos : 0 < u64Max := by decide

/-! ## The segment of a seek -/

theorem seekSegmentIndex_of_unknown {size duration : Nat} (seekPosition : Nat)
    (unknown : size = 0 ∨ duration = 0) : seekSegmentIndex size duration seekPosition = 0 :=
  if_pos unknown

theorem seekSegmentIndex_of_known {size duration : Nat} (seekPosition : Nat) (sized : size ≠ 0)
    (timed : duration ≠ 0) :
    seekSegmentIndex size duration seekPosition =
      saturatingMul (size / saturatingMul segmentSize duration) seekPosition :=
  if_neg (by omega)

/-- When `2048 * duration` saturates, the divisor is the largest 64-bit value, which no
other 64-bit size reaches: the quotient is one for that size and zero below it. -/
theorem div_saturated_divisor {size duration : Nat} (hsize : size ≤ u64Max)
    (past : u64Max < segmentSize * duration) :
    size / saturatingMul segmentSize duration = if size = u64Max then 1 else 0 := by
  rw [saturatingMul_of_lt past]
  split
  case isTrue top =>
    rw [top]
    exact Nat.div_self u64Max_pos
  case isFalse below => exact Nat.div_eq_of_lt (by omega)

/-- On 64-bit inputs, the segment of a seek is the documented
`size / (2048 * duration) * seekPosition`, saturated, and zero when the size or duration is
unknown, except when `2048 * duration` saturates and the size is the largest 64-bit value:
then it is the seek position. -/
theorem seekSegmentIndex_eq_documented {size duration seekPosition : Nat}
    (hsize : size ≤ u64Max) (hseek : seekPosition ≤ u64Max) :
    seekSegmentIndex size duration seekPosition =
      if size = 0 ∨ duration = 0 then 0
      else if size = u64Max ∧ u64Max < segmentSize * duration then seekPosition
      else min (size / (segmentSize * duration) * seekPosition) u64Max := by
  by_cases unknown : size = 0 ∨ duration = 0
  case pos => rw [if_pos unknown, seekSegmentIndex_of_unknown _ unknown]
  case neg =>
    rw [if_neg unknown, seekSegmentIndex_of_known _ (by omega) (by omega)]
    by_cases past : u64Max < segmentSize * duration
    case neg =>
      -- the divisor fits: the two formulas are the same product
      have fits : saturatingMul segmentSize duration = segmentSize * duration :=
        saturatingMul_of_le (by omega)
      rw [if_neg (fun h => past h.2), fits]
      rfl
    case pos =>
      rw [div_saturated_divisor hsize past]
      by_cases top : size = u64Max
      case pos =>
        rw [if_pos top, if_pos ⟨top, past⟩,
          saturatingMul_of_le (by omega : 1 * seekPosition ≤ u64Max), Nat.one_mul]
      case neg =>
        -- below the largest value both quotients are zero
        have below : size / (segmentSize * duration) = 0 := Nat.div_eq_of_lt (by omega)
        rw [if_neg top, if_neg (fun h => top h.1), below]
        simp

/-- Where `2048 * duration` saturates, the largest 64-bit size seeks one segment a second:
ten seconds into a track of that size and of `2 ^ 53` seconds start at segment ten, and at
byte `20480`. The documented `size / (2048 * duration) * seekPosition` is zero there. -/
theorem seekSegmentIndex_of_saturated_divisor :
    seekSegmentIndex u64Max (Nat.pow 2 53) 10 = 10 ∧
      segmentOffset (seekSegmentIndex u64Max (Nat.pow 2 53) 10) = 20480 ∧
      min (u64Max / (segmentSize * Nat.pow 2 53) * 10) u64Max = 0 := by
  decide

/-- The documented size of a 320 kbit/s track of 200 seconds seeks 19 segments a second. -/
theorem seekSegmentIndex_eq_documented_track :
    (8000000 ≤ u64Max ∧ 10 ≤ u64Max) ∧
      seekSegmentIndex 8000000 200 10 =
        if 8000000 = 0 ∨ 200 = 0 then 0
        else if 8000000 = u64Max ∧ u64Max < segmentSize * 200 then 10
        else min (8000000 / (segmentSize * 200) * 10) u64Max :=
  ⟨⟨by decide, by decide⟩, seekSegmentIndex_eq_documented (by decide) (by decide)⟩

theorem seekSegmentIndex_mono (size duration : Nat) {p q : Nat} (le : p ≤ q) :
    seekSegmentIndex size duration p ≤ seekSegmentIndex size duration q := by
  by_cases unknown : size = 0 ∨ duration = 0
  case pos => simp [seekSegmentIndex_of_unknown _ unknown]
  case neg =>
    rw [seekSegmentIndex_of_known p (by omega) (by omega),
      seekSegmentIndex_of_known q (by omega) (by omega)]
    exact saturatingMul_mono_right _ le

/-- A position within the track starts at an offset within the file. When the divisor
fits, the offset is at most `size / (2048 * duration) * duration * 2048`; when it
saturates, either the size is below the largest 64-bit value and the segment is zero, or
the saturated offset is at most the size. -/
theorem segmentOffset_seekSegmentIndex_le {size duration q : Nat} (within : q ≤ duration) :
    segmentOffset (seekSegmentIndex size duration q) ≤ size := by
  by_cases unknown : size = 0 ∨ duration = 0
  case pos => simp [seekSegmentIndex_of_unknown _ unknown, segmentOffset]
  case neg =>
    rw [seekSegmentIndex_of_known q (by omega) (by omega)]
    by_cases past : u64Max < segmentSize * duration
    case neg =>
      have fits : saturatingMul segmentSize duration = segmentSize * duration :=
        saturatingMul_of_le (by omega)
      rw [segmentOffset, fits]
      calc saturatingMul (saturatingMul (size / (segmentSize * duration)) q) segmentSize
          ≤ saturatingMul (size / (segmentSize * duration)) q * segmentSize :=
            saturatingMul_le_mul _ _
        _ ≤ size / (segmentSize * duration) * q * segmentSize :=
            Nat.mul_le_mul_right _ (saturatingMul_le_mul _ _)
        _ ≤ size / (segmentSize * duration) * duration * segmentSize :=
            Nat.mul_le_mul_right _ (Nat.mul_le_mul_left _ within)
        _ = size / (segmentSize * duration) * (segmentSize * duration) := by
            rw [Nat.mul_assoc, Nat.mul_comm duration]
        _ ≤ size := Nat.div_mul_le_self _ _
    case pos =>
      by_cases large : u64Max ≤ size
      case pos => exact Nat.le_trans (saturatingMul_le_u64Max _ _) large
      case neg =>
        rw [div_saturated_divisor (by omega) past, if_neg (by omega)]
        simp [segmentOffset]

end Stripe

namespace Deezer.Provider

theorem seekSegment_mono (details : StreamDetails) {p q : Nat} (le : p ≤ q) :
    seekSegment details p ≤ seekSegment details q := by
  unfold seekSegment
  by_cases started : p > 0
  case neg => simp only [started, if_false, Nat.zero_le]
  case pos =>
    rw [if_pos started, if_pos (by omega)]
    cases details.size <;> cases details.duration <;>
      first | exact Nat.le_refl 0 | exact Stripe.seekSegmentIndex_mono _ _ le

theorem seekSegment_of_known {details : StreamDetails} {size duration : Nat}
    (sized : details.size = some size) (timed : details.duration = some duration)
    (seekPosition : Nat) :
    seekSegment details seekPosition =
      if seekPosition > 0 then Stripe.seekSegmentIndex size duration seekPosition else 0 := by
  simp [seekSegment, sized, timed]

/-- The stream request carries a `range` header exactly when it does not start at the
first segment, and the header names the segment's byte offset. -/
theorem streamRequest_range (url : String) (first : Nat) :
    (streamRequest url first).header? "range" =
      if first > 0 then some ("bytes=" ++ toString (Stripe.segmentOffset first) ++ "-")
      else none := by
  unfold streamRequest
  split <;> simp [Http.Request.header?, Http.Request.withHeader, Http.Request.plain]

end Deezer.Provider

/-- Seeking stays inside the file and is monotone. A later position never starts at an
earlier segment, and a position within the track starts at a byte offset within the file,
through every saturation. So the stream request for details whose size and duration are
known asks, for a seek within the track, for no range that starts past the end of the
file, and a later seek never starts earlier. -/
theorem seek_monotone_within_file :
    (∀ size duration p q : Nat, p ≤ q →
      Stripe.seekSegmentIndex size duration p ≤ Stripe.seekSegmentIndex size duration q) ∧
    (∀ size duration q : Nat, q ≤ duration →
      Stripe.segmentOffset (Stripe.seekSegmentIndex size duration q) ≤ size) ∧
    (∀ (details : StreamDetails) (p q : Nat), p ≤ q →
      Deezer.Provider.seekSegment details p ≤ Deezer.Provider.seekSegment details q) ∧
    (∀ (details : StreamDetails) (url : String) (size duration q : Nat),
      details.size = some size → details.duration = some duration → q ≤ duration →
        (Deezer.Provider.streamRequest url (Deezer.Provider.seekSegment details q)).header?
            "range" = none ∨
          ∃ offset ≤ size,
            (Deezer.Provider.streamRequest url (Deezer.Provider.seekSegment details q)).header?
              "range" = some ("bytes=" ++ toString offset ++ "-")) := by
  refine ⟨fun size duration _ _ le => Stripe.seekSegmentIndex_mono size duration le,
    fun _ _ _ within => Stripe.segmentOffset_seekSegmentIndex_le within,
    fun details _ _ le => Deezer.Provider.seekSegment_mono details le, ?_⟩
  intro details url size duration q sized timed within
  rw [Deezer.Provider.streamRequest_range]
  by_cases started : Deezer.Provider.seekSegment details q > 0
  case neg => exact .inl (if_neg started)
  case pos =>
    refine .inr ⟨_, ?_, if_pos started⟩
    -- a segment past the first comes from the known size and duration
    rw [Deezer.Provider.seekSegment_of_known sized timed] at started ⊢
    by_cases moved : q > 0
    case neg =>
      rw [if_neg moved] at started
      exact absurd started (Nat.lt_irrefl 0)
    case pos =>
      rw [if_pos moved]
      exact Stripe.segmentOffset_seekSegmentIndex_le within

/-- Seeks of five and ten seconds into a 320 kbit/s track of 200 seconds whose details give
its size and duration: the later one starts no earlier, and the request for it asks for
no range past the end of the file. -/
theorem seek_monotone_within_file_track :
    (5 ≤ 10 ∧ Stripe.seekSegmentIndex 8000000 200 5 ≤ Stripe.seekSegmentIndex 8000000 200 10) ∧
      (200 ≤ 200 ∧ Stripe.segmentOffset (Stripe.seekSegmentIndex 8000000 200 200) ≤ 8000000) ∧
      (5 ≤ 10 ∧
        Deezer.Provider.seekSegment
            { StreamDetails.new "deezer" "3135556" with
              size := some 8000000, duration := some 200 } 5 ≤
          Deezer.Provider.seekSegment
            { StreamDetails.new "deezer" "3135556" with
              size := some 8000000, duration := some 200 } 10) ∧
      (10 ≤ 200 ∧
        ((Deezer.Provider.streamRequest "https://cdn/flac"
            (Deezer.Provider.seekSegment
              { StreamDetails.new "deezer" "3135556" with
                size := some 8000000, duration := some 200 } 10)).header? "range" = none ∨
          ∃ offset ≤ 8000000,
            (Deezer.Provider.streamRequest "https://cdn/flac"
              (Deezer.Provider.seekSegment
                { StreamDetails.new "deezer" "3135556" with
                  size := some 8000000, duration := some 200 } 10)).header? "range" =
              some ("bytes=" ++ toString offset ++ "-"))) :=
  ⟨⟨by decide, seek_monotone_within_file.1 _ _ _ _ (by decide)⟩,
    ⟨by decide, seek_monotone_within_file.2.1 _ _ _ (by decide)⟩,
    ⟨by decide, seek_monotone_within_file.2.2.1 _ _ _ (by decide)⟩,
    ⟨by decide, seek_monotone_within_file.2.2.2 _ _ 8000000 200 10 rfl rfl (by decide)⟩⟩

end MusicProviders
