import MusicProviders.Deezer.Gateway
import MusicProviders.Proofs.Json.Records

/-! # The listen report of a finished stream

When a stream ends, Deezer is told when the listen started (`ts_listen`), how many seconds
were played (`lt`) and whether the stream was opened at an offset (`stat.seek`). The start
is the stream's recorded `start_ts`, or the time of the report. The seconds played are the
seconds since the start, never negative, or the seconds the player reports, capped by
them. The difference of the two 64-bit times wraps when it does not fit, so the report is
exact whenever it fits.

* `Deezer.wrapI64_of_fits` — wrapping into the 64-bit range keeps a number that fits.
* `Deezer.listenParams_ts_listen`, `Deezer.listenParams_lt`, `Deezer.listenParams_seek` —
  the members of the report.
* `Deezer.listenParams_reports_listen` — what the report says for every time, data blob
  and number of seconds played: the start and whether the stream was seeked, always; and
  when the difference of the times fits 64 bits, the elapsed seconds are exact, and the
  seconds played never exceed them and are negative only when the player reports a
  negative number.
* `Deezer.listenParams_negative_seconds` — a report of minus five seconds played.
-/

namespace MusicProviders

theorem Json.get?_mkObject {members : List (String × Json)}
    (distinct : (members.map Prod.fst).Nodup) (k : String) :
    (mkObject members).get? k = members.lookup k := by
  rw [mkObject_fields]
  exact lookup_mkObject distinct k

namespace Deezer

/-- When a listen started: the data blob's `start_ts` when it is a 64-bit integer, else
the time of the report. -/
def listenStart (d : StreamDetails) (now : Int) : Int :=
  ((List.lookup "start_ts" d.data).bind Json.asI64?).getD now

/-- The stream was opened at an offset: the data blob's `seek_position` is an unsigned
64-bit integer above zero. -/
def Seeked (d : StreamDetails) : Prop :=
  ∃ n, (List.lookup "seek_position" d.data).bind Json.asU64? = some n ∧ 0 < n

/-- Wrapping into the 64-bit two's complement range keeps a number that fits. -/
theorem wrapI64_of_fits {n : Int} (fits : -2 ^ 63 ≤ n ∧ n < 2 ^ 63) : wrapI64 n = n := by
  have bound : Int.pow 2 63 = 2 ^ 63 := rfl
  have modulus : Int.pow 2 64 = 2 ^ 64 := rfl
  unfold wrapI64
  rw [bound, modulus]
  omega

/-! ## The members of the report -/

section Members

variable (d : StreamDetails) (now : Int)

theorem listenParams_ts_listen :
    (listenParams d now).get? "ts_listen" = some (Json.int (listenStart d now)) := by
  unfold listenParams
  rw [Json.get?_mkObject (by simp only [List.map_cons, List.map_nil]; decide)]
  rfl

theorem listenParams_lt :
    (listenParams d now).get? "lt" = some (Json.int (match d.secondsStreamed with
      | some seconds => min seconds.toInt64Saturating (max (wrapI64 (now - listenStart d now)) 0)
      | none => max (wrapI64 (now - listenStart d now)) 0)) := by
  unfold listenParams
  rw [Json.get?_mkObject (by simp only [List.map_cons, List.map_nil]; decide)]
  rfl

theorem listenParams_seek :
    ∃ stat, (listenParams d now).get? "stat" = some stat ∧
      stat.get? "seek" = some (Json.nat
        (if ((List.lookup "seek_position" d.data).bind Json.asU64?).any (· > 0) then 1 else 0)) := by
  unfold listenParams
  rw [Json.get?_mkObject (by simp only [List.map_cons, List.map_nil]; decide)]
  refine ⟨_, rfl, ?_⟩
  rw [Json.get?_mkObject (by simp only [List.map_cons, List.map_nil]; decide)]
  rfl

end Members

theorem any_pos_iff_seeked (d : StreamDetails) :
    ((List.lookup "seek_position" d.data).bind Json.asU64?).any (· > 0) = true ↔ Seeked d := by
  unfold Seeked
  cases (List.lookup "seek_position" d.data).bind Json.asU64? <;> simp

/-- What the listen report says, for every time of the report, data blob and number of
seconds played. The listen started at `listenStart`, and the stream is reported as seeked
exactly when it was opened at an offset. As long as the report's time minus the start
fits 64 bits, the elapsed seconds are that difference, or zero when it is negative, and
the seconds played are the elapsed seconds, or the reported seconds cut to an integer
toward zero (zero for not-a-number) when they are smaller, so they never exceed the
elapsed seconds and are negative only when the reported seconds are. -/
theorem listenParams_reports_listen (d : StreamDetails) (now : Int) :
    (listenParams d now).get? "ts_listen" = some (Json.int (listenStart d now)) ∧
    ((-2 ^ 63 ≤ now - listenStart d now ∧ now - listenStart d now < 2 ^ 63) →
      ∃ lt, (listenParams d now).get? "lt" = some (Json.int lt) ∧
        lt ≤ max (now - listenStart d now) 0 ∧
        (d.secondsStreamed = none → lt = max (now - listenStart d now) 0) ∧
        (∀ seconds, d.secondsStreamed = some seconds →
          lt = min seconds.toInt64Saturating (max (now - listenStart d now) 0)) ∧
        (0 ≤ lt ↔ ∀ seconds, d.secondsStreamed = some seconds → 0 ≤ seconds.toInt64Saturating)) ∧
    (∃ stat, (listenParams d now).get? "stat" = some stat ∧
      (stat.get? "seek" = some (Json.nat 1) ∧ Seeked d ∨
        stat.get? "seek" = some (Json.nat 0) ∧ ¬ Seeked d)) := by
  refine ⟨listenParams_ts_listen d now, fun fits => ?_, ?_⟩
  · rw [listenParams_lt, wrapI64_of_fits fits]
    cases played : d.secondsStreamed with
    | none =>
      refine ⟨_, rfl, le_rfl, fun _ => rfl, fun seconds absent => (by cases absent), ?_⟩
      simp
    | some reported =>
      refine ⟨_, rfl, min_le_right _ _, fun absent => (by cases absent), ?_, ?_⟩
      · intro seconds same
        cases same
        rfl
      · have elapsed : 0 ≤ max (now - listenStart d now) 0 := le_max_right _ _
        simp only [Option.some.injEq, forall_eq', le_min_iff, elapsed, and_true]
  · obtain ⟨stat, found, seek⟩ := listenParams_seek d now
    refine ⟨stat, found, ?_⟩
    rw [seek]
    by_cases seeked : Seeked d
    · exact .inl ⟨by rw [if_pos ((any_pos_iff_seeked d).mpr seeked)], seeked⟩
    · exact .inr ⟨by rw [if_neg (fun pos => seeked ((any_pos_iff_seeked d).mp pos))], seeked⟩

/-- A listen that started at time 1000, reported at 1100 with 500 seconds played: the
difference fits 64 bits, and the seconds played are capped by the 100 elapsed. -/
theorem listenParams_reports_listen_capped :
    (-2 ^ 63 ≤ 1100 - listenStart { StreamDetails.new "deezer--abc" "3135556" with
        data := [("start_ts", Json.int 1000)], secondsStreamed := some ⟨0x407F400000000000⟩ } 1100 ∧
      1100 - listenStart { StreamDetails.new "deezer--abc" "3135556" with
        data := [("start_ts", Json.int 1000)], secondsStreamed := some ⟨0x407F400000000000⟩ } 1100 <
        2 ^ 63) ∧
    ∃ lt, (listenParams { StreamDetails.new "deezer--abc" "3135556" with
        data := [("start_ts", Json.int 1000)], secondsStreamed := some ⟨0x407F400000000000⟩ }
          1100).get? "lt" = some (Json.int lt) ∧
      lt ≤ max (1100 - listenStart { StreamDetails.new "deezer--abc" "3135556" with
        data := [("start_ts", Json.int 1000)], secondsStreamed := some ⟨0x407F400000000000⟩ } 1100) 0 := by
  have fits : -2 ^ 63 ≤ 1100 - listenStart { StreamDetails.new "deezer--abc" "3135556" with
        data := [("start_ts", Json.int 1000)], secondsStreamed := some ⟨0x407F400000000000⟩ } 1100 ∧
      1100 - listenStart { StreamDetails.new "deezer--abc" "3135556" with
        data := [("start_ts", Json.int 1000)], secondsStreamed := some ⟨0x407F400000000000⟩ } 1100 <
        2 ^ 63 := by decide
  obtain ⟨lt, found, capped, -⟩ := (listenParams_reports_listen _ 1100).2.1 fits
  exact ⟨fits, lt, found, capped⟩

/-- Minus five seconds played, reported at time 100 for a stream without start time:
the listen started at 100, so no second has elapsed, and the report says minus five
seconds were played. The seconds played are capped by the elapsed seconds but are not
kept from going negative. -/
theorem listenParams_negative_seconds :
    (listenParams { StreamDetails.new "deezer--abc" "1" with
        secondsStreamed := some ⟨0xC014000000000000⟩ } 100).get? "lt" = some (Json.int (-5)) ∧
    (listenParams { StreamDetails.new "deezer--abc" "1" with
        secondsStreamed := some ⟨0xC014000000000000⟩ } 100).get? "ts_listen" =
      some (Json.int 100) := by
  refine ⟨?_, listenParams_ts_listen _ 100⟩
  rw [listenParams_lt]
  -- the double `0xC014000000000000` is -5.0
  have minusFive : (Binary64.mk 0xC014000000000000).toInt64Saturating = -5 := by decide
  simp only [minusFive]
  rfl

end Deezer

end MusicProviders
