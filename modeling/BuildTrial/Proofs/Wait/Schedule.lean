import BuildTrial.Proofs.Wait.Inquiry
import BuildTrial.Scenario.Predicates

/-!
# The timetable of a wait

Where calls take no time, a wait polls on the dot: one stride after the other, and a stride is the poll
interval unless that is longer than any sleep. Which poll is the last that fits into the budget is
therefore arithmetic (`lastPoll`), and `waitFor_onSchedule` says the rest: the first poll up to there
that decides anything ends the wait, at its time and with its decision; if there is none, the wait ends
with that last poll as a timeout.

The polls carry it, by induction on how many of them can still be counted (`finishes_inquireFrom`). They
are the polls of the wait that asks for its verdicts, so the timetable covers these as well.
-/

namespace BuildTrial

/-! ## The sum that decides about another poll -/

namespace Duration

/-- The longest span whose whole seconds are a number of 64 bits. -/
def longest : Duration := ⟨2 ^ 64 * nanosPerSec - 1⟩

/-- The sum of two spans, cut off at the longest one. -/
def saturatingAdd (a b : Duration) : Duration := min (a + b) longest

theorem saturatingAdd_of_le {a b : Duration} (h : a + b ≤ longest) : a.saturatingAdd b = a + b :=
  if_pos h

theorem lt_saturatingAdd_iff {budget a b : Duration} (h : budget < longest) :
    budget < a.saturatingAdd b ↔ budget < a + b := by
  rw [lt_def, lt_def, saturatingAdd, nanos_min, Nat.lt_min]
  exact and_iff_left h

end Duration

namespace Wait

open Program

/-- A poll that decides nothing compares the budget with the exact sum of the time so far and the
interval. With a sum that is cut off at the longest span it would decide the same, since no clock shows
so late a time; only a budget of the longest span together with an interval of half of it is left out. -/
theorem timesOut_iff {config : WaitConfig} {start now : Instant}
    (hclock : now.sinceStart.secs ≤ Instant.lastSecond)
    (h : config.timeout < .longest ∨ config.pollInterval.secs ≤ Instant.lastSecond) :
    config.timeout < (now.since start).saturatingAdd config.pollInterval ↔
      config.timeout < now.since start + config.pollInterval := by
  rcases h with hbudget | hinterval
  · exact Duration.lt_saturatingAdd_iff hbudget
  · have hfits : now.since start + config.pollInterval ≤ .longest := by
      rw [Duration.le_def, Duration.nanos_add]
      simp only [Duration.secs, Duration.nanosPerSec, Instant.lastSecond, Instant.since,
        Duration.longest] at hclock hinterval ⊢
      omega
    rw [Duration.saturatingAdd_of_le hfits]

/-! ## The timetable -/

/-- The milliseconds that a sleep lasts at most. -/
def longestStride : Nat := 30 * 365 * 86400 * 1000

/-- The milliseconds from one poll to the next. -/
def stride (interval : Nat) : Nat := min interval longestStride

/-- The number of the last poll that fits into the budget. -/
def lastPoll (budget : Duration) (interval : Nat) : Nat :=
  if budget < .ofMillis interval then 0
  else (budget.nanos - (Duration.ofMillis interval).nanos) / (Duration.ofMillis (stride interval)).nanos
    + 1

/-- A poll is followed by another one if a sleep of the whole interval still fits into the budget. -/
theorem lt_lastPoll_iff {budget : Duration} {interval poll : Nat} (hpos : 0 < interval) :
    poll < lastPoll budget interval ↔
      ¬budget < Duration.ofMillis (poll * stride interval) + .ofMillis interval := by
  have hstride : 0 < (Duration.ofMillis (stride interval)).nanos := by
    simp only [Duration.ofMillis, Duration.nanosPerMilli, stride, longestStride]
    omega
  have hpolls : (Duration.ofMillis (poll * stride interval)).nanos =
      poll * (Duration.ofMillis (stride interval)).nanos := Nat.mul_assoc _ _ _
  rw [lastPoll]
  split
  · rename_i hshort
    rw [Duration.lt_def] at hshort ⊢
    rw [Duration.nanos_add]
    omega
  · rename_i hlong
    rw [Duration.lt_def] at hlong ⊢
    rw [Nat.lt_succ_iff, Nat.le_div_iff_mul_le hstride, Duration.nanos_add, hpolls]
    omega

/-- If no interval is cut short, the last poll is the last whole interval in the budget. -/
theorem lastPoll_eq_div {interval : Nat} (budget : Duration) (hpos : 0 < interval)
    (h : interval ≤ longestStride) :
    lastPoll budget interval = budget.nanos / (Duration.ofMillis interval).nanos := by
  have hnanos : 0 < (Duration.ofMillis interval).nanos := by
    simp only [Duration.ofMillis, Duration.nanosPerMilli]
    omega
  rw [lastPoll, stride, Nat.min_eq_left h]
  split
  · rename_i hshort
    exact (Nat.div_eq_of_lt hshort).symm
  · rename_i hlong
    exact (Nat.div_eq_sub_div hnanos (Nat.le_of_not_lt hlong)).symm

theorem ofMillis_le_of_le_lastPoll {budget : Duration} {interval poll : Nat} (hpos : 0 < interval)
    (h : poll ≤ lastPoll budget interval) : .ofMillis (poll * stride interval) ≤ budget := by
  cases poll with
  | zero => simp [Duration.le_def, Duration.ofMillis]
  | succ poll =>
    have hfits := (lt_lastPoll_iff hpos).mp (Nat.lt_of_succ_le h)
    have hstride : stride interval ≤ interval := Nat.min_le_left _ _
    rw [Duration.lt_def] at hfits
    rw [Duration.le_def, Nat.succ_mul]
    simp only [Duration.nanos_add, Duration.ofMillis, Duration.nanosPerMilli] at hfits ⊢
    omega

theorem slept_ofMillis {σ : Type} (w : World σ) (interval : Nat) :
    w.slept (.ofMillis interval) = { w with clock := w.clock + stride interval } := by
  have hmin : (min (Duration.ofMillis interval) World.longestSleep).nanos =
      stride interval * 1000000 := by
    rw [Duration.nanos_min]
    simp only [Duration.ofMillis, World.longestSleep, Duration.ofSecs, Duration.nanosPerMilli,
      Duration.nanosPerSec, stride, longestStride]
    omega
  have hlasts : (min (Duration.ofMillis interval) World.longestSleep).ceilMillis =
      stride interval := by
    unfold Duration.ceilMillis
    rw [hmin]
    simp only [Duration.nanosPerMilli]
    omega
  rw [World.slept_eq, hlasts]

theorem since_of_clock {σ : Type} {w w' : World σ} {millis : Nat} (h : w'.clock = w.clock + millis) :
    w'.now.since w.now = .ofMillis millis := by
  simp only [World.now, Instant.since, Instant.ofMillis, Duration.ofMillis, h, Nat.add_mul,
    Nat.add_sub_cancel_left]

/-! ## Poll by poll -/

variable {T σ : Type} (answer : (call : StoreCall T) → σ → Attempted call.Answer × σ) (name : String)

/-- The store after a number of polls. -/
def planeAfter (plane : σ) : (polls : Nat) → σ
  | 0 => plane
  | polls + 1 => (answer (.get name) (planeAfter plane polls)).2

/-- What the poll with this number reads. -/
def readAt (plane : σ) (poll : Nat) : Attempted (Versioned T) :=
  (answer (.get name) (planeAfter answer name plane poll)).1

/-- The world when the poll with this number begins. -/
def worldBefore (interval : Nat) (w : World σ) (poll : Nat) : World σ :=
  { w with
    plane := planeAfter answer name w.plane poll
    clock := w.clock + poll * stride interval }

/-- The world when the poll with this number is over. -/
def worldAt (interval : Nat) (w : World σ) (poll : Nat) : World σ :=
  { w with
    plane := planeAfter answer name w.plane (poll + 1)
    clock := w.clock + poll * stride interval }

/-- A snapshot is judged, once; an error is not. -/
def judged (predicate : T → Verdict) : Attempted (Versioned T) → Trace (inquiryInterface T)
  | .returned (.ok snapshot) => [⟨.judge snapshot.object, predicate snapshot.object⟩]
  | _ => []

/-- What the poll with this number asks: a read, and then for the verdict on what it has read. -/
def asksAt (predicate : T → Verdict) (plane : σ) (poll : Nat) : Trace (inquiryInterface T) :=
  ⟨.call (.get name), readAt answer name plane poll⟩ :: judged predicate (readAt answer name plane poll)

variable {answer name} {config : WaitConfig} {predicate : T → Verdict} {start : Instant}
  {o : Outcome (Except Error (Versioned T))} {w w' : World σ} {left : Nat}

theorem finishes_of_decided {again : Program (inquiryInterface T).timed (Except Error (Versioned T))}
    {reply : Attempted (Versioned T)} (h : decision config predicate reply = some o) :
    Finishes (I := inquiryInterface T) (judging answer predicate) (inquireReply config again reply)
      w o w (judged predicate reply) := by
  rcases reply with (e | snapshot) | payload
  · simp only [decision, Option.ite_none_left_eq_some] at h
    obtain ⟨hfinal, ho⟩ := h
    rw [inquireReply, if_neg hfinal, ← Option.some.inj ho]
    exact finishes_done _
  · refine Finishes.call (I := inquiryInterface T) (.judge snapshot.object) ?_
    simp only [decision] at h
    simp only [judging]
    cases hverdict : predicate snapshot.object with
    | notYet => simp [hverdict] at h
    | satisfied =>
      rw [hverdict] at h
      rw [← Option.some.inj h]
      exact finishes_done _
    | unrecoverable reason =>
      rw [hverdict] at h
      rw [← Option.some.inj h]
      exact finishes_done _
  · rw [← Option.some.inj h]
    exact finishes_panic payload

theorem finishes_of_undecided
    {again : Program (inquiryInterface T).timed (Except Error (Versioned T))}
    {reply : Attempted (Versioned T)} {asked : Trace (inquiryInterface T)}
    (h : decision config predicate reply = none)
    (hagain : Finishes (I := inquiryInterface T) (judging answer predicate) again w o w' asked) :
    Finishes (I := inquiryInterface T) (judging answer predicate) (inquireReply config again reply)
      w o w' (judged predicate reply ++ asked) := by
  rcases reply with (e | snapshot) | payload
  · simp only [decision, ite_eq_left_iff, Bool.not_eq_true, reduceCtorEq, imp_false,
      Bool.not_eq_false] at h
    rw [inquireReply, if_pos h]
    exact hagain
  · refine Finishes.call (I := inquiryInterface T) (.judge snapshot.object) ?_
    simp only [judging, decision_ok_eq_none_iff.mp h]
    exact hagain
  · cases h

/-- How the poll with this number can be the last one: it decides the wait, or there is no time for
another one. -/
inductive Ends (answer : (call : StoreCall T) → σ → Attempted call.Answer × σ) (name : String)
    (config : WaitConfig) (predicate : T → Verdict) (interval : Nat) (plane : σ) (poll : Nat) :
    Outcome (Except Error (Versioned T)) → Prop where
  | decided {o : Outcome (Except Error (Versioned T))}
      (h : decision config predicate (readAt answer name plane poll) = some o) :
      Ends answer name config predicate interval plane poll o
  | exhausted (h : decision config predicate (readAt answer name plane poll) = none)
      (hlast : poll = lastPoll config.timeout interval) :
      Ends answer name config predicate interval plane poll
        (.returned (.error (.timeout config.description (.ofMillis (poll * stride interval)))))

variable {interval : Nat}

/-- The sleep after a poll lasts until the next one. -/
theorem slept_worldAt (w : World σ) (poll : Nat) :
    (worldAt answer name interval w poll).slept (.ofMillis interval) =
      worldBefore answer name interval w (poll + 1) := by
  rw [slept_ofMillis, worldBefore, worldAt, Nat.add_assoc, Nat.succ_mul]

/-- The polls from a number on, up to the one that ends the wait. -/
theorem finishes_inquireFrom (hinterval : config.pollInterval = .ofMillis interval)
    (hpos : 0 < interval) {last : Nat} (hlast : last ≤ lastPoll config.timeout interval)
    (hends : Ends answer name config predicate interval w.plane last o) :
    ∀ (left poll : Nat), poll ≤ last → last < poll + left →
      (∀ k, poll ≤ k → k < last →
        decision config predicate (readAt answer name w.plane k) = none) →
      Finishes (I := inquiryInterface T) (judging answer predicate)
        (inquireFrom name config w.now left) (worldBefore answer name interval w poll) o
        (worldAt answer name interval w last)
        ((List.range' poll (last + 1 - poll)).flatMap (asksAt answer name predicate w.plane)) := by
  intro left
  induction left with
  | zero => omega
  | succ left ih =>
    intro poll hpoll hcount hidle
    have hwaited : (worldAt answer name interval w poll).now.since w.now =
        .ofMillis (poll * stride interval) := since_of_clock rfl
    rw [show last + 1 - poll = last - poll + 1 by omega, List.range'_succ, List.flatMap_cons,
      asksAt, List.cons_append]
    refine Finishes.call (I := inquiryInterface T) (.call (.get name)) ?_
    rcases Nat.lt_or_eq_of_le hpoll with hbefore | rfl
    · -- this poll is not the last one, so the wait sleeps until the next one
      refine finishes_of_undecided (w := worldAt answer name interval w poll)
        (hidle poll (Nat.le_refl _) hbefore) (.now ?_)
      have hintime := (lt_lastPoll_iff hpos).mp (Nat.lt_of_lt_of_le hbefore hlast)
      rw [hwaited, hinterval, if_neg hintime]
      refine .sleep ?_
      rw [slept_worldAt, show last - poll = last + 1 - (poll + 1) by omega]
      exact ih (poll + 1) hbefore (by omega) fun k hk => hidle k (Nat.le_of_succ_le hk)
    · rw [Nat.sub_self, List.range'_zero, List.flatMap_nil]
      cases hends with
      | decided h =>
        rw [List.append_nil]
        exact finishes_of_decided (w := worldAt answer name interval w poll) h
      | exhausted h hexhausted =>
        refine finishes_of_undecided (w := worldAt answer name interval w poll) h (.now ?_)
        have hlate := mt (lt_lastPoll_iff hpos).mpr (Nat.not_lt_of_le (Nat.le_of_eq hexhausted.symm))
        rw [hwaited, hinterval, if_pos (Decidable.not_not.mp hlate)]
        exact finishes_done _

/-! ## The whole wait -/

/-- The poll with this number is the last of the wait, which ends so. The calls are the reads of all
polls up to it, and its verdicts are asked for once for each snapshot that was read. -/
structure EndsAt (answer : (call : StoreCall T) → σ → Attempted call.Answer × σ) (name : String)
    (config : WaitConfig) (predicate : T → Verdict) (interval : Nat) (w : World σ) (poll : Nat)
    (o : Outcome (Except Error (Versioned T))) : Prop where
  run : (waitFor name config predicate).runIn (I := storeInterface T) answer w =
    (o, worldAt answer name interval w poll)
  reads : calls ((waitFor name config predicate).trace (World.reply (I := storeInterface T) answer) w) =
    (List.range (poll + 1)).map fun k => ⟨.get name, readAt answer name w.plane k⟩
  judged : calls ((inquire name config).trace
      (World.reply (I := inquiryInterface T) (judging answer predicate)) w) =
    (List.range (poll + 1)).flatMap (asksAt answer name predicate w.plane)

theorem filterMap_ofStore?_asksAt (answer : (call : StoreCall T) → σ → Attempted call.Answer × σ)
    (name : String) (predicate : T → Verdict) (plane : σ) (poll : Nat) :
    (asksAt answer name predicate plane poll).filterMap Event.ofStore? =
      [⟨.get name, readAt answer name plane poll⟩] := by
  unfold asksAt
  rcases readAt answer name plane poll with (_ | _) | _ <;> rfl

/-- The first poll that can be the last one is. -/
theorem endsAt_of_ends (hinterval : config.pollInterval = .ofMillis interval) (hpos : 0 < interval)
    {last : Nat} (hlast : last ≤ lastPoll config.timeout interval) (hcount : last < countLimit)
    (hidle : ∀ k < last, decision config predicate (readAt answer name w.plane k) = none)
    (hends : Ends answer name config predicate interval w.plane last o) :
    EndsAt answer name config predicate interval w last o := by
  have hbefore : worldBefore answer name interval w 0 = w := by
    rw [worldBefore, Nat.zero_mul]
    rfl
  have hpolls := finishes_inquireFrom hinterval hpos hlast hends countLimit 0 (Nat.zero_le _)
    (by omega) fun k _ => hidle k
  rw [hbefore] at hpolls
  have hinquire : Finishes (I := inquiryInterface T) (judging answer predicate) (inquire name config)
      w o (worldAt answer name interval w last)
      ((List.range (last + 1)).flatMap (asksAt answer name predicate w.plane)) := by
    rw [List.range_eq_range']
    exact .now hpolls
  refine ⟨?_, ?_, hinquire.asked⟩
  · rw [← within_inquire, runIn_within_judgedBy]
    exact hinquire.run
  · rw [← within_inquire, calls_within_judgedBy, hinquire.asked, List.filterMap_flatMap]
    simp only [filterMap_ofStore?_asksAt]
    exact List.map_eq_flatMap.symm

/-- A wait with this budget goes by the timetable: the first poll within the budget that decides it
ends it, and without one it times out right after the last poll. -/
structure OnSchedule (answer : (call : StoreCall T) → σ → Attempted call.Answer × σ) (name : String)
    (config : WaitConfig) (predicate : T → Verdict) (interval : Nat) (w : World σ)
    (budget : Duration) : Prop where
  decided : ∀ poll ≤ lastPoll budget interval,
    (∀ k < poll, decision config predicate (readAt answer name w.plane k) = none) →
      ∀ o, decision config predicate (readAt answer name w.plane poll) = some o →
        EndsAt answer name config predicate interval w poll o
  exhausted : (∀ k ≤ lastPoll budget interval,
      decision config predicate (readAt answer name w.plane k) = none) →
    EndsAt answer name config predicate interval w (lastPoll budget interval)
      (.returned (.error (.timeout config.description
        (.ofMillis (lastPoll budget interval * stride interval)))))

theorem onSchedule (hinterval : config.pollInterval = .ofMillis interval) (hpos : 0 < interval)
    (w : World σ) (hcount : lastPoll config.timeout interval + 1 < 2 ^ 32) :
    OnSchedule answer name config predicate interval w config.timeout := by
  have hlimit : countLimit = 2 ^ 32 - 1 := rfl
  constructor
  · intro poll hpoll hidle o h
    exact endsAt_of_ends hinterval hpos hpoll (by omega) hidle (.decided h)
  · intro hidle
    exact endsAt_of_ends hinterval hpos (Nat.le_refl _) (by omega)
      (fun k hk => hidle k (Nat.le_of_lt hk)) (.exhausted (hidle _ (Nat.le_refl _)) rfl)

/-- A wait polls one stride after the other, up to the first poll that decides it and otherwise up to
the last one that fits into its budget; a deadline cuts the budget off. As long as the poll interval is
no longer than a sleep can be, a stride is the interval, and the budget holds as many polls after the
first as it holds intervals. No poll comes after the budget. -/
theorem waitFor_onSchedule (hinterval : config.pollInterval = .ofMillis interval)
    (hpos : 0 < interval) (w : World σ) :
    (lastPoll config.timeout interval + 1 < 2 ^ 32 →
      OnSchedule answer name config predicate interval w config.timeout) ∧
    (∀ deadline : Instant,
      lastPoll (min config.timeout (deadline.since w.now)) interval + 1 < 2 ^ 32 →
        OnSchedule answer name (config.boundedBy deadline w.now) predicate interval w
          (min config.timeout (deadline.since w.now))) ∧
    ∀ budget : Duration,
      (interval ≤ longestStride → stride interval = interval ∧
        lastPoll budget interval = budget.nanos / (Duration.ofMillis interval).nanos) ∧
      ∀ poll ≤ lastPoll budget interval, .ofMillis (poll * stride interval) ≤ budget := by
  refine ⟨onSchedule hinterval hpos w, fun deadline => ?_, fun budget => ⟨fun hshort => ?_, ?_⟩⟩
  · have hbounded : (config.boundedBy deadline w.now).pollInterval = .ofMillis interval := hinterval
    exact onSchedule hbounded hpos w
  · exact ⟨Nat.min_eq_left hshort, lastPoll_eq_div budget hpos hshort⟩
  · exact fun poll => ofMillis_le_of_le_lastPoll hpos

/-- A store of one pool that the second read and all later ones find building. -/
def buildsLate (call : StoreCall Pool) (reads : Nat) : Attempted call.Answer × Nat :=
  match call with
  | .get name =>
    let state := if reads = 0 then .idle else .building
    (.returned (.ok ⟨{ name, state }, "1"⟩), reads + 1)
  | .list => (.returned (.ok []), reads)
  | .create pool => (.returned (.ok ⟨pool, "1"⟩), reads)
  | .update _ pool _ => (.returned (.ok ⟨pool, "1"⟩), reads)
  | .delete _ => (.returned (.ok ()), reads)

/-- The build has begun by the second poll, two of five seconds into the wait. -/
theorem waitFor_onSchedule_buildsLate :
    ∃ config : WaitConfig, config = ⟨"build start", .ofSecs 5, .ofMillis 2000⟩ ∧
      config.pollInterval = .ofMillis 2000 ∧ 0 < 2000 ∧ lastPoll config.timeout 2000 = 2 ∧
      EndsAt buildsLate "layered" config Predicates.buildStarted 2000 (.start 0) 1
        (.returned (.ok ⟨{ name := "layered", state := .building }, "1"⟩)) :=
  ⟨_, rfl, rfl, by decide, by decide, ((waitFor_onSchedule rfl (by decide) (.start 0)).1
    (by decide)).decided 1 (by decide) (fun k hk => by rw [Nat.lt_one_iff.mp hk]; rfl) _ rfl⟩

/-- An interval longer than any sleep is cut short: a wait that polls every trillion milliseconds, over
thirty-one years, comes to its second poll early. -/
theorem waitFor_early_of_longestStride_lt :
    ∃ config : WaitConfig,
      config = ⟨"build start", .ofMillis 1000000000000, .ofMillis 1000000000000⟩ ∧
      config.timeout.nanos / config.pollInterval.nanos = 1 ∧
      decision config Predicates.buildStarted (readAt buildsLate "layered" 0 0) = none ∧
      decision config Predicates.buildStarted (readAt buildsLate "layered" 0 1) =
        some (.returned (.ok ⟨{ name := "layered", state := .building }, "1"⟩)) ∧
      ((waitFor "layered" config Predicates.buildStarted).runIn (I := storeInterface Pool) buildsLate
        (.start 0)).1 = .returned (.ok ⟨{ name := "layered", state := .building }, "1"⟩) ∧
      ((waitFor "layered" config Predicates.buildStarted).runIn (I := storeInterface Pool) buildsLate
        (.start 0)).2.clock = 946080000000 ∧
      (946080000000 : Nat) ≠ 1 * 1000000000000 := by
  refine ⟨_, rfl, by decide, rfl, rfl, ?_⟩
  have hends : EndsAt buildsLate "layered"
      ⟨"build start", .ofMillis 1000000000000, .ofMillis 1000000000000⟩ Predicates.buildStarted
      1000000000000 (.start 0) 1 _ :=
    endsAt_of_ends rfl (by decide) (by decide) (by decide)
      (fun k hk => by rw [Nat.lt_one_iff.mp hk]; rfl) (.decided rfl)
  rw [hends.run]
  exact ⟨rfl, rfl, by decide⟩

end Wait

end BuildTrial
