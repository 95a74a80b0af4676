/-
Termination of a weighted reservation (`exchange/rate_limit.py`).

A round of `reserve` that is delayed sleeps until every throttled window has ended, so that the
next round finds these windows empty and the others no fuller than before.  What delays that round
is the weight of the request alone, and then it delays every later round as well.

* `ClockReading`, `afterSleeps`: the loop of `reserve` with what it reads from the clocks;
* `Throttled`, `reserveOnce_delayed_iff`: when a round is delayed;
* `Stuck`: a first round that passes every hard stop, with a weight that some window throttles by
  itself;
* `reserve_ends_iff`: **termination** exactly for the requests that are not stuck, and then in the
  second round at the latest.
-/
import Ai4Binance.Exchange.RateLimit

namespace Ai4Binance

/-- What a round reads from the wall clock and from the monotonic clock. -/
structure ClockReading where
  now : ℚ
  monotonic : ℚ

namespace Window

variable {w : Window} {now : ℚ}

/-- A window that is rolled over has counted nothing, and another one is kept. -/
lemma used_resetElapsed (w : Window) (now : ℚ) :
    (w.resetElapsed now).used = 0 ∨ (w.resetElapsed now).used = w.used := by
  rw [resetElapsed]
  split_ifs
  · exact .inl rfl
  · exact .inr rfl

/-- A window that has ended is rolled over. -/
lemma used_resetElapsed_of_ended (h : w.startedAt + w.seconds ≤ now) :
    (w.resetElapsed now).used = 0 := by
  have hs : (0 : ℚ) < w.seconds := by exact_mod_cast w.seconds_pos
  have hlt : w.startedAt < alignedStart now w.seconds := by
    have hfloor := Int.lt_floor_add_one (now / w.seconds)
    rw [div_lt_iff₀ hs, add_mul, one_mul, ← alignedStart_eq] at hfloor
    linarith
  rw [resetElapsed, if_pos hlt]

/-- A window that has been rolled over has not ended. -/
lemma lt_end_resetElapsed (w : Window) (now : ℚ) :
    now < (w.resetElapsed now).startedAt + w.seconds := by
  have hs : (0 : ℚ) < w.seconds := by exact_mod_cast w.seconds_pos
  have hfloor := Int.lt_floor_add_one (now / w.seconds)
  rw [div_lt_iff₀ hs, add_mul, one_mul, ← alignedStart_eq] at hfloor
  rw [resetElapsed]
  split_ifs with hlt
  · exact hfloor
  · exact hfloor.trans_le (add_le_add_left (not_lt.mp hlt) _)

end Window

namespace WeightedRateLimitGovernor

variable {g g' : WeightedRateLimitGovernor} {weight : ℤ} {priority : RequestPriority}
  {reading : ClockReading} {w w' : Window} {d : ℚ}

/-! ### The loop of `reserve` -/

/-- The governor before the round with this number, if all rounds before it were delayed. -/
def afterSleeps (g : WeightedRateLimitGovernor) (weight : ℤ) (priority : RequestPriority)
    (clock : ℕ → ClockReading) : ℕ → Option WeightedRateLimitGovernor
  | 0 => some g
  | n + 1 => (afterSleeps g weight priority clock n).bind fun g =>
    match g.reserveOnce weight priority (clock n).monotonic (clock n).now with
    | (g', .delayed _) => some g'
    | _ => none

/-- Both clocks advance by the requested time at least during each sleep of the loop. -/
def Sleeps (g : WeightedRateLimitGovernor) (weight : ℤ) (priority : RequestPriority)
    (clock : ℕ → ClockReading) : Prop :=
  ∀ n before after seconds, g.afterSleeps weight priority clock n = some before →
    before.reserveOnce weight priority (clock n).monotonic (clock n).now =
      (after, .delayed seconds) →
    (clock n).now + seconds ≤ (clock (n + 1)).now ∧
      (clock n).monotonic + seconds ≤ (clock (n + 1)).monotonic

/-! ### A delayed round -/

/-- The usage of a window with the request is in the band that delays it. -/
def Throttled (g : WeightedRateLimitGovernor) (weight : ℤ) (priority : RequestPriority)
    (w : Window) : Prop :=
  g.bands.throttle ≤ g.ratio (w.used + weight) w ∨
    (g.bands.warning ≤ g.ratio (w.used + weight) w ∧ priority = .supplemental)

/-- The usage of each window with the request stays below the hard stop. -/
def BelowHardStop (g : WeightedRateLimitGovernor) (weight : ℤ) (windows : List Window) : Prop :=
  ∀ w ∈ windows, g.ratio (w.used + weight) w < g.bands.hardStop

/-- More weight in a window of the same limit is no smaller part of it. -/
lemma ratio_mono (g : WeightedRateLimitGovernor) {projected projected' : ℤ}
    (hlimit : w.limit = w'.limit) (h : projected ≤ projected') :
    g.ratio projected w ≤ g.ratio projected' w' := by
  refine g.quotient.monotone ?_
  rw [hlimit]
  have hcast : (projected : ℚ) ≤ projected' := by exact_mod_cast h
  exact div_le_div_of_nonneg_right hcast (Nat.cast_nonneg _)

lemma Throttled.mono (h : g.Throttled weight priority w) (hlimit : w.limit = w'.limit)
    (hused : w.used ≤ w'.used) : g.Throttled weight priority w' := by
  have hratio := g.ratio_mono hlimit (add_le_add_left hused weight)
  exact h.imp hratio.trans' fun h => ⟨hratio.trans' h.1, h.2⟩

variable (priority) in
/-- The loop over windows below the hard stop: its delay covers the throttled windows, and it is
none without them. -/
lemma delayOver_ok {windows : List Window} (now : ℚ) (delay : ℚ)
    (h : g.BelowHardStop weight windows) :
    ∃ d, g.delayOver weight priority now windows delay = .ok d ∧ delay ≤ d ∧
      (∀ w ∈ windows, g.Throttled weight priority w → w.startedAt + w.seconds - now ≤ d) ∧
      (d = delay ∨ ∃ w ∈ windows, g.Throttled weight priority w) := by
  induction windows generalizing delay with
  | nil => exact ⟨delay, rfl, le_rfl, by simp, .inl rfl⟩
  | cons w windows ih =>
    have hw := not_le.mpr (h w List.mem_cons_self)
    have hrest : g.BelowHardStop weight windows := fun w hw => h w (List.mem_cons_of_mem _ hw)
    rw [delayOver, if_neg hw]
    by_cases hband : g.Throttled weight priority w
    · rw [if_pos (by exact hband)]
      obtain ⟨d, hd, hle, hcover, -⟩ :=
        ih (max delay (w.startedAt + w.seconds - now)) hrest
      refine ⟨d, hd, (le_max_left _ _).trans hle, ?_, .inr ⟨w, List.mem_cons_self, hband⟩⟩
      intro w' hw' hband'
      rcases List.mem_cons.mp hw' with rfl | hw'
      · exact (le_max_right _ _).trans hle
      · exact hcover w' hw' hband'
    · rw [if_neg (by exact hband)]
      obtain ⟨d, hd, hle, hcover, hnone⟩ := ih delay hrest
      refine ⟨d, hd, hle, ?_, hnone.imp_right ?_⟩
      · intro w' hw' hband'
        rcases List.mem_cons.mp hw' with rfl | hw'
        · exact absurd hband' hband
        · exact hcover w' hw' hband'
      · rintro ⟨w', hw', hband'⟩
        exact ⟨w', List.mem_cons_of_mem _ hw', hband'⟩

/-- Rolling the windows over changes no band. -/
lemma delayOver_resetElapsedWindows (rolled now : ℚ) (windows : List Window) (delay : ℚ) :
    (g.resetElapsedWindows rolled).delayOver weight priority now windows delay =
      g.delayOver weight priority now windows delay := by
  induction windows generalizing delay with
  | nil => rfl
  | cons w windows ih =>
    rw [delayOver, delayOver, ih, ih]
    rfl

/-- A round that is delayed has passed the cooldown and every hard stop; it rolls the windows over
and sleeps until each throttled one has ended. -/
lemma reserveOnce_delayed
    (h : g.reserveOnce weight priority reading.monotonic reading.now = (g', .delayed d)) :
    g' = g.resetElapsedWindows reading.now ∧ g.cooldownUntil ≤ reading.monotonic ∧ 0 < d ∧
      g.BelowHardStop weight g'.windows ∧ (∃ w ∈ g'.windows, g.Throttled weight priority w) ∧
      ∀ w ∈ g'.windows, g.Throttled weight priority w →
        w.startedAt + w.seconds ≤ reading.now + d := by
  simp only [reserveOnce, delayOver_resetElapsedWindows] at h
  split_ifs at h with hweight hcool hnone
  case neg =>
    cases hdelay : g.delayOver weight priority reading.now
        (g.resetElapsedWindows reading.now).windows 0 with
    | error message =>
      rw [hdelay] at h
      cases (Prod.mk.inj h).2
    | ok delay =>
      rw [hdelay] at h
      dsimp only at h
      split_ifs at h with hnow
      · cases (Prod.mk.inj h).2
      obtain ⟨rfl, hd⟩ := Prod.mk.inj h
      have hd := Round.delayed.inj hd
      have hbelow : g.BelowHardStop weight (g.resetElapsedWindows reading.now).windows :=
        ratio_lt_of_delayOver hdelay
      obtain ⟨delay', hdelay', -, hcover, hsome⟩ := delayOver_ok priority
        reading.now 0 hbelow
      obtain rfl : delay = delay' := Except.ok.inj (hdelay.symm.trans hdelay')
      have hle : delay ≤ d := hd ▸ le_max_right _ _
      refine ⟨rfl, not_lt.mp hcool, (not_le.mp hnow).trans_le hle, hbelow,
        hsome.resolve_left (not_le.mp hnow).ne', fun w hw hband => ?_⟩
      have hwait := hcover w hw hband
      linarith
  all_goals cases (Prod.mk.inj h).2

/-- A round after the cooldown and below every hard stop is delayed by a throttled window, which
has not ended. -/
lemma exists_delayed (hweight : 0 < weight) (hcool : g.cooldownUntil ≤ reading.monotonic)
    (hbelow : g.BelowHardStop weight (g.resetElapsedWindows reading.now).windows)
    (hband : ∃ w ∈ (g.resetElapsedWindows reading.now).windows, g.Throttled weight priority w) :
    ∃ g' d, g.reserveOnce weight priority reading.monotonic reading.now = (g', .delayed d) := by
  obtain ⟨w, hw, hband⟩ := hband
  obtain ⟨delay, hdelay, -, hcover, -⟩ := delayOver_ok priority reading.now 0 hbelow
  have hlater : ¬ delay ≤ 0 := by
    obtain ⟨w, -, rfl⟩ := List.mem_map.mp hw
    have hend := w.lt_end_resetElapsed reading.now
    have hwait := hcover _ hw hband
    rw [Window.seconds_resetElapsed] at hwait
    linarith
  refine ⟨g.resetElapsedWindows reading.now, max (1 / 1000) delay, ?_⟩
  rw [reserveOnce, if_neg (not_le.mpr hweight), if_neg (not_lt.mpr hcool)]
  dsimp only
  rw [if_neg (List.ne_nil_of_mem hw), delayOver_resetElapsedWindows, hdelay]
  exact if_neg hlater

/-! ### Stuck requests -/

/-- The windows have counted no negative weight. -/
def Counted (g : WeightedRateLimitGovernor) : Prop := ∀ w ∈ g.windows, 0 ≤ w.used

/-- A request that passes the cooldown and every hard stop now, and whose weight alone is in the
band of some window that delays it. -/
structure Stuck (g : WeightedRateLimitGovernor) (weight : ℤ) (priority : RequestPriority)
    (reading : ClockReading) : Prop where
  cooled : g.cooldownUntil ≤ reading.monotonic
  below : g.BelowHardStop weight (g.resetElapsedWindows reading.now).windows
  throttled : ∃ w ∈ g.windows, g.Throttled weight priority { w with used := 0 }

lemma Counted.resetElapsedWindows (h : g.Counted) (now : ℚ) :
    (g.resetElapsedWindows now).Counted := by
  intro w' hw'
  obtain ⟨w, hw, rfl⟩ := List.mem_map.mp hw'
  rcases w.used_resetElapsed now with hused | hused
  · exact hused.ge
  · exact hused ▸ h w hw

/-- Rolling the windows over takes no governor into a hard stop. -/
lemma BelowHardStop.resetElapsedWindows (hcounted : g.Counted)
    (h : g.BelowHardStop weight g.windows) (now : ℚ) :
    g.BelowHardStop weight (g.resetElapsedWindows now).windows := by
  intro w' hw'
  obtain ⟨w, hw, rfl⟩ := List.mem_map.mp hw'
  refine (g.ratio_mono (w.limit_resetElapsed now) (add_le_add_left ?_ weight)).trans_lt (h w hw)
  rcases w.used_resetElapsed now with hused | hused
  · exact hused ▸ hcounted w hw
  · exact hused.le

/-- A stuck request is delayed, and stuck again after the sleep. -/
lemma Stuck.step (hweight : 0 < weight) (hcounted : g.Counted)
    (h : g.Stuck weight priority reading) :
    ∃ g' d, g.reserveOnce weight priority reading.monotonic reading.now = (g', .delayed d) ∧
      g'.Counted ∧ ∀ next : ClockReading, reading.monotonic + d ≤ next.monotonic →
        g'.Stuck weight priority next := by
  obtain ⟨w, hw, hband⟩ := h.throttled
  have hcounted' := hcounted.resetElapsedWindows reading.now
  have hmem : w.resetElapsed reading.now ∈ (g.resetElapsedWindows reading.now).windows :=
    List.mem_map_of_mem hw
  have hfull : g.Throttled weight priority (w.resetElapsed reading.now) :=
    hband.mono (w.limit_resetElapsed reading.now).symm (hcounted' _ hmem)
  obtain ⟨g', d, hround⟩ := exists_delayed hweight h.cooled h.below ⟨_, hmem, hfull⟩
  obtain ⟨rfl, -, hd, hbelow, -, -⟩ := reserveOnce_delayed hround
  refine ⟨_, d, hround, hcounted', fun next hnext => ⟨?_, ?_, w.resetElapsed reading.now, hmem, ?_⟩⟩
  · exact h.cooled.trans ((le_add_of_nonneg_right hd.le).trans hnext)
  · exact BelowHardStop.resetElapsedWindows hcounted' hbelow next.now
  · exact hband.mono (w.limit_resetElapsed reading.now).symm le_rfl

/-- A stuck request is delayed for ever. -/
lemma Stuck.afterSleeps {clock : ℕ → ClockReading} (hweight : 0 < weight) (hcounted : g.Counted)
    (hsleep : g.Sleeps weight priority clock) (h : g.Stuck weight priority (clock 0)) (n : ℕ) :
    ∃ g', g.afterSleeps weight priority clock n = some g' ∧ g'.Counted ∧
      g'.Stuck weight priority (clock n) := by
  induction n with
  | zero => exact ⟨g, rfl, hcounted, h⟩
  | succ n ih =>
    obtain ⟨g', hg', hcounted', hstuck⟩ := ih
    obtain ⟨g'', d, hround, hcounted'', hnext⟩ := hstuck.step hweight hcounted'
    refine ⟨g'', ?_, hcounted'', hnext _ (hsleep n g' g'' d hg' hround).2⟩
    rw [WeightedRateLimitGovernor.afterSleeps, hg', Option.bind_some, hround]

/-- A request that is delayed twice is stuck. -/
lemma stuck_of_delayed_twice {clock : ℕ → ClockReading} {g'' : WeightedRateLimitGovernor}
    {e : ℚ}
    (hfirst : g.reserveOnce weight priority (clock 0).monotonic (clock 0).now = (g', .delayed d))
    (hclock : (clock 0).now + d ≤ (clock 1).now)
    (hsecond : g'.reserveOnce weight priority (clock 1).monotonic (clock 1).now =
      (g'', .delayed e)) :
    g.Stuck weight priority (clock 0) := by
  obtain ⟨rfl, hcool, -, hbelow, -, hwait⟩ := reserveOnce_delayed hfirst
  obtain ⟨rfl, -, -, -, ⟨w'', hw'', hband⟩, -⟩ := reserveOnce_delayed hsecond
  obtain ⟨w', hw', rfl⟩ := List.mem_map.mp hw''
  obtain ⟨w, hw, rfl⟩ := List.mem_map.mp hw'
  refine ⟨hcool, hbelow, w, hw, ?_⟩
  have hlimit : ((w.resetElapsed (clock 0).now).resetElapsed (clock 1).now).limit = w.limit := by
    rw [Window.limit_resetElapsed, Window.limit_resetElapsed]
  -- a window that is throttled in the second round has been rolled over before it
  by_cases hold : g.Throttled weight priority (w.resetElapsed (clock 0).now)
  · have hended := (hwait _ hw' hold).trans hclock
    exact hband.mono hlimit (Window.used_resetElapsed_of_ended hended).le
  · rcases (w.resetElapsed (clock 0).now).used_resetElapsed (clock 1).now with hused | hused
    · exact hband.mono hlimit hused.le
    · exact absurd (hband.mono ((Window.limit_resetElapsed _ _)) hused.le) hold

/-- A request that is not stuck ends in its second round at the latest. -/
lemma afterSleeps_two {clock : ℕ → ClockReading} (hsleep : g.Sleeps weight priority clock)
    (h : ¬ g.Stuck weight priority (clock 0)) : g.afterSleeps weight priority clock 2 = none := by
  rw [afterSleeps, Option.bind_eq_none_iff]
  intro g' hg'
  rw [afterSleeps, afterSleeps, Option.bind_some] at hg'
  cases hfirst : g.reserveOnce weight priority (clock 0).monotonic (clock 0).now with
  | mk after round =>
    rw [hfirst] at hg'
    cases round with
    | granted => cases hg'
    | raised message => cases hg'
    | delayed d =>
      obtain rfl := Option.some.inj hg'
      cases hsecond : after.reserveOnce weight priority (clock 1).monotonic (clock 1).now with
      | mk last round =>
        cases round with
        | granted => rfl
        | raised message => rfl
        | delayed e =>
          exact absurd (stuck_of_delayed_twice hfirst (hsleep 0 g after d rfl hfirst).1 hsecond) h

end WeightedRateLimitGovernor

namespace GovernorRun

open WeightedRateLimitGovernor

/-- No critical section counts negative weight. -/
lemma counted_after {r : GovernorRun} (h : r.governor.Counted) (c : GovernorCall) :
    (r.after c).governor.Counted := by
  cases c with
  | configure payload now =>
    rw [after, configureFromExchangeInfo]
    split
    · exact h
    · next w windows hconfigured =>
      intro w' hw'
      obtain ⟨w₀, hw₀, rfl⟩ := List.mem_map.mp hw'
      exact (used_configured w₀ (hconfigured ▸ hw₀)).ge
  | observeHeaders headers now =>
    intro w' hw'
    obtain ⟨w, hw, rfl⟩ := List.mem_map.mp hw'
    obtain ⟨used, hused, heq⟩ := w.observe_eq headers
    rw [heq]
    exact (h.resetElapsedWindows now w hw).trans hused
  | reserve weight priority monotonic now =>
    obtain ⟨⟨g, round⟩, hround⟩ :
      ∃ out, r.governor.reserveOnce weight priority monotonic now = out := ⟨_, rfl⟩
    have hg : g.Counted := by
      rcases reserveOnce_cases hround with ⟨rfl, -, -, -, rfl⟩ | ⟨-, rfl | rfl⟩
      · have hweight : 0 < weight := by
          by_contra hle
          rw [reserveOnce, if_pos (not_lt.mp hle)] at hround
          cases (Prod.mk.inj hround).2
        intro w' hw'
        obtain ⟨w, hw, rfl⟩ := List.mem_map.mp hw'
        exact add_nonneg (h.resetElapsedWindows now w hw) hweight.le
      · exact h
      · exact h.resetElapsedWindows now
    rw [after, hround]
    cases round <;> exact hg
  | retryAfter seconds banned monotonic => exact h
  | status now => exact h.resetElapsedWindows now

/-- The windows of every governor have counted no negative weight. -/
lemma counted_foldl {r : GovernorRun} (h : r.governor.Counted) (calls : List GovernorCall) :
    (calls.foldl after r).governor.Counted := by
  induction calls generalizing r with
  | nil => exact h
  | cons c calls ih => exact ih (counted_after h c)

/-- **Termination of a reservation**: in every state of a governor, with clocks that advance by the
requested time during each sleep, the loop of `reserve` ends if and only if the request is not
stuck. -/
theorem reserve_ends_iff {bands : RateLimitBands} (quotient : FloatQuotient bands)
    (cooldownUntil time : ℚ) (calls : List GovernorCall) {weight : ℤ} (priority : RequestPriority)
    {clock : ℕ → ClockReading} (hweight : 0 < weight)
    (hsleep : (calls.foldl after (start bands quotient cooldownUntil time)).governor.Sleeps weight
      priority clock) :
    (∃ n, (calls.foldl after (start bands quotient cooldownUntil time)).governor.afterSleeps weight
      priority clock n = none) ↔
      ¬ (calls.foldl after (start bands quotient cooldownUntil time)).governor.Stuck weight
        priority (clock 0) := by
  have hcounted : (start bands quotient cooldownUntil time).governor.Counted := by
    intro w hw
    cases hw
  have hcounted := counted_foldl hcounted calls
  constructor
  · rintro ⟨n, hnone⟩ hstuck
    obtain ⟨g', hg', -⟩ := hstuck.afterSleeps hweight hcounted hsleep n
    rw [hg'] at hnone
    cases hnone
  · exact fun h => ⟨2, afterSleeps_two hsleep h⟩

/-- Clocks that are read every minute. -/
def minuteClock (n : ℕ) : ClockReading := ⟨60 * n + 1, 60 * n + 1⟩

/-- A request of 46, after one of 40 in the same minute, is granted in the next minute. -/
theorem next_minute_ends :
    ∃ n, ([.configure minutePayload 0, .reserve 40 .metadata 0 0].foldl after
      minuteStart).governor.afterSleeps 46 .metadata minuteClock n = none := by
  have hfirst : (([.configure minutePayload 0, .reserve 40 .metadata 0 0].foldl after
      minuteStart).governor.reserveOnce 46 .metadata (minuteClock 0).monotonic
      (minuteClock 0).now).2 = .delayed 59 := by decide +kernel
  have hsecond : (([.configure minutePayload 0, .reserve 40 .metadata 0 0].foldl after
      minuteStart).governor.afterSleeps 46 .metadata minuteClock 2).isNone := by decide +kernel
  have hwindows : ([.configure minutePayload 0, .reserve 40 .metadata 0 0].foldl after
      minuteStart).governor.windows = [⟨60, 100, 40, 0, by decide, by decide⟩] := by decide +kernel
  refine (reserve_ends_iff ⟨id, monotone_id, rfl⟩ 0 0 [.configure minutePayload 0,
    .reserve 40 .metadata 0 0] .metadata (by decide) ?_).mpr ?_
  · intro n before last seconds hbefore hlast
    cases n with
    | zero =>
      obtain rfl := Option.some.inj hbefore
      obtain rfl := Round.delayed.inj (hfirst.symm.trans (congrArg Prod.snd hlast))
      decide +kernel
    | succ n =>
      -- the second round is not delayed, and there is no later one
      have hnone : ∀ k, ([.configure minutePayload 0, .reserve 40 .metadata 0 0].foldl after
          minuteStart).governor.afterSleeps 46 .metadata minuteClock (k + 2) = none := by
        intro k
        induction k with
        | zero => exact Option.isNone_iff_eq_none.mp hsecond
        | succ k ih => rw [afterSleeps, ih, Option.bind_none]
      have hround : ([.configure minutePayload 0, .reserve 40 .metadata 0 0].foldl after
          minuteStart).governor.afterSleeps 46 .metadata minuteClock (n + 1 + 1) = some last := by
        rw [afterSleeps]
        exact (congrArg (Option.bind · _) hbefore).trans (by rw [Option.bind_some, hlast])
      rw [hnone n] at hround
      cases hround
  · intro hstuck
    obtain ⟨w, hw, hband⟩ := hstuck.throttled
    obtain rfl := List.mem_singleton.mp (hwindows ▸ hw)
    rcases hband with hband | ⟨hband, -⟩ <;> exact absurd hband (by decide +kernel)

/-- The governor of a minute with a limit of 100, with the weight it has counted. -/
def minuteGovernor (used : ℤ) (startedAt : ℚ) : WeightedRateLimitGovernor :=
  { minuteStart.governor with windows := [⟨60, 100, used, startedAt, by decide, by decide⟩] }

lemma minuteGovernor_resetElapsed (used : ℤ) {startedAt : ℚ} {n : ℕ} (h : startedAt ≤ 60 * n)
    (hused : used = 0 ∨ startedAt < 60 * n) :
    (minuteGovernor used startedAt).resetElapsedWindows (minuteClock n).now =
      minuteGovernor 0 (60 * n) := by
  have hfloor : ⌊(60 * n + 1 : ℚ) / (60 : ℕ)⌋ = n := by
    rw [Int.floor_eq_iff]
    push_cast
    constructor <;> linarith
  have haligned : alignedStart (60 * n + 1) 60 = 60 * n := by
    rw [alignedStart_eq, hfloor]
    push_cast
    ring
  simp only [minuteGovernor, resetElapsedWindows, List.map_cons, List.map_nil, Window.resetElapsed,
    minuteClock, haligned]
  split_ifs with hlt
  · rfl
  · rw [le_antisymm h (not_lt.mp hlt), hused.resolve_right hlt]

lemma minuteGovernor_configured :
    ([.configure minutePayload 0].foldl after minuteStart).governor = minuteGovernor 0 0 := by
  have hwindows : configured minutePayload = [⟨60, 100, 0, 0, by decide, by decide⟩] := by
    decide +kernel
  have hstart : alignedStart 0 60 = 0 := by decide +kernel
  simp only [List.foldl_cons, List.foldl_nil, after, configureFromExchangeInfo, hwindows,
    List.map_cons, List.map_nil, hstart]
  rfl

/-- The request of 86 out of 100 is in the band that delays it in every minute. -/
theorem between_bands_never_ends :
    (([.configure minutePayload 0].foldl after minuteStart).governor.Sleeps 86 .metadata
      minuteClock) ∧
    ∀ n, ([.configure minutePayload 0].foldl after minuteStart).governor.afterSleeps 86 .metadata
      minuteClock n ≠ none := by
  have hstart : ([.configure minutePayload 0].foldl after minuteStart).governor =
      minuteGovernor 0 0 := minuteGovernor_configured
  have hround : ∀ (n : ℕ) (startedAt : ℚ), startedAt ≤ 60 * n →
      (minuteGovernor 0 startedAt).reserveOnce 86 .metadata (minuteClock n).monotonic
        (minuteClock n).now = (minuteGovernor 0 (60 * n), .delayed 59) := by
    intro n startedAt hle
    have hreset := minuteGovernor_resetElapsed 0 hle (.inl rfl)
    have hcool : ¬ (minuteClock n).monotonic < (minuteGovernor 0 startedAt).cooldownUntil := by
      change ¬ (60 * n + 1 : ℚ) < 0
      exact not_lt.mpr (by positivity)
    have hdelay : (minuteGovernor 0 (60 * n)).delayOver 86 .metadata (minuteClock n).now
        (minuteGovernor 0 (60 * n)).windows 0 = .ok 59 := by
      have hhard : ¬ (9 / 10 : ℚ) ≤ ((0 + 86 : ℤ) : ℚ) / ((100 : ℕ) : ℚ) := by norm_num
      have hband : (85 / 100 : ℚ) ≤ ((0 + 86 : ℤ) : ℚ) / ((100 : ℕ) : ℚ) := by norm_num
      have hwait : max 0 (60 * n + (60 : ℕ) - (60 * n + 1) : ℚ) = 59 := by
        rw [show (60 * n + (60 : ℕ) - (60 * n + 1) : ℚ) = 59 by push_cast; ring]
        norm_num
      change delayOver (minuteGovernor 0 (60 * n)) 86 .metadata (60 * n + 1)
        [⟨60, 100, 0, 60 * n, by decide, by decide⟩] 0 = .ok 59
      rw [delayOver, if_neg (by exact hhard), if_pos (by exact .inl hband), delayOver]
      exact congrArg _ hwait
    rw [reserveOnce, if_neg (by decide), if_neg hcool, hreset]
    dsimp only
    rw [if_neg (by simp [minuteGovernor]), hdelay]
    norm_num
  have hafter : ∀ n : ℕ, ∃ startedAt : ℚ, startedAt ≤ 60 * n ∧
      (minuteGovernor 0 0).afterSleeps 86 .metadata minuteClock n =
        some (minuteGovernor 0 startedAt) := by
    intro n
    induction n with
    | zero => exact ⟨0, by simp, rfl⟩
    | succ n ih =>
      obtain ⟨startedAt, hle, hn⟩ := ih
      refine ⟨60 * n, by push_cast; linarith, ?_⟩
      rw [afterSleeps, hn, Option.bind_some, hround n startedAt hle]
  rw [hstart]
  constructor
  · intro n before last seconds hbefore hlast
    obtain ⟨startedAt, hle, hn⟩ := hafter n
    obtain rfl := Option.some.inj (hbefore.symm.trans hn)
    rw [hround n startedAt hle] at hlast
    obtain rfl := Round.delayed.inj (Prod.mk.inj hlast).2
    simp only [minuteClock]
    push_cast
    constructor <;> linarith
  · intro n hnone
    obtain ⟨startedAt, -, hn⟩ := hafter n
    rw [hn] at hnone
    cases hnone

end GovernorRun

end Ai4Binance
