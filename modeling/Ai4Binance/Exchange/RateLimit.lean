/-
The central weighted request governor (`exchange/rate_limit.py`).

Local reservations, usage reported by response headers, the roll-over of the
windows and a new `exchangeInfo` payload all write the same counters, each
inside one critical section.

* `WeightedRateLimitGovernor` and its critical sections: `configureFromExchangeInfo`,
  `observeHeaders`, `reserveOnce` (one round of the loop of `reserve`),
  `applyRetryAfter`, `status`;
* `GovernorRun`: the governor with the latest clock reading and the log of what
  it granted and which cooldowns it entered;
* `reserveOnce_eq_granted`: what a granted round has checked;
* `Budgeted`: the counters cover the weight granted in the running windows;
* `granted_weight_below_hard_stop`: the budget over all runs whose
  configurations come between windows, and `reconfigured_window_forgets`: a
  configuration inside a window starts its count again.
-/
import Ai4Binance.Lib.Run

namespace Ai4Binance

/-- Bounded public REST priorities. -/
inductive RequestPriority
  | metadata | gapRecovery | bootstrap | supplemental
  deriving DecidableEq

/-- Internal safety margins below the limits that the provider advertises. -/
structure RateLimitBands where
  softLimit : ℚ
  warning : ℚ
  throttle : ℚ
  hardStop : ℚ
  increasing : 0 < softLimit ∧ softLimit < warning ∧ warning < throttle ∧ throttle < hardStop ∧
    hardStop < 1

namespace RateLimitBands

/-- The bands of a governor that is given none. -/
def default : RateLimitBands := ⟨7/10, 8/10, 85/100, 9/10, by norm_num⟩

variable (bands : RateLimitBands)

lemma hardStop_pos : 0 < bands.hardStop := by
  obtain ⟨h1, h2, h3, h4, -⟩ := bands.increasing
  exact h1.trans (h2.trans (h3.trans h4))

end RateLimitBands

/-- The quotient of two integers in floating point: the exact quotient, rounded.
Rounding is monotone, and it keeps the hard stop, which is a float itself. -/
structure FloatQuotient (bands : RateLimitBands) where
  round : ℚ → ℚ
  monotone : Monotone round
  hardStop : round bands.hardStop = bands.hardStop

/-- One request-weight window of the provider. -/
structure Window where
  seconds : ℕ
  limit : ℕ
  used : ℤ
  startedAt : ℚ
  seconds_pos : 0 < seconds
  limit_pos : 0 < limit
  deriving DecidableEq

/-- `now - (now % seconds)`: the start of the aligned window around `now`. -/
def alignedStart (now : ℚ) (seconds : ℕ) : ℚ := now - (now - ⌊now / seconds⌋ * seconds)

/-- The governor of one transport.  Its `cooldownUntil` is a reading of the
monotonic clock, the starts of its windows are readings of the wall clock. -/
structure WeightedRateLimitGovernor where
  bands : RateLimitBands
  quotient : FloatQuotient bands
  cooldownUntil : ℚ
  windows : List Window

/-! ### The windows of an `exchangeInfo` payload -/

/-- One entry of `rateLimits`.  A number is missing where `int(str(·))` raises,
the interval where the entry has none. -/
structure RateLimitItem where
  rateLimitType : String
  interval : Option String
  intervalNum : Option ℤ
  limit : Option ℤ

/-- The length of the units of `rateLimits` in seconds. -/
def intervalSeconds (interval : String) : Option ℤ :=
  if interval = "SECOND" then some 1
  else if interval = "MINUTE" then some 60
  else if interval = "HOUR" then some 3600
  else if interval = "DAY" then some 86400
  else none

/-- The window of one entry, unless it is passed over. -/
def windowOf (item : RateLimitItem) : Option Window := do
  guard (item.rateLimitType = "REQUEST_WEIGHT")
  let interval ← item.interval
  let unit ← intervalSeconds interval
  let intervalNum ← item.intervalNum
  let limit ← item.limit
  if h : 0 < unit * intervalNum ∧ 0 < limit then
    some ⟨(unit * intervalNum).toNat, limit.toNat, 0, 0, by omega, by omega⟩
  else none

/-- `configured[window.seconds] = window`: in place of the window of the same
length, or behind all others. -/
def assignWindow (window : Window) : List Window → List Window
  | [] => [window]
  | w :: windows =>
    if w.seconds = window.seconds then window :: windows else w :: assignWindow window windows

/-- The windows that a payload announces; `none` is a payload without a list of
limits. -/
def configured (payload : Option (List RateLimitItem)) : List Window :=
  ((payload.getD []).filterMap windowOf).foldl (fun windows window => assignWindow window windows)
    []

/-- The lengths and limits of a list of windows. -/
def limitsOf (windows : List Window) : List (ℕ × ℕ) := windows.map fun w => (w.seconds, w.limit)

namespace Window

variable (w : Window) (now : ℚ)

/-- The body of the loop of `_reset_elapsed_windows`. -/
def resetElapsed : Window :=
  if w.startedAt < alignedStart now w.seconds then
    { w with startedAt := alignedStart now w.seconds, used := 0 }
  else w

/-- The suffix of the header that reports the usage of the window. -/
def suffix : Option String :=
  if w.seconds = 1 then some "1s"
  else if w.seconds = 60 then some "1m"
  else if w.seconds = 3600 then some "1h"
  else if w.seconds = 86400 then some "1d"
  else none

/-- The body of the loop of `observe_headers`; `headers` holds the headers under
their case-folded names whose text is an integer. -/
def observe (headers : String → Option ℤ) : Window :=
  match w.suffix.bind fun suffix => headers ("x-mbx-used-weight-" ++ suffix) with
  | some reported => { w with used := max w.used reported }
  | none => w

end Window

namespace WeightedRateLimitGovernor

variable (g : WeightedRateLimitGovernor)

/-- Replaces the windows by those of the payload; `now` is read before the lock
is taken. -/
def configureFromExchangeInfo (payload : Option (List RateLimitItem)) (now : ℚ) :
    WeightedRateLimitGovernor :=
  match configured payload with
  | [] => g
  | w :: windows =>
    { g with windows :=
        (w :: windows).map fun w => { w with startedAt := alignedStart now w.seconds } }

def resetElapsedWindows (now : ℚ) : WeightedRateLimitGovernor :=
  { g with windows := g.windows.map (·.resetElapsed now) }

/-- Reconciles the counters with the response headers. -/
def observeHeaders (headers : String → Option ℤ) (now : ℚ) : WeightedRateLimitGovernor :=
  let g := g.resetElapsedWindows now
  { g with windows := g.windows.map (·.observe headers) }

/-- `projected / window.limit` -/
def ratio (projected : ℤ) (w : Window) : ℚ := g.quotient.round (projected / w.limit)

/-- The loop of `reserve` over the windows: the delay, or the refusal. -/
def delayOver (weight : ℤ) (priority : RequestPriority) (now : ℚ) :
    List Window → ℚ → Except String ℚ
  | [], delay => .ok delay
  | w :: windows, delay =>
    if g.bands.hardStop ≤ g.ratio (w.used + weight) w then
      .error "request-weight hard stop reached"
    else if g.bands.throttle ≤ g.ratio (w.used + weight) w ∨
        (g.bands.warning ≤ g.ratio (w.used + weight) w ∧ priority = .supplemental) then
      delayOver weight priority now windows (max delay (w.startedAt + w.seconds - now))
    else delayOver weight priority now windows delay

/-- How one round of `reserve` ends: it returns, it sleeps and starts over, or it
raises. -/
inductive Round
  | granted
  | delayed (seconds : ℚ)
  | raised (message : String)
  deriving DecidableEq

/-- One round of the loop of `reserve`: the critical section with its readings
of the two clocks. -/
def reserveOnce (weight : ℤ) (priority : RequestPriority) (monotonic now : ℚ) :
    WeightedRateLimitGovernor × Round :=
  if weight ≤ 0 then (g, .raised "request weight must be positive")
  else if monotonic < g.cooldownUntil then (g, .raised "shared public request budget cooldown")
  else
    let g := g.resetElapsedWindows now
    if g.windows = [] then (g, .raised "request-weight limits are not configured")
    else
      match g.delayOver weight priority now g.windows 0 with
      | .error message => (g, .raised message)
      | .ok delay =>
        if delay ≤ 0 then
          ({ g with windows := g.windows.map fun w => { w with used := w.used + weight } }, .granted)
        else (g, .delayed (max (1/1000) delay))

/-- The deadline that a 429 or 418 response sets. -/
def cooldownAfter (seconds : ℚ) (banned : Bool) (monotonic : ℚ) : ℚ :=
  monotonic + max (if banned then 120 else 1) seconds

/-- Enters a monotonic cooldown. -/
def applyRetryAfter (seconds : ℚ) (banned : Bool) (monotonic : ℚ) : WeightedRateLimitGovernor :=
  { g with cooldownUntil := max g.cooldownUntil (cooldownAfter seconds banned monotonic) }

/-- The label of the diagnostics. -/
inductive BudgetState
  | hardStop | throttle | warning | softLimit | normal
  deriving DecidableEq

/-- The diagnostics of the windows: `(seconds, limit, used, ratio)` of each by
length, and the label of the fullest one. -/
structure BudgetStatus where
  windows : List (ℕ × ℕ × ℤ × ℚ)
  state : BudgetState

def budgetState (peak : ℚ) : BudgetState :=
  if g.bands.hardStop ≤ peak then .hardStop
  else if g.bands.throttle ≤ peak then .throttle
  else if g.bands.warning ≤ peak then .warning
  else if g.bands.softLimit ≤ peak then .softLimit
  else .normal

/-- Bounded diagnostics; like every reading of the counters it first rolls the
windows over. -/
def status (now : ℚ) : WeightedRateLimitGovernor × BudgetStatus :=
  let g := g.resetElapsedWindows now
  let windows := g.windows.mergeSort (fun w w' => w.seconds ≤ w'.seconds)
  let peak := (windows.map fun w => g.ratio w.used w).foldl max 0
  (g, ⟨windows.map fun w => (w.seconds, w.limit, w.used, g.ratio w.used w), g.budgetState peak⟩)

end WeightedRateLimitGovernor

/-! ### Runs of critical sections -/

/-- An entry of the log: a granted reservation with its readings of the wall
clock and of the monotonic clock, or a cooldown that began. -/
inductive GovernorEvent
  | granted (weight : ℤ) (time monotonic : ℚ)
  | cooldown (deadline : ℚ)
  deriving DecidableEq

/-- A call on the governor, with what it reads from the clocks. -/
inductive GovernorCall
  | configure (payload : Option (List RateLimitItem)) (now : ℚ)
  | observeHeaders (headers : String → Option ℤ) (now : ℚ)
  | reserve (weight : ℤ) (priority : RequestPriority) (monotonic now : ℚ)
  | retryAfter (seconds : ℚ) (banned : Bool) (monotonic : ℚ)
  | status (now : ℚ)

/-- A governor, the latest reading of the wall clock and the log, newest first. -/
structure GovernorRun where
  governor : WeightedRateLimitGovernor
  clock : ℚ
  log : List GovernorEvent

namespace GovernorRun

/-- A new governor: no windows, and the cooldown it was built with. -/
def start (bands : RateLimitBands) (quotient : FloatQuotient bands) (cooldownUntil clock : ℚ) :
    GovernorRun :=
  ⟨⟨bands, quotient, cooldownUntil, []⟩, clock, [.cooldown cooldownUntil]⟩

variable (r : GovernorRun)

/-- The critical section of a call. -/
def after : GovernorCall → GovernorRun
  | .configure payload now =>
    ⟨r.governor.configureFromExchangeInfo payload now, max r.clock now, r.log⟩
  | .observeHeaders headers now => ⟨r.governor.observeHeaders headers now, now, r.log⟩
  | .reserve weight priority monotonic now =>
    match r.governor.reserveOnce weight priority monotonic now with
    | (g, .granted) => ⟨g, now, .granted weight now monotonic :: r.log⟩
    | (g, _) => ⟨g, now, r.log⟩
  | .retryAfter seconds banned monotonic =>
    ⟨r.governor.applyRetryAfter seconds banned monotonic, r.clock,
      .cooldown (WeightedRateLimitGovernor.cooldownAfter seconds banned monotonic) :: r.log⟩
  | .status now => ⟨(r.governor.status now).1, now, r.log⟩

/-- The clock does not go back.  A configuration reads it before it waits for
the lock, so other sections may come in between. -/
def InOrder : GovernorCall → Prop
  | .configure _ _ | .retryAfter _ _ _ => True
  | .observeHeaders _ now | .reserve _ _ _ now | .status now => r.clock ≤ now

instance : ∀ c, Decidable (r.InOrder c)
  | .configure _ _ | .retryAfter _ _ _ => .isTrue trivial
  | .observeHeaders _ now | .reserve _ _ _ now | .status now =>
    inferInstanceAs (Decidable (r.clock ≤ now))

/-- A configuration announces the given windows, or none at all. -/
def Announces (limits : List (ℕ × ℕ)) : GovernorCall → Prop
  | .configure payload _ =>
    configured payload = [] ∨ ∀ x, x ∈ limitsOf (configured payload) ↔ x ∈ limits
  | _ => True

/-- Some weight was granted at this reading. -/
def GrantedAt (log : List GovernorEvent) (time : ℚ) : Prop :=
  ∃ weight monotonic, .granted weight time monotonic ∈ log

/-- A configuration finds no weight granted in a window that it configures and
that has not ended when it reads the clock. -/
def BetweenWindows : GovernorCall → Prop
  | .configure payload now =>
    ∀ w ∈ configured payload, ∀ time, GrantedAt r.log time → time < alignedStart now w.seconds
  | _ => True

/-- A step of any thread. -/
def Step (limits : List (ℕ × ℕ)) (r : GovernorRun) (c : GovernorCall) (r' : GovernorRun) : Prop :=
  r.InOrder c ∧ Announces limits c ∧ r' = r.after c

/-- The weight granted in the `k`-th aligned window of the given length. -/
def grantedIn (seconds : ℕ) (k : ℤ) : List GovernorEvent → ℤ
  | [] => 0
  | .granted weight time _ :: log =>
    (if ⌊time / seconds⌋ = k then weight else 0) + grantedIn seconds k log
  | .cooldown _ :: log => grantedIn seconds k log

/-- A reservation is granted at or after the deadline of every cooldown that
began before it. -/
def AfterCooldown : GovernorEvent → GovernorEvent → Prop
  | .granted _ _ monotonic, .cooldown deadline => deadline ≤ monotonic
  | _, _ => True

end GovernorRun

lemma mem_assignWindow {w window : Window} {windows : List Window}
    (h : w ∈ assignWindow window windows) : w = window ∨ w ∈ windows := by
  induction windows with
  | nil => exact .inl (List.mem_singleton.mp h)
  | cons w' windows ih =>
      rw [assignWindow] at h
      split_ifs at h
      · rcases List.mem_cons.mp h with rfl | h
        · exact .inl rfl
        · exact .inr (.tail _ h)
      · rcases List.mem_cons.mp h with rfl | h
        · exact .inr (.head _)
        · exact (ih h).imp_right (.tail _)

lemma used_windowOf {item : RateLimitItem} {w : Window} (h : windowOf item = some w) :
    w.used = 0 := by
  simp only [windowOf, Option.bind_eq_bind, Option.bind_eq_some_iff] at h
  obtain ⟨-, -, interval, -, unit, -, intervalNum, -, limit, -, h⟩ := h
  split_ifs at h
  rw [← Option.some.inj h]

/-- The windows of a payload have counted nothing. -/
lemma used_configured {payload : Option (List RateLimitItem)} :
    ∀ w ∈ configured payload, w.used = 0 := by
  refine List.foldlRecOn (motive := fun windows => ∀ w ∈ windows, Window.used w = 0)
    ((payload.getD []).filterMap windowOf) _ (by simp) ?_
  intro windows hall new hnew w hw
  rcases mem_assignWindow hw with rfl | hw
  · obtain ⟨item, -, hitem⟩ := List.mem_filterMap.mp hnew
    exact used_windowOf hitem
  · exact hall w hw

/-! ### Aligned windows -/

lemma alignedStart_eq (now : ℚ) (seconds : ℕ) :
    alignedStart now seconds = ⌊now / seconds⌋ * seconds := by
  rw [alignedStart]
  ring

/-- The index of an aligned window is read off its start. -/
@[simp] lemma floor_alignedStart (now : ℚ) {seconds : ℕ} (h : 0 < seconds) :
    ⌊alignedStart now seconds / seconds⌋ = ⌊now / seconds⌋ := by
  have hs : (seconds : ℚ) ≠ 0 := by positivity
  rw [alignedStart_eq, mul_div_cancel_right₀ _ hs, Int.floor_intCast]

lemma alignedStart_le (now : ℚ) {seconds : ℕ} (h : 0 < seconds) :
    alignedStart now seconds ≤ now := by
  have hs : (0 : ℚ) < seconds := by positivity
  calc alignedStart now seconds
      = ⌊now / seconds⌋ * seconds := alignedStart_eq now seconds
    _ ≤ now / seconds * seconds := mul_le_mul_of_nonneg_right (Int.floor_le _) hs.le
    _ = now := div_mul_cancel₀ _ hs.ne'

lemma alignedStart_lt_iff {seconds : ℕ} (h : 0 < seconds) {now now' : ℚ} :
    alignedStart now seconds < alignedStart now' seconds ↔ ⌊now / seconds⌋ < ⌊now' / seconds⌋ := by
  have hs : (0 : ℚ) < seconds := by positivity
  rw [alignedStart_eq, alignedStart_eq, mul_lt_mul_iff_left₀ hs, Int.cast_lt]

/-- A reading before the start of an aligned window lies in an earlier one. -/
lemma floor_lt_of_lt_alignedStart {seconds : ℕ} (h : 0 < seconds) {time now : ℚ}
    (ht : time < alignedStart now seconds) : ⌊time / seconds⌋ < ⌊now / seconds⌋ :=
  (alignedStart_lt_iff h).mp ((alignedStart_le time h).trans_lt ht)

/-! ### What a granted round has checked -/

@[simp] lemma Window.seconds_resetElapsed (w : Window) (now : ℚ) :
    (w.resetElapsed now).seconds = w.seconds := by
  rw [Window.resetElapsed]
  split_ifs <;> rfl

@[simp] lemma Window.limit_resetElapsed (w : Window) (now : ℚ) :
    (w.resetElapsed now).limit = w.limit := by
  rw [Window.resetElapsed]
  split_ifs <;> rfl

/-- Observing the headers only raises a counter. -/
lemma Window.observe_eq (w : Window) (headers : String → Option ℤ) :
    ∃ used, w.used ≤ used ∧ w.observe headers = { w with used := used } := by
  rw [Window.observe]
  split
  · exact ⟨_, le_max_left _ _, rfl⟩
  · exact ⟨w.used, le_rfl, rfl⟩

namespace WeightedRateLimitGovernor

variable {g g' : WeightedRateLimitGovernor} {weight : ℤ} {priority : RequestPriority}
  {monotonic now : ℚ}

/-- When the loop over the windows ends, each of them stays below the hard
stop. -/
lemma ratio_lt_of_delayOver {windows : List Window} {delay d : ℚ}
    (h : g.delayOver weight priority now windows delay = .ok d) :
    ∀ w ∈ windows, g.ratio (w.used + weight) w < g.bands.hardStop := by
  induction windows generalizing delay with
  | nil => simp
  | cons w windows ih =>
      rw [delayOver] at h
      by_cases hw : g.bands.hardStop ≤ g.ratio (w.used + weight) w
      · rw [if_pos hw] at h
        exact absurd h (by simp)
      · rw [if_neg hw, ← apply_ite (g.delayOver weight priority now windows)] at h
        exact List.forall_mem_cons.mpr ⟨not_le.mp hw, ih h⟩

/-- A rounded quotient below the hard stop comes from an exact one below it. -/
lemma lt_of_ratio_lt {projected : ℤ} {w : Window}
    (h : g.ratio projected w < g.bands.hardStop) :
    (projected : ℚ) < g.bands.hardStop * w.limit := by
  have hl : (0 : ℚ) < w.limit := by exact_mod_cast w.limit_pos
  rw [← div_lt_iff₀ hl]
  by_contra hle
  have := g.quotient.monotone (not_lt.mp hle)
  rw [g.quotient.hardStop] at this
  exact absurd h (not_lt.mpr this)

/-- What a round of `reserve` does, by its outcome: a granted one comes after
the cooldown and below every hard stop, and it adds its weight to the windows
that run; every other one at most rolls the windows over. -/
lemma reserveOnce_cases {round : Round}
    (h : g.reserveOnce weight priority monotonic now = (g', round)) :
    (round = .granted ∧ g.cooldownUntil ≤ monotonic ∧ g.windows ≠ [] ∧
      (∀ w ∈ (g.resetElapsedWindows now).windows,
        ((w.used + weight : ℤ) : ℚ) < g.bands.hardStop * w.limit) ∧
      g' = { g with windows :=
        (g.resetElapsedWindows now).windows.map fun w => { w with used := w.used + weight } }) ∨
    (round ≠ .granted ∧ (g' = g ∨ g' = g.resetElapsedWindows now)) := by
  simp only [reserveOnce] at h
  split_ifs at h with hweight hcool hnone
  · obtain ⟨rfl, rfl⟩ := Prod.mk.inj h
    exact .inr ⟨by simp, .inl rfl⟩
  · obtain ⟨rfl, rfl⟩ := Prod.mk.inj h
    exact .inr ⟨by simp, .inl rfl⟩
  · obtain ⟨rfl, rfl⟩ := Prod.mk.inj h
    exact .inr ⟨by simp, .inr rfl⟩
  · cases hd : (g.resetElapsedWindows now).delayOver weight priority now
        (g.resetElapsedWindows now).windows 0 with
    | error message =>
        rw [hd] at h
        obtain ⟨rfl, rfl⟩ := Prod.mk.inj h
        exact .inr ⟨by simp, .inr rfl⟩
    | ok delay =>
        rw [hd] at h
        dsimp only at h
        split_ifs at h with hdelay
        · obtain ⟨rfl, rfl⟩ := Prod.mk.inj h
          refine .inl ⟨rfl, not_lt.mp hcool, ?_, fun w hw => ?_, rfl⟩
          · rintro hnil
            exact hnone (by simp [resetElapsedWindows, hnil])
          · exact lt_of_ratio_lt (g := g) (ratio_lt_of_delayOver hd w hw)
        · obtain ⟨rfl, rfl⟩ := Prod.mk.inj h
          exact .inr ⟨by simp, .inr rfl⟩

end WeightedRateLimitGovernor

/-! ### The counters cover what was granted -/

namespace GovernorRun

@[simp] lemma grantedAt_granted {log : List GovernorEvent} {weight : ℤ} {now monotonic time : ℚ} :
    GrantedAt (.granted weight now monotonic :: log) time ↔ time = now ∨ GrantedAt log time := by
  constructor
  · rintro ⟨weight', monotonic', he⟩
    rcases List.mem_cons.mp he with heq | he
    · exact .inl (GovernorEvent.granted.inj heq).2.1
    · exact .inr ⟨weight', monotonic', he⟩
  · rintro (rfl | ⟨weight', monotonic', he⟩)
    · exact ⟨weight, monotonic, .head _⟩
    · exact ⟨weight', monotonic', .tail _ he⟩

@[simp] lemma grantedAt_cooldown {log : List GovernorEvent} {deadline time : ℚ} :
    GrantedAt (.cooldown deadline :: log) time ↔ GrantedAt log time := by
  simp [GrantedAt]

/-- Nothing was granted in a window that lies off every granted reservation. -/
lemma grantedIn_eq_zero {seconds : ℕ} {k : ℤ} {log : List GovernorEvent}
    (h : ∀ time, GrantedAt log time → ⌊time / seconds⌋ ≠ k) : grantedIn seconds k log = 0 := by
  induction log with
  | nil => rfl
  | cons e log ih =>
      cases e with
      | granted weight time monotonic =>
          have hlog := ih fun time' h' => h time' (grantedAt_granted.mpr (.inr h'))
          rw [grantedIn, if_neg (h time (grantedAt_granted.mpr (.inl rfl))), hlog, zero_add]
      | cooldown deadline => exact ih fun time h' => h time (grantedAt_cooldown.mpr h')

/-- The window started at an aligned reading that the clock has passed, no
reservation was granted behind its end, and its counter covers those granted
inside it. -/
structure Covers (clock : ℚ) (log : List GovernorEvent) (w : Window) : Prop where
  aligned : alignedStart w.startedAt w.seconds = w.startedAt
  started : w.startedAt ≤ clock
  reached : ∀ time, GrantedAt log time → ⌊time / w.seconds⌋ ≤ ⌊w.startedAt / w.seconds⌋
  counted : grantedIn w.seconds ⌊w.startedAt / w.seconds⌋ log ≤ w.used

namespace Covers

variable {clock now : ℚ} {log : List GovernorEvent} {w : Window}

lemma of_clock_le (h : Covers clock log w) (hnow : clock ≤ now) : Covers now log w :=
  ⟨h.aligned, h.started.trans hnow, h.reached, h.counted⟩

/-- A higher counter covers as much. -/
lemma of_used_le (h : Covers clock log w) {used : ℤ} (hused : w.used ≤ used) :
    Covers clock log { w with used := used } :=
  ⟨h.aligned, h.started, h.reached, h.counted.trans hused⟩

lemma cooldown (h : Covers clock log w) (deadline : ℚ) :
    Covers clock (.cooldown deadline :: log) w :=
  ⟨h.aligned, h.started, fun time ht => h.reached time (grantedAt_cooldown.mp ht), h.counted⟩

/-- A window that opens behind every granted reservation starts from zero. -/
lemma fresh (w : Window) (hnow : now ≤ clock)
    (h : ∀ time, GrantedAt log time → ⌊time / w.seconds⌋ < ⌊now / w.seconds⌋)
    (hused : 0 ≤ w.used) :
    Covers clock log { w with startedAt := alignedStart now w.seconds } := by
  have hfloor := floor_alignedStart now w.seconds_pos
  refine ⟨?_, (alignedStart_le now w.seconds_pos).trans hnow, ?_, ?_⟩
  · dsimp only
    rw [alignedStart_eq, hfloor, ← alignedStart_eq]
  · intro time ht
    dsimp only
    rw [hfloor]
    exact (h time ht).le
  · dsimp only
    rw [hfloor, grantedIn_eq_zero fun time ht => (h time ht).ne]
    exact hused

/-- Rolled over, the window is the one around the reading. -/
lemma startedAt_resetElapsed (h : Covers clock log w) (hnow : clock ≤ now) :
    (w.resetElapsed now).startedAt = alignedStart now w.seconds := by
  rw [Window.resetElapsed]
  split_ifs with hlt
  · rfl
  · refine le_antisymm ?_ (not_lt.mp hlt)
    have hs : (0 : ℚ) ≤ w.seconds := by positivity
    calc w.startedAt
        = ⌊w.startedAt / w.seconds⌋ * w.seconds := by rw [← alignedStart_eq, h.aligned]
      _ ≤ ⌊now / w.seconds⌋ * w.seconds := by
          have := Int.floor_mono (div_le_div_of_nonneg_right (h.started.trans hnow) hs)
          exact mul_le_mul_of_nonneg_right (by exact_mod_cast this) hs
      _ = alignedStart now w.seconds := (alignedStart_eq now w.seconds).symm

/-- A roll-over forgets only the windows that have ended. -/
lemma resetElapsed (h : Covers clock log w) (hnow : clock ≤ now) :
    Covers now log (w.resetElapsed now) := by
  rw [Window.resetElapsed]
  split_ifs with hlt
  · have hidx : ⌊w.startedAt / w.seconds⌋ < ⌊now / w.seconds⌋ := by
      rw [← alignedStart_lt_iff w.seconds_pos, h.aligned]
      exact hlt
    exact fresh { w with used := 0 } le_rfl
      (fun time ht => (h.reached time ht).trans_lt hidx) le_rfl
  · exact h.of_clock_le hnow

/-- A reservation granted inside the window is counted. -/
lemma grant (h : Covers now log w) (hstart : w.startedAt = alignedStart now w.seconds)
    (weight : ℤ) (monotonic : ℚ) :
    Covers now (.granted weight now monotonic :: log) { w with used := w.used + weight } := by
  have hidx : ⌊w.startedAt / w.seconds⌋ = ⌊now / w.seconds⌋ := by
    rw [hstart, floor_alignedStart now w.seconds_pos]
  refine ⟨h.aligned, h.started, ?_, ?_⟩
  · intro time ht
    rcases grantedAt_granted.mp ht with rfl | ht
    · exact hidx.ge
    · exact h.reached time ht
  · have := h.counted
    dsimp only
    rw [grantedIn, if_pos hidx.symm]
    omega

end Covers

/-- The state of a governor whose configurations came between windows: every
counter covers its window, every window of a configured length stayed below the
hard stop, and the cooldown is the latest deadline. -/
structure Budgeted (limits : List (ℕ × ℕ)) (r : GovernorRun) : Prop where
  announced : r.governor.windows = [] ∨ ∀ x, x ∈ limitsOf r.governor.windows ↔ x ∈ limits
  unconfigured : r.governor.windows = [] → ∀ time, ¬ GrantedAt r.log time
  covers : ∀ w ∈ r.governor.windows, Covers r.clock r.log w
  budget : ∀ w ∈ r.governor.windows, ∀ k,
    (grantedIn w.seconds k r.log : ℚ) < r.governor.bands.hardStop * w.limit
  deadlines : IsGreatest {d | .cooldown d ∈ r.log} r.governor.cooldownUntil
  respected : r.log.Pairwise AfterCooldown

namespace Budgeted

variable {limits : List (ℕ × ℕ)} {r r' : GovernorRun} {c : GovernorCall}

/-- What is kept when the log stays: the windows may be replaced by others that
cover the log and have the old lengths and limits. -/
lemma of_windows (h : Budgeted limits r) {windows : List Window} {clock : ℚ}
    (hlimits : limitsOf windows = limitsOf r.governor.windows)
    (hcovers : ∀ w ∈ windows, Covers clock r.log w) :
    Budgeted limits ⟨{ r.governor with windows := windows }, clock, r.log⟩ := by
  have hnil : windows = [] ↔ r.governor.windows = [] := by
    rw [← List.map_eq_nil_iff (f := fun w : Window => (w.seconds, w.limit)),
      ← List.map_eq_nil_iff (l := r.governor.windows)
        (f := fun w : Window => (w.seconds, w.limit))]
    exact iff_of_eq (congrArg (· = []) hlimits)
  refine ⟨?_, fun h0 => h.unconfigured (hnil.mp h0), hcovers, ?_, h.deadlines, h.respected⟩
  · rw [hnil, hlimits]
    exact h.announced
  · intro w hw k
    have hmem : (w.seconds, w.limit) ∈ limitsOf r.governor.windows := by
      rw [← hlimits]
      exact List.mem_map.mpr ⟨w, hw, rfl⟩
    obtain ⟨w', hw', heq⟩ := List.mem_map.mp hmem
    obtain ⟨hseconds, hlimit⟩ := Prod.mk.inj heq
    rw [← hseconds, ← hlimit]
    exact h.budget w' hw' k

/-- Rolling the windows over keeps the budget. -/
lemma resetElapsedWindows (h : Budgeted limits r) {now : ℚ} (hnow : r.clock ≤ now) :
    Budgeted limits ⟨r.governor.resetElapsedWindows now, now, r.log⟩ := by
  refine h.of_windows ?_ ?_
  · simp [limitsOf]
  · intro w hw
    obtain ⟨w', hw', rfl⟩ := List.mem_map.mp hw
    exact (h.covers w' hw').resetElapsed hnow

/-- So does the time that passes. -/
lemma of_clock_le (h : Budgeted limits r) {now : ℚ} (hnow : r.clock ≤ now) :
    Budgeted limits ⟨r.governor, now, r.log⟩ :=
  h.of_windows rfl fun w hw => (h.covers w hw).of_clock_le hnow

/-- A configuration between windows starts them from zero. -/
lemma configure (h : Budgeted limits r) {payload : Option (List RateLimitItem)} {now : ℚ}
    (hann : Announces limits (.configure payload now))
    (hbetween : r.BetweenWindows (.configure payload now)) :
    Budgeted limits (r.after (.configure payload now)) := by
  rw [after]
  unfold WeightedRateLimitGovernor.configureFromExchangeInfo
  split
  · exact h.of_clock_le (le_max_left _ _)
  · rename_i w windows hconf
    have hann' : ∀ x, x ∈ limitsOf (configured payload) ↔ x ∈ limits := by
      rcases hann with hnil | hall
      · exact absurd (hconf.symm.trans hnil) (by simp)
      · exact hall
    rw [← hconf]
    have hlimits : limitsOf ((configured payload).map fun w =>
        { w with startedAt := alignedStart now w.seconds }) = limitsOf (configured payload) := by
      simp [limitsOf]
    refine ⟨?_, ?_, ?_, ?_, h.deadlines, h.respected⟩
    · exact .inr fun x => by rw [hlimits, hann']
    · intro hnil
      exact absurd hnil (by simp [hconf])
    · intro w hw
      obtain ⟨w', hw', rfl⟩ := List.mem_map.mp hw
      refine Covers.fresh w' (le_max_right _ _) (fun time ht => ?_) (used_configured w' hw').ge
      exact floor_lt_of_lt_alignedStart w'.seconds_pos (hbetween w' hw' time ht)
    · intro w hw k
      rcases h.announced with hnil | hold
      · rw [grantedIn_eq_zero fun time ht => absurd ht (h.unconfigured hnil time), Int.cast_zero]
        exact mul_pos r.governor.bands.hardStop_pos (by exact_mod_cast w.limit_pos)
      · have hmem : (w.seconds, w.limit) ∈ limitsOf r.governor.windows := by
          rw [hold, ← hann', ← hlimits]
          exact List.mem_map.mpr ⟨w, hw, rfl⟩
        obtain ⟨w', hw', heq⟩ := List.mem_map.mp hmem
        obtain ⟨hseconds, hlimit⟩ := Prod.mk.inj heq
        rw [← hseconds, ← hlimit]
        exact h.budget w' hw' k

/-- A granted round stays below every hard stop. -/
lemma grant (h : Budgeted limits r) {weight : ℤ} {monotonic now : ℚ} (hnow : r.clock ≤ now)
    (hcool : r.governor.cooldownUntil ≤ monotonic) (hsome : r.governor.windows ≠ [])
    (hbelow : ∀ w ∈ (r.governor.resetElapsedWindows now).windows,
      ((w.used + weight : ℤ) : ℚ) < r.governor.bands.hardStop * w.limit) :
    Budgeted limits
      ⟨{ r.governor with
          windows := (r.governor.resetElapsedWindows now).windows.map
            (fun w => { w with used := w.used + weight }) }, now,
        .granted weight now monotonic :: r.log⟩ := by
  have hroll := h.resetElapsedWindows hnow
  have hstart : ∀ w ∈ (r.governor.resetElapsedWindows now).windows,
      w.startedAt = alignedStart now w.seconds := by
    intro w hw
    obtain ⟨w', hw', rfl⟩ := List.mem_map.mp hw
    rw [(h.covers w' hw').startedAt_resetElapsed hnow, Window.seconds_resetElapsed]
  refine ⟨?_, ?_, ?_, ?_, ?_, ?_⟩
  · refine .inr fun x => ?_
    have hsame := (hroll.announced.resolve_left (by simpa [
      WeightedRateLimitGovernor.resetElapsedWindows] using hsome)) x
    rw [← hsame]
    simp [limitsOf]
  · intro hnil
    exact absurd hnil (by simpa [WeightedRateLimitGovernor.resetElapsedWindows] using hsome)
  · intro w hw
    obtain ⟨w', hw', rfl⟩ := List.mem_map.mp hw
    exact (hroll.covers w' hw').grant (hstart w' hw') weight monotonic
  · intro w hw k
    obtain ⟨w', hw', rfl⟩ := List.mem_map.mp hw
    dsimp only
    rw [grantedIn]
    split_ifs with hk
    · -- the window that runs: the round has compared the covering counter
      have hcovers := (hroll.covers w' hw').counted
      rw [hstart w' hw', floor_alignedStart now w'.seconds_pos, hk] at hcovers
      dsimp only at hcovers
      refine lt_of_le_of_lt ?_ (hbelow w' hw')
      exact_mod_cast by omega
    · rw [zero_add]
      exact hroll.budget w' hw' k
  · refine ⟨.tail _ h.deadlines.1, fun d hd => h.deadlines.2 ?_⟩
    simpa using hd
  · refine List.pairwise_cons.mpr ⟨fun e he => ?_, h.respected⟩
    cases e with
    | granted weight' time' monotonic' => trivial
    | cooldown deadline => exact (h.deadlines.2 he).trans hcool

/-- A cooldown only moves the deadline up. -/
lemma retryAfter (h : Budgeted limits r) (seconds : ℚ) (banned : Bool) (monotonic : ℚ) :
    Budgeted limits (r.after (.retryAfter seconds banned monotonic)) := by
  refine ⟨h.announced, fun h0 time ht => h.unconfigured h0 time (grantedAt_cooldown.mp ht),
    fun w hw => (h.covers w hw).cooldown _, h.budget, ?_, ?_⟩
  · rw [after]
    refine ⟨?_, ?_⟩
    · rcases max_choice r.governor.cooldownUntil
        (WeightedRateLimitGovernor.cooldownAfter seconds banned monotonic) with hmax | hmax
      · exact .tail _ (by
          rw [WeightedRateLimitGovernor.applyRetryAfter, hmax]
          exact h.deadlines.1)
      · rw [WeightedRateLimitGovernor.applyRetryAfter, hmax]
        exact .head _
    · intro d hd
      rcases List.mem_cons.mp hd with heq | hd
      · exact (GovernorEvent.cooldown.inj heq).trans_le (le_max_right _ _)
      · exact (h.deadlines.2 hd).trans (le_max_left _ _)
  · exact List.pairwise_cons.mpr ⟨fun e _ => by cases e <;> trivial, h.respected⟩

/-- **The step lemma**: every critical section keeps the budget, a configuration
between windows among them. -/
theorem step (h : Budgeted limits r) (hstep : Step limits r c r') (hc : r.BetweenWindows c) :
    Budgeted limits r' := by
  obtain ⟨hnow, hann, rfl⟩ := hstep
  cases c with
  | configure payload now => exact h.configure hann hc
  | observeHeaders headers now =>
      have hroll := h.resetElapsedWindows hnow
      refine hroll.of_windows ?_ ?_
      · rw [limitsOf, limitsOf, List.map_map]
        refine List.map_congr_left fun w _ => ?_
        obtain ⟨used, -, heq⟩ := w.observe_eq headers
        rw [Function.comp_apply, heq]
      · intro w hw
        obtain ⟨w', hw', rfl⟩ := List.mem_map.mp hw
        obtain ⟨used, hused, heq⟩ := w'.observe_eq headers
        rw [heq]
        exact (hroll.covers w' hw').of_used_le hused
  | reserve weight priority monotonic now =>
      obtain ⟨⟨g, round⟩, hround⟩ :
        ∃ out, r.governor.reserveOnce weight priority monotonic now = out := ⟨_, rfl⟩
      rw [after, hround]
      obtain ⟨rfl, hcool, hsome, hbelow, rfl⟩ | ⟨hround', hg⟩ :=
        WeightedRateLimitGovernor.reserveOnce_cases hround
      · exact h.grant hnow hcool hsome hbelow
      · have hg' : Budgeted limits ⟨g, now, r.log⟩ := by
          rcases hg with rfl | rfl
          · exact h.of_clock_le hnow
          · exact h.resetElapsedWindows hnow
        cases round with
        | granted => exact absurd rfl hround'
        | delayed seconds => exact hg'
        | raised message => exact hg'
  | retryAfter seconds banned monotonic => exact h.retryAfter seconds banned monotonic
  | status now => exact h.resetElapsedWindows hnow

lemma start (bands : RateLimitBands) (quotient : FloatQuotient bands) (cooldownUntil clock : ℚ) :
    Budgeted limits (GovernorRun.start bands quotient cooldownUntil clock) where
  announced := .inl rfl
  unconfigured := by simp [GovernorRun.start, GrantedAt]
  covers := by simp [GovernorRun.start]
  budget := by simp [GovernorRun.start]
  deadlines := by simp [GovernorRun.start, IsGreatest, upperBounds]
  respected := List.pairwise_singleton _ _

end Budgeted

/-- A step whose configuration, if it is one, comes between windows. -/
def SettledStep (limits : List (ℕ × ℕ)) (r : GovernorRun) (c : GovernorCall) (r' : GovernorRun) :
    Prop :=
  Step limits r c r' ∧ r.BetweenWindows c

/-- **The rate limit budget**: in every interleaving of critical sections whose
configurations come between windows, the weight granted in any aligned window of
a configured length stays strictly below the hard stop, and no reservation was
granted before a deadline that had been set. -/
theorem granted_weight_below_hard_stop {limits : List (ℕ × ℕ)} {bands : RateLimitBands}
    {quotient : FloatQuotient bands} {cooldownUntil clock : ℚ} {calls : List GovernorCall}
    {r : GovernorRun}
    (h : Run (SettledStep limits) (start bands quotient cooldownUntil clock) calls r) :
    (∀ w ∈ r.governor.windows, ∀ k,
      (grantedIn w.seconds k r.log : ℚ) < r.governor.bands.hardStop * w.limit) ∧
    r.log.Pairwise AfterCooldown ∧
    IsGreatest {d | .cooldown d ∈ r.log} r.governor.cooldownUntil := by
  have hb : Budgeted limits r :=
    h.invariant (fun hst hb => hb.step hst.1 hst.2) (Budgeted.start bands quotient _ _)
  exact ⟨hb.budget, hb.respected, hb.deadlines⟩

/-- One window of a minute with a limit of 100. -/
def minutePayload : Option (List RateLimitItem) :=
  some [⟨"REQUEST_WEIGHT", some "MINUTE", some 1, some 100⟩]

/-- A governor with the default bands on a machine that rounds no quotient of
these runs. -/
def minuteStart : GovernorRun := start .default ⟨id, monotone_id, rfl⟩ 0 0

lemma minutePayload_announces (now : ℚ) :
    Announces [(60, 100)] (.configure minutePayload now) :=
  .inr fun x => by rw [show limitsOf (configured minutePayload) = [(60, 100)] by decide]

/-- A reservation, a cooldown, a configuration in the next minute and a
reservation after the cooldown. -/
theorem granted_weight_below_hard_stop_next_minute :
    ∃ r, Run (SettledStep [(60, 100)]) minuteStart [.configure minutePayload 0,
        .reserve 70 .metadata 1 30, .retryAfter 5 false 2, .configure minutePayload 60,
        .reserve 70 .metadata 8 61] r ∧
      r.log = [.granted 70 61 8, .cooldown 7, .granted 70 30 1, .cooldown 0] ∧
      ∀ w ∈ r.governor.windows, ∀ k,
        (grantedIn w.seconds k r.log : ℚ) < r.governor.bands.hardStop * w.limit := by
  have hfresh : minuteStart.BetweenWindows (.configure minutePayload 0) := by
    simp [minuteStart, start, BetweenWindows, GrantedAt]
  have hnext : (((minuteStart.after (.configure minutePayload 0)).after
      (.reserve 70 .metadata 1 30)).after (.retryAfter 5 false 2)).BetweenWindows
      (.configure minutePayload 60) := by
    intro w hw time ht
    have hlog : (((minuteStart.after (.configure minutePayload 0)).after
        (.reserve 70 .metadata 1 30)).after (.retryAfter 5 false 2)).log
        = [.cooldown 7, .granted 70 30 1, .cooldown 0] := by decide +kernel
    obtain rfl : w = ⟨60, 100, 0, 0, by decide, by decide⟩ := by
      simpa [show configured minutePayload = [⟨60, 100, 0, 0, by decide, by decide⟩] by
        decide +kernel] using hw
    rw [hlog] at ht
    obtain rfl : time = 30 := by simpa [GrantedAt] using ht
    decide +kernel
  have hrun : Run (SettledStep [(60, 100)]) minuteStart [.configure minutePayload 0,
      .reserve 70 .metadata 1 30, .retryAfter 5 false 2, .configure minutePayload 60,
      .reserve 70 .metadata 8 61] _ :=
    .cons ⟨⟨trivial, minutePayload_announces 0, rfl⟩, hfresh⟩ <|
    .cons ⟨⟨by decide +kernel, trivial, rfl⟩, trivial⟩ <|
    .cons ⟨⟨trivial, trivial, rfl⟩, trivial⟩ <|
    .cons ⟨⟨trivial, minutePayload_announces 60, rfl⟩, hnext⟩ <|
    .cons ⟨⟨by decide +kernel, trivial, rfl⟩, trivial⟩ <| .nil _
  exact ⟨_, hrun, by decide +kernel, (granted_weight_below_hard_stop hrun).1⟩

/-- A configuration inside a minute lets a governor with a limit of 100 grant 140
in that minute: the counter starts again from zero. -/
theorem reconfigured_window_forgets :
    ∃ calls r, Run (Step [(60, 100)]) minuteStart calls r ∧
      ∃ w ∈ r.governor.windows, ∃ k,
        r.governor.bands.hardStop * w.limit < (grantedIn w.seconds k r.log : ℚ) := by
  have hrun : Run (Step [(60, 100)]) minuteStart [.configure minutePayload 0,
      .reserve 70 .metadata 1 30, .configure minutePayload 30, .reserve 70 .metadata 2 31] _ :=
    .cons ⟨trivial, minutePayload_announces 0, rfl⟩ <|
    .cons ⟨by decide +kernel, trivial, rfl⟩ <|
    .cons ⟨trivial, minutePayload_announces 30, rfl⟩ <|
    .cons ⟨by decide +kernel, trivial, rfl⟩ <| .nil _
  refine ⟨_, _, hrun, ⟨60, 100, 70, 0, by decide, by decide⟩, ?_, 0, ?_⟩
  · decide +kernel
  · decide +kernel

end GovernorRun

end Ai4Binance
