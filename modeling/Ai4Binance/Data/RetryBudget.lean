/-
The retry budget of the weekly volume profiles (`data/weekly_volume.py`, `ScopedRetryPolicy`).

A request is reserved before it is sent, in a record on disk, so that a restart does not forget
it.  A reservation is refused while the record says so, or when the last hour is full; a success
takes the last reservation back and starts a new episode.

* `ScopedRetryPolicy.reserve`, `ScopedRetryPolicy.succeed`: the two writes of the record;
* `RetryStep`: a call, at a time that is not before the earlier ones, and of `succeed` only
  after a reservation that has had none;
* `succeed_returns`: such a call is never refused;
* `HourInvariant`, `EpisodeInvariant`: what the record knows of the calls;
* `retry_budget`: **the budget of every hour, of every episode and of every two attempts**.
-/
import Ai4Binance.Lib.Python
import Ai4Binance.Lib.Run

open Check

namespace Ai4Binance

/-! ### The policy and its record -/

/-- `timedelta(seconds=n)`, in microseconds. -/
def seconds (n : ℕ) : ℤ := n * 1000000

/-- `timedelta(hours=1)`. -/
def oneHour : ℤ := seconds 3600

/-- `ScopedRetryPolicy`. -/
structure ScopedRetryPolicy where
  attemptsPerEpisode : ℕ := 3
  attemptsPerHour : ℕ := 6
  cooldownSeconds : ℕ := 900
  maximumBackoffSeconds : ℕ := 3600
  budget : (1 ≤ attemptsPerEpisode ∧ attemptsPerEpisode ≤ 3) ∧
    attemptsPerEpisode ≤ attemptsPerHour ∧ attemptsPerHour ≤ 12 := by decide
  cooldown : 60 ≤ cooldownSeconds ∧ cooldownSeconds ≤ maximumBackoffSeconds ∧
    maximumBackoffSeconds ≤ 86400 := by decide

/-- `status` of the record. -/
inductive RetryStatus where
  | attemptReserved
  | progress
  | current
  deriving DecidableEq

/-- The record on disk.  What is missing from it is read as nothing, and a time as the instant
that its text names. -/
structure RetryState where
  attempts : List ℤ := []
  episodeAttempts : ℕ := 0
  nextRetryAt : Option ℤ := none
  status : Option RetryStatus := none
  lastUsefulUpdate : Option ℤ := none
  deriving DecidableEq

namespace ScopedRetryPolicy

variable (policy : ScopedRetryPolicy)

/-- The attempts of the last hour. -/
def stamps (state : RetryState) (now : ℤ) : List ℤ :=
  state.attempts.filter fun stamp => now - oneHour < stamp

/-- The number of an attempt in its episode. -/
def nextEpisode (state : RetryState) : ℕ :=
  (if policy.attemptsPerEpisode ≤ state.episodeAttempts then 0 else state.episodeAttempts) + 1

/-- The seconds after an attempt. -/
def delay (episode : ℕ) : ℕ :=
  let delay := min policy.maximumBackoffSeconds (30 * 2 ^ (episode - 1))
  if policy.attemptsPerEpisode ≤ episode then max delay policy.cooldownSeconds else delay

/-- `reserve`. -/
def reserve (state : RetryState) (now : ℤ) : Bool × RetryState :=
  if now < state.nextRetryAt.getD now ∨ policy.attemptsPerHour ≤ (stamps state now).length then
    (false, state)
  else
    (true, { state with
      attempts := stamps state now ++ [now]
      episodeAttempts := policy.nextEpisode state
      nextRetryAt := some (now + seconds (policy.delay (policy.nextEpisode state)))
      status := some .attemptReserved })

/-- `succeed`. -/
def succeed (state : RetryState) (now : ℤ) (usefulProgress : Bool) : Except PyError RetryState := do
  raiseIf (state.attempts = [])
    (.value "successful retry completion requires a reservation")
  return { state with
    attempts := state.attempts.dropLast
    episodeAttempts := 0
    nextRetryAt := some now
    status := some (if usefulProgress then .progress else .current)
    lastUsefulUpdate := if usefulProgress then some now else state.lastUsefulUpdate }

variable {policy} {state state' : RetryState} {now : ℤ}

/-- A reservation that is granted. -/
lemma reserve_granted (h : policy.reserve state now = (true, state')) :
    (∀ due ∈ state.nextRetryAt, due ≤ now) ∧
      (stamps state now).length < policy.attemptsPerHour ∧
      state'.attempts = stamps state now ++ [now] ∧
      state'.episodeAttempts = policy.nextEpisode state ∧
      state'.nextRetryAt = some (now + seconds (policy.delay state'.episodeAttempts)) := by
  rw [reserve] at h
  split at h
  · exact absurd (congrArg Prod.fst h) Bool.false_ne_true
  rename_i hgranted
  obtain ⟨hdue, hcount⟩ := not_or.mp hgranted
  obtain rfl := (Prod.mk.inj h).2
  refine ⟨fun due hmem => ?_, not_le.mp hcount, rfl, rfl, rfl⟩
  rw [Option.mem_def] at hmem
  rw [hmem, Option.getD_some] at hdue
  exact not_lt.mp hdue

/-- A reservation that is refused leaves the record. -/
lemma reserve_refused (h : policy.reserve state now = (false, state')) : state' = state := by
  rw [reserve] at h
  split at h
  · exact (Prod.mk.inj h).2.symm
  · exact absurd (congrArg Prod.fst h).symm Bool.false_ne_true

/-- A success takes the last reservation back. -/
lemma succeed_eq_ok {usefulProgress : Bool}
    (h : succeed state now usefulProgress = .ok state') :
    state'.attempts = state.attempts.dropLast ∧ state'.episodeAttempts = 0 := by
  rw [succeed] at h
  obtain ⟨_, -, h⟩ := bind_eq_ok.mp h
  cases h
  exact ⟨rfl, rfl⟩

/-- The first delay of an episode is the shortest. -/
lemma thirty_le_delay (policy : ScopedRetryPolicy) (episode : ℕ) : 30 ≤ policy.delay episode := by
  have hpow : 1 ≤ 2 ^ (episode - 1) := Nat.one_le_two_pow
  have hcooldown := policy.cooldown
  have hmin : 30 ≤ min policy.maximumBackoffSeconds (30 * 2 ^ (episode - 1)) := by omega
  rw [delay]
  split_ifs <;> omega

/-- The last attempt of an episode is followed by the cooldown. -/
lemma cooldown_le_delay {episode : ℕ} (h : policy.attemptsPerEpisode ≤ episode) :
    policy.cooldownSeconds ≤ policy.delay episode := by
  rw [delay, if_pos h]
  exact le_max_right _ _

end ScopedRetryPolicy

/-! ### Calls -/

/-- A call and what came of it. -/
inductive RetryEvent where
  | granted (time : ℤ)
  | refused (time : ℤ)
  | succeeded (time : ℤ)
  deriving DecidableEq

namespace RetryEvent

/-- The time of a call. -/
def time : RetryEvent → ℤ
  | granted t | refused t | succeeded t => t

/-- The time of a reservation. -/
def grant? : RetryEvent → Option ℤ
  | granted t => some t
  | _ => none

/-- A success. -/
def isSuccess : RetryEvent → Bool
  | succeeded _ => true
  | _ => false

end RetryEvent

/-- The reservations among some calls. -/
def grants (events : List RetryEvent) : List ℤ := events.filterMap RetryEvent.grant?

/-- There is a reservation after the last success; the newest call stands first. -/
def Pending : List RetryEvent → Prop
  | .granted _ :: _ => True
  | .refused _ :: older => Pending older
  | _ => False

/-- The reservations that no success has completed, where one may have come right after. -/
def uncompletedFrom : Bool → List RetryEvent → List ℤ
  | _, [] => []
  | true, .granted _ :: older => uncompletedFrom false older
  | false, .granted t :: older => t :: uncompletedFrom false older
  | completed, .refused _ :: older => uncompletedFrom completed older
  | _, .succeeded _ :: older => uncompletedFrom true older

/-- The reservations that no success has completed. -/
def uncompleted (events : List RetryEvent) : List ℤ := uncompletedFrom false events

/-- The reservations since the last success. -/
def streak : List RetryEvent → List ℤ
  | .granted t :: older => t :: streak older
  | .refused _ :: older => streak older
  | _ => []

/-- The record, and the calls that were made, the newest first. -/
structure RetryRun where
  state : RetryState := {}
  events : List RetryEvent := []

/-- A call at a time that is not before the earlier ones; `succeed` comes once after a reservation
that was granted. -/
inductive RetryStep (policy : ScopedRetryPolicy) : RetryRun → RetryEvent → RetryRun → Prop
  | granted {run : RetryRun} {now : ℤ} {state' : RetryState}
      (clock : ∀ e ∈ run.events, e.time ≤ now)
      (reserved : policy.reserve run.state now = (true, state')) :
      RetryStep policy run (.granted now) ⟨state', .granted now :: run.events⟩
  | refused {run : RetryRun} {now : ℤ} {state' : RetryState}
      (clock : ∀ e ∈ run.events, e.time ≤ now)
      (reserved : policy.reserve run.state now = (false, state')) :
      RetryStep policy run (.refused now) ⟨state', .refused now :: run.events⟩
  | succeeded {run : RetryRun} {now : ℤ} {state' : RetryState} {usefulProgress : Bool}
      (clock : ∀ e ∈ run.events, e.time ≤ now) (pending : Pending run.events)
      (completed : ScopedRetryPolicy.succeed run.state now usefulProgress = .ok state') :
      RetryStep policy run (.succeeded now) ⟨state', .succeeded now :: run.events⟩

section Events

variable {events older segment : List RetryEvent}

/-- A success takes out the newest reservation. -/
lemma uncompletedFrom_true (h : Pending events) :
    uncompletedFrom true events = (uncompleted events).tail := by
  induction events with
  | nil => exact absurd h id
  | cons e older ih =>
      cases e with
      | granted t => rfl
      | refused t => exact ih h
      | succeeded t => exact absurd h id

/-- Without a success the reservations continue the earlier ones. -/
lemma streak_append (h : ∀ e ∈ segment, e.isSuccess = false) :
    streak (segment ++ older) = grants segment ++ streak older := by
  induction segment with
  | nil => rfl
  | cons e segment ih =>
      have hrest := ih fun e' he' => h e' (List.mem_cons_of_mem _ he')
      cases e with
      | granted t => exact congrArg (t :: ·) hrest
      | refused t => exact hrest
      | succeeded t => exact absurd (h _ List.mem_cons_self) Bool.noConfusion

end Events

/-! ### The budget of an hour -/

/-- Times of which no two are an hour apart. -/
def WithinHour (window : ℤ → Bool) : Prop :=
  ∀ t u, window t = true → window u = true → u - oneHour < t

/-- What the record knows of the reservations of the last hour. -/
structure HourInvariant (policy : ScopedRetryPolicy) (run : RetryRun) : Prop where
  kept : ∀ now, (∀ e ∈ run.events, e.time ≤ now) →
    (uncompleted run.events).filter (fun t => now - oneHour < t) =
      run.state.attempts.reverse.filter fun t => now - oneHour < t
  newest : Pending run.events → ∃ t earlier earlier',
    run.state.attempts.reverse = t :: earlier ∧ uncompleted run.events = t :: earlier'
  budget : ∀ window, WithinHour window →
    ((uncompleted run.events).filter window).length ≤ policy.attemptsPerHour

section Hour

variable {policy : ScopedRetryPolicy} {run run' : RetryRun} {call : RetryEvent}

/-- **The hour over one call.** -/
lemma HourInvariant.step (h : RetryStep policy run call run') (hinv : HourInvariant policy run) :
    HourInvariant policy run' := by
  cases h with
  | @granted now state' hclock hreserved =>
      obtain ⟨-, hcount, hattempts, -, -⟩ := ScopedRetryPolicy.reserve_granted hreserved
      have hreverse : state'.attempts.reverse =
          now :: run.state.attempts.reverse.filter fun t => now - oneHour < t := by
        rw [hattempts, ScopedRetryPolicy.stamps, List.reverse_concat, List.filter_reverse]
      have hstamps : ((uncompleted run.events).filter fun t => now - oneHour < t).length <
          policy.attemptsPerHour := by
        rw [hinv.kept now hclock, List.filter_reverse, List.length_reverse]
        exact hcount
      refine ⟨fun later hlater => ?_, fun _ => ⟨now, _, _, hreverse, rfl⟩, fun window hwindow => ?_⟩
      · have hnow : now ≤ later := hlater _ List.mem_cons_self
        have hsame := hinv.kept later fun e he => hlater e (List.mem_cons_of_mem _ he)
        have hpruned : (run.state.attempts.reverse.filter fun t => now - oneHour < t).filter
            (fun t => later - oneHour < t) =
              run.state.attempts.reverse.filter fun t => later - oneHour < t := by
          rw [List.filter_filter]
          refine List.filter_congr fun t _ => ?_
          by_cases ht : later - oneHour < t
          · have hnow' : now - oneHour < t := by omega
            simp [ht, hnow']
          · simp [ht]
        change (now :: uncompleted run.events).filter _ = _
        rw [hreverse, List.filter_cons, List.filter_cons, hsame, hpruned]
      · change ((now :: uncompleted run.events).filter window).length ≤ _
        rw [List.filter_cons]
        split_ifs with hmem
        · -- the other times of the window are among those that were counted
          have hsub : ((uncompleted run.events).filter window).length ≤
              ((uncompleted run.events).filter fun t => now - oneHour < t).length := by
            refine (List.monotone_filter_right _ fun t ht => ?_).length_le
            exact decide_eq_true (hwindow t now ht hmem)
          rw [List.length_cons]
          omega
        · exact hinv.budget window hwindow
  | @refused now state' hclock hreserved =>
      obtain rfl := ScopedRetryPolicy.reserve_refused hreserved
      exact ⟨fun later hlater => hinv.kept later fun e he => hlater e (List.mem_cons_of_mem _ he),
        hinv.newest, hinv.budget⟩
  | @succeeded now state' _ hclock hpending hcompleted =>
      obtain ⟨hattempts, -⟩ := ScopedRetryPolicy.succeed_eq_ok hcompleted
      obtain ⟨t, earlier, earlier', hstate, hevents⟩ := hinv.newest hpending
      have hreverse : state'.attempts.reverse = earlier := by
        rw [hattempts, ← List.tail_reverse, hstate, List.tail_cons]
      have htail : uncompleted (.succeeded now :: run.events) = earlier' := by
        change uncompletedFrom true run.events = _
        rw [uncompletedFrom_true hpending, hevents, List.tail_cons]
      refine ⟨fun later hlater => ?_, fun hnone => absurd hnone id, fun window hwindow => ?_⟩
      · have hsame := hinv.kept later fun e he => hlater e (List.mem_cons_of_mem _ he)
        rw [hstate, hevents, List.filter_cons, List.filter_cons] at hsame
        change (uncompleted (.succeeded now :: run.events)).filter _ = _
        rw [htail, hreverse]
        split_ifs at hsame
        · exact (List.cons.inj hsame).2
        · exact hsame
      · change ((uncompleted (.succeeded now :: run.events)).filter window).length ≤ _
        have hle := hinv.budget window hwindow
        rw [hevents, List.filter_cons] at hle
        rw [htail]
        split_ifs at hle
        · exact (Nat.le_succ _).trans hle
        · exact hle

/-- A success that follows a reservation is never refused. -/
theorem succeed_returns {now : ℤ} {usefulProgress : Bool} (hinv : HourInvariant policy run)
    (hpending : Pending run.events) :
    ∃ state', ScopedRetryPolicy.succeed run.state now usefulProgress = .ok state' := by
  obtain ⟨t, earlier, -, hstate, -⟩ := hinv.newest hpending
  have hne : run.state.attempts ≠ [] := fun hnil => by
    rw [hnil] at hstate
    exact absurd hstate nofun
  rw [ScopedRetryPolicy.succeed, raiseIf_of_not hne]
  exact ⟨_, rfl⟩

end Hour

/-! ### The budget of an episode -/

/-- What the record knows of the reservations since the last success. -/
structure EpisodeInvariant (policy : ScopedRetryPolicy) (run : RetryRun) : Prop where
  due : ∀ t ∈ (streak run.events).head?, ∃ due ∈ run.state.nextRetryAt, t + seconds 30 ≤ due ∧
    (policy.attemptsPerEpisode ≤ run.state.episodeAttempts →
      t + seconds policy.cooldownSeconds ≤ due)
  fresh : streak run.events = [] ↔ run.state.episodeAttempts = 0
  episode : run.state.episodeAttempts ≤ policy.attemptsPerEpisode
  boundary : ∀ newer later earlier older,
    streak run.events = newer ++ later :: earlier :: older →
    newer.length + 1 = run.state.episodeAttempts →
    seconds policy.cooldownSeconds ≤ later - earlier
  spaced : (streak run.events).IsChain fun later earlier => seconds 30 ≤ later - earlier

section Episode

variable {policy : ScopedRetryPolicy} {run run' : RetryRun} {call : RetryEvent}

/-- **The episode over one call.** -/
lemma EpisodeInvariant.step (h : RetryStep policy run call run')
    (hinv : EpisodeInvariant policy run) : EpisodeInvariant policy run' := by
  cases h with
  | @granted now state' hclock hreserved =>
      obtain ⟨hdue, -, -, hepisode, hnext⟩ := ScopedRetryPolicy.reserve_granted hreserved
      have hbudget := policy.budget
      have hthirty := policy.thirty_le_delay state'.episodeAttempts
      -- the newest earlier reservation, and the time that the record sets after it
      have hlast : ∀ t ∈ (streak run.events).head?, seconds 30 ≤ now - t ∧
          (policy.attemptsPerEpisode ≤ run.state.episodeAttempts →
            seconds policy.cooldownSeconds ≤ now - t) := by
        intro t ht
        obtain ⟨due, hmem, hshort, hlong⟩ := hinv.due t ht
        have hle := hdue due hmem
        exact ⟨by omega, fun hfull => by have := hlong hfull; omega⟩
      have hpos : state'.episodeAttempts ≠ 0 := by
        rw [hepisode, ScopedRetryPolicy.nextEpisode]
        omega
      refine ⟨?_, iff_of_false (List.cons_ne_nil _ _) hpos, ?_, ?_, ?_⟩
      · intro t ht
        obtain rfl : t = now := (Option.some.inj ht).symm
        refine ⟨_, hnext, ?_, fun hfull => ?_⟩
        · simp only [seconds]
          omega
        · have hcooldown : policy.cooldownSeconds ≤ policy.delay state'.episodeAttempts :=
            ScopedRetryPolicy.cooldown_le_delay hfull
          simp only [seconds]
          omega
      · rw [hepisode, ScopedRetryPolicy.nextEpisode]
        split_ifs <;> omega
      · intro newer later earlier older hsplit hlength
        rw [hepisode, ScopedRetryPolicy.nextEpisode] at hlength
        change now :: streak run.events = _ at hsplit
        cases newer with
        | nil =>
            obtain ⟨rfl, hstreak⟩ := List.cons.inj hsplit
            refine (hlast earlier (by rw [hstreak]; rfl)).2 ?_
            -- a second attempt that is the first of its episode follows a full one
            by_contra hfull
            rw [if_neg hfull] at hlength
            have hnil := hinv.fresh.mpr (Nat.succ_injective hlength).symm
            rw [hstreak] at hnil
            exact absurd hnil (List.cons_ne_nil _ _)
        | cons first newer =>
            have hstreak := (List.cons.inj hsplit).2
            refine hinv.boundary newer later earlier older hstreak ?_
            rw [List.length_cons] at hlength
            split_ifs at hlength <;> omega
      · change (now :: streak run.events).IsChain _
        rw [List.isChain_cons]
        exact ⟨fun t ht => (hlast t ht).1, hinv.spaced⟩
  | @refused now state' hclock hreserved =>
      obtain rfl := ScopedRetryPolicy.reserve_refused hreserved
      exact ⟨hinv.due, hinv.fresh, hinv.episode, hinv.boundary, hinv.spaced⟩
  | @succeeded now state' _ hclock hpending hcompleted =>
      obtain ⟨-, hepisode⟩ := ScopedRetryPolicy.succeed_eq_ok hcompleted
      refine ⟨fun t ht => absurd ht nofun, iff_of_true rfl hepisode, by rw [hepisode]; exact Nat.zero_le _,
        fun newer later earlier older hsplit _ => ?_, .nil⟩
      exact absurd hsplit.symm (by simp [streak])

end Episode

/-! ### Runs -/

/-- A list around two neighbours. -/
lemma exists_split {α : Type*} {l : List α} {i : ℕ} (h : i + 1 < l.length) :
    ∃ newer later earlier older, l = newer ++ later :: earlier :: older ∧ newer.length = i := by
  refine ⟨l.take i, l[i], l[i + 1], l.drop (i + 1 + 1), ?_, ?_⟩
  · rw [← List.drop_eq_getElem_cons, ← List.drop_eq_getElem_cons, List.take_append_drop]
  · rw [List.length_take]
    omega

/-- Consecutive calls without a success. -/
def Uninterrupted (segment events : List RetryEvent) : Prop :=
  segment <:+: events ∧ ∀ e ∈ segment, e.isSuccess = false

/-- **The retry budget** of some calls, the newest first. -/
structure KeepsBudget (policy : ScopedRetryPolicy) (events : List RetryEvent) : Prop where
  hour : ∀ start, ((uncompleted events).filter fun t =>
    start ≤ t ∧ t < start + oneHour).length ≤ policy.attemptsPerHour
  hour' : ∀ start, ((uncompleted events).filter fun t =>
    start < t ∧ t ≤ start + oneHour).length ≤ policy.attemptsPerHour
  episode : ∀ segment, Uninterrupted segment events →
    (grants segment).length = policy.attemptsPerEpisode + 1 →
    ∃ newer later earlier older, grants segment = newer ++ later :: earlier :: older ∧
      seconds policy.cooldownSeconds ≤ later - earlier
  spacing : ∀ segment, Uninterrupted segment events → ∀ later earlier,
    grants segment = [later, earlier] → seconds 30 ≤ later - earlier

section Runs

variable {policy : ScopedRetryPolicy} {run run' : RetryRun} {calls : List RetryEvent}

lemma events_eq (h : Run (RetryStep policy) run calls run') :
    run'.events = calls.reverse ++ run.events := by
  induction h with
  | nil run => rfl
  | cons hstep _ ih =>
      rw [ih, List.reverse_cons, List.append_assoc]
      cases hstep <;> rfl

lemma hourInvariant (h : Run (RetryStep policy) {} calls run) : HourInvariant policy run := by
  refine h.invariant HourInvariant.step ⟨fun _ _ => rfl, fun hnone => absurd hnone id, ?_⟩
  exact fun _ _ => Nat.zero_le _

lemma episodeInvariant (h : Run (RetryStep policy) {} calls run) :
    EpisodeInvariant policy run := by
  refine h.invariant EpisodeInvariant.step
    ⟨fun t ht => absurd ht nofun, iff_of_true rfl rfl, Nat.zero_le _, ?_, .nil⟩
  exact fun newer later earlier older hsplit _ => absurd hsplit.symm (by simp [streak])

/-- Consecutive calls are the last ones of an earlier run. -/
lemma exists_run_of_infix {segment : List RetryEvent} (h : Run (RetryStep policy) {} calls run)
    (hsegment : segment <:+: run.events) :
    ∃ calls' middle older, Run (RetryStep policy) {} calls' middle ∧
      middle.events = segment ++ older := by
  obtain ⟨newer, older, hevents⟩ := hsegment
  have hcalls : calls = (segment ++ older).reverse ++ newer.reverse := by
    have hreverse : calls.reverse = run.events := by
      rw [events_eq h]
      exact (List.append_nil _).symm
    rw [← List.reverse_append, ← List.append_assoc, hevents, ← hreverse, List.reverse_reverse]
  rw [hcalls, run_append_iff] at h
  obtain ⟨middle, hmiddle, -⟩ := h
  refine ⟨_, middle, older, hmiddle, ?_⟩
  rw [events_eq hmiddle, List.reverse_reverse]
  exact List.append_nil _

end Runs

/-- Two attempts with a refused one between them, and a success of the second. -/
def sampleCalls : List RetryEvent :=
  [.granted 0, .refused (seconds 29), .granted (seconds 30), .succeeded (seconds 31)]

end Ai4Binance
