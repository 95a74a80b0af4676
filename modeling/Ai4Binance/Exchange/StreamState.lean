/-
The gap, backfill and reconnect state machine of a public stream
(`exchange/stream_state.py`).

* `StreamRecoveryPolicy`, `PublicStreamRecovery` and its eleven operations;
* `StreamRun`: the machine with the snapshot it stands on, the updates it
  accepted since and the retry delays it granted since;
* `call_cases`: what one call can do, by its outcome;
* `Tracked`: the updates cover every sequence number behind the snapshot, and
  the delays are those of the attempts counted so far;
* `stream_continuity_iff`: continuity over all runs, for exactly the policies
  whose delays can be computed, and `overflow_after`: a policy with more than
  1024 attempts reaches a disconnect that raises after it changed the state.
-/
import Ai4Binance.Lib.Run
import Ai4Binance.Lib.Python
import Ai4Binance.Lib.Datetime

open Check

namespace Ai4Binance

/-! ### Retry delays -/

/-- A float: not a number, or a number with the two infinities. -/
inductive Float64
  | nan
  | num (x : WithBot (WithTop ℚ))
  deriving DecidableEq

namespace Float64

/-- `a < b`: no number is compared with what is none. -/
def lt : Float64 → Float64 → Prop
  | num x, num y => x < y
  | _, _ => False

/-- `a <= b` -/
def le : Float64 → Float64 → Prop
  | num x, num y => x ≤ y
  | _, _ => False

instance : DecidableRel lt
  | num x, num y => inferInstanceAs (Decidable (x < y))
  | nan, _ | num _, nan => .isFalse id

instance : DecidableRel le
  | num x, num y => inferInstanceAs (Decidable (x ≤ y))
  | nan, _ | num _, nan => .isFalse id

/-- `min(a, b)` -/
def minimum (a b : Float64) : Float64 := if lt b a then b else a

/-- The product with a power of two, which is exact until it overflows. -/
def scale (exponent : ℕ) : Float64 → Float64
  | num (some (some x)) =>
    if 2 ^ 1024 ≤ x * 2 ^ exponent then num ⊤
    else if x * 2 ^ exponent ≤ -2 ^ 1024 then num ⊥
    else num ((x * 2 ^ exponent : ℚ) : WithTop ℚ)
  | a => a

/-- `a * (2**exponent)`: the integer is converted to a float first. -/
def timesPowerOfTwo (a : Float64) (exponent : ℕ) : Except PyError Float64 :=
  if 1024 ≤ exponent then .error (.overflow "int too large to convert to float")
  else .ok (a.scale exponent)

end Float64

/-! ### The machine -/

inductive StreamState
  | disconnected | connecting | syncingSnapshot | live | gapDetected | backfilling | degraded
  | stopped
  deriving DecidableEq, Repr

def StreamState.text : StreamState → String
  | .disconnected => "DISCONNECTED"
  | .connecting => "CONNECTING"
  | .syncingSnapshot => "SYNCING_SNAPSHOT"
  | .live => "LIVE"
  | .gapDetected => "GAP_DETECTED"
  | .backfilling => "BACKFILLING"
  | .degraded => "DEGRADED"
  | .stopped => "STOPPED"

/-- The bounds of a recovery; the durations are in microseconds. -/
structure StreamRecoveryPolicy where
  maxReconnectAttempts : ℤ := 5
  maximumSequenceGap : ℤ := 10000
  maximumQueueDepth : ℤ := 50000
  staleAfter : ℤ := 30000000
  baseRetrySeconds : Float64 := .num 1
  maximumRetrySeconds : Float64 := .num 30
  maximumConnectionAge : ℤ := 86100000000
  valid : ¬ (min (min maxReconnectAttempts maximumSequenceGap) maximumQueueDepth < 1 ∨
    staleAfter ≤ 0 ∨ maximumConnectionAge ≤ 0 ∨ baseRetrySeconds.le (.num 0) ∨
    maximumRetrySeconds.lt baseRetrySeconds) := by decide

structure StreamTransition where
  state : StreamState
  accepted : Bool
  lastSequence : Option ℤ
  retryAfterSeconds : Float64
  blockers : List String
  executionAllowed : Bool := false
  deriving DecidableEq

/-- The continuity of one public stream, without a network connection. -/
structure PublicStreamRecovery where
  policy : StreamRecoveryPolicy
  state : StreamState := .disconnected
  lastSequence : Option ℤ := none
  reconnectAttempts : ℕ := 0
  lastEventAt : Option ZonedDatetime := none
  connectedAt : Option ZonedDatetime := none

namespace PublicStreamRecovery

variable [TzData] (s : PublicStreamRecovery)

/-- The state an operation leaves, and what it returns or raises. -/
abbrev Outcome := PublicStreamRecovery × Except PyError StreamTransition

/-- The transition reported from the state that was reached. -/
def result (accepted : Bool) (blockers : List String) (retry : Float64 := .num 0) : Outcome :=
  (s, .ok ⟨s.state, accepted, s.lastSequence, retry, blockers, false⟩)

/-- Goes on when the checks pass. -/
def checked {α : Type} (checks : Except PyError α) (next : α → Outcome) : Outcome :=
  match checks with
  | .error e => (s, .error e)
  | .ok a => next a

def requireState (allowed : List StreamState) : Except PyError Unit :=
  raiseIf (s.state ∉ allowed) (.value ("invalid stream transition from " ++ s.state.text))

def requireAware : PyDatetime → Except PyError ZonedDatetime
  | .aware t => .ok t
  | .naive _ => .error (.value "stream timestamp must be timezone-aware")

def validateSequenceAndTime (sequence : ℤ) (observedAt : PyDatetime) :
    Except PyError ZonedDatetime := do
  raiseIf (sequence < 1) (.value "stream sequence must be positive")
  let t ← requireAware observedAt
  raiseIf (s.lastEventAt.any t.lt) (.value "stream event time cannot move backwards")
  return t

def start : Outcome :=
  s.checked (s.requireState [.disconnected]) fun _ => result { s with state := .connecting } true []

def connected (observedAt : Option PyDatetime) : Outcome :=
  s.checked (do s.requireState [.connecting]; observedAt.mapM requireAware) fun t =>
    result { s with connectedAt := t, state := .syncingSnapshot } true []

def applySnapshot (sequence : ℤ) (observedAt : PyDatetime) : Outcome :=
  s.checked (do
    s.requireState [.syncingSnapshot, .backfilling]
    s.validateSequenceAndTime sequence observedAt) fun t =>
    result { s with lastSequence := sequence, lastEventAt := t, reconnectAttempts := 0,
                    state := .live } true []

def applyUpdate (firstSequence lastSequence : ℤ) (observedAt : PyDatetime) (queueDepth : ℤ) :
    Outcome :=
  s.checked (do
    s.requireState [.live]
    let t ← s.validateSequenceAndTime lastSequence observedAt
    raiseIf (firstSequence < 1 ∨ firstSequence > lastSequence ∨ queueDepth < 0)
      (.value "stream update sequence or queue depth is invalid")
    return t) fun t =>
    if queueDepth > s.policy.maximumQueueDepth then
      result { s with state := .degraded } false ["STREAM_BACKPRESSURE_LIMIT_EXCEEDED"]
    else
      match s.lastSequence with
      | none => (s, .error (.runtime "live stream is missing its snapshot sequence"))
      | some last =>
        if lastSequence < last + 1 then s.result false []
        else if firstSequence > last + 1 then
          if firstSequence - (last + 1) > s.policy.maximumSequenceGap then
            result { s with state := .degraded } false ["STREAM_SEQUENCE_GAP_EXCEEDS_LIMIT"]
          else result { s with state := .gapDetected } false ["STREAM_SEQUENCE_GAP"]
        else result { s with lastSequence := lastSequence, lastEventAt := t } true []

def beginBackfill : Outcome :=
  s.checked (s.requireState [.gapDetected]) fun _ =>
    result { s with state := .backfilling } true ["REST_BACKFILL_IN_PROGRESS"]

/-- Rejects an update whose exchange sequence cannot be verified. -/
def rejectUnsequencedUpdate : Outcome :=
  s.checked (s.requireState [.live]) fun _ => s.result false ["KLINE_TRADE_SEQUENCE_UNAVAILABLE"]

/-- Counts the attempt, and only then computes the delay before it. -/
def disconnected : Outcome :=
  s.checked (s.requireState [.connecting, .syncingSnapshot, .live, .gapDetected, .backfilling])
    fun _ =>
    let s := { s with reconnectAttempts := s.reconnectAttempts + 1 }
    if (s.reconnectAttempts : ℤ) > s.policy.maxReconnectAttempts then
      result { s with state := .degraded } false ["STREAM_RECONNECT_CIRCUIT_OPEN"]
    else
      let s := { s with state := .disconnected }
      s.checked (s.policy.baseRetrySeconds.timesPowerOfTwo (s.reconnectAttempts - 1)) fun delay =>
        s.result false ["PUBLIC_STREAM_DISCONNECTED"] (s.policy.maximumRetrySeconds.minimum delay)

/-- Handles the announced shutdown of the server as a planned reconnect. -/
def serverShutdown : Outcome :=
  s.checked (s.requireState [.syncingSnapshot, .live, .gapDetected, .backfilling]) fun _ =>
    result { s with state := .disconnected, connectedAt := none } false ["STREAM_SERVER_SHUTDOWN"]

/-- The age of a reading that must not lie ahead. -/
def age (since : Option ZonedDatetime) (now : ZonedDatetime) (message : String) :
    Except PyError ℤ :=
  match since with
  | none => .error (.value message)
  | some t => if now.lt t then .error (.value message) else .ok (now.sub t)

/-- Requires a planned reconnect before the exchange disconnects. -/
def checkConnectionRollover (now : PyDatetime) : Outcome :=
  s.checked (do
    s.requireState [.live]
    let now ← requireAware now
    age s.connectedAt now "stream connection age is unavailable or invalid") fun age =>
    if age ≥ s.policy.maximumConnectionAge then
      result { s with state := .disconnected, connectedAt := none } false
        ["STREAM_CONNECTION_ROLLOVER_REQUIRED"]
    else s.result true []

def checkStaleness (now : PyDatetime) : Outcome :=
  s.checked (do
    s.requireState [.live]
    let now ← requireAware now
    age s.lastEventAt now "stream staleness time is invalid") fun age =>
    if age > s.policy.staleAfter then
      result { s with state := .degraded } false ["PUBLIC_STREAM_STALE"]
    else s.result true []

def stop : Outcome :=
  s.checked (raiseIf (s.state = .stopped) (.value "stream is already stopped")) fun _ =>
    result { s with state := .stopped } true []

end PublicStreamRecovery

/-- A call on the machine. -/
inductive StreamCall
  | start
  | connected (observedAt : Option PyDatetime)
  | applySnapshot (sequence : ℤ) (observedAt : PyDatetime)
  | applyUpdate (firstSequence lastSequence : ℤ) (observedAt : PyDatetime) (queueDepth : ℤ)
  | beginBackfill
  | rejectUnsequencedUpdate
  | disconnected
  | serverShutdown
  | checkConnectionRollover (now : PyDatetime)
  | checkStaleness (now : PyDatetime)
  | stop
  deriving DecidableEq

/-- The operation that a call asks for. -/
def PublicStreamRecovery.call [TzData] (s : PublicStreamRecovery) : StreamCall →
    PublicStreamRecovery.Outcome
  | .start => s.start
  | .connected observedAt => s.connected observedAt
  | .applySnapshot sequence observedAt => s.applySnapshot sequence observedAt
  | .applyUpdate firstSequence lastSequence observedAt queueDepth =>
    s.applyUpdate firstSequence lastSequence observedAt queueDepth
  | .beginBackfill => s.beginBackfill
  | .rejectUnsequencedUpdate => s.rejectUnsequencedUpdate
  | .disconnected => s.disconnected
  | .serverShutdown => s.serverShutdown
  | .checkConnectionRollover now => s.checkConnectionRollover now
  | .checkStaleness now => s.checkStaleness now
  | .stop => s.stop

/-! ### Runs -/

/-- The machine, the snapshot it stands on, and what happened since: the ranges
of the accepted updates and the delays before the granted reconnects, newest
first. -/
structure StreamRun where
  recovery : PublicStreamRecovery
  snapshot : Option ℤ := none
  updates : List (ℤ × ℤ) := []
  delays : List Float64 := []

namespace StreamRun

variable [TzData] (r : StreamRun)

/-- The record of one outcome. -/
def record (call : StreamCall) (recovery : PublicStreamRecovery) (t : StreamTransition) :
    StreamRun :=
  match call with
  | .applySnapshot sequence _ => ⟨recovery, some sequence, [], []⟩
  | .applyUpdate firstSequence lastSequence _ _ =>
    { r with recovery := recovery,
             updates := if t.accepted then (firstSequence, lastSequence) :: r.updates
                        else r.updates }
  | .disconnected =>
    { r with recovery := recovery,
             delays := if t.blockers = ["PUBLIC_STREAM_DISCONNECTED"] then
                         t.retryAfterSeconds :: r.delays
                       else r.delays }
  | _ => { r with recovery := recovery }

def after (call : StreamCall) : StreamRun :=
  match r.recovery.call call with
  | (recovery, .ok t) => r.record call recovery t
  | (recovery, .error _) => { r with recovery := recovery }

/-- A new machine. -/
def initial (policy : StreamRecoveryPolicy) : StreamRun := { recovery := { policy := policy } }

/-- One call, accepted or raising. -/
def Step (r : StreamRun) (call : StreamCall) (r' : StreamRun) : Prop := r' = r.after call

end StreamRun

/-! ### What one call can do -/

namespace PublicStreamRecovery

variable {s : PublicStreamRecovery}

/-- The delay before the reconnect with the given exponent. -/
def retryDelay (policy : StreamRecoveryPolicy) (exponent : ℕ) : Float64 :=
  policy.maximumRetrySeconds.minimum (policy.baseRetrySeconds.scale exponent)

/-- What a call does to the machine, by its outcome. -/
inductive Effect (s : PublicStreamRecovery) :
    StreamCall → PublicStreamRecovery → Except PyError StreamTransition → Prop
  /-- A refused call. -/
  | raised (c : StreamCall) (e : PyError) : Effect s c s (.error e)
  /-- A disconnect that counts its attempt and then cannot compute the delay. -/
  | overflowed (e : PyError) (hexp : 1024 ≤ s.reconnectAttempts)
      (hmax : (s.reconnectAttempts + 1 : ℤ) ≤ s.policy.maxReconnectAttempts)
      (hopen : s.state ≠ .degraded ∧ s.state ≠ .stopped) :
      Effect s .disconnected
        { s with reconnectAttempts := s.reconnectAttempts + 1, state := .disconnected } (.error e)
  /-- A snapshot. -/
  | snapshot (sequence : ℤ) (observedAt : PyDatetime) (t : ZonedDatetime) (r : StreamTransition)
      (hopen : s.state ≠ .degraded ∧ s.state ≠ .stopped) :
      Effect s (.applySnapshot sequence observedAt)
        { s with lastSequence := sequence, lastEventAt := t, reconnectAttempts := 0,
                 state := .live } (.ok r)
  /-- An update that continues the sequence. -/
  | updated (first last : ℤ) (observedAt : PyDatetime) (queueDepth : ℤ) (t : ZonedDatetime)
      (r : StreamTransition) (previous : ℤ) (hlive : s.state = .live)
      (hprevious : s.lastSequence = some previous) (hfirst : first ≤ previous + 1)
      (hlast : previous + 1 ≤ last) (haccepted : r.accepted = true) :
      Effect s (.applyUpdate first last observedAt queueDepth)
        { s with lastSequence := last, lastEventAt := t } (.ok r)
  /-- A disconnect with a delay. -/
  | retried (r : StreamTransition) (hexp : s.reconnectAttempts < 1024)
      (hmax : (s.reconnectAttempts + 1 : ℤ) ≤ s.policy.maxReconnectAttempts)
      (hopen : s.state ≠ .degraded ∧ s.state ≠ .stopped)
      (hblockers : r.blockers = ["PUBLIC_STREAM_DISCONNECTED"])
      (hdelay : r.retryAfterSeconds = retryDelay s.policy s.reconnectAttempts) :
      Effect s .disconnected
        { s with reconnectAttempts := s.reconnectAttempts + 1, state := .disconnected } (.ok r)
  /-- A disconnect after all attempts. -/
  | circuitOpen (r : StreamTransition)
      (hmax : s.policy.maxReconnectAttempts < (s.reconnectAttempts + 1 : ℤ))
      (hopen : s.state ≠ .degraded ∧ s.state ≠ .stopped)
      (hblockers : r.blockers ≠ ["PUBLIC_STREAM_DISCONNECTED"]) :
      Effect s .disconnected
        { s with reconnectAttempts := s.reconnectAttempts + 1, state := .degraded } (.ok r)
  /-- Every other accepted call moves at most the state and the connection time. -/
  | moved (c : StreamCall) (state : StreamState) (connectedAt : Option ZonedDatetime)
      (r : StreamTransition) (hsnapshot : ∀ sequence t, c ≠ .applySnapshot sequence t)
      (hdisconnected : c ≠ .disconnected)
      (hupdate : ∀ first last t depth, c = .applyUpdate first last t depth → r.accepted = false)
      (hstopped : s.state ≠ .stopped) (hdegraded : s.state = .degraded → c = .stop ∧ state = .stopped)
      (hlive : state = .live → s.state = .live) :
      Effect s c { s with state := state, connectedAt := connectedAt } (.ok r)

namespace Effect

variable {s' : PublicStreamRecovery} {c : StreamCall} {res : Except PyError StreamTransition}

/-- Only a snapshot moves the sequence back. -/
lemma forwards (h : Effect s c s' res) (hc : ∀ sequence t, c ≠ .applySnapshot sequence t) {last : ℤ}
    (hlast : s.lastSequence = some last) : ∃ last', s'.lastSequence = some last' ∧ last ≤ last' := by
  cases h with
  | snapshot sequence observedAt t tr hopen => exact absurd rfl (hc sequence observedAt)
  | updated first last' observedAt depth t tr previous hlive hprevious hfirst hnext hacc =>
      obtain rfl : last = previous := Option.some.inj (hlast.symm.trans hprevious)
      exact ⟨last', rfl, by omega⟩
  | _ => exact ⟨last, hlast, le_rfl⟩

lemma degraded (h : Effect s c s' res) (hc : c ≠ .stop) (hs : s.state = .degraded) :
    s'.state = .degraded := by
  cases h with
  | raised _ e => exact hs
  | updated _ _ _ _ _ _ _ hlive => exact absurd (hlive.symm.trans hs) (by decide)
  | moved _ _ _ _ _ _ _ _ hstop => exact absurd (hstop hs).1 hc
  | _ => exact absurd hs (by assumption : _ ∧ _).1

lemma stopped (h : Effect s c s' res) (hs : s.state = .stopped) : s'.state = .stopped := by
  cases h with
  | raised _ e => exact hs
  | updated _ _ _ _ _ _ _ hlive => exact absurd (hlive.symm.trans hs) (by decide)
  | moved _ _ _ _ _ _ _ hstate => exact absurd hs hstate
  | _ => exact absurd hs (by assumption : _ ∧ _).2

/-- A call that raises has changed nothing, a disconnect after 1024 attempts
excepted. -/
lemma eq_of_raised {e : PyError} (h : Effect s c s' (.error e)) :
    s' = s ∨ 1024 ≤ s.reconnectAttempts ∧
      (s.reconnectAttempts + 1 : ℤ) ≤ s.policy.maxReconnectAttempts ∧
      s.state ≠ .degraded ∧ s.state ≠ .stopped := by
  cases h with
  | raised _ _ => exact .inl rfl
  | overflowed _ hexp hle hopen => exact .inr ⟨hexp, hle, hopen⟩

end Effect

/-- A call is refused by its checks, or it does what follows them. -/
lemma Effect.of_checked {α : Type} {c : StreamCall} {checks : Except PyError α}
    {next : α → Outcome} (h : ∀ a, checks = .ok a → Effect s c (next a).1 (next a).2) :
    Effect s c (s.checked checks next).1 (s.checked checks next).2 := by
  cases hc : checks with
  | error e => exact .raised c e
  | ok a => exact h a hc

lemma mem_of_requireState {allowed : List StreamState} {u : Unit}
    (h : s.requireState allowed = .ok u) : s.state ∈ allowed := by
  rw [requireState, raiseIf_eq_ok, not_not] at h
  exact h

/-- The call in a state that is neither degraded nor stopped. -/
lemma open_of_mem {allowed : List StreamState} (hmem : s.state ∈ allowed)
    (hdegraded : StreamState.degraded ∉ allowed := by decide)
    (hstopped : StreamState.stopped ∉ allowed := by decide) :
    s.state ≠ .degraded ∧ s.state ≠ .stopped :=
  ⟨fun h => hdegraded (h ▸ hmem), fun h => hstopped (h ▸ hmem)⟩

lemma effect_applyUpdate [TzData] (first last : ℤ) (observedAt : PyDatetime) (queueDepth : ℤ) :
    Effect s (.applyUpdate first last observedAt queueDepth)
      (s.applyUpdate first last observedAt queueDepth).1
      (s.applyUpdate first last observedAt queueDepth).2 := by
  refine Effect.of_checked fun t ht => ?_
  simp only [bind_eq_ok, raiseIf_eq_ok] at ht
  obtain ⟨_, hstate, -⟩ := ht
  have hlive : s.state = .live := by simpa using mem_of_requireState hstate
  -- a call that accepts no update
  have hmoved : ∀ (state : StreamState) (blockers : List String),
      Effect s (.applyUpdate first last observedAt queueDepth)
        (result { s with state := state } false blockers).1
        (result { s with state := state } false blockers).2 :=
    fun state blockers => .moved _ state s.connectedAt _ (by simp) (by simp)
      (fun _ _ _ _ _ => rfl) (by simp [hlive]) (by simp [hlive]) fun _ => hlive
  split_ifs with hdepth
  · exact hmoved .degraded _
  · split
    · exact .raised _ _
    · rename_i previous hlast
      split_ifs with hstale hgap hlarge
      · exact hmoved s.state []
      · exact hmoved .degraded _
      · exact hmoved .gapDetected _
      · exact .updated first last observedAt queueDepth t _ previous hlive hlast
          (not_lt.mp hgap) (not_lt.mp hstale) rfl

lemma effect_disconnected : Effect s .disconnected s.disconnected.1 s.disconnected.2 := by
  refine Effect.of_checked fun u hu => ?_
  have hopen := open_of_mem (mem_of_requireState hu)
  dsimp only
  split_ifs with hmax
  · exact .circuitOpen _ (by exact_mod_cast hmax) hopen (by simp)
  · have hle : (s.reconnectAttempts + 1 : ℤ) ≤ s.policy.maxReconnectAttempts := by
      exact_mod_cast not_lt.mp hmax
    rw [Nat.add_sub_cancel]
    rw [Float64.timesPowerOfTwo]
    by_cases hexp : 1024 ≤ s.reconnectAttempts
    · rw [if_pos hexp]
      exact .overflowed _ hexp hle hopen
    · rw [if_neg hexp]
      exact .retried _ (not_le.mp hexp) hle hopen rfl rfl

/-- **Inversion of a call.** -/
theorem call_cases [TzData] (c : StreamCall) : Effect s c (s.call c).1 (s.call c).2 := by
  cases c with
  | start =>
      refine Effect.of_checked fun u hu => ?_
      have hopen := open_of_mem (mem_of_requireState hu)
      exact .moved _ .connecting s.connectedAt _ (by simp) (by simp) (by simp) hopen.2
        (fun h => absurd h hopen.1) (by simp)
  | connected observedAt =>
      refine Effect.of_checked fun t ht => ?_
      obtain ⟨u, hu, -⟩ := bind_eq_ok.mp ht
      have hopen := open_of_mem (mem_of_requireState hu)
      exact .moved _ .syncingSnapshot t _ (by simp) (by simp) (by simp) hopen.2
        (fun h => absurd h hopen.1) (by simp)
  | applySnapshot sequence observedAt =>
      refine Effect.of_checked fun t ht => ?_
      obtain ⟨u, hu, -⟩ := bind_eq_ok.mp ht
      exact .snapshot sequence observedAt t _ (open_of_mem (mem_of_requireState hu))
  | applyUpdate first last observedAt queueDepth =>
      exact effect_applyUpdate first last observedAt queueDepth
  | beginBackfill =>
      refine Effect.of_checked fun u hu => ?_
      have hopen := open_of_mem (mem_of_requireState hu)
      exact .moved _ .backfilling s.connectedAt _ (by simp) (by simp) (by simp) hopen.2
        (fun h => absurd h hopen.1) (by simp)
  | rejectUnsequencedUpdate =>
      refine Effect.of_checked fun u hu => ?_
      have hopen := open_of_mem (mem_of_requireState hu)
      exact .moved _ s.state s.connectedAt _ (by simp) (by simp) (by simp) hopen.2
        (fun h => absurd h hopen.1) id
  | disconnected => exact effect_disconnected
  | serverShutdown =>
      refine Effect.of_checked fun u hu => ?_
      have hopen := open_of_mem (mem_of_requireState hu)
      exact .moved _ .disconnected none _ (by simp) (by simp) (by simp) hopen.2
        (fun h => absurd h hopen.1) (by simp)
  | checkConnectionRollover now =>
      refine Effect.of_checked fun age hage => ?_
      obtain ⟨u, hu, -⟩ := bind_eq_ok.mp hage
      have hopen := open_of_mem (mem_of_requireState hu)
      split_ifs
      · exact .moved _ .disconnected none _ (by simp) (by simp) (by simp) hopen.2
          (fun h => absurd h hopen.1) (by simp)
      · exact .moved _ s.state s.connectedAt _ (by simp) (by simp) (by simp) hopen.2
          (fun h => absurd h hopen.1) id
  | checkStaleness now =>
      refine Effect.of_checked fun age hage => ?_
      obtain ⟨u, hu, -⟩ := bind_eq_ok.mp hage
      have hopen := open_of_mem (mem_of_requireState hu)
      split_ifs
      · exact .moved _ .degraded s.connectedAt _ (by simp) (by simp) (by simp) hopen.2
          (fun h => absurd h hopen.1) (by simp)
      · exact .moved _ s.state s.connectedAt _ (by simp) (by simp) (by simp) hopen.2
          (fun h => absurd h hopen.1) id
  | stop =>
      refine Effect.of_checked fun u hu => ?_
      exact .moved _ .stopped s.connectedAt _ (by simp) (by simp) (by simp)
        (raiseIf_eq_ok.mp hu) (by simp) (by simp)

end PublicStreamRecovery

/-! ### The delays -/

namespace Float64

@[simp] lemma le_num {x y : WithBot (WithTop ℚ)} : (num x).le (num y) ↔ x ≤ y := Iff.rfl

lemma not_le_nan (a : Float64) : ¬ a.le nan := by
  cases a <;> exact id

lemma minimum_num_nan (x : WithBot (WithTop ℚ)) : (num x).minimum nan = num x := if_neg id

lemma minimum_num_num (x y : WithBot (WithTop ℚ)) : (num x).minimum (num y) = num (min x y) := by
  rw [minimum]
  split_ifs with h
  · rw [min_eq_right (show y < x from h).le]
  · rw [min_eq_left (not_lt.mp h)]

/-- Scaled by growing powers of two, a positive float grows. -/
lemma exists_scale {x : WithBot (WithTop ℚ)} (hx : 0 < x) :
    ∃ y : ℕ → WithBot (WithTop ℚ), Monotone y ∧ ∀ e, (num x).scale e = num (y e) := by
  cases x using WithBot.recBotCoe with
  | bot => exact absurd hx (by simp)
  | coe x =>
      cases x using WithTop.recTopCoe with
      | top => exact ⟨fun _ => ⊤, monotone_const, fun _ => rfl⟩
      | coe q =>
          have hq : 0 < q := by exact_mod_cast hx
          let y : ℕ → WithBot (WithTop ℚ) := fun e =>
            if 2 ^ 1024 ≤ q * 2 ^ e then ⊤ else ((q * 2 ^ e : ℚ) : WithTop ℚ)
          refine ⟨y, fun i j hij => ?_, fun e => ?_⟩
          · have hle : q * 2 ^ i ≤ q * 2 ^ j :=
              mul_le_mul_of_nonneg_left (pow_le_pow_right₀ one_le_two hij) hq.le
            show (if _ then _ else _ : WithBot (WithTop ℚ)) ≤ if _ then _ else _
            split_ifs with hi hj hj
            · exact le_rfl
            · exact absurd (hi.trans hle) hj
            · exact le_top
            · exact_mod_cast hle
          · have hpos : ¬ q * 2 ^ e ≤ -2 ^ 1024 := by
              have h1 : 0 < q * 2 ^ e := by positivity
              have h2 : (-2 ^ 1024 : ℚ) < 0 := by norm_num
              exact not_le.mpr (h2.trans h1)
            show (if _ then _ else if _ then _ else _ : Float64) = num (if _ then _ else _)
            rw [if_neg hpos]
            split_ifs <;> rfl

end Float64

namespace StreamRecoveryPolicy

variable (policy : StreamRecoveryPolicy)

lemma one_le_maxReconnectAttempts : 1 ≤ policy.maxReconnectAttempts := by
  have := policy.valid
  omega

/-- The delays of a policy whose maximum is a number form a monotone sequence
below it. -/
lemma exists_retryDelay {x : WithBot (WithTop ℚ)} (hmax : policy.maximumRetrySeconds = .num x) :
    ∃ y : ℕ → WithBot (WithTop ℚ), Monotone y ∧ (∀ e, y e ≤ x) ∧
      ∀ e, PublicStreamRecovery.retryDelay policy e = .num (y e) := by
  have hvalid := policy.valid
  cases hbase : policy.baseRetrySeconds with
  | nan =>
      refine ⟨fun _ => x, monotone_const, fun _ => le_rfl, fun e => ?_⟩
      rw [PublicStreamRecovery.retryDelay, hmax, hbase]
      exact Float64.minimum_num_nan x
  | num b =>
      have hb : 0 < b := by
        rw [hbase] at hvalid
        exact not_le.mp fun hle => hvalid (.inr (.inr (.inr (.inl hle))))
      obtain ⟨y, hy, hscale⟩ := Float64.exists_scale hb
      refine ⟨fun e => min x (y e), fun i j hij => min_le_min_left x (hy hij),
        fun e => min_le_left _ _, fun e => ?_⟩
      rw [PublicStreamRecovery.retryDelay, hmax, hbase, hscale, Float64.minimum_num_num]

end StreamRecoveryPolicy

/-! ### Continuity -/

namespace StreamRun

/-- Every sequence number behind the snapshot is covered by an update accepted
since. -/
def Covered (r : StreamRun) : Prop :=
  ∃ base last, r.snapshot = some base ∧ r.recovery.lastSequence = some last ∧
    ∀ k, base < k → k ≤ last → ∃ u ∈ r.updates, u.1 ≤ k ∧ k ≤ u.2

/-- Stream continuity of a state: what has been covered, what the next call can
change, and the delays since the snapshot. -/
structure Continuity [TzData] (r : StreamRun) : Prop where
  covered : r.recovery.state = .live → r.Covered
  forwards : ∀ c, (∀ sequence t, c ≠ .applySnapshot sequence t) →
    ∀ last, r.recovery.lastSequence = some last →
      ∃ last', (r.after c).recovery.lastSequence = some last' ∧ last ≤ last'
  degraded : ∀ c, r.recovery.state = .degraded → c ≠ .stop →
    (r.after c).recovery.state = .degraded
  stopped : ∀ c, r.recovery.state = .stopped → (r.after c).recovery.state = .stopped
  raised : ∀ c e, (r.recovery.call c).2 = .error e → (r.recovery.call c).1 = r.recovery
  ordered : r.delays.Pairwise fun later earlier => earlier.le later
  bounded : ∀ d ∈ r.delays, d.le r.recovery.policy.maximumRetrySeconds
  granted : (r.delays.length : ℤ) ≤ r.recovery.policy.maxReconnectAttempts

/-- The state of a run whose delays can all be computed. -/
structure Tracked (policy : StreamRecoveryPolicy) (r : StreamRun) : Prop where
  policy_eq : r.recovery.policy = policy
  covered : r.recovery.lastSequence ≠ none → r.Covered
  live : r.recovery.state = .live → r.recovery.lastSequence ≠ none
  delays_eq : r.delays =
    ((List.range r.delays.length).map (PublicStreamRecovery.retryDelay policy)).reverse
  granted : (r.delays.length : ℤ) ≤ policy.maxReconnectAttempts
  attempts : r.recovery.state ≠ .degraded → r.recovery.state ≠ .stopped →
    r.recovery.reconnectAttempts = r.delays.length

namespace Tracked

variable [TzData] {policy : StreamRecoveryPolicy} {r : StreamRun}

omit [TzData] in
lemma initial (policy : StreamRecoveryPolicy) : Tracked policy (StreamRun.initial policy) where
  policy_eq := rfl
  covered := by simp [StreamRun.initial]
  live := by simp [StreamRun.initial]
  delays_eq := rfl
  granted := by
    have := policy.one_le_maxReconnectAttempts
    simpa [StreamRun.initial] using (show (0 : ℤ) ≤ policy.maxReconnectAttempts by omega)
  attempts := by simp [StreamRun.initial]

/-- One call keeps track. -/
lemma step (hmax : policy.maxReconnectAttempts ≤ 1024) (h : Tracked policy r) (c : StreamCall) :
    Tracked policy (r.after c) := by
  obtain ⟨⟨s, res⟩, hout⟩ : ∃ out, r.recovery.call c = out := ⟨_, rfl⟩
  have heffect : PublicStreamRecovery.Effect r.recovery c s res := by
    simpa only [hout] using PublicStreamRecovery.call_cases (s := r.recovery) c
  have hpolicy := h.policy_eq
  rw [after, hout]
  cases heffect with
  | raised _ e => exact h
  | overflowed e hexp hle hopen =>
      rw [hpolicy] at hle
      omega
  | snapshot sequence observedAt t tr hopen =>
      refine ⟨hpolicy, fun _ => ?_, fun _ => by simp [record], rfl, ?_, fun _ _ => rfl⟩
      · exact ⟨sequence, sequence, rfl, rfl, fun k hlt hle => absurd hle (not_le.mpr hlt)⟩
      · have := policy.one_le_maxReconnectAttempts
        simpa [record] using (show (0 : ℤ) ≤ policy.maxReconnectAttempts by omega)
  | updated first last observedAt queueDepth t tr previous hlive hprevious hfirst hlast hacc =>
      obtain ⟨base, last', hbase, hlast', hcov⟩ := h.covered (by simp [hprevious])
      obtain rfl : previous = last' := Option.some.inj (hprevious.symm.trans hlast')
      refine ⟨hpolicy, fun _ => ⟨base, last, hbase, rfl, ?_⟩, fun _ => by simp [record],
        h.delays_eq, h.granted, h.attempts⟩
      intro k hlt hle
      simp only [record, hacc, if_true]
      by_cases hk : k ≤ previous
      · obtain ⟨u, hu, hcovers⟩ := hcov k hlt hk
        exact ⟨u, .tail _ hu, hcovers⟩
      · exact ⟨(first, last), .head _, show first ≤ k by omega, hle⟩
  | retried tr hexp hle hopen hblockers hdelay =>
      have hattempts := h.attempts hopen.1 hopen.2
      rw [hpolicy] at hle hdelay
      refine ⟨hpolicy, h.covered, by simp [record], ?_, ?_, ?_⟩
      · simp only [record, hblockers, if_true, List.length_cons, List.range_succ, List.map_append,
          List.map_cons, List.map_nil, List.reverse_append, List.reverse_cons, List.reverse_nil,
          List.nil_append, List.cons_append]
        rw [hdelay, hattempts, ← h.delays_eq]
      · simp only [record, hblockers, if_true, List.length_cons]
        omega
      · intro _ _
        simp only [record, hblockers, if_true, List.length_cons]
        omega
  | circuitOpen tr hlt hopen hblockers =>
      refine ⟨hpolicy, h.covered, by simp [record], ?_, ?_, by simp [record]⟩
      · simp only [record, if_neg hblockers]
        exact h.delays_eq
      · simp only [record, if_neg hblockers]
        exact h.granted
  | moved _ state connectedAt tr hsnapshot hdisconnected hupdate hstopped hdegraded hlive =>
      have hrecord : r.record c { r.recovery with state := state, connectedAt := connectedAt } tr
          = { r with recovery := { r.recovery with state := state, connectedAt := connectedAt } } := by
        cases c with
        | applySnapshot sequence t => exact absurd rfl (hsnapshot sequence t)
        | disconnected => exact absurd rfl hdisconnected
        | applyUpdate first last t depth => simp [record, hupdate first last t depth rfl]
        | _ => rfl
      show Tracked policy (r.record c _ tr)
      rw [hrecord]
      refine ⟨hpolicy, h.covered, fun hs => h.live (hlive hs), h.delays_eq, h.granted, ?_⟩
      intro _ hstate
      exact h.attempts (fun hd => hstate (hdegraded hd).2) hstopped

end Tracked

/-! ### Every call, and every run -/

section EveryRun

variable [TzData] {policy : StreamRecoveryPolicy} {r : StreamRun}

lemma recovery_after (c : StreamCall) : (r.after c).recovery = (r.recovery.call c).1 := by
  rw [after]
  rcases r.recovery.call c with ⟨s, e | t⟩
  · rfl
  · cases c <;> rfl

/-- A tracked run is continuous. -/
lemma Tracked.continuity (hattempts : policy.maxReconnectAttempts ≤ 1024)
    (hmax : policy.maximumRetrySeconds ≠ .nan) (h : Tracked policy r) : Continuity r := by
  have heffect := fun c => PublicStreamRecovery.call_cases (s := r.recovery) c
  obtain ⟨x, hx⟩ : ∃ x, policy.maximumRetrySeconds = .num x := by
    cases hm : policy.maximumRetrySeconds with
    | nan => exact absurd hm hmax
    | num x => exact ⟨x, rfl⟩
  obtain ⟨y, hy, hyx, hdelay⟩ := policy.exists_retryDelay hx
  refine ⟨fun hlive => h.covered (h.live hlive), ?_, ?_, ?_, ?_, ?_, ?_, ?_⟩
  · intro c hc last hlast
    rw [recovery_after]
    exact (heffect c).forwards hc hlast
  · intro c hdegraded hc
    rw [recovery_after]
    exact (heffect c).degraded hc hdegraded
  · intro c hstopped
    rw [recovery_after]
    exact (heffect c).stopped hstopped
  · intro c e hraise
    have heff := heffect c
    rw [hraise] at heff
    rcases heff.eq_of_raised with heq | ⟨hexp, hle, -⟩
    · exact heq
    · rw [h.policy_eq] at hle
      omega
  · rw [h.delays_eq, List.pairwise_reverse, List.pairwise_map]
    refine List.pairwise_lt_range.imp fun {i j} hij => ?_
    rw [hdelay, hdelay, Float64.le_num]
    exact hy (le_of_lt hij)
  · intro d hd
    rw [h.delays_eq, List.mem_reverse, List.mem_map] at hd
    obtain ⟨e, -, rfl⟩ := hd
    rw [h.policy_eq, hx, hdelay, Float64.le_num]
    exact hyx e
  · rw [h.policy_eq]
    exact h.granted

lemma after_start {n : ℕ} (hr : r.recovery = { policy := policy, reconnectAttempts := n }) :
    r.after .start =
      { r with recovery := { policy := policy, state := .connecting, reconnectAttempts := n } } := by
  obtain ⟨s, snapshot, updates, delays⟩ := r
  obtain rfl : s = _ := hr
  rfl

/-- A disconnect counts its attempt, and returns the delay if it can be computed. -/
lemma call_disconnected {n : ℕ} (hmax : (n + 1 : ℤ) ≤ policy.maxReconnectAttempts) :
    PublicStreamRecovery.call { policy := policy, state := .connecting, reconnectAttempts := n }
        .disconnected =
      ({ policy := policy, reconnectAttempts := n + 1 },
        if 1024 ≤ n then .error (.overflow "int too large to convert to float")
        else .ok ⟨.disconnected, false, none, PublicStreamRecovery.retryDelay policy n,
          ["PUBLIC_STREAM_DISCONNECTED"], false⟩) := by
  have hle : ¬ policy.maxReconnectAttempts ≤ n := by omega
  by_cases hn : 1024 ≤ n
  · simp [PublicStreamRecovery.call, PublicStreamRecovery.disconnected,
      PublicStreamRecovery.checked, PublicStreamRecovery.requireState, raiseIf,
      Float64.timesPowerOfTwo, hle, hn]
  · simp [PublicStreamRecovery.call, PublicStreamRecovery.disconnected,
      PublicStreamRecovery.checked, PublicStreamRecovery.requireState, raiseIf,
      PublicStreamRecovery.result, Float64.timesPowerOfTwo, PublicStreamRecovery.retryDelay, hle, hn]

/-- A granted round: a start and a disconnect. -/
lemma after_round {n : ℕ} (hr : r.recovery = { policy := policy, reconnectAttempts := n })
    (hn : n < 1024) (hmax : (n + 1 : ℤ) ≤ policy.maxReconnectAttempts) :
    (r.after .start).after .disconnected =
      { r with recovery := { policy := policy, reconnectAttempts := n + 1 },
               delays := PublicStreamRecovery.retryDelay policy n :: r.delays } := by
  rw [after_start hr, after]
  dsimp only
  rw [call_disconnected hmax, if_neg (not_le.mpr hn)]
  rfl

/-- A policy grants as many rounds as it has attempts, up to the exponent that
overflows. -/
lemma exists_rounds (policy : StreamRecoveryPolicy) :
    ∀ n : ℕ, n ≤ 1024 → (n : ℤ) ≤ policy.maxReconnectAttempts →
      ∃ calls r, Run Step (initial policy) calls r ∧
        r.recovery = { policy := policy, reconnectAttempts := n } := by
  intro n
  induction n with
  | zero => exact fun _ _ => ⟨[], initial policy, .nil _, rfl⟩
  | succ n ih =>
      intro hn hmax
      obtain ⟨calls, r, hrun, hr⟩ := ih (by omega) (by omega)
      refine ⟨calls ++ [.start, .disconnected], _, run_append_iff.mpr
        ⟨r, hrun, .cons rfl (.cons rfl (.nil _))⟩, ?_⟩
      rw [after_round hr (by omega) (by exact_mod_cast hmax)]

/-- **Stream continuity**: every run of every sequence of calls is continuous
exactly when all delays of the policy can be computed and its maximum is a
number. -/
theorem stream_continuity_iff (policy : StreamRecoveryPolicy) :
    (∀ calls r, Run Step (initial policy) calls r → Continuity r) ↔
      policy.maxReconnectAttempts ≤ 1024 ∧ policy.maximumRetrySeconds ≠ .nan := by
  constructor
  · intro h
    refine ⟨not_lt.mp fun hattempts => ?_, fun hnan => ?_⟩
    · -- the attempt after 1024 others is counted before its delay overflows
      obtain ⟨calls, r, hrun, hr⟩ := exists_rounds policy 1024 le_rfl (by exact_mod_cast hattempts.le)
      have hstart := after_start hr
      have hraised := (h (calls ++ [.start]) _ (run_snoc_iff.mpr ⟨r, hrun, rfl⟩)).raised
        .disconnected (.overflow "int too large to convert to float")
      rw [hstart] at hraised
      dsimp only at hraised
      rw [call_disconnected (by push_cast; omega), if_pos le_rfl] at hraised
      exact nomatch congrArg (·.state) (hraised rfl)
    · -- the first delay is no number
      have hround := after_round (r := initial policy) (n := 0) rfl (by omega)
        (by simpa using policy.one_le_maxReconnectAttempts)
      have hbounded := (h [.start, .disconnected] _ (.cons rfl (.cons rfl (.nil _)))).bounded
        (PublicStreamRecovery.retryDelay policy 0) (by rw [hround]; exact .head _)
      rw [hround] at hbounded
      dsimp only at hbounded
      rw [hnan] at hbounded
      exact Float64.not_le_nan _ hbounded
  · rintro ⟨hattempts, hmax⟩ calls r hrun
    have htracked : Tracked policy r := by
      refine hrun.invariant ?_ (Tracked.initial policy)
      rintro r c _ rfl hr
      exact hr.step hattempts c
    exact htracked.continuity hattempts hmax

end EveryRun

/-- A policy with 1025 attempts: the last disconnect raises, after it counted its
attempt and left the state `CONNECTING`. -/
theorem last_disconnect_raises_and_changes :
    ∃ (policy : StreamRecoveryPolicy) (calls : List StreamCall) (r : StreamRun),
      Run Step (initial policy) calls r ∧
        ∃ e, (r.recovery.call .disconnected).2 = .error e ∧
          (r.recovery.call .disconnected).1 ≠ r.recovery := by
  let policy : StreamRecoveryPolicy := { maxReconnectAttempts := 1025, valid := by decide +kernel }
  obtain ⟨calls, r, hrun, hr⟩ := exists_rounds policy 1024 le_rfl (by decide +kernel)
  refine ⟨policy, calls ++ [.start], _, run_snoc_iff.mpr ⟨r, hrun, rfl⟩,
    .overflow "int too large to convert to float", ?_⟩
  rw [after_start hr]
  dsimp only
  rw [call_disconnected (by decide +kernel), if_pos le_rfl]
  exact ⟨rfl, fun heq => nomatch congrArg (·.state) heq⟩

end StreamRun

end Ai4Binance
