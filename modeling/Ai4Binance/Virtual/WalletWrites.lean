/-
What a call can append to the journal of the virtual wallets.

Every call appends a sequence of movements, each of one of three kinds: the genesis of a
market that has none, the change that a cycle decided for the latest portfolio of its
market, or the candle that moves the open Spot position.  Properties of the journal are
proved for these three kinds.

* `Writes`: the movements, each with what the code has checked before it appends it;
* `Coherent`: what every journal of a run satisfies (`run_coherent`);
* `perform_appends`: the movements of a call.
-/
import Ai4Binance.Virtual.WalletReading

open Text Check

namespace Ai4Binance

namespace VirtualWalletJournal

variable {start ledger ledger' : Ledger} {event : LedgerEvent} {market : Market}
  {movement : WalletMovement} {call : WalletCall}

/-! ### One movement -/

/-- An event of this identity stands in the journal. -/
def Recorded (ledger : Ledger) (eventType : WalletEventType) (movementId : String) : Prop :=
  ∃ e ∈ ledger, e.eventType = eventType ∧ e.movement.movementId = movementId

/-- An accepted append leaves a movement that stood there, or appends a new identity. -/
lemma appendMovement_eq_ok {eventType : WalletEventType}
    (h : appendMovement eventType movement ledger = .ok ledger') :
    (ledger' = ledger ∧ ∃ e ∈ ledger, e.movement = movement) ∨
      (ledger' = ledger ++ [⟨eventType, movement⟩] ∧
        ¬ Recorded ledger eventType movement.movementId) := by
  rw [appendMovement] at h
  split at h
  · next existing hfound =>
    split_ifs at h with heq
    obtain rfl := Except.ok.inj h
    exact .inl ⟨rfl, existing, List.mem_of_find?_eq_some hfound, heq⟩
  · next hnone =>
    obtain rfl := Except.ok.inj h
    refine .inr ⟨rfl, ?_⟩
    rintro ⟨e, he, htype, hid⟩
    have := List.find?_eq_none.mp hnone e he
    simp [htype, hid] at this

/-- The movements that a call appends, with what has been checked before: `start` is the
journal that the call found, and `ledger` the one it appends to. -/
inductive Writes (start ledger : Ledger) : WalletCall → LedgerEvent → Prop
  | genesis {call : WalletCall} {market : Market} (timestamp : Timestamp)
      (hcall : ∀ snapshot, call ≠ .managePositions snapshot)
      (hnone : lastMovement ledger market = none) :
      Writes start ledger call ⟨.initialized, genesisMovement market timestamp⟩
  | cycle {snapshotId : String} {observedAt : Datetime} {decision : CycleDecision}
      {request : Option VirtualRuntimeRequest} {timestamp : Timestamp}
      {before after : VirtualPortfolioState} {stored : Option StoredPosition}
      (hstart : ∃ gs, ledger = start ++ gs ∧ ∀ e ∈ gs, ∃ m t,
        e = ⟨.initialized, genesisMovement m t⟩)
      (hbefore : decision.portfolioBefore = some before)
      (hafter : decision.portfolioAfter = some after)
      (hmarket : before.market = after.market) (hid : before.portfolioId = after.portfolioId)
      (hne : after ≠ before)
      (hlast : ∃ m, lastMovement ledger before.market = some m ∧
        m.after = before.toPortfolioFields)
      (hopen : openPosition ledger snapshotId timestamp before decision request = .ok stored)
      (hnew : ¬ Recorded ledger .movementRecorded (cycleMovementId before.market snapshotId)) :
      Writes start ledger (.recordCycle snapshotId observedAt (some decision) request)
        ⟨.movementRecorded, cycleMovement snapshotId timestamp before after decision stored⟩
  | candle {snapshot : MarketSnapshot} {duration : ℤ} {stored : StoredPosition}
      {portfolio : VirtualPortfolioState} {cursor : Timestamp} {candle : ZonedCandle}
      {update : VirtualPositionUpdateDecision}
      (hspot : stored.position.market = .spot)
      (hmarket : snapshot.marketType = .spot) (hsymbol : stored.position.symbol = snapshot.symbol)
      (hduration : timeframeDuration stored.position.lineage.timeframe = .ok duration)
      (hcandle : candle ∈ snapshot.ohlcvByTimeframe stored.position.lineage.timeframe)
      (hlast : ∃ m c, lastMovement ledger .spot = some m ∧ openAt m = some (stored, c) ∧
        c.instant = cursor.instant ∧ m.after = portfolio.toPortfolioFields)
      (hfrom : cursor.instant ≤ candle.timestamp)
      (hclosed : candle.timestamp + duration ≤ snapshot.createdAt.instant)
      (hnext : candle.timestamp < cursor.instant + duration)
      (hupdate : stored.position.processPosition portfolio candle.toOHLCVCandle {} none
        (some (candle.timestamp + duration)) = .ok update)
      (hnew : ¬ Recorded ledger .movementRecorded
        (candleMovement snapshot duration stored portfolio candle update).movementId) :
      Writes start ledger (.managePositions snapshot)
        ⟨.movementRecorded, candleMovement snapshot duration stored portfolio candle update⟩

/-- The journals that a call reaches by appending movements. -/
def Appends (start : Ledger) (call : WalletCall) : Ledger → Ledger → Prop :=
  Relation.ReflTransGen fun ledger ledger' =>
    ∃ event, Writes start ledger call event ∧ ledger' = ledger ++ [event]

/-! ### What every journal satisfies -/

/-- A movement has a trimmed portfolio of its market; a position was opened by a cycle
with its snapshot; and the cursor of the open position has passed every movement of that
position. -/
structure Coherent (ledger : Ledger) : Prop where
  portfolio : ∀ e ∈ ledger, ∃ p : VirtualPortfolioState,
    e.movement.after = p.toPortfolioFields ∧ strip p.portfolioId = p.portfolioId ∧
      p.market = e.movement.market
  opened : ∀ e ∈ ledger, ∀ stored ∈ e.movement.managedPosition,
    Recorded ledger .movementRecorded
      (cycleMovementId e.movement.market stored.position.lineage.snapshotId)
  cursor_le : ∀ market m stored cursor, lastMovement ledger market = some m →
    openAt m = some (stored, cursor) → ∀ e ∈ ledger, e.movement.market = market →
      ∀ stored' ∈ e.movement.managedPosition,
        stored'.position.lineage.snapshotId = stored.position.lineage.snapshotId →
        ∀ c ∈ e.movement.positionCursor, c.instant ≤ cursor.instant

lemma coherent_nil : Coherent [] where
  portfolio := by simp
  opened := by simp
  cursor_le := by simp [lastMovement, movementsOf]

lemma Recorded.mono {eventType : WalletEventType} {movementId : String}
    (h : Recorded ledger eventType movementId) (es : Ledger) :
    Recorded (ledger ++ es) eventType movementId := by
  obtain ⟨e, he, h⟩ := h
  exact ⟨e, List.mem_append_left _ he, h⟩

/-- The position that a cycle opens has the snapshot of the cycle, and is opened where
none is open. -/
lemma openPosition_spec {snapshotId : String} {timestamp : Timestamp}
    {before : VirtualPortfolioState} {decision : CycleDecision}
    {request : Option VirtualRuntimeRequest} {stored : StoredPosition}
    (h : openPosition ledger snapshotId timestamp before decision request = .ok (some stored)) :
    stored.position.lineage.snapshotId = snapshotId ∧ stored.exitOffsets = [] ∧
      stored.position.market = before.market ∧ stored.position.openedAt = timestamp.instant ∧
      (∃ positions, (readMovements ledger >>= latestPositions) = .ok positions ∧
        positions before.market = none) ∧
      ∃ typed intent, decision = .runtime typed ∧ typed.tradeIntent = some intent ∧
        stored.position.remainingQuantity = intent.quantity := by
  cases request with
  | none => cases h
  | some request =>
      rw [openPosition] at h
      obtain ⟨typed, htyped, h⟩ := bind_eq_ok.mp h
      rw [orRaise_eq_ok] at htyped
      obtain ⟨_, hbind, h⟩ := bind_eq_ok.mp h
      rw [raiseIf_eq_ok, not_or, not_not, not_not] at hbind
      obtain ⟨_, -, h⟩ := bind_eq_ok.mp h
      obtain ⟨positions, hpositions, h⟩ := bind_eq_ok.mp h
      obtain ⟨_, hnone, h⟩ := bind_eq_ok.mp h
      rw [raiseIf_eq_ok, Option.not_isSome_iff_eq_none] at hnone
      obtain ⟨position, hposition, h⟩ := bind_eq_ok.mp h
      obtain ⟨_, hmarket, h⟩ := bind_eq_ok.mp h
      rw [raiseIf_eq_ok, not_not] at hmarket
      obtain rfl := Option.some.inj (pure_eq_ok.mp h)
      rw [materializeManagedPosition] at hposition
      obtain ⟨intent, hintent, hposition⟩ := bind_eq_ok.mp hposition
      rw [orRaise_eq_ok] at hintent
      have hsame := VirtualManagedPosition.create_same hposition
      have hbooks := VirtualManagedPosition.create_books hposition
      refine ⟨?_, rfl, hmarket, hsame.openedAt_eq, ⟨positions, hpositions, hnone⟩, typed, intent,
        ?_, hintent, hbooks.2.2.2.2.1⟩
      · exact (congrArg TradeLineage.snapshotId hsame.lineage_eq).trans hbind.2
      · cases decision with
        | runtime d =>
            obtain rfl := Option.some.inj htyped
            rfl
        | other _ _ _ _ => cases htyped

/-- A portfolio of the journal is trimmed. -/
lemma Coherent.trimmed_last (hL : Coherent ledger) {p : VirtualPortfolioState}
    (h : ∃ m, lastMovement ledger market = some m ∧ m.after = p.toPortfolioFields) :
    strip p.portfolioId = p.portfolioId ∧ p.market = market := by
  obtain ⟨m, hm, hp⟩ := h
  obtain ⟨⟨e, he, rfl⟩, hmarket⟩ := mem_of_lastMovement hm
  obtain ⟨q, hq, hstrip, hqm⟩ := hL.portfolio e he
  obtain rfl := VirtualPortfolioState.eq_of_fields_eq (hq.symm.trans hp)
  exact ⟨hstrip, hqm.trans hmarket⟩

/-- The portfolio of the movement that is appended. -/
lemma Writes.portfolio (h : Writes start ledger call event) (hL : Coherent ledger) :
    ∃ p : VirtualPortfolioState, event.movement.after = p.toPortfolioFields ∧
      strip p.portfolioId = p.portfolioId ∧ p.market = event.movement.market := by
  cases h with
  | @genesis _ market timestamp _ hnone =>
      refine ⟨initialPortfolio market, rfl, ?_, rfl⟩
      cases market <;> decide
  | @cycle _ _ _ _ _ before after _ _ _ _ hmarket hid _ hlast _ _ =>
      exact ⟨after, rfl, hid ▸ (hL.trimmed_last hlast).1, hmarket.symm⟩
  | @candle _ _ stored portfolio _ _ update hspot _ _ _ _ hlast _ _ _ hupdate _ =>
      obtain ⟨-, hid, hmarket, -⟩ := VirtualManagedPosition.processPosition_keeps hspot hupdate
      obtain ⟨m, c, hm, -, -, hafter⟩ := hlast
      have htrim := hL.trimmed_last ⟨m, hm, hafter⟩
      exact ⟨update.portfolioAfter, rfl, hid ▸ htrim.1, hmarket.trans (htrim.2.trans hspot.symm)⟩

/-- The position of the movement that is appended was opened with its snapshot. -/
lemma Writes.opened (h : Writes start ledger call event) (hL : Coherent ledger) :
    ∀ stored ∈ event.movement.managedPosition, Recorded (ledger ++ [event]) .movementRecorded
      (cycleMovementId event.movement.market stored.position.lineage.snapshotId) := by
  intro stored hstored
  cases h with
  | genesis => cases hstored
  | cycle _ _ _ _ _ _ _ hopen _ =>
      obtain rfl : _ = some stored := hstored
      rw [(openPosition_spec hopen).1]
      exact ⟨_, List.mem_append_right _ (List.mem_singleton_self _), rfl, rfl⟩
  | candle hspot _ _ _ _ hlast _ _ _ hupdate _ =>
      obtain rfl := Option.some.inj hstored
      obtain ⟨hsame, -⟩ := VirtualManagedPosition.processPosition_keeps hspot hupdate
      obtain ⟨m, c, hm, hopen, -, -⟩ := hlast
      obtain ⟨⟨e, he, rfl⟩, hmarket⟩ := mem_of_lastMovement hm
      have hrecorded := hL.opened e he _ (openAt_eq_some hopen).1
      rw [hmarket, ← hspot, ← hsame.lineage_eq] at hrecorded
      exact hrecorded.mono _

/-- The cursor of a position that is appended has passed its earlier movements. -/
lemma Writes.cursor_le (h : Writes start ledger call event) (hL : Coherent ledger)
    {stored : StoredPosition} {cursor : Timestamp}
    (hopen : openAt event.movement = some (stored, cursor)) :
    ∀ e ∈ ledger, e.movement.market = event.movement.market →
      ∀ stored' ∈ e.movement.managedPosition,
        stored'.position.lineage.snapshotId = stored.position.lineage.snapshotId →
        ∀ c ∈ e.movement.positionCursor, c.instant ≤ cursor.instant := by
  intro e he hmarket stored' hstored' hsnapshot c hc
  cases h with
  | genesis => cases hopen
  | cycle _ _ _ _ _ _ _ hposition hnew =>
      -- a movement of this position would have recorded the snapshot before
      obtain ⟨rfl, -⟩ := openAt_eq_some hopen
      have hrecorded := hL.opened e he stored' hstored'
      rw [hmarket, hsnapshot, (openPosition_spec hposition).1] at hrecorded
      exact absurd hrecorded hnew
  | candle hspot _ _ _ _ hlast hfrom _ hnext hupdate _ =>
      obtain ⟨hmanaged, -, c', hc', rfl⟩ := openAt_eq_some hopen
      obtain rfl := Option.some.inj hmanaged
      obtain rfl := Option.some.inj hc'
      obtain ⟨hsame, -⟩ := VirtualManagedPosition.processPosition_keeps hspot hupdate
      obtain ⟨m, c₀, hm, hopen₀, hcursor, -⟩ := hlast
      have hle := hL.cursor_le .spot m _ _ hm hopen₀ e he (hmarket.trans hspot) stored' hstored'
        (hsnapshot.trans (congrArg TradeLineage.snapshotId hsame.lineage_eq)) c hc
      simp only [Timestamp.instant_toUtc, Timestamp.instant_add, ZonedCandle.time]
      omega

/-- **The invariant**: appending a movement keeps the journal coherent. -/
theorem Writes.coherent (h : Writes start ledger call event) (hL : Coherent ledger) :
    Coherent (ledger ++ [event]) where
  portfolio e he := by
    rcases List.mem_append.mp he with he | he
    · exact hL.portfolio e he
    · rw [List.mem_singleton.mp he]
      exact h.portfolio hL
  opened e he stored hstored := by
    rcases List.mem_append.mp he with he | he
    · exact (hL.opened e he stored hstored).mono _
    · obtain rfl := List.mem_singleton.mp he
      exact h.opened hL stored hstored
  cursor_le market m stored cursor hm hopen e he hmarket stored' hstored' hsnapshot c hc := by
    rw [lastMovement_snoc] at hm
    split_ifs at hm with hevent
    · obtain rfl := Option.some.inj hm
      rcases List.mem_append.mp he with he | he
      · exact h.cursor_le hL hopen e he (hmarket.trans hevent.symm) stored' hstored' hsnapshot c hc
      · obtain rfl := List.mem_singleton.mp he
        obtain ⟨-, -, c', hc', rfl⟩ := openAt_eq_some hopen
        rw [Option.mem_def, hc'] at hc
        obtain rfl := Option.some.inj hc
        rfl
    · rcases List.mem_append.mp he with he | he
      · exact hL.cursor_le market m stored cursor hm hopen e he hmarket stored' hstored' hsnapshot
          c hc
      · rw [List.mem_singleton.mp he] at hmarket
        exact absurd hmarket hevent

lemma Appends.coherent (h : Appends start call ledger ledger') (hL : Coherent ledger) :
    Coherent ledger' := by
  induction h with
  | refl => exact hL
  | tail _ hstep ih =>
      obtain ⟨event, hwrites, rfl⟩ := hstep
      exact hwrites.coherent ih

/-! ### The movements of a call -/

/-- The dictionary holds the latest portfolio of each market. -/
def Agrees (portfolios : Market → Option VirtualPortfolioState) (ledger : Ledger) : Prop :=
  ∀ market, (lastMovement ledger market = none ∧ portfolios market = none) ∨
    ∃ m p, lastMovement ledger market = some m ∧ portfolios market = some p ∧
      m.after = p.toPortfolioFields

/-- What the journal reads of the portfolios is the latest of them. -/
lemma Coherent.agrees (hL : Coherent ledger) {portfolios : Market → Option VirtualPortfolioState}
    (h : (readMovements ledger >>= latestPortfolios) = .ok portfolios) :
    Agrees portfolios ledger := by
  obtain ⟨movements, hread, hlatest⟩ := bind_eq_ok.mp h
  rw [latestPortfolios, latestBy_read (fun _ => rfl) hread] at hlatest
  intro market
  rcases (latestBy_spec hlatest).2 market with hnone | ⟨m, hm, hentry⟩
  · exact .inl hnone
  · obtain ⟨⟨e, he, rfl⟩, -⟩ := mem_of_lastMovement hm
    obtain ⟨p, hp, htrim, -⟩ := hL.portfolio e he
    rw [trackedPortfolio, hp, VirtualPortfolioState.fromPayload_eq_ok htrim] at hentry
    exact .inr ⟨_, p, hm, (Except.ok.inj hentry).symm, hp⟩

/-- The genesis of a market is its latest movement. -/
lemma Agrees.genesis {portfolios : Market → Option VirtualPortfolioState}
    (h : Agrees portfolios ledger) (market : Market) (timestamp : Timestamp) :
    Agrees (Function.update portfolios market (some (initialPortfolio market)))
      (ledger ++ [⟨.initialized, genesisMovement market timestamp⟩]) := by
  intro market'
  rw [lastMovement_snoc]
  by_cases hm : (genesisMovement market timestamp).market = market'
  · rw [if_pos hm]
    obtain rfl : market = market' := hm
    rw [Function.update_self]
    exact .inr ⟨_, _, rfl, rfl, rfl⟩
  · have hne : market' ≠ market := Ne.symm hm
    rw [if_neg hm, Function.update_of_ne hne]
    exact h market'

/-- A genesis is appended where there is none, and the dictionary follows the journal. -/
lemma ensureGenesis_appends {timestamp : Timestamp} (markets : List Market)
    (hcall : ∀ snapshot, call ≠ .managePositions snapshot)
    {portfolios : Market → Option VirtualPortfolioState} (hagrees : Agrees portfolios ledger) :
    Appends start call ledger (ensureGenesis timestamp markets portfolios ledger).2 ∧
      (∃ gs, (ensureGenesis timestamp markets portfolios ledger).2 = ledger ++ gs ∧
        ∀ e ∈ gs, ∃ m t, e = ⟨.initialized, genesisMovement m t⟩) ∧
      ∀ current, (ensureGenesis timestamp markets portfolios ledger).1 = .ok current →
        Agrees current (ensureGenesis timestamp markets portfolios ledger).2 := by
  induction markets generalizing portfolios ledger with
  | nil =>
      refine ⟨.refl, ⟨[], by simp [ensureGenesis], by simp⟩, fun current h => ?_⟩
      obtain rfl := Except.ok.inj h
      exact hagrees
  | cons market markets ih =>
      rw [ensureGenesis]
      rcases hagrees market with ⟨hnone, hp⟩ | ⟨m, p, -, hp, -⟩
      · rw [hp]
        cases happend : appendMovement .initialized (genesisMovement market timestamp) ledger with
        | error e => exact ⟨.refl, ⟨[], by simp, by simp⟩, fun current h => by cases h⟩
        | ok ledger' =>
            rcases appendMovement_eq_ok happend with ⟨-, e, he, hmovement⟩ | ⟨rfl, -⟩
            · exact absurd (by rw [hmovement]; rfl) (lastMovement_eq_none.mp hnone e he)
            · obtain ⟨happends, ⟨gs, hgs, hgenesis⟩, hcurrent⟩ :=
                ih (hagrees.genesis market timestamp)
              refine ⟨.head ⟨_, .genesis timestamp hcall hnone, rfl⟩ happends,
                ⟨⟨.initialized, genesisMovement market timestamp⟩ :: gs, ?_, ?_⟩, hcurrent⟩
              · rw [hgs, List.append_assoc, List.singleton_append]
              · rintro e (_ | ⟨_, he⟩)
                · exact ⟨market, timestamp, rfl⟩
                · exact hgenesis e he
      · rw [hp]
        exact ih hagrees

lemma initializePortfolios_appends (start : Ledger) (call : WalletCall) (timestamp : Timestamp)
    (hL : Coherent ledger)
    (hcall : ∀ snapshot, call ≠ .managePositions snapshot) :
    Appends start call ledger (initializePortfolios timestamp ledger).2 ∧
      (∃ gs, (initializePortfolios timestamp ledger).2 = ledger ++ gs ∧
        ∀ e ∈ gs, ∃ m t, e = ⟨.initialized, genesisMovement m t⟩) ∧
      ∀ current, (initializePortfolios timestamp ledger).1 = .ok current →
        Agrees current (initializePortfolios timestamp ledger).2 := by
  rw [initializePortfolios]
  cases h : readMovements ledger >>= latestPortfolios with
  | error e => exact ⟨.refl, ⟨[], by simp, by simp⟩, fun current h => by cases h⟩
  | ok portfolios => exact ensureGenesis_appends _ hcall (hL.agrees h)

/-- The movement of a cycle, with what has been checked for it. -/
lemma decidedMovement_eq_some {current : Market → Option VirtualPortfolioState}
    {snapshotId : String} {timestamp : Timestamp} {request : Option VirtualRuntimeRequest}
    {decision : Option CycleDecision}
    (h : decidedMovement ledger current snapshotId timestamp request decision =
      .ok (some movement)) :
    ∃ d before after stored, decision = some d ∧ d.portfolioBefore = some before ∧
      d.portfolioAfter = some after ∧ before.market = after.market ∧
      before.portfolioId = after.portfolioId ∧ current before.market = some before ∧
      after ≠ before ∧ openPosition ledger snapshotId timestamp before d request = .ok stored ∧
      movement = cycleMovement snapshotId timestamp before after d stored := by
  cases decision with
  | none => cases h
  | some d =>
      simp only [decidedMovement, bind_eq_ok, orRaise_eq_ok, raiseIf_eq_ok, not_or, not_not] at h
      obtain ⟨before, hbefore, after, hafter, _, ⟨hmarket, hid⟩, h⟩ := h
      split_ifs at h with hsame heq
      · cases h
      · simp only [bind_eq_ok, pure_eq_ok, reduceCtorEq, and_false, exists_false] at h
      · simp only [bind_eq_ok, raiseIf_eq_ok, not_not, pure_eq_ok] at h
        obtain ⟨_, hcurrent, stored, hstored, h⟩ := h
        exact ⟨d, before, after, stored, rfl, hbefore, hafter, hmarket, hid, hcurrent, heq,
          hstored, (Option.some.inj h).symm⟩

/-- An accepted cycle appends its movement to the journal that it has initialized. -/
lemma recordCycle_appends {snapshotId : String} {observedAt : Datetime}
    {decision : Option CycleDecision} {request : Option VirtualRuntimeRequest}
    (hL : Coherent ledger) :
    Appends ledger (.recordCycle snapshotId observedAt decision request) ledger
      (recordCycle snapshotId observedAt decision request ledger).2 := by
  rw [recordCycle]
  split
  · exact .refl
  · next timestamp _ =>
    obtain ⟨happends, hgenesis, hcurrent⟩ := initializePortfolios_appends ledger
      (.recordCycle snapshotId observedAt decision request) timestamp hL nofun
    split
    · next ledger' hinit =>
      rw [hinit] at happends
      exact happends
    · next current ledger' hinit =>
      rw [hinit] at happends hgenesis hcurrent
      split
      · exact happends
      · next movement hdecided =>
        cases movement with
        | none => exact happends
        | some movement =>
            rw [recordMovement]
            cases happend : appendMovement .movementRecorded movement ledger' with
            | error e => exact happends
            | ok ledger'' =>
                rcases appendMovement_eq_ok happend with ⟨rfl, -⟩ | ⟨rfl, hnew⟩
                · exact happends
                · obtain ⟨d, before, after, stored, rfl, hbefore, hafter, hmarket, hid, hlatest, hne,
                    hopen, rfl⟩ := decidedMovement_eq_some hdecided
                  refine happends.tail ⟨_, .cycle hgenesis hbefore hafter hmarket hid hne ?_ hopen
                    hnew, rfl⟩
                  rcases hcurrent current rfl before.market with ⟨-, hp⟩ | ⟨m, p, hm, hp, hafter⟩
                  · rw [hlatest] at hp
                    cases hp
                  · obtain rfl := Option.some.inj (hlatest.symm.trans hp)
                    exact ⟨m, hm, hafter⟩

/-- The position that `manage_positions` finds is the one that the last movement of its
market leaves open. -/
lemma managedOf_spec {snapshot : MarketSnapshot} {stored : StoredPosition} {cursor : Timestamp}
    {portfolio : Option VirtualPortfolioState} (hL : Coherent ledger)
    (h : managedOf snapshot ledger = .ok (some (stored, cursor, portfolio))) :
    ∃ m p, lastMovement ledger snapshot.marketType = some m ∧ openAt m = some (stored, cursor) ∧
      stored.position.market = snapshot.marketType ∧ stored.position.symbol = snapshot.symbol ∧
      portfolio = some p ∧ m.after = p.toPortfolioFields := by
  simp only [managedOf, bind_eq_ok] at h
  obtain ⟨movements, hread, positions, hpositions, h⟩ := h
  split at h
  · cases h
  · next stored' cursor' hposition =>
    by_cases hsymbol : stored'.position.symbol = snapshot.symbol
    · rw [if_neg (not_not.mpr hsymbol)] at h
      simp only [bind_eq_ok, pure_eq_ok, Option.some.injEq, Prod.mk.injEq] at h
      obtain ⟨portfolios, hportfolios, rfl, rfl, rfl⟩ := h
      have hagrees : Agrees portfolios ledger := hL.agrees (bind_eq_ok.mpr ⟨_, hread, hportfolios⟩)
      rw [latestPositions, latestBy_read (fun _ => rfl) hread] at hpositions
      rcases (latestBy_spec hpositions).2 snapshot.marketType with ⟨-, hnone⟩ | ⟨m, hm, hentry⟩
      · rw [hposition] at hnone
        cases hnone
      · obtain ⟨hopen, htracks⟩ := trackedPosition_eq_ok hentry
        rw [hposition] at hopen
        obtain ⟨-, hmarket⟩ := mem_of_lastMovement hm
        obtain ⟨_, -, htracks⟩ := htracks _ (openAt_eq_some hopen.symm).1
        have hm' := htracks.market.trans hmarket
        rcases hagrees stored'.position.market with ⟨hnone, -⟩ | ⟨m', p, hlast, hp, hafter⟩
        · rw [hm', hm] at hnone
          cases hnone
        · rw [hm', hm] at hlast
          obtain rfl := Option.some.inj hlast
          exact ⟨m, p, hm, hopen.symm, hm', hsymbol, hp, hafter⟩
    · rw [if_pos hsymbol] at h
      cases h

lemma managedCandles_eq_ok {snapshot : MarketSnapshot} {position : VirtualManagedPosition}
    {duration : ℤ} {candles : List ZonedCandle}
    (h : managedCandles snapshot position = .ok (duration, candles)) :
    position.market = .spot ∧ timeframeDuration position.lineage.timeframe = .ok duration ∧
      candles = snapshot.ohlcvByTimeframe position.lineage.timeframe ∧ candles ≠ [] ∧
      candles.IsChain fun left right => right.timestamp - left.timestamp = duration := by
  simp only [managedCandles, bind_eq_ok, raiseIf_eq_ok, pure_eq_ok, not_not, Prod.mk.injEq] at h
  obtain ⟨_, -, _, hspot, duration', hduration, _, hne, _, hchain, rfl, rfl⟩ := h
  exact ⟨hspot, hduration, rfl, hne, hchain⟩

/-- A processed candle is not the content of an earlier movement: the cursor has passed
every earlier movement of the position. -/
lemma Coherent.candleMovement_not_mem (hL : Coherent ledger) {snapshot : MarketSnapshot}
    {duration : ℤ} {stored : StoredPosition} {portfolio : VirtualPortfolioState}
    {cursor : Timestamp} {candle : ZonedCandle} {update : VirtualPositionUpdateDecision}
    (hspot : stored.position.market = .spot)
    (hlast : ∃ m c, lastMovement ledger .spot = some m ∧ openAt m = some (stored, c) ∧
      c.instant = cursor.instant ∧ m.after = portfolio.toPortfolioFields)
    (hfrom : cursor.instant ≤ candle.timestamp)
    (hnext : candle.timestamp < cursor.instant + duration)
    (hupdate : stored.position.processPosition portfolio candle.toOHLCVCandle {} none
      (some (candle.timestamp + duration)) = .ok update) :
    ∀ e ∈ ledger, e.movement ≠ candleMovement snapshot duration stored portfolio candle update := by
  intro e he hmovement
  obtain ⟨m, c, hm, hopen, hcursor, -⟩ := hlast
  obtain ⟨hsame, -⟩ := VirtualManagedPosition.processPosition_keeps hspot hupdate
  have hle := hL.cursor_le .spot m stored c hm hopen e he (by rw [hmovement]; exact hspot)
    (advancedPosition stored update.positionAfter candle) (by rw [hmovement]; rfl)
    (congrArg TradeLineage.snapshotId hsame.lineage_eq) (candle.time.add duration)
    (by rw [hmovement]; rfl)
  simp only [Timestamp.instant_add, ZonedCandle.time] at hle
  omega

/-- The loop appends the candles that follow the cursor, one after the other. -/
lemma manageCandles_appends {snapshot : MarketSnapshot} {duration : ℤ}
    (hmarket : snapshot.marketType = .spot) {candles : List ZonedCandle} {stored : StoredPosition}
    {portfolio : VirtualPortfolioState} {cursor : Timestamp} (hL : Coherent ledger)
    (hspot : stored.position.market = .spot) (hsymbol : stored.position.symbol = snapshot.symbol)
    (hduration : timeframeDuration stored.position.lineage.timeframe = .ok duration)
    (hcandles : ∀ c ∈ candles, c ∈ snapshot.ohlcvByTimeframe stored.position.lineage.timeframe)
    (hlast : ∃ m c, lastMovement ledger .spot = some m ∧ openAt m = some (stored, c) ∧
      c.instant = cursor.instant ∧ m.after = portfolio.toPortfolioFields) :
    Appends start (.managePositions snapshot) ledger
      (manageCandles snapshot duration candles stored portfolio cursor ledger).2 := by
  induction candles generalizing stored portfolio cursor ledger with
  | nil => exact .refl
  | cons candle candles ih =>
      have htail : ∀ c ∈ candles, c ∈ snapshot.ohlcvByTimeframe stored.position.lineage.timeframe :=
        fun c hc => hcandles c (List.mem_cons_of_mem _ hc)
      rw [manageCandles]
      split_ifs with hskip hgap
      · exact ih hL hspot hsymbol hduration htail hlast
      · exact .refl
      · rw [not_or, not_lt, not_lt] at hskip
        have hnext : candle.timestamp < cursor.instant + duration := by omega
        split
        · exact .refl
        · next update hupdate =>
          cases happend : appendMovement .movementRecorded
              (candleMovement snapshot duration stored portfolio candle update) ledger with
          | error e => exact .refl
          | ok ledger' =>
              rcases appendMovement_eq_ok happend with ⟨-, e, he, hmovement⟩ | ⟨rfl, hnew⟩
              · exact absurd hmovement
                  (hL.candleMovement_not_mem hspot hlast hskip.1 hnext hupdate e he)
              · have hwrites : Writes start ledger (.managePositions snapshot) _ :=
                  .candle hspot hmarket hsymbol hduration (hcandles candle List.mem_cons_self) hlast
                    hskip.1 hskip.2 hnext hupdate hnew
                obtain ⟨hsame, -⟩ := VirtualManagedPosition.processPosition_keeps hspot hupdate
                dsimp only
                split_ifs with hzero
                · exact .single ⟨_, hwrites, rfl⟩
                · refine .head ⟨_, hwrites, rfl⟩ (ih (hwrites.coherent hL)
                    (hsame.market_eq.trans hspot) (hsame.symbol_eq.trans hsymbol) ?_ ?_ ?_)
                  · exact hsame.lineage_eq ▸ hduration
                  · exact hsame.lineage_eq ▸ htail
                  · refine ⟨candleMovement snapshot duration stored portfolio candle update,
                      (candle.time.add duration).toUtc, ?_, ?_, rfl, rfl⟩
                    · rw [lastMovement_snoc]
                      exact if_pos hspot
                    · exact openAt_of_managed rfl rfl
                        (lt_of_le_of_ne update.positionAfter.amountsValid.remaining_nonneg
                          (Ne.symm hzero))

lemma managePositions_appends {snapshot : MarketSnapshot} (hL : Coherent ledger) :
    Appends start (.managePositions snapshot) ledger (managePositions snapshot ledger).2 := by
  rw [managePositions]
  split
  · exact .refl
  · exact .refl
  · next stored cursor portfolio hmanaged =>
    obtain ⟨m, p, hm, hopen, hmarket, hsymbol, rfl, hafter⟩ := managedOf_spec hL hmanaged
    cases hcandles : managedCandles snapshot stored.position with
    | error e => exact .refl
    | ok result =>
        obtain ⟨duration, candles⟩ := result
        obtain ⟨hspot, hduration, rfl, -, -⟩ := managedCandles_eq_ok hcandles
        have hspot' : snapshot.marketType = .spot := hmarket.symm.trans hspot
        exact manageCandles_appends hspot' hL hspot hsymbol hduration (fun _ h => h)
          ⟨m, cursor, hspot' ▸ hm, hopen, rfl, hafter⟩

/-- **The movements of a call.**  Whether it returns or raises, a call leaves the journal
with movements of the three kinds appended. -/
theorem perform_appends (hL : Coherent ledger) :
    Appends ledger call ledger (call.perform ledger).2 := by
  cases call with
  | initializeWallets observedAt =>
      rw [WalletCall.perform, initializeWallets]
      split
      · exact .refl
      · next timestamp _ =>
        have happends := (initializePortfolios_appends ledger (.initializeWallets observedAt)
          timestamp hL nofun).1
        split
        · next hinit =>
          rw [hinit] at happends
          exact happends
        · next hinit =>
          rw [hinit] at happends
          exact happends
  | recordCycle snapshotId observedAt decision request => exact recordCycle_appends hL
  | managePositions snapshot => exact managePositions_appends hL

/-- Every journal of a run is coherent. -/
theorem run_coherent (calls : List WalletCall) (hL : Coherent ledger) :
    Coherent (WalletCall.run ledger calls) := by
  induction calls generalizing ledger with
  | nil => exact hL
  | cons call calls ih => exact ih ((perform_appends hL).coherent hL)

end VirtualWalletJournal

end Ai4Binance
