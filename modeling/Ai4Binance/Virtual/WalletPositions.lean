/-
Open positions of the journal of the virtual wallets.

A position that a movement records with a positive quantity stays the latest position of
its market until a movement records it with none left, in every run whose calls keep to
`KeepsPositions`: a cycle without a request does not change the portfolio of a market with
an open position, a Spot portfolio holds what its cycle bought, and the candles are
written in UTC.  Outside of it, a cycle without a request drops an open position.

* `openOf`: the position that the journal holds open;
* `KeepsPositions`, `StepIf`: the condition on a call, and the calls that meet one;
* `PositionsHeld`: what a movement keeps (`Writes.positionsHeld`);
* `open_position_stays`.
-/
import Ai4Binance.Lib.Run
import Ai4Binance.Virtual.SpotFill
import Ai4Binance.Virtual.WalletWrites

open Text Check

namespace Ai4Binance

namespace VirtualWalletJournal

variable {start ledger ledger' : Ledger} {event : LedgerEvent} {market : Market}
  {call : WalletCall}

/-- The position that the last movement of a market leaves open. -/
def openOf (ledger : Ledger) (market : Market) : Option (StoredPosition × Timestamp) :=
  (lastMovement ledger market).bind openAt

/-- The calls that keep the open positions. -/
def KeepsPositions (ledger : Ledger) : WalletCall → Prop
  | .recordCycle _ _ (some decision) none =>
      ∀ before ∈ decision.portfolioBefore, ∀ after ∈ decision.portfolioAfter, after ≠ before →
        openOf ledger before.market = none
  | .recordCycle _ _ (some (.runtime decision)) (some _) =>
      decision.portfolioBefore.market = .spot → ∀ intent ∈ decision.tradeIntent,
        decision.portfolioAfter.inventoryQuantity = intent.quantity
  | .managePositions snapshot =>
      ∀ timeframe, ∀ candle ∈ snapshot.ohlcvByTimeframe timeframe, candle.utcoffset = 0
  | _ => True

/-- A call that meets a condition, and the journal it leaves. -/
def StepIf (condition : Ledger → WalletCall → Prop) (ledger : Ledger) (call : WalletCall)
    (ledger' : Ledger) : Prop :=
  condition ledger call ∧ ledger' = (call.perform ledger).2

/-! ### Which position is open -/

lemma openOf_snoc : openOf (ledger ++ [event]) market =
    if event.movement.market = market then openAt event.movement else openOf ledger market := by
  rw [openOf, lastMovement_snoc]
  split_ifs <;> rfl

lemma openOf_of_lastMovement (h : lastMovement ledger market = none) :
    openOf ledger market = none := by
  rw [openOf, h]
  rfl

/-- What `_latest_positions` finds in a market is the position that is open there. -/
lemma latestPositions_apply {positions : Market → Option (StoredPosition × Timestamp)}
    (h : latestPositions (ledger.map (·.movement)) = .ok positions) (market : Market) :
    positions market = openOf ledger market := by
  rcases (latestBy_spec h).2 market with ⟨hnone, hp⟩ | ⟨m, hm, hentry⟩
  · rw [hp, openOf, hnone]
    rfl
  · rw [openOf, hm, (trackedPosition_eq_ok hentry).1]
    rfl

lemma read_latestPositions {positions : Market → Option (StoredPosition × Timestamp)}
    (h : (readMovements ledger >>= latestPositions) = .ok positions) (market : Market) :
    positions market = openOf ledger market := by
  obtain ⟨movements, hread, hpositions⟩ := bind_eq_ok.mp h
  rw [latestPositions, latestBy_read (fun _ => rfl) hread] at hpositions
  exact latestPositions_apply hpositions market

/-- The genesis of the markets opens no position and closes none. -/
lemma openOf_genesis {gs : Ledger}
    (hgs : ∀ e ∈ gs, ∃ m t, e = ⟨.initialized, genesisMovement m t⟩)
    (h : openOf start market = none) : openOf (start ++ gs) market = none := by
  induction gs using List.reverseRecOn with
  | nil => rwa [List.append_nil]
  | append_singleton gs g ih =>
      obtain ⟨m, t, rfl⟩ := hgs g (by simp)
      rw [← List.append_assoc, openOf_snoc]
      split_ifs
      · rfl
      · exact ih fun e he => hgs e (List.mem_append_left _ he)

/-- A cycle that writes a movement finds no position open in its market. -/
lemma openOf_cycle {snapshotId : String} {timestamp : Timestamp} {observedAt : Datetime}
    {before after : VirtualPortfolioState} {decision : CycleDecision}
    {request : Option VirtualRuntimeRequest} {stored : Option StoredPosition}
    (hkeeps : KeepsPositions start (.recordCycle snapshotId observedAt (some decision) request))
    (hstart : ∃ gs, ledger = start ++ gs ∧ ∀ e ∈ gs, ∃ m t,
      e = ⟨.initialized, genesisMovement m t⟩)
    (hbefore : decision.portfolioBefore = some before)
    (hafter : decision.portfolioAfter = some after) (hne : after ≠ before)
    (hopen : openPosition ledger snapshotId timestamp before decision request = .ok stored) :
    openOf ledger before.market = none := by
  cases request with
  | none =>
      obtain ⟨gs, rfl, hgs⟩ := hstart
      exact openOf_genesis hgs (hkeeps before hbefore after hafter hne)
  | some request =>
      cases stored with
      | none =>
          simp only [openPosition, bind_eq_ok, pure_eq_ok, reduceCtorEq, and_false, exists_false]
            at hopen
      | some stored =>
          obtain ⟨-, -, -, -, ⟨positions, hpositions, hnone⟩, -⟩ := openPosition_spec hopen
          rw [← read_latestPositions hpositions, hnone]

/-! ### What a movement keeps -/

/-- The movement records the position with nothing left. -/
def Closes (stored : StoredPosition) (event : LedgerEvent) : Prop :=
  ∃ closed ∈ event.movement.managedPosition,
    SamePosition closed.position.toPositionFields stored.position.toPositionFields ∧
      closed.position.remainingQuantity = 0

/-- Every position of the journal is accepted, and one that was recorded open is closed
by a later movement of its market or open. -/
structure PositionsHeld (ledger : Ledger) : Prop where
  tracked : ∀ e ∈ ledger, ∃ value, trackedPosition e.movement = .ok value
  held : ∀ earlier e later, ledger = earlier ++ e :: later →
    ∀ stored ∈ e.movement.managedPosition, 0 < stored.position.remainingQuantity →
      (∃ e' ∈ later, e'.movement.market = e.movement.market ∧ Closes stored e') ∨
        ∃ stored' cursor, openOf ledger e.movement.market = some (stored', cursor) ∧
          SamePosition stored'.position.toPositionFields stored.position.toPositionFields

/-- The movement of a call that keeps the positions is accepted. -/
lemma Writes.tracks (h : Writes start ledger call event) (hheld : PositionsHeld ledger)
    (hkeeps : KeepsPositions start call) :
    ∀ stored, event.movement.managedPosition = some stored →
      ∃ cursor, event.movement.positionCursor = some cursor ∧
        Tracks event.movement stored cursor := by
  intro stored hstored
  cases h with
  | genesis => cases hstored
  | @cycle _ _ _ request timestamp before after _ _ hbefore hafter _ _ _ _ hopen _ =>
      obtain rfl : _ = some stored := hstored
      obtain ⟨-, hoffsets, hmarket, hopened, -, typed, intent, rfl, hintent, hquantity⟩ :=
        openPosition_spec hopen
      refine ⟨timestamp, rfl, by simp [hoffsets], hmarket, hopened.le, fun hspot => ?_⟩
      cases request with
      | none => cases hopen
      | some request =>
          obtain rfl := Option.some.inj hbefore
          obtain rfl := Option.some.inj hafter
          exact hquantity.trans (hkeeps hspot intent hintent).symm
  | @candle snapshot duration stored₀ portfolio cursor candle update hspot _ _ _ hcandle hlast hfrom
      _ hnext hupdate _ =>
      obtain rfl := Option.some.inj hstored
      obtain ⟨hsame, -, -, hbooks⟩ := VirtualManagedPosition.processPosition_keeps hspot hupdate
      obtain ⟨m, c, hm, hopen, hcursor, hafter⟩ := hlast
      obtain ⟨⟨e, he, rfl⟩, hmarket⟩ := mem_of_lastMovement hm
      obtain ⟨value, hvalue⟩ := hheld.tracked e he
      obtain ⟨hmanaged, -, c', hc', rfl⟩ := openAt_eq_some hopen
      obtain ⟨c'', hc'', htracks⟩ := (trackedPosition_eq_ok hvalue).2 _ hmanaged
      obtain rfl := Option.some.inj (hc'.symm.trans hc'')
      refine ⟨candle.time.add duration, rfl, ?_, hsame.market_eq, ?_, fun _ => ?_⟩
      · intro offset hoffset
        rcases List.mem_append.mp hoffset with hoffset | hoffset
        · exact htracks.offsets offset hoffset
        · rw [List.eq_of_mem_replicate hoffset]
          exact hkeeps _ candle hcandle
      · have hle := htracks.openedAt_le
        rw [Timestamp.instant_toUtc] at hcursor
        simp only [advancedPosition, hsame.openedAt_eq, Timestamp.instant_add, ZonedCandle.time]
        omega
      · have hquantity := htracks.quantity hmarket
        rw [hafter] at hquantity
        change update.positionAfter.remainingQuantity = update.portfolioAfter.inventoryQuantity
        linarith

/-- A position that is open before a movement is open after it, or the movement closes it. -/
lemma Writes.open_or_closes (h : Writes start ledger call event)
    (hkeeps : KeepsPositions start call) {stored : StoredPosition} {cursor : Timestamp}
    (hopen : openOf ledger market = some (stored, cursor)) :
    (event.movement.market = market ∧ Closes stored event) ∨
      ∃ stored' cursor', openOf (ledger ++ [event]) market = some (stored', cursor') ∧
        SamePosition stored'.position.toPositionFields stored.position.toPositionFields := by
  rw [openOf_snoc]
  by_cases hm : event.movement.market = market
  · subst hm
    rw [if_pos rfl]
    cases h with
    | genesis _ _ hnone => exact nomatch hopen.symm.trans (openOf_of_lastMovement hnone)
    | cycle hstart hbefore hafter _ _ hne _ hposition _ =>
        exact nomatch hopen.symm.trans (openOf_cycle hkeeps hstart hbefore hafter hne hposition)
    | @candle _ duration stored₀ _ _ candle update hspot _ _ _ _ hlast _ _ _ hupdate _ =>
        obtain ⟨hsame, -⟩ := VirtualManagedPosition.processPosition_keeps hspot hupdate
        obtain ⟨m, c, hm, hopen₀, -, -⟩ := hlast
        have hopen' : openOf ledger stored₀.position.market = some (stored, cursor) := hopen
        rw [openOf, hspot, hm, Option.bind_some, hopen₀] at hopen'
        obtain ⟨rfl, rfl⟩ := Prod.mk.inj (Option.some.inj hopen')
        by_cases hzero : update.positionAfter.remainingQuantity = 0
        · exact .inl ⟨rfl, _, rfl, hsame, hzero⟩
        · refine .inr ⟨_, _, openAt_of_managed rfl rfl ?_, hsame⟩
          exact lt_of_le_of_ne update.positionAfter.amountsValid.remaining_nonneg (Ne.symm hzero)
  · rw [if_neg hm]
    exact .inr ⟨stored, cursor, hopen, .refl _⟩

/-- The position of a new movement is open if it has quantity left. -/
lemma Writes.openAt_event (h : Writes start ledger call event) {stored : StoredPosition}
    (hmanaged : event.movement.managedPosition = some stored)
    (hpos : 0 < stored.position.remainingQuantity) :
    ∃ cursor, openAt event.movement = some (stored, cursor) := by
  cases h with
  | genesis => cases hmanaged
  | @cycle _ _ _ _ timestamp _ _ _ =>
      obtain rfl : _ = some stored := hmanaged
      exact ⟨timestamp.toUtc, openAt_of_managed rfl rfl hpos⟩
  | @candle _ duration _ _ _ candle =>
      exact ⟨(candle.time.add duration).toUtc, openAt_of_managed hmanaged rfl hpos⟩

/-- **The invariant of the positions**, for a call that keeps them. -/
theorem Writes.positionsHeld (h : Writes start ledger call event) (hL : Coherent ledger)
    (hkeeps : KeepsPositions start call) (hheld : PositionsHeld ledger) :
    PositionsHeld (ledger ++ [event]) where
  tracked e he := by
    rcases List.mem_append.mp he with he | he
    · exact hheld.tracked e he
    · obtain rfl := List.mem_singleton.mp he
      obtain ⟨p, hp, htrim, -⟩ := h.portfolio hL
      exact ⟨_, trackedPosition_ok hp htrim (h.tracks hheld hkeeps)⟩
  held earlier e later heq stored hstored hpos := by
    rcases List.eq_nil_or_concat' later with rfl | ⟨later, last, rfl⟩
    · -- the new movement itself
      obtain ⟨rfl, hlast⟩ := List.append_inj' heq rfl
      obtain rfl := List.singleton_inj.mp hlast
      obtain ⟨cursor, hopen⟩ := h.openAt_event hstored hpos
      exact .inr ⟨stored, cursor, by rw [openOf_snoc, if_pos rfl, hopen], .refl _⟩
    · rw [← List.cons_append, ← List.append_assoc] at heq
      obtain ⟨rfl, hlast⟩ := List.append_inj' heq rfl
      obtain rfl := List.singleton_inj.mp hlast
      rcases hheld.held earlier e later rfl stored hstored hpos with
        ⟨e', he', hmarket, hcloses⟩ | ⟨stored', cursor, hopen, hsame⟩
      · exact .inl ⟨e', List.mem_append_left _ he', hmarket, hcloses⟩
      · rcases h.open_or_closes hkeeps hopen with
          ⟨hmarket, closed, hclosed, hsame', hzero⟩ | ⟨stored'', cursor', hopen', hsame'⟩
        · exact .inl ⟨event, by simp, hmarket, closed, hclosed, hsame'.trans hsame, hzero⟩
        · exact .inr ⟨stored'', cursor', hopen', hsame'.trans hsame⟩

lemma Appends.positionsHeld (h : Appends start call ledger ledger')
    (hkeeps : KeepsPositions start call) (hL : Coherent ledger) (hheld : PositionsHeld ledger) :
    Coherent ledger' ∧ PositionsHeld ledger' := by
  induction h with
  | refl => exact ⟨hL, hheld⟩
  | tail _ hstep ih =>
      obtain ⟨event, hwrites, rfl⟩ := hstep
      exact ⟨hwrites.coherent ih.1, hwrites.positionsHeld ih.1 hkeeps ih.2⟩

lemma positionsHeld_nil : PositionsHeld [] where
  tracked := by simp
  held earlier e later h := by simp at h

/-- Every journal of a run that keeps the positions holds them. -/
lemma run_positionsHeld {calls : List WalletCall}
    (h : Run (StepIf KeepsPositions) [] calls ledger) :
    Coherent ledger ∧ PositionsHeld ledger := by
  refine h.invariant (P := fun l => Coherent l ∧ PositionsHeld l) ?_
    ⟨coherent_nil, positionsHeld_nil⟩
  rintro l call _ ⟨hkeeps, rfl⟩ ⟨hL, hheld⟩
  exact (perform_appends hL).positionsHeld hkeeps hL hheld

/-- A cycle that keeps the positions leaves every open one as it is. -/
lemma recordCycle_openOf {snapshotId : String} {observedAt : Datetime}
    {decision : Option CycleDecision} {request : Option VirtualRuntimeRequest}
    (hL : Coherent ledger)
    (hkeeps : KeepsPositions ledger (.recordCycle snapshotId observedAt decision request))
    {held : StoredPosition × Timestamp} (hopen : openOf ledger market = some held) :
    openOf (recordCycle snapshotId observedAt decision request ledger).2 market = some held := by
  have happends : Appends ledger (.recordCycle snapshotId observedAt decision request) ledger
      (recordCycle snapshotId observedAt decision request ledger).2 := recordCycle_appends hL
  generalize (recordCycle snapshotId observedAt decision request ledger).2 = l at happends ⊢
  induction happends with
  | refl => exact hopen
  | tail _ hstep ih =>
      obtain ⟨event, hwrites, rfl⟩ := hstep
      rw [openOf_snoc]
      split_ifs with hm
      · subst hm
        cases hwrites with
        | genesis _ _ hnone => exact nomatch ih.symm.trans (openOf_of_lastMovement hnone)
        | cycle hstart hbefore hafter _ _ hne _ hposition _ =>
            exact nomatch ih.symm.trans (openOf_cycle hkeeps hstart hbefore hafter hne hposition)
      · exact ih

/-- **No orphaned position.**  In every run of calls that keep the positions, the latest
positions can be derived from the journal; a position that a movement recorded with
quantity left is the latest of its market, unless a later movement records it with none;
and a further cycle neither drops nor replaces an open position. -/
theorem open_position_stays {calls : List WalletCall} {ledger : Ledger}
    (h : Run (StepIf KeepsPositions) [] calls ledger) :
    ∃ positions, latestPositions (ledger.map (·.movement)) = .ok positions ∧
      (∀ earlier event later, ledger = earlier ++ event :: later →
        ∀ stored ∈ event.movement.managedPosition, 0 < stored.position.remainingQuantity →
          (∃ e ∈ later, e.movement.market = event.movement.market ∧ Closes stored e) ∨
            ∃ stored' cursor, positions event.movement.market = some (stored', cursor) ∧
              SamePosition stored'.position.toPositionFields stored.position.toPositionFields) ∧
      ∀ snapshotId observedAt decision request,
        KeepsPositions ledger (.recordCycle snapshotId observedAt decision request) →
        ∃ positions', latestPositions
            ((recordCycle snapshotId observedAt decision request ledger).2.map (·.movement)) =
              .ok positions' ∧
          ∀ market, ∀ held ∈ positions market, positions' market = some held := by
  obtain ⟨hL, hheld⟩ := run_positionsHeld h
  obtain ⟨positions, hpositions⟩ := exists_latestBy hheld.tracked
  refine ⟨positions, hpositions, ?_, ?_⟩
  · intro earlier event later heq stored hstored hpos
    rw [latestPositions_apply hpositions]
    exact hheld.held earlier event later heq stored hstored hpos
  · intro snapshotId observedAt decision request hkeeps
    obtain ⟨-, hheld'⟩ := (recordCycle_appends hL).positionsHeld hkeeps hL hheld
    obtain ⟨positions', hpositions'⟩ := exists_latestBy hheld'.tracked
    refine ⟨positions', hpositions', fun market held hmem => ?_⟩
    rw [latestPositions_apply hpositions']
    rw [Option.mem_def, latestPositions_apply hpositions] at hmem
    exact recordCycle_openOf hL hkeeps hmem

/-! ### A sample run -/

/-- The position that a call finds in a market. -/
def heldPosition (ledger : Ledger) (market : Market) : Option (StoredPosition × Timestamp) :=
  (readMovements ledger >>= latestPositions).toOption.bind (· market)

/-- A buy of one unit at 100 for the Spot wallet. -/
def openingRequest : VirtualRuntimeRequest where
  toRequestFields :=
    { unitRequest (initialPortfolio .spot) .buy 100 90 0 with
      lineage :=
        { snapshotId := "s1"
          decisionId := "d1"
          dgeDecision := "APPROVED_PAPER_ONLY"
          timeframe := "1m" } }
  passes := by decide +kernel

/-- The wallet after the buy. -/
def boughtWallet : VirtualPortfolioState where
  toPortfolioFields :=
    { (initialPortfolio .spot).toPortfolioFields with
      cashUsdt := 900
      inventoryQuantity := 1
      inventoryCostBasisUsdt := 100
      currentOpenRiskUsdt := 10
      openPositionCount := 1 }
  passes := by decide +kernel

/-- The wallet marked at 105. -/
def markedWallet : VirtualPortfolioState where
  toPortfolioFields :=
    { boughtWallet.toPortfolioFields with
      equityUsdt := 1005
      unrealizedPnlUsdt := 5
      highWatermarkUsdt := 1005 }
  passes := by decide +kernel

/-- The decision to buy. -/
def openingDecision : VirtualRuntimeDecision where
  eligibility := ⟨.virtualMarket, ExecutionSurface.virtualMarket.reasonCodes, []⟩
  tradeIntent := some
    { lineage := openingRequest.lineage
      candidateId := "c1"
      symbol := "BTCUSDT"
      market := .spot
      action := .buy
      quantity := 1
      entryPrice := 100
      stopLoss := 90
      takeProfitLevels := [130]
      reasonCodes := ["VIRTUAL_MARKET"]
      opportunityId := "opportunity:c1"
      positionSide := none }
  portfolioBefore := initialPortfolio .spot
  portfolioAfter := boughtWallet
  auditRefs := ["s1", "d1", "c1"]

/-- The cycle that opens a position. -/
def openingCycle : WalletCall :=
  .recordCycle "s1" (.aware 0) (some (.runtime openingDecision)) (some openingRequest)

/-- A cycle without a request that marks the wallet. -/
def markingCycle : WalletCall :=
  .recordCycle "s2" (.aware 60000000)
    (some (.other (some boughtWallet) (some markedWallet) "MARKED" none)) none

/-- The position that the opening cycle records is held. -/
theorem opening_is_held : ∃ positions,
    latestPositions ((WalletCall.run [] [openingCycle]).map (·.movement)) = .ok positions ∧
      ∃ stored cursor, positions .spot = some (stored, cursor) ∧
        stored.position.remainingQuantity = 1 := by
  have hrun : Run (StepIf KeepsPositions) [] [openingCycle] (WalletCall.run [] [openingCycle]) := by
    refine .single ⟨fun _ intent hintent => ?_, rfl⟩
    obtain rfl := Option.some.inj hintent
    rfl
  obtain ⟨positions, hpositions, -⟩ := open_position_stays hrun
  refine ⟨positions, hpositions, ?_⟩
  have hopen : (openOf (WalletCall.run [] [openingCycle]) .spot).map
      (·.1.position.remainingQuantity) = some 1 := by decide +kernel
  obtain ⟨⟨stored, cursor⟩, hheld, hquantity⟩ := Option.map_eq_some_iff.mp hopen
  exact ⟨stored, cursor, (latestPositions_apply hpositions _).trans hheld, hquantity⟩

/-- A cycle without a request is accepted, and the open position is gone: no movement has
recorded it with nothing left. -/
theorem marking_drops_position :
    (heldPosition (WalletCall.run [] [openingCycle]) .spot).map
        (·.1.position.remainingQuantity) = some 1 ∧
      (markingCycle.perform (WalletCall.run [] [openingCycle])).1.toOption = some () ∧
      heldPosition (WalletCall.run [] [openingCycle, markingCycle]) .spot = none ∧
      ∀ e ∈ WalletCall.run [] [openingCycle, markingCycle],
        ∀ stored ∈ e.movement.managedPosition, 0 < stored.position.remainingQuantity := by
  decide +kernel

end VirtualWalletJournal

end Ai4Binance
