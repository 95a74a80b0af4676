/-
What reading the journal of the virtual wallets returns.

The dictionaries that the calls derive from the journal are determined by the last
movement of each market: its portfolio, and the position it leaves open.

* `movementsOf`, `lastMovement`: the movements of a market, and the last one;
* `openAt`: the position that a movement leaves open;
* `read_spec`, `latestBy_spec`: what a journal that can be read gives;
* `SamePosition`, `processPosition_keeps`: a candle moves a position and its portfolio,
  and exchanges neither.
-/
import Ai4Binance.Virtual.WalletJournal

open Text Check

namespace Ai4Binance

namespace VirtualWalletJournal

/-! ### The last movement of a market -/

/-- The movements of a market. -/
def movementsOf (ledger : Ledger) (market : Market) : List WalletMovement :=
  (ledger.map (·.movement)).filter (·.market = market)

/-- The last movement of a market. -/
def lastMovement (ledger : Ledger) (market : Market) : Option WalletMovement :=
  (movementsOf ledger market).getLast?

variable {ledger : Ledger} {event : LedgerEvent} {market : Market} {movement : WalletMovement}

lemma movementsOf_snoc : movementsOf (ledger ++ [event]) market =
    movementsOf ledger market ++ if event.movement.market = market then [event.movement] else [] := by
  simp only [movementsOf, List.map_append, List.map_cons, List.map_nil, List.filter_append]
  congr 1
  split_ifs with h <;> simp [h]

lemma lastMovement_snoc : lastMovement (ledger ++ [event]) market =
    if event.movement.market = market then some event.movement else lastMovement ledger market := by
  rw [lastMovement, movementsOf_snoc]
  split_ifs
  · rw [List.getLast?_append]
    rfl
  · rw [List.append_nil, lastMovement]

/-- The last movement of a market stands in the journal. -/
lemma mem_of_lastMovement (h : lastMovement ledger market = some movement) :
    (∃ e ∈ ledger, e.movement = movement) ∧ movement.market = market := by
  have hmem := List.mem_of_getLast? h
  simp only [movementsOf, List.mem_filter, List.mem_map, decide_eq_true_eq] at hmem
  exact hmem

lemma lastMovement_eq_none :
    lastMovement ledger market = none ↔ ∀ e ∈ ledger, e.movement.market ≠ market := by
  simp [lastMovement, movementsOf]

/-! ### Dictionaries -/

section Latest

variable {α : Type} {entry : WalletMovement → Except PyError (Option α)}

lemma latestBy_snoc {movements : List WalletMovement} :
    latestBy entry (movements ++ [movement]) = do
      let latest ← latestBy entry movements
      let value ← entry movement
      return Function.update latest movement.market value := by
  simp only [latestBy, List.foldlM_append, List.foldlM_cons, List.foldlM_nil, bind_pure]

/-- An entry that does not read the ids is the same on the trimmed movements. -/
lemma latestBy_map {f : WalletMovement → WalletMovement} (hf : ∀ m, entry (f m) = entry m)
    (hm : ∀ m, (f m).market = m.market) (movements : List WalletMovement) :
    latestBy entry (movements.map f) = latestBy entry movements := by
  induction movements using List.reverseRecOn with
  | nil => rfl
  | append_singleton movements movement ih =>
      rw [List.map_append, List.map_singleton, latestBy_snoc, latestBy_snoc, ih, hf, hm]

/-- Every movement has an entry, and the dictionary holds the one of the last movement of
each market. -/
lemma latestBy_spec {latest : Market → Option α}
    (h : latestBy entry (ledger.map (·.movement)) = .ok latest) :
    (∀ e ∈ ledger, ∃ value, entry e.movement = .ok value) ∧
      ∀ market, (lastMovement ledger market = none ∧ latest market = none) ∨
        ∃ m, lastMovement ledger market = some m ∧ entry m = .ok (latest market) := by
  induction ledger using List.reverseRecOn generalizing latest with
  | nil =>
      obtain rfl := Except.ok.inj h
      exact ⟨by simp, fun market => .inl ⟨rfl, rfl⟩⟩
  | append_singleton ledger event ih =>
      rw [List.map_append, List.map_singleton, latestBy_snoc] at h
      simp only [bind_eq_ok, pure_eq_ok] at h
      obtain ⟨latest', hlatest', value, hvalue, rfl⟩ := h
      obtain ⟨hentries, hlast⟩ := ih hlatest'
      refine ⟨fun e he => ?_, fun market => ?_⟩
      · rcases List.mem_append.mp he with he | he
        · exact hentries e he
        · rw [List.mem_singleton.mp he]
          exact ⟨value, hvalue⟩
      · rw [lastMovement_snoc]
        by_cases hm : event.movement.market = market
        · rw [if_pos hm]
          subst hm
          exact .inr ⟨_, rfl, by rw [Function.update_self]; exact hvalue⟩
        · rw [if_neg hm, Function.update_of_ne (Ne.symm hm)]
          exact hlast market

/-- If every movement has an entry, there is a dictionary. -/
lemma exists_latestBy (h : ∀ e ∈ ledger, ∃ value, entry e.movement = .ok value) :
    ∃ latest, latestBy entry (ledger.map (·.movement)) = .ok latest := by
  induction ledger using List.reverseRecOn with
  | nil => exact ⟨_, rfl⟩
  | append_singleton ledger event ih =>
      obtain ⟨latest, hlatest⟩ := ih fun e he => h e (List.mem_append_left _ he)
      obtain ⟨value, hvalue⟩ := h event (by simp)
      rw [List.map_append, List.map_singleton, latestBy_snoc, hlatest, ok_bind, hvalue, ok_bind]
      exact ⟨_, rfl⟩

end Latest

/-! ### A journal that can be read -/

/-- The movement as `_read_movements` returns it: its id is trimmed. -/
def trimmed (movement : WalletMovement) : WalletMovement :=
  { movement with movementId := strip movement.movementId }

lemma validatedMovement_eq_ok {validated : WalletMovement}
    (h : validatedMovement movement = .ok validated) : validated = trimmed movement := by
  simp only [validatedMovement, requiredText, bind_eq_ok, raiseIf_eq_ok, pure_eq_ok] at h
  obtain ⟨_, ⟨_, _, rfl⟩, _, _, _, _, _, _, _, _, _, _, _, _, _, _, _, _, h⟩ := h
  exact h.symm

/-- What `_read_movements` knows after the lines of a journal. -/
lemma read_spec {state : ReadState} (h : ledger.foldlM readEvent {} = .ok state) :
    state.movements = ledger.map (trimmed ·.movement) ∧
      state.movementIds = ledger.map (strip ·.movement.movementId) ∧
      ∀ market, state.latest market = (lastMovement ledger market).bind fun m =>
        (VirtualPortfolioState.fromPayload m.after).toOption := by
  induction ledger using List.reverseRecOn generalizing state with
  | nil =>
      obtain rfl := Except.ok.inj h
      exact ⟨rfl, rfl, fun _ => rfl⟩
  | append_singleton ledger event ih =>
      simp only [List.foldlM_append, List.foldlM_cons, List.foldlM_nil, bind_pure, bind_eq_ok] at h
      obtain ⟨state', hstate', h⟩ := h
      obtain ⟨hmovements, hids, hlatest⟩ := ih hstate'
      simp only [readEvent, bind_eq_ok, raiseIf_eq_ok, pure_eq_ok] at h
      obtain ⟨validated, hvalidated, _, -, _, -, before, -, _, -, _, -, after, hafter, rfl⟩ := h
      obtain rfl := validatedMovement_eq_ok hvalidated
      refine ⟨by simp [hmovements], by simp [hids, trimmed], fun market => ?_⟩
      rw [lastMovement_snoc]
      by_cases hm : event.movement.market = market
      · subst hm
        have hread : VirtualPortfolioState.fromPayload event.movement.after = .ok after := hafter
        rw [if_pos rfl, Option.bind_some, toOption_eq_some.mpr hread]
        exact Function.update_self ..
      · rw [if_neg hm, ← hlatest]
        exact Function.update_of_ne (Ne.symm hm) ..

lemma readMovements_spec {movements : List WalletMovement} (h : readMovements ledger = .ok movements) :
    movements = ledger.map (trimmed ·.movement) := by
  obtain ⟨state, hstate, rfl⟩ := map_eq_ok.mp h
  exact (read_spec hstate).1

/-- The entries of the movements that were read are those of the journal. -/
lemma latestBy_read {α : Type} {entry : WalletMovement → Except PyError (Option α)}
    (hentry : ∀ m, entry (trimmed m) = entry m) {movements : List WalletMovement}
    (h : readMovements ledger = .ok movements) :
    latestBy entry movements = latestBy entry (ledger.map (·.movement)) := by
  rw [readMovements_spec h, ← Function.comp_def trimmed, ← List.map_map]
  exact latestBy_map hentry (fun _ => rfl) _

/-! ### Positions -/

/-- The position that a movement leaves open, with its cursor. -/
def openAt (movement : WalletMovement) : Option (StoredPosition × Timestamp) :=
  match movement.managedPosition, movement.positionCursor with
  | some stored, some cursor =>
      if 0 < stored.position.remainingQuantity then some (stored, cursor.toUtc) else none
  | _, _ => none

lemma openAt_eq_some {stored : StoredPosition} {cursor : Timestamp}
    (h : openAt movement = some (stored, cursor)) : movement.managedPosition = some stored ∧
      0 < stored.position.remainingQuantity ∧
      ∃ c, movement.positionCursor = some c ∧ cursor = c.toUtc := by
  rw [openAt] at h
  split at h
  · split_ifs at h with hpos
    obtain ⟨rfl, rfl⟩ := Prod.mk.inj (Option.some.inj h)
    exact ⟨‹_›, hpos, _, ‹_›, rfl⟩
  · cases h

lemma openAt_of_managed {stored : StoredPosition} {cursor : Timestamp}
    (hmanaged : movement.managedPosition = some stored)
    (hcursor : movement.positionCursor = some cursor)
    (hpos : 0 < stored.position.remainingQuantity) :
    openAt movement = some (stored, cursor.toUtc) := by
  rw [openAt, hmanaged, hcursor]
  exact if_pos hpos

/-- What `_latest_positions` accepts of a movement. -/
structure Tracks (movement : WalletMovement) (stored : StoredPosition) (cursor : Timestamp) :
    Prop where
  offsets : ∀ offset ∈ stored.exitOffsets, offset = 0
  market : stored.position.market = movement.market
  openedAt_le : stored.position.openedAt ≤ cursor.instant
  quantity : movement.market = .spot →
    stored.position.remainingQuantity = movement.after.inventoryQuantity

lemma trackedPosition_eq_ok {value : Option (StoredPosition × Timestamp)}
    (h : trackedPosition movement = .ok value) : value = openAt movement ∧
      ∀ stored, movement.managedPosition = some stored →
        ∃ cursor, movement.positionCursor = some cursor ∧ Tracks movement stored cursor := by
  rw [trackedPosition] at h
  split at h
  · next hnone =>
    obtain rfl := Except.ok.inj h
    simp [openAt, hnone]
  · next stored hsome =>
    simp only [bind_eq_ok, raiseIf_eq_ok, orRaise_eq_ok, pure_eq_ok, StoredPosition.fromPayload,
      VirtualPortfolioState.fromPayload] at h
    obtain ⟨position, ⟨_, hoffsets, rfl⟩, cursor, hcursor, after, ⟨_, -, hafter⟩, _, hidentity, _,
      hquantity, rfl⟩ := h
    rw [VirtualPortfolioState.create_eq_ok] at hafter
    refine ⟨by simp [openAt, hsome, hcursor], fun s hs => ⟨cursor, hcursor, ?_⟩⟩
    obtain rfl := Option.some.inj (hsome.symm.trans hs)
    rw [not_or, not_not, not_lt] at hidentity
    refine ⟨by simpa using hoffsets, hidentity.1, hidentity.2, fun hm => ?_⟩
    have hq : stored.position.remainingQuantity = after.inventoryQuantity := by
      by_contra hne
      exact hquantity ⟨hm, hne⟩
    rw [hq, hafter]

/-- A movement with a trimmed portfolio is accepted if its position is tracked. -/
lemma trackedPosition_ok {after : VirtualPortfolioState}
    (hafter : movement.after = after.toPortfolioFields) (htrim : strip after.portfolioId =
      after.portfolioId) (h : ∀ stored, movement.managedPosition = some stored →
        ∃ cursor, movement.positionCursor = some cursor ∧ Tracks movement stored cursor) :
    trackedPosition movement = .ok (openAt movement) := by
  rw [trackedPosition]
  split
  · next hnone => simp [openAt, hnone]
  · next stored hsome =>
    obtain ⟨cursor, hcursor, htracks⟩ := h stored hsome
    have hread : VirtualPortfolioState.fromPayload movement.after = .ok after := by
      rw [hafter]
      exact VirtualPortfolioState.fromPayload_eq_ok htrim
    have hoffsets : ¬ stored.exitOffsets.any (· ≠ 0) := by
      simpa using htracks.offsets
    have hidentity : ¬ (stored.position.market ≠ movement.market ∨
        cursor.instant < stored.position.openedAt) := by
      rw [not_or, not_not, not_lt]
      exact ⟨htracks.market, htracks.openedAt_le⟩
    have hquantity : ¬ (movement.market = .spot ∧
        stored.position.remainingQuantity ≠ after.inventoryQuantity) := by
      rintro ⟨hm, hne⟩
      exact hne ((htracks.quantity hm).trans (by rw [hafter]))
    rw [StoredPosition.fromPayload, raiseIf_of_not hoffsets, ok_bind, hcursor]
    simp only [pure, Except.pure, ok_bind, orRaise, hread, raiseIf_of_not hidentity,
      raiseIf_of_not hquantity]
    simp [openAt, hsome, hcursor]

end VirtualWalletJournal

/-! ### What a candle keeps -/

/-- Two states of one position. -/
structure SamePosition (p q : PositionFields) : Prop where
  positionId_eq : p.positionId = q.positionId
  candidateId_eq : p.candidateId = q.candidateId
  symbol_eq : p.symbol = q.symbol
  market_eq : p.market = q.market
  openedAt_eq : p.openedAt = q.openedAt
  initialQuantity_eq : p.initialQuantity = q.initialQuantity
  lineage_eq : p.lineage = q.lineage

namespace SamePosition

variable {p q r : PositionFields}

@[refl] lemma refl (p : PositionFields) : SamePosition p p := ⟨rfl, rfl, rfl, rfl, rfl, rfl, rfl⟩

lemma trans (h : SamePosition p q) (h' : SamePosition q r) : SamePosition p r :=
  ⟨h.1.trans h'.1, h.2.trans h'.2, h.3.trans h'.3, h.4.trans h'.4, h.5.trans h'.5, h.6.trans h'.6,
    h.7.trans h'.7⟩

end SamePosition

namespace VirtualManagedPosition

variable {position : VirtualManagedPosition} {portfolio : VirtualPortfolioState}
  {candle : OHLCVCandle} {context : VirtualExitContext} {availableAt : Option ℤ}
  {update : VirtualPositionUpdateDecision}

/-- The constructor leaves the identity of a position. -/
lemma create_same {p : PositionFields} {q : VirtualManagedPosition} (h : create p = .ok q) :
    SamePosition q.toPositionFields p := by
  rw [create_eq_ok] at h
  obtain ⟨ratios, hratios⟩ := p.normalized_eq
  rw [h, hratios]
  exact ⟨rfl, rfl, rfl, rfl, rfl, rfl, rfl⟩

/-- A candle of a Spot position moves that position, and the portfolio it is booked on
stays the same portfolio. -/
lemma processPosition_keeps (hspot : position.market = .spot)
    (h : position.processPosition portfolio candle context none availableAt = .ok update) :
    SamePosition update.positionAfter.toPositionFields position.toPositionFields ∧
      update.portfolioAfter.portfolioId = portfolio.portfolioId ∧
      update.portfolioAfter.market = portfolio.market ∧
      update.portfolioAfter.inventoryQuantity - update.positionAfter.remainingQuantity =
        portfolio.inventoryQuantity - position.remainingQuantity := by
  simp only [processPosition, bind_eq_ok, raiseIf_eq_ok, not_not] at h
  obtain ⟨_, -, h⟩ := h
  rw [hspot] at h
  obtain ⟨hbooks, -, hportfolio⟩ := processSpotPosition_books h
  simp only [processSpotPosition, bind_eq_ok, raiseIf_eq_ok, pure_eq_ok] at h
  obtain ⟨_, -, _, -, lifecycle, -, processed, -, protected', -, ⟨final, reason⟩, -, after, hafter,
    portfolioAfter, -, _, -, rfl⟩ := h
  rw [spotPortfolioAfterPositionUpdate, VirtualPortfolioState.create_eq_ok] at hportfolio
  refine ⟨(create_same hafter).trans ⟨rfl, rfl, rfl, rfl, rfl, rfl, rfl⟩, by rw [hportfolio],
    by rw [hportfolio], ?_⟩
  rw [hportfolio, hbooks.remaining_eq]
  ring

end VirtualManagedPosition

end Ai4Binance
