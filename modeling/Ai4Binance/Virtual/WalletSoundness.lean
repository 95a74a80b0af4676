/-
Soundness of the journal of the virtual wallets.

In every run whose cycles have fresh ids (`FreshIds`), every movement that was appended
is read back by every later reading; the movements of a market are a chain from its
genesis; their deltas add up to the latest portfolio; and a call for one market leaves the
portfolio of the other.  A cycle with a blank snapshot id, or with one that another
movement has up to white space at its end, appends a movement that cannot be read again.

* `FreshIds`: the condition on a call;
* `Chained`, `Sound`: the invariant, kept by every movement (`Writes.sound`);
* `Entry`: what a movement is that a call appends;
* `wallet_journal_is_sound`.
-/
import Ai4Binance.Virtual.WalletPositions

open Text Check

namespace Ai4Binance

namespace VirtualWalletJournal

variable {start ledger ledger' : Ledger} {event : LedgerEvent} {market : Market}
  {movement : WalletMovement} {call : WalletCall}

/-! ### The ids of the movements -/

/-- The id of the movement of a candle. -/
def candleMovementId (positionId : String) (next : Timestamp) : String :=
  "virtual-position:" ++ positionId ++ ":" ++ next.isoformat

/-- What the id of a cycle's movement begins with. -/
lemma prefix_strip_cycleMovementId (market : Market) (snapshotId : String) :
    ("virtual-wallet:" ++ market.value ++ ":").toList <+:
      (strip (cycleMovementId market snapshotId)).toList := by
  unfold cycleMovementId
  cases market with
  | spot => exact prefix_strip_append (by decide) (by decide) (by decide)
  | usdMFutures => exact prefix_strip_append (by decide) (by decide) (by decide)

lemma prefix_candleMovementId (positionId : String) (next : Timestamp) :
    "virtual-position:".toList <+: (candleMovementId positionId next).toList := by
  have hid : candleMovementId positionId next =
      "virtual-position:" ++ (positionId ++ (":" ++ next.isoformat)) :=
    String.append_assoc.trans String.append_assoc
  rw [hid]
  exact prefix_toList_append _ _

/-- The id of a candle's movement has no white space at its ends. -/
lemma strip_candleMovementId (positionId : String) (next : Timestamp) :
    strip (candleMovementId positionId next) = candleMovementId positionId next := by
  obtain ⟨l, c, hiso, hc⟩ := next.isoformat_last
  apply strip_eq_self_of_ends
  · obtain ⟨rest, hrest⟩ := prefix_candleMovementId positionId next
    have hhead : "virtual-position:".toList.head? = some 'v' := by decide
    intro c' hc'
    rw [← hrest, List.head?_append, hhead, Option.some_or, Option.mem_some_iff] at hc'
    rw [← hc']
    decide
  · have hlist : (candleMovementId positionId next).toList =
        ("virtual-position:" ++ positionId ++ ":").toList ++ next.isoformat.toList :=
      String.toList_append
    intro c' hc'
    rw [hlist, hiso, ← List.append_assoc, List.getLast?_concat, Option.mem_some_iff] at hc'
    rw [← hc']
    exact hc

/-- Two texts with one beginning each, neither of which begins the other, differ. -/
lemma ne_of_prefix {s t : String} {p q : List Char} (hp : p <+: s.toList) (hq : q <+: t.toList)
    (h : ¬ p <+: q ∧ ¬ q <+: p) : s ≠ t := by
  rintro rfl
  rcases List.prefix_or_prefix_of_prefix hp hq with hpq | hqp
  · exact h.1 hpq
  · exact h.2 hqp

/-- The ids of the cycles of two markets differ. -/
lemma market_eq_of_strip {m m' : Market} {s s' : String}
    (h : strip (cycleMovementId m s) = strip (cycleMovementId m' s')) : m = m' := by
  by_contra hne
  refine ne_of_prefix (prefix_strip_cycleMovementId m s) (prefix_strip_cycleMovementId m' s') ?_ h
  cases m <;> cases m' <;> first | exact absurd rfl hne | decide

/-- No cycle has the id of a candle. -/
lemma cycle_ne_candle {m : Market} {s positionId : String} {next : Timestamp} :
    strip (cycleMovementId m s) ≠ candleMovementId positionId next := by
  refine ne_of_prefix (prefix_strip_cycleMovementId m s) (prefix_candleMovementId positionId next) ?_
  cases m <;> decide

lemma strip_genesisId (m : Market) :
    strip (cycleMovementId m "genesis") = cycleMovementId m "genesis" := by
  cases m <;> decide

/-- The ids that the movements of a journal have. -/
def HasId (event : LedgerEvent) : Prop :=
  (∃ snapshotId, event.movement.movementId = cycleMovementId event.movement.market snapshotId ∧
      (event.eventType = .initialized → snapshotId = "genesis")) ∨
    (event.eventType = .movementRecorded ∧
      ∃ positionId next, event.movement.movementId = candleMovementId positionId next)

lemma Writes.hasId (h : Writes start ledger call event) : HasId event := by
  cases h with
  | genesis => exact .inl ⟨"genesis", rfl, fun _ => rfl⟩
  | @cycle snapshotId => exact .inl ⟨snapshotId, rfl, fun h => by cases h⟩
  | candle => exact .inr ⟨rfl, _, _, rfl⟩

/-- The cycles whose movement can be told from the others: the snapshot id is not blank,
and up to white space at its end it is neither `genesis` nor another snapshot id that was
recorded for the market. -/
def FreshIds (ledger : Ledger) : WalletCall → Prop
  | .recordCycle snapshotId _ (some decision) _ =>
      ∀ before ∈ decision.portfolioBefore, ∀ after ∈ decision.portfolioAfter, after ≠ before →
        isBlank snapshotId = false ∧
        strip (cycleMovementId before.market snapshotId) ≠
          cycleMovementId before.market "genesis" ∧
        ∀ e ∈ ledger,
          strip e.movement.movementId = strip (cycleMovementId before.market snapshotId) →
            e.movement.movementId = cycleMovementId before.market snapshotId
  | _ => True

/-- The id of a new movement is not the id of an earlier one, also after trimming. -/
lemma Writes.fresh_id (h : Writes start ledger call event) (hids : ∀ e ∈ ledger, HasId e)
    (hfresh : FreshIds start call) :
    ∀ e ∈ ledger, strip e.movement.movementId ≠ strip event.movement.movementId := by
  intro e he hstrip
  cases h with
  | @genesis _ market timestamp _ hnone =>
      have hstrip' : strip e.movement.movementId = strip (cycleMovementId market "genesis") := hstrip
      rcases hids e he with ⟨s, hid, -⟩ | ⟨-, positionId, next, hid⟩
      · rw [hid] at hstrip'
        exact lastMovement_eq_none.mp hnone e he (market_eq_of_strip hstrip')
      · rw [hid, strip_candleMovementId] at hstrip'
        exact cycle_ne_candle hstrip'.symm
  | @cycle snapshotId _ _ _ _ before after _ hstart hbefore hafter _ _ hne _ _ hnew =>
      have hstrip' : strip e.movement.movementId =
        strip (cycleMovementId before.market snapshotId) := hstrip
      obtain ⟨-, hgenesis, hother⟩ := hfresh before hbefore after hafter hne
      obtain ⟨gs, rfl, hgs⟩ := hstart
      rcases List.mem_append.mp he with he' | he'
      · have hid := hother e he' hstrip'
        rcases hids e he with ⟨s, hs, htype⟩ | ⟨htype, -⟩
        · cases hevent : e.eventType with
          | initialized =>
              rw [htype hevent] at hs
              rw [hs, strip_genesisId] at hstrip'
              have hmarket := market_eq_of_strip ((strip_genesisId _).trans hstrip')
              exact hgenesis (hmarket ▸ hstrip').symm
          | movementRecorded => exact hnew ⟨e, he, hevent, hid⟩
        · exact hnew ⟨e, he, htype, hid⟩
      · obtain ⟨m, t, rfl⟩ := hgs e he'
        have hid : strip (cycleMovementId m "genesis") =
          strip (cycleMovementId before.market snapshotId) := hstrip'
        have hmarket := market_eq_of_strip hid
        rw [strip_genesisId, hmarket] at hid
        exact hgenesis hid.symm
  | @candle _ duration stored _ _ candle _ _ _ _ _ _ _ _ _ _ _ hnew =>
      have hstrip' : strip e.movement.movementId = strip (candleMovementId
        stored.position.positionId (candle.time.add duration)) := hstrip
      rw [strip_candleMovementId] at hstrip'
      rcases hids e he with ⟨s, hid, -⟩ | ⟨htype, positionId, next, hid⟩
      · rw [hid] at hstrip'
        exact cycle_ne_candle hstrip'
      · rw [hid, strip_candleMovementId] at hstrip'
        exact hnew ⟨e, he, htype, hid.trans hstrip'⟩

/-! ### What a movement is that a call appends -/

/-- A movement that can be read back after a journal: its texts are not blank, it starts
from the latest portfolio of its market (or is its first movement), and its deltas are the
differences. -/
structure Entry (ledger : Ledger) (movement : WalletMovement)
    (before : Option VirtualPortfolioState) (after : VirtualPortfolioState) : Prop where
  id_nonblank : isBlank movement.movementId = false
  cycle_nonblank : isBlank movement.cycleId = false
  snapshot_nonblank : isBlank movement.snapshotId = false
  status_nonblank : isBlank movement.decisionStatus = false
  after_eq : movement.after = after.toPortfolioFields
  after_trim : strip after.portfolioId = after.portfolioId
  after_market : after.market = movement.market
  before_eq : movement.before = before.map (·.toPortfolioFields)
  before_latest :
    (lastMovement ledger movement.market).map (·.after) = before.map (·.toPortfolioFields)
  before_trim : ∀ b ∈ before, strip b.portfolioId = b.portfolioId ∧ b.market = movement.market
  equity_eq :
    movement.equityDeltaUsdt = after.equityUsdt - (before.map (·.equityUsdt)).getD 0
  cash_eq : movement.cashDeltaUsdt = after.cashUsdt - (before.map (·.cashUsdt)).getD 0

/-- A text that begins with something after trimming is not blank. -/
lemma not_isBlank_of_prefix {s : String} {p : List Char} (hp : p ≠ [])
    (h : p <+: (strip s).toList) : isBlank s = false := by
  rw [← Bool.not_eq_true, isBlank_iff]
  intro hs
  rw [hs] at h
  exact hp (List.prefix_nil.mp h)

lemma not_isBlank_cycleMovementId (market : Market) (snapshotId : String) :
    isBlank (cycleMovementId market snapshotId) = false := by
  refine not_isBlank_of_prefix ?_ (prefix_strip_cycleMovementId market snapshotId)
  cases market <;> decide

lemma not_isBlank_candleMovementId (positionId : String) (next : Timestamp) :
    isBlank (candleMovementId positionId next) = false := by
  refine not_isBlank_of_prefix (p := "virtual-position:".toList) (by decide) ?_
  rw [strip_candleMovementId]
  exact prefix_candleMovementId positionId next

/-- The status of a decision is recorded trimmed, and `UNKNOWN` where there is none. -/
lemma not_isBlank_status (decision : CycleDecision) :
    isBlank (if decision.status = "" then "UNKNOWN" else decision.status) = false := by
  split_ifs with h
  · decide
  · rw [← Bool.not_eq_true, isBlank_iff]
    cases decision with
    | runtime d =>
        simp only [CycleDecision.status]
        split_ifs <;> decide
    | other _ _ status _ =>
        simp only [CycleDecision.status, strip_strip] at h ⊢
        exact h

/-- What a call with fresh ids appends can be read back. -/
lemma Writes.entry (h : Writes start ledger call event) (hL : Coherent ledger)
    (hfresh : FreshIds start call) : ∃ before after, Entry ledger event.movement before after := by
  cases h with
  | @genesis _ market timestamp _ hnone =>
      refine ⟨none, initialPortfolio market, not_isBlank_cycleMovementId _ _, ?_, ?_, ?_, rfl, ?_,
        rfl, rfl, ?_, by simp, (sub_zero _).symm, (sub_zero _).symm⟩
      · exact (by decide : isBlank "GENESIS" = false)
      · exact (by decide : isBlank "GENESIS" = false)
      · exact (by decide : isBlank "INITIALIZED" = false)
      · cases market <;> decide
      · exact (congrArg _ hnone).trans rfl
  | @cycle snapshotId _ decision _ timestamp before after _ _ hbefore hafter hmarket hid hne hlast _
      _ =>
      obtain ⟨hblank, -, -⟩ := hfresh before hbefore after hafter hne
      have htrim := hL.trimmed_last hlast
      obtain ⟨m, hm, hma⟩ := hlast
      refine ⟨some before, after, not_isBlank_cycleMovementId _ _, hblank, hblank,
        not_isBlank_status decision, rfl, hid ▸ htrim.1, hmarket.symm, rfl, ?_, ?_, rfl, rfl⟩
      · exact (congrArg _ hm).trans (congrArg some hma)
      · rintro b hb
        obtain rfl := Option.some.inj hb
        exact ⟨htrim.1, rfl⟩
  | @candle snapshot duration stored portfolio cursor candle update hspot _ _ _ _ hlast _ _ _ hupdate
      _ =>
      obtain ⟨-, hid, hmarket, -⟩ := VirtualManagedPosition.processPosition_keeps hspot hupdate
      obtain ⟨m, c, hm, -, -, hma⟩ := hlast
      have htrim := hL.trimmed_last ⟨m, hm, hma⟩
      have hlast' : lastMovement ledger stored.position.market = some m := by rw [hspot, hm]
      refine ⟨some portfolio, update.portfolioAfter, not_isBlank_candleMovementId _ _,
        snapshot.snapshotId_nonblank, snapshot.snapshotId_nonblank, ?_, rfl, hid ▸ htrim.1,
        hmarket.trans (htrim.2.trans hspot.symm), rfl, ?_, ?_, rfl, rfl⟩
      · change isBlank update.positionAfter.status.value = false
        cases update.positionAfter.status <;> decide
      · exact (congrArg _ hlast').trans (congrArg some hma)
      · rintro b hb
        obtain rfl := Option.some.inj hb
        exact ⟨htrim.1, htrim.2.trans hspot.symm⟩

/-- The portfolio before an entry is read back. -/
lemma Entry.parsedBefore {before : Option VirtualPortfolioState} {after : VirtualPortfolioState}
    (h : Entry ledger movement before after) :
    parsedBefore movement.market movement.before = .ok before := by
  rw [h.before_eq]
  cases before with
  | none => rfl
  | some b =>
      obtain ⟨htrim, hmarket⟩ := h.before_trim b rfl
      rw [Option.map_some, VirtualWalletJournal.parsedBefore,
        VirtualPortfolioState.fromPayload_eq_ok htrim, ok_bind,
        raiseIf_of_not (not_not.mpr hmarket)]
      rfl

lemma Entry.fromPayload {before : Option VirtualPortfolioState} {after : VirtualPortfolioState}
    (h : Entry ledger movement before after) :
    VirtualPortfolioState.fromPayload movement.after = .ok after := by
  rw [h.after_eq]
  exact VirtualPortfolioState.fromPayload_eq_ok h.after_trim

/-- An entry passes `_validated_movement`. -/
lemma Entry.validated {before : Option VirtualPortfolioState} {after : VirtualPortfolioState}
    (h : Entry ledger movement before after) :
    validatedMovement movement = .ok (trimmed movement) := by
  have hblank : ∀ {s : String}, isBlank s = false → ¬ isBlank s = true := by simp
  simp only [validatedMovement, requiredText, raiseIf_of_not (hblank h.id_nonblank),
    raiseIf_of_not (hblank h.cycle_nonblank), raiseIf_of_not (hblank h.snapshot_nonblank),
    raiseIf_of_not (hblank h.status_nonblank), h.fromPayload, h.parsedBefore,
    raiseIf_of_not (not_not.mpr h.after_market), raiseIf_of_not (not_not.mpr h.equity_eq),
    raiseIf_of_not (not_not.mpr h.cash_eq), ok_bind, pure, Except.pure]
  rfl

/-- A new entry after a journal that can be read gives a journal that can be read. -/
lemma Entry.readEvent {before : Option VirtualPortfolioState} {after : VirtualPortfolioState}
    (h : Entry ledger event.movement before after)
    (htype : event.movement.movementType = event.eventType.movementType)
    (hfresh : ∀ e ∈ ledger, strip e.movement.movementId ≠ strip event.movement.movementId)
    (hL : Coherent ledger) {state : ReadState} (hstate : ledger.foldlM readEvent {} = .ok state) :
    ∃ state', readEvent state event = .ok state' := by
  obtain ⟨-, hids, hlatest⟩ := read_spec hstate
  have hid : ¬ (trimmed event.movement).movementId ∈ state.movementIds := by
    rw [hids, List.mem_map]
    rintro ⟨e, he, heq⟩
    exact hfresh e he heq
  have hstateLatest : state.latest event.movement.market = before := by
    rw [hlatest]
    have hbefore := h.before_latest
    cases hlast : lastMovement ledger event.movement.market with
    | none =>
        rw [hlast] at hbefore
        exact (Option.map_eq_none_iff.mp hbefore.symm).symm
    | some m =>
        obtain ⟨⟨e, he, rfl⟩, -⟩ := mem_of_lastMovement hlast
        obtain ⟨p, hp, htrim, -⟩ := hL.portfolio e he
        rw [hlast] at hbefore
        obtain ⟨b, rfl, hb⟩ := Option.map_eq_some_iff.mp hbefore.symm
        obtain rfl := VirtualPortfolioState.eq_of_fields_eq (hb.trans hp)
        rw [Option.bind_some, hp, VirtualPortfolioState.fromPayload_eq_ok htrim]
        rfl
  have hgenesis : ¬ (before = none ∧ state.latest (trimmed event.movement).market ≠ none) := by
    rintro ⟨rfl, hne⟩
    exact hne hstateLatest
  have hchain : ¬ (before ≠ none ∧ state.latest (trimmed event.movement).market ≠ before) :=
    fun hne => hne.2 hstateLatest
  have htype' : ¬ (trimmed event.movement).movementType ≠ event.eventType.movementType :=
    not_not.mpr htype
  simp only [VirtualWalletJournal.readEvent, h.validated, ok_bind]
  rw [raiseIf_of_not htype', ok_bind, raiseIf_of_not hid, ok_bind,
    show VirtualWalletJournal.parsedBefore (trimmed event.movement).market
      (trimmed event.movement).before = .ok before from h.parsedBefore, ok_bind,
    raiseIf_of_not hgenesis, ok_bind, raiseIf_of_not hchain, ok_bind,
    show VirtualPortfolioState.fromPayload (trimmed event.movement).after = .ok after from
      h.fromPayload]
  exact ⟨_, rfl⟩

/-! ### The invariant -/

/-- The movements of a market start from nothing, and each from the one before it. -/
def Chained (movements : List WalletMovement) : Prop :=
  (∀ m ∈ movements.head?, m.before = none) ∧ movements.IsChain fun a b => b.before = some a.after

/-- The journal can be read, the movements of each market are chained, and their deltas
add up to its latest portfolio. -/
structure Sound (ledger : Ledger) : Prop where
  ids : ∀ e ∈ ledger, HasId e
  readable : ∃ state, ledger.foldlM readEvent {} = .ok state
  chained : ∀ market, Chained (movementsOf ledger market)
  equity_sum : ∀ market, ((movementsOf ledger market).map (·.equityDeltaUsdt)).sum =
    ((lastMovement ledger market).map (·.after.equityUsdt)).getD 0
  cash_sum : ∀ market, ((movementsOf ledger market).map (·.cashDeltaUsdt)).sum =
    ((lastMovement ledger market).map (·.after.cashUsdt)).getD 0

lemma sound_nil : Sound [] where
  ids := by simp
  readable := ⟨_, rfl⟩
  chained _ := ⟨by simp [movementsOf], by simp [movementsOf]⟩
  equity_sum _ := by simp [movementsOf, lastMovement]
  cash_sum _ := by simp [movementsOf, lastMovement]

/-- A movement that starts from the last one, or from nothing, continues a chain. -/
lemma Chained.concat {movements : List WalletMovement} (h : Chained movements)
    (hbefore : movement.before = movements.getLast?.map (·.after)) :
    Chained (movements ++ [movement]) := by
  obtain ⟨hhead, hchain⟩ := h
  cases movements with
  | nil => exact ⟨by simpa using hbefore, List.isChain_singleton _⟩
  | cons m ms =>
      refine ⟨by simpa using hhead, List.isChain_append.mpr ⟨hchain, List.isChain_singleton _, ?_⟩⟩
      intro a ha b hb
      obtain rfl : movement = b := by simpa using hb
      rw [hbefore, Option.mem_def.mp ha]
      rfl

/-- The deltas of a field add up: a new delta is the difference to the latest value. -/
lemma sum_snoc {field : WalletMovement → ℚ} {value : PortfolioFields → ℚ}
    (hsum : ((movementsOf ledger market).map field).sum =
      ((lastMovement ledger market).map (value ·.after)).getD 0)
    (hdelta : event.movement.market = market → field event.movement = value event.movement.after -
      ((lastMovement ledger market).map (value ·.after)).getD 0) :
    ((movementsOf (ledger ++ [event]) market).map field).sum =
      ((lastMovement (ledger ++ [event]) market).map (value ·.after)).getD 0 := by
  rw [movementsOf_snoc, lastMovement_snoc]
  split_ifs with hm
  · rw [List.map_append, List.sum_append, hsum, List.map_singleton, List.sum_singleton, hdelta hm,
      Option.map_some, Option.getD_some, add_sub_cancel]
  · rw [List.append_nil, hsum]

/-- **The invariant of a sound journal**, for a call with fresh ids. -/
theorem Writes.sound (h : Writes start ledger call event) (hL : Coherent ledger)
    (hfresh : FreshIds start call) (hsound : Sound ledger) : Sound (ledger ++ [event]) := by
  obtain ⟨before, after, hentry⟩ := h.entry hL hfresh
  have htype : event.movement.movementType = event.eventType.movementType := by
    cases h <;> rfl
  -- what an amount was before, read off the last movement
  have hamount : ∀ value : PortfolioFields → ℚ,
      (before.map (value ·.toPortfolioFields)).getD 0 =
        ((lastMovement ledger event.movement.market).map (value ·.after)).getD 0 := by
    intro value
    have := congrArg (Option.map value) hentry.before_latest
    rw [Option.map_map, Option.map_map] at this
    exact congrArg (·.getD 0) this.symm
  refine ⟨fun e he => ?_, ?_, fun market => ?_, fun market => ?_, fun market => ?_⟩
  · rcases List.mem_append.mp he with he | he
    · exact hsound.ids e he
    · exact List.mem_singleton.mp he ▸ h.hasId
  · obtain ⟨state, hstate⟩ := hsound.readable
    obtain ⟨state', hstate'⟩ :=
      hentry.readEvent htype (h.fresh_id hsound.ids hfresh) hL hstate
    refine ⟨state', ?_⟩
    rw [List.foldlM_append, hstate, ok_bind, List.foldlM_cons, hstate', ok_bind]
    rfl
  · rw [movementsOf_snoc]
    split_ifs with hm
    · refine (hsound.chained market).concat ?_
      rw [hentry.before_eq, ← hentry.before_latest, hm]
      rfl
    · rw [List.append_nil]
      exact hsound.chained market
  · refine sum_snoc (hsound.equity_sum market) fun hm => ?_
    subst hm
    rw [hentry.equity_eq, hentry.after_eq, ← hamount]
  · refine sum_snoc (hsound.cash_sum market) fun hm => ?_
    subst hm
    rw [hentry.cash_eq, hentry.after_eq, ← hamount]

lemma Appends.sound (h : Appends start call ledger ledger') (hfresh : FreshIds start call)
    (hL : Coherent ledger) (hsound : Sound ledger) : Coherent ledger' ∧ Sound ledger' := by
  induction h with
  | refl => exact ⟨hL, hsound⟩
  | tail _ hstep ih =>
      obtain ⟨event, hwrites, rfl⟩ := hstep
      exact ⟨hwrites.coherent ih.1, hwrites.sound ih.1 hfresh ih.2⟩

lemma Appends.extends (h : Appends start call ledger ledger') : ledger <+: ledger' := by
  induction h with
  | refl => exact List.prefix_rfl
  | tail _ hstep ih =>
      obtain ⟨event, -, rfl⟩ := hstep
      exact ih.trans (List.prefix_append _ _)

/-- Every journal of a run with fresh ids is sound and keeps its lines. -/
lemma run_sound {calls : List WalletCall} (h : Run (StepIf FreshIds) ledger calls ledger')
    (hL : Coherent ledger) (hsound : Sound ledger) :
    ledger <+: ledger' ∧ Coherent ledger' ∧ Sound ledger' := by
  refine h.invariant (P := fun l => ledger <+: l ∧ Coherent l ∧ Sound l) ?_
    ⟨List.prefix_rfl, hL, hsound⟩
  rintro l call _ ⟨hfresh, rfl⟩ ⟨hpre, hL, hsound⟩
  have happends : Appends l call l (call.perform l).2 := perform_appends hL
  exact ⟨hpre.trans happends.extends, happends.sound hfresh hL hsound⟩

/-! ### What the calls read -/

/-- The portfolio that a call finds in a market. -/
def latestPortfolio (ledger : Ledger) (market : Market) : Option VirtualPortfolioState :=
  (readMovements ledger >>= latestPortfolios).toOption.bind (· market)

/-- The portfolios of a sound journal are those of the last movements. -/
lemma Sound.portfolios (hsound : Sound ledger) (hL : Coherent ledger) :
    ∃ portfolios, readMovements ledger = .ok (ledger.map (trimmed ·.movement)) ∧
      latestPortfolios (ledger.map (trimmed ·.movement)) = .ok portfolios ∧
      Agrees portfolios ledger := by
  obtain ⟨state, hstate⟩ := hsound.readable
  have hread : readMovements ledger = .ok (ledger.map (trimmed ·.movement)) := by
    rw [readMovements, hstate, ← (read_spec hstate).1]
    rfl
  obtain ⟨portfolios, hportfolios⟩ : ∃ portfolios,
      latestPortfolios (ledger.map (trimmed ·.movement)) = .ok portfolios := by
    rw [latestPortfolios, latestBy_read (fun _ => rfl) hread]
    refine exists_latestBy fun e he => ?_
    obtain ⟨p, hp, htrim, -⟩ := hL.portfolio e he
    rw [trackedPortfolio, hp, VirtualPortfolioState.fromPayload_eq_ok htrim]
    exact ⟨_, rfl⟩
  exact ⟨portfolios, hread, hportfolios, hL.agrees (bind_eq_ok.mpr ⟨_, hread, hportfolios⟩)⟩

/-- The latest portfolio of a market is the one of its last movement. -/
lemma Sound.latestPortfolio_eq (hsound : Sound ledger) (hL : Coherent ledger) (market : Market) :
    (latestPortfolio ledger market).map (·.toPortfolioFields) =
      (lastMovement ledger market).map (·.after) := by
  obtain ⟨portfolios, hread, hportfolios, hagrees⟩ := hsound.portfolios hL
  have hlatest : latestPortfolio ledger market = portfolios market := by
    rw [latestPortfolio, hread, ok_bind, hportfolios]
    rfl
  rw [hlatest]
  rcases hagrees market with ⟨hnone, hp⟩ | ⟨m, p, hm, hp, hafter⟩
  · rw [hnone, hp]
    rfl
  · rw [hm, hp, Option.map_some, Option.map_some, hafter]

end VirtualWalletJournal

/-- The market that a call is for. -/
def WalletCall.market : WalletCall → Option Market
  | .initializeWallets _ => none
  | .recordCycle _ _ decision _ => (decision.bind (·.portfolioBefore)).map (·.market)
  | .managePositions snapshot => some snapshot.marketType

namespace VirtualWalletJournal

variable {start ledger ledger' : Ledger} {event : LedgerEvent} {market : Market}
  {call : WalletCall}

/-- A movement of another market leaves the last one. -/
lemma Writes.other_market (h : Writes start ledger call event) (hcall : call.market ≠ some market)
    {m : WalletMovement} (hm : lastMovement ledger market = some m) :
    event.movement.market ≠ market := by
  rintro rfl
  cases h with
  | genesis _ _ hnone => exact nomatch hm.symm.trans hnone
  | cycle _ hbefore =>
      apply hcall
      simp only [WalletCall.market, Option.bind_some, hbefore]
      rfl
  | candle hspot hmarket => exact hcall (congrArg some (hmarket.trans hspot.symm))

lemma Appends.other_market (h : Appends start call ledger ledger')
    (hcall : call.market ≠ some market) {m : WalletMovement}
    (hm : lastMovement ledger market = some m) : lastMovement ledger' market = some m := by
  induction h with
  | refl => exact hm
  | tail _ hstep ih =>
      obtain ⟨event, hwrites, rfl⟩ := hstep
      rw [lastMovement_snoc, if_neg (hwrites.other_market hcall ih), ih]

/-- **Soundness of the journal.**  In every run whose cycles have fresh ids, every
movement is read back; in each market the movements are a chain from one genesis, and
their deltas add up to the latest portfolio; what was appended stays, and is read back
after every further call; and a call for one market leaves the portfolio of the other. -/
theorem wallet_journal_is_sound {calls : List WalletCall} {ledger : Ledger}
    (h : Run (StepIf FreshIds) [] calls ledger) :
    (∃ portfolios, readMovements ledger = .ok (ledger.map (trimmed ·.movement)) ∧
      latestPortfolios (ledger.map (trimmed ·.movement)) = .ok portfolios ∧
      ∀ market, Chained (movementsOf ledger market) ∧
        ((movementsOf ledger market).map (·.equityDeltaUsdt)).sum =
          ((portfolios market).map (·.equityUsdt)).getD 0 ∧
        ((movementsOf ledger market).map (·.cashDeltaUsdt)).sum =
          ((portfolios market).map (·.cashUsdt)).getD 0) ∧
    (∀ calls' ledger', Run (StepIf FreshIds) ledger calls' ledger' →
      ledger <+: ledger' ∧ readMovements ledger' = .ok (ledger'.map (trimmed ·.movement))) ∧
    ∀ call, FreshIds ledger call → ∀ market, call.market ≠ some market →
      ∀ portfolio ∈ latestPortfolio ledger market,
        latestPortfolio (call.perform ledger).2 market = some portfolio := by
  obtain ⟨-, hL, hsound⟩ := run_sound h coherent_nil sound_nil
  refine ⟨?_, fun calls' ledger' h' => ?_, fun call hfresh market hcall portfolio hp => ?_⟩
  · obtain ⟨portfolios, hread, hportfolios, hagrees⟩ := hsound.portfolios hL
    refine ⟨portfolios, hread, hportfolios, fun market => ⟨hsound.chained market, ?_, ?_⟩⟩
    · rw [hsound.equity_sum]
      rcases hagrees market with ⟨hnone, hp⟩ | ⟨m, p, hm, hp, hafter⟩
      · rw [hnone, hp]
        rfl
      · rw [hm, hp, Option.map_some, Option.map_some, hafter]
    · rw [hsound.cash_sum]
      rcases hagrees market with ⟨hnone, hp⟩ | ⟨m, p, hm, hp, hafter⟩
      · rw [hnone, hp]
        rfl
      · rw [hm, hp, Option.map_some, Option.map_some, hafter]
  · obtain ⟨hpre, hL', hsound'⟩ := run_sound h' hL hsound
    obtain ⟨-, hread, -⟩ := hsound'.portfolios hL'
    exact ⟨hpre, hread⟩
  · have happends : Appends ledger call ledger (call.perform ledger).2 := perform_appends hL
    obtain ⟨hL', hsound'⟩ := happends.sound hfresh hL hsound
    have hlatest := hsound.latestPortfolio_eq hL market
    rw [Option.mem_def.mp hp] at hlatest
    obtain ⟨m, hm, hafter⟩ := Option.map_eq_some_iff.mp hlatest.symm
    have hlatest' := hsound'.latestPortfolio_eq hL' market
    rw [happends.other_market hcall hm, Option.map_some, hafter] at hlatest'
    obtain ⟨p, hp', heq⟩ := Option.map_eq_some_iff.mp hlatest'
    rw [hp', VirtualPortfolioState.eq_of_fields_eq heq]

/-- A buy leaves a sound journal: three movements, of which two are in Spot. -/
theorem opening_is_sound : ∃ portfolios,
    latestPortfolios ((WalletCall.run [] [openingCycle]).map (trimmed ·.movement)) =
        .ok portfolios ∧
      Chained (movementsOf (WalletCall.run [] [openingCycle]) .spot) ∧
      ((movementsOf (WalletCall.run [] [openingCycle]) .spot).map (·.cashDeltaUsdt)).sum =
        ((portfolios .spot).map (·.cashUsdt)).getD 0 := by
  have hrun : Run (StepIf FreshIds) [] [openingCycle] (WalletCall.run [] [openingCycle]) := by
    refine .single ⟨fun before hbefore after hafter _ => ?_, rfl⟩
    obtain rfl := Option.some.inj hbefore
    exact ⟨by decide, by decide, by simp⟩
  obtain ⟨⟨portfolios, -, hportfolios, hmarket⟩, -, -⟩ := wallet_journal_is_sound hrun
  exact ⟨portfolios, hportfolios, (hmarket .spot).1, (hmarket .spot).2.2⟩

/-- A cycle without a request that buys, under a snapshot id. -/
def buyingCycle (snapshotId : String) : WalletCall :=
  .recordCycle snapshotId (.aware 0)
    (some (.other (some (initialPortfolio .spot)) (some boughtWallet) "BOUGHT" none)) none

/-- A cycle without a request that sells again, under a snapshot id. -/
def sellingCycle (snapshotId : String) : WalletCall :=
  .recordCycle snapshotId (.aware 60000000)
    (some (.other (some boughtWallet) (some (initialPortfolio .spot)) "SOLD" none)) none

/-- A blank snapshot id, one that differs from another in white space at its end, and
`genesis`: each of the movements is appended, and the journal cannot be read any more. -/
theorem written_movement_is_unreadable :
    ((WalletCall.run [] [buyingCycle " "]).length = 3 ∧
      (readMovements (WalletCall.run [] [buyingCycle " "])).toOption = none) ∧
    ((WalletCall.run [] [buyingCycle "s1", sellingCycle "s1 "]).length = 4 ∧
      (readMovements (WalletCall.run [] [buyingCycle "s1", sellingCycle "s1 "])).toOption =
        none) ∧
    ((WalletCall.run [] [buyingCycle "genesis"]).length = 3 ∧
      (readMovements (WalletCall.run [] [buyingCycle "genesis"])).toOption = none) := by
  decide +kernel

end VirtualWalletJournal

end Ai4Binance
