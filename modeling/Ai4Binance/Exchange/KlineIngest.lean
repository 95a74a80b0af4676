/-
The ingest of raw messages (`PublicKlineIngestor.ingest` in `exchange/public_stream.py`).

The parser accepts trades that are numbered from zero, and the recovery machine sequences from one.

* `ingestMessage`: the ingest of a raw message;
* `Addressed`: what the claim on a message asks of its sender;
* `applyUpdate_ok_iff`, `ingest_ok_iff`: the updates and the messages that raise nothing;
* `ingest_returns_iff`: **a parsed message is ingested exactly when it is `Sequenced`**.
-/
import Ai4Binance.Exchange.KlineParser

open Check Text

namespace Ai4Binance

/-! ### Updates -/

namespace PublicStreamRecovery

variable [TzData] {s : PublicStreamRecovery} {first last queueDepth : ℤ} {t : ZonedDatetime}

/-- An update of a live connection returns when it is numbered from one, and there is a sequence to
compare it with or no place in the queue. -/
lemma applyUpdate_ok_iff (hlive : s.state = .live) (hle : first ≤ last) (hdepth : 0 ≤ queueDepth)
    (htime : s.lastEventAt.any t.lt = false) :
    (∃ transition, (s.applyUpdate first last (.aware t) queueDepth).2 = .ok transition) ↔
      1 ≤ first ∧ (s.policy.maximumQueueDepth < queueDepth ∨ s.lastSequence ≠ none) := by
  have hstate : s.requireState [.live] = .ok () := raiseIf_of_not (by simp [hlive])
  by_cases hfirst : 1 ≤ first
  · have hvalid : s.validateSequenceAndTime last (.aware t) = .ok t := by
      simp only [validateSequenceAndTime, requireAware, raiseIf_of_not (show ¬ last < 1 by omega),
        raiseIf_of_not (show ¬ s.lastEventAt.any t.lt by simp [htime]), ok_bind]
      rfl
    have hrange : ¬ (first < 1 ∨ first > last ∨ queueDepth < 0) := by omega
    simp only [applyUpdate, checked, hstate, hvalid, ok_bind, raiseIf_of_not hrange, pure,
      Except.pure, and_iff_right hfirst]
    split_ifs with hfull
    · exact iff_of_true ⟨_, rfl⟩ (.inl hfull)
    · cases hprevious : s.lastSequence with
      | none =>
          refine iff_of_false ?_ fun h => h.elim hfull fun hne => hne rfl
          rintro ⟨transition, hok⟩
          cases hok
      | some previous =>
          refine iff_of_true ?_ (.inr (Option.some_ne_none previous))
          dsimp only
          split_ifs <;> exact ⟨_, rfl⟩
  · refine iff_of_false ?_ fun h => hfirst h.1
    rintro ⟨transition, hok⟩
    rcases s.applyUpdate_cases first last t queueDepth with ⟨⟨error, herror⟩, -⟩ | ⟨hadmits, -⟩
    · rw [herror] at hok
      cases hok
    · exact hfirst hadmits.first_pos

end PublicStreamRecovery

/-! ### Raw messages -/

namespace PublicKlineIngestor

variable [TzData]

section Model

variable (φ : Type) [FloatText φ] [UnicodeData] [EpochTime.Gmtime] (limits : JsonLimits)
  (policy : BinanceSpotStreamPolicy) (s : PublicKlineIngestor)

/-- `ingest`: what the parser raises, or what follows it. -/
def ingestMessage (raw : RawMessage) (queueDepth : ℤ) :
    PublicKlineIngestor × Except (ParseError ⊕ IngestError) KlineIngestResult :=
  match parse φ limits policy raw with
  | .error error => (s, .error (.inl error))
  | .ok message =>
      ((s.ingest message queueDepth).1, (s.ingest message queueDepth).2.mapError .inr)

end Model

variable (s : PublicKlineIngestor)

/-- A message for the ingestor, of which the event time is not before the last accepted one.  A
shutdown is for every ingestor, and its time is not compared. -/
def Addressed : SpotStreamMessage → Prop
  | .serverShutdown _ => True
  | .kline k => k.symbol = s.symbol ∧ k.interval = s.interval ∧
      s.recovery.lastEventAt.any k.eventDatetime.lt = false

/-- The trades of a kline can be sequenced: it has none, or they are numbered from one and there is
a sequence to compare them with or no place in the queue. -/
def Sequenced (queueDepth : ℤ) : SpotStreamMessage → Prop
  | .serverShutdown _ => True
  | .kline k => k.tradeCount = 0 ∨ 1 ≤ k.firstTradeId ∧
      (s.recovery.policy.maximumQueueDepth < queueDepth ∨ s.recovery.lastSequence ≠ none)

variable {s} {k : SpotKlineUpdate} {message : SpotStreamMessage} {queueDepth : ℤ}

omit [TzData] in
lemma withoutCandle_ok (transition : StreamTransition) (update : Option SpotKlineUpdate)
    (blockers : List String) :
    ∃ result, (s.withoutCandle transition update blockers).2 = .ok result :=
  ⟨_, rfl⟩

omit [TzData] in
lemma asCandle_closed (h : k.isClosed = true) : k.asCandle = .ok k.candle := if_pos h

/-- A kline raises nothing when its trades can be sequenced. -/
lemma ingest_kline_ok_iff (hlive : s.recovery.state = .live) (hdepth : 0 ≤ queueDepth)
    (h : s.Addressed (.kline k)) :
    (∃ result, (s.ingest (.kline k) queueDepth).2 = .ok result) ↔
      s.Sequenced queueDepth (.kline k) := by
  obtain ⟨hsymbol, hinterval, htime⟩ := h
  simp only [ingest, hsymbol, hinterval, ne_eq, not_true_eq_false, or_self, if_false, Sequenced]
  by_cases htrades : k.tradeCount = 0
  · have hbounds : k.sequenceBounds = none := if_pos htrades
    have hstate : s.recovery.requireState [.live] = .ok () := raiseIf_of_not (by simp [hlive])
    rw [hbounds]
    refine iff_of_true ?_ (.inl htrades)
    simp only [PublicStreamRecovery.rejectUnsequencedUpdate, PublicStreamRecovery.checked, hstate]
    exact ⟨_, rfl⟩
  · have hbounds : k.sequenceBounds = some (k.firstTradeId, k.lastTradeId) := if_neg htrades
    rw [hbounds, or_iff_right htrades,
      ← PublicStreamRecovery.applyUpdate_ok_iff hlive (k.first_le_last htrades) hdepth htime]
    dsimp only
    rcases s.recovery.applyUpdate k.firstTradeId k.lastTradeId (.aware k.eventDatetime) queueDepth
      with ⟨recovery, error | transition⟩
    · refine iff_of_false ?_ ?_
      · rintro ⟨result, h⟩
        cases h
      · rintro ⟨transition, h⟩
        cases h
    · refine iff_of_true ?_ ⟨transition, rfl⟩
      simp only [through]
      by_cases hblockers : transition.blockers ≠ []
      · rw [if_pos hblockers]
        exact withoutCandle_ok _ _ _
      rw [if_neg hblockers]
      split_ifs with hopen hold
      · exact withoutCandle_ok _ _ _
      · exact withoutCandle_ok _ _ _
      · rw [asCandle_closed (by simpa using hopen)]
        exact ⟨_, rfl⟩

/-- A message raises nothing when its trades can be sequenced. -/
lemma ingest_ok_iff (hlive : s.recovery.state = .live) (hdepth : 0 ≤ queueDepth)
    (h : s.Addressed message) :
    (∃ result, (s.ingest message queueDepth).2 = .ok result) ↔ s.Sequenced queueDepth message := by
  cases message with
  | kline k => exact ingest_kline_ok_iff hlive hdepth h
  | serverShutdown t =>
      refine iff_of_true ?_ trivial
      have hstate : s.recovery.requireState [.syncingSnapshot, .live, .gapDetected, .backfilling] =
          .ok () := raiseIf_of_not (by simp [hlive])
      simp only [ingest, PublicStreamRecovery.serverShutdown, PublicStreamRecovery.checked, hstate]
      exact ⟨_, rfl⟩

/-- The candle of a message is that of a closed kline, of which the last trade is covered by the
sequence afterwards. -/
lemma closed_of_candle {result : KlineIngestResult} {c : OHLCVCandle}
    (h : (s.ingest message queueDepth).2 = .ok result) (hc : result.candle = some c) :
    ∃ k, message = .kline k ∧ k.isClosed = true ∧ c = k.candle ∧
      ∃ last, (s.ingest message queueDepth).1.recovery.lastSequence = some last ∧
        k.lastTradeId ≤ last := by
  cases message with
  | serverShutdown t =>
      simp only [ingest, through] at h
      split at h
      · cases h
      · rw [← Except.ok.inj h] at hc
        cases hc
  | kline k =>
      have heffect := ingest_kline s k queueDepth
      rw [h] at heffect
      refine ⟨k, rfl, ?_⟩
      generalize (s.ingest (.kline k) queueDepth).1 = t at heffect
      cases heffect with
      | blocked _ _ _ _ _ hcandle => cases hcandle.symm.trans hc
      | followed _ _ _ _ _ hcandle => cases hcandle.symm.trans hc
      | emits recovery _ _ _ hfollows hcandle _ hclosed _ =>
          refine ⟨hclosed, Option.some.inj (hc.symm.trans hcandle), ?_⟩
          cases hfollows with
          | stale hprevious hlast => exact ⟨_, hprevious, hlast⟩
          | next _ _ _ => exact ⟨_, rfl, le_rfl⟩

section Claim

variable (φ : Type) [FloatText φ] [UnicodeData] [EpochTime.Gmtime] (limits : JsonLimits)
  (policy : BinanceSpotStreamPolicy)

/-- A raw message is ingested, and a candle that comes of it is that of a closed kline, behind the
sequence of the recovery machine. -/
def Ingests (s : PublicKlineIngestor) (raw : RawMessage) (queueDepth : ℤ) : Prop :=
  ∃ result, (s.ingestMessage φ limits policy raw queueDepth).2 = .ok result ∧
    ∀ c, result.candle = some c → ∃ k, parse φ limits policy raw = .ok (.kline k) ∧
      k.isClosed = true ∧ c = k.candle ∧
      ∃ last, (s.ingestMessage φ limits policy raw queueDepth).1.recovery.lastSequence = some last ∧
        k.lastTradeId ≤ last

/-- **A parsed message is ingested** exactly when its trades can be sequenced. -/
theorem ingest_returns_iff {s : PublicKlineIngestor} (hlive : s.recovery.state = .live)
    {queueDepth : ℤ} (hdepth : 0 ≤ queueDepth) {raw : RawMessage} {message : SpotStreamMessage}
    (hparse : parse φ limits policy raw = .ok message) (h : s.Addressed message) :
    s.Ingests φ limits policy raw queueDepth ↔ s.Sequenced queueDepth message := by
  rw [← ingest_ok_iff hlive hdepth h]
  simp only [Ingests, ingestMessage, hparse]
  cases hresult : (s.ingest message queueDepth).2 with
  | error e =>
      refine iff_of_false ?_ ?_
      · rintro ⟨result, h, -⟩
        cases h
      · rintro ⟨result, h⟩
        cases h
  | ok result =>
      refine iff_of_true ⟨result, rfl, fun c hc => ?_⟩ ⟨result, rfl⟩
      obtain ⟨k, rfl, hk⟩ := closed_of_candle hresult hc
      exact ⟨k, rfl, hk⟩

end Claim

end PublicKlineIngestor

/-! ### Trades from zero and from one -/

namespace PublicKlineIngestor

/-- The message of a minute of trades, up to the eighth of them. -/
def minuteMessage (firstTradeId : String) : PyStr :=
  PyStr.of ("\x7b\"e\":\"kline\",\"E\":60000,\"s\":\"BTCUSDT\",\"k\":\x7b\"t\":0,\"T\":59999," ++
    "\"s\":\"BTCUSDT\",\"i\":\"1m\",\"f\":" ++ firstTradeId ++ ",\"L\":7,\"o\":\"1\",\"c\":\"1\"," ++
    "\"h\":\"1\",\"l\":\"1\",\"v\":\"8\",\"n\":7,\"x\":true\x7d\x7d")

/-- The fields of the message. -/
def minuteKline (firstTradeId : ℤ) : KlineFields where
  eventTime := 60000000
  symbol := "BTCUSDT"
  interval := "1m"
  openTime := 0
  closeTime := 59999000
  firstTradeId
  lastTradeId := 7
  «open» := 1
  high := 1
  low := 1
  close := 1
  volume := 8
  tradeCount := 7
  isClosed := true

/-- An ingestor behind a snapshot. -/
def behindSnapshot : PublicKlineIngestor where
  symbol := "BTCUSDT"
  interval := "1m"
  recovery := { liveIngestor.recovery with lastSequence := some 5 }

/-- **Trades from one** are ingested. -/
theorem from_one_ingested : ∃ h : (minuteMessage "1").Valid,
    @Ingests _ ℤ wholeFloats _ _ { maxDepth := 100 } {} behindSnapshot
      (.text (minuteMessage "1") h) 0 :=
  ⟨by decide +kernel, (@ingest_returns_iff _ ℤ wholeFloats _ _ { maxDepth := 100 } {}
    behindSnapshot rfl 0 le_rfl (.text (minuteMessage "1") (by decide +kernel))
    (.kline ⟨minuteKline 1, by decide +kernel⟩) (by decide +kernel)
    ⟨rfl, rfl, rfl⟩).mpr (.inr ⟨by decide, .inr nofun⟩)⟩

/-- **Trades from zero raise**: the parser accepts the message, and the recovery machine refuses
its first trade. -/
theorem from_zero_raises : ∃ h : (minuteMessage "0").Valid,
    @parse ℤ wholeFloats _ _ { maxDepth := 100 } {} (.text (minuteMessage "0") h) =
      .ok (.kline ⟨minuteKline 0, by decide +kernel⟩) ∧
    behindSnapshot.Addressed (.kline ⟨minuteKline 0, by decide +kernel⟩) ∧
    ¬ @Ingests _ ℤ wholeFloats _ _ { maxDepth := 100 } {} behindSnapshot
      (.text (minuteMessage "0") h) 0 := by
  have hparse : @parse ℤ wholeFloats _ _ { maxDepth := 100 } {}
      (.text (minuteMessage "0") (by decide +kernel)) =
        .ok (.kline ⟨minuteKline 0, by decide +kernel⟩) := by decide +kernel
  refine ⟨by decide +kernel, hparse, ⟨rfl, rfl, rfl⟩, ?_⟩
  rintro ⟨result, h, -⟩
  have hreturns : ∃ result, (behindSnapshot.ingest
      (.kline ⟨minuteKline 0, by decide +kernel⟩) 0).2 = .ok result := by
    rw [ingestMessage, hparse] at h
    dsimp only at h
    cases hresult : (behindSnapshot.ingest (.kline ⟨minuteKline 0, by decide +kernel⟩) 0).2 with
    | error e =>
        rw [hresult] at h
        cases h
    | ok result => exact ⟨result, rfl⟩
  rcases (ingest_kline_ok_iff rfl le_rfl ⟨rfl, rfl, rfl⟩).mp hreturns with hnone | ⟨hfirst, -⟩
  · exact absurd hnone (by decide)
  · exact absurd hfirst (by decide)

end PublicKlineIngestor

end Ai4Binance
