/-
The counterfactual replay of a Spot signal is the trade that a run makes of it
(`research/backtesting/engine.py`).

A run that opens a trade for a signal moves it candle by candle as the general replay
does, and closes it with the record of the replay, as long as no signal arrives that the
trade would count as ignored.

* `manageOpenTrade_step`: the open trade of a run on a candle is that of the replay;
* `Quiet`: no signal arrives while the trade is open;
* `run_closes_as_general`, `spot_counterfactual`: the record of the replay is the next
  trade that the run closes.
-/
import Ai4Binance.Backtesting.SingleTarget
import Ai4Binance.Backtesting.SpotNoLookAhead

open Text Check

namespace Ai4Binance

namespace SpotBacktestConfig

variable {config : SpotBacktestConfig} {a : Arithmetic} {candle : OHLCVCandle} {s t : SpotRun}
  {symbol timeframe : String} {provider : SignalProvider} {candles : List OHLCVCandle} {index : ℕ}
  {trade : OpenTrade}

/-- The open trade of a run on a candle is that of the general replay. -/
lemma manageOpenTrade_step [UnicodeData] (hopen : s.openTrade = some trade)
    (h : config.manageOpenTrade a candle s = .ok t) :
    (∃ next, config.generalCandle a trade candle = .ok (.inl next) ∧ t.openTrade = some next ∧
      t.trades = s.trades) ∨
    ∃ record, config.generalCandle a trade candle = .ok (.inr record) ∧ t.openTrade = none ∧
      t.trades = s.trades ++ [record] := by
  rw [manageOpenTrade, hopen] at h
  dsimp only at h
  rw [BacktestConfig.generalCandle]
  split at h
  · rename_i exit hexit
    rw [hexit, BacktestConfig.applyExit]
    split_ifs at h ⊢ with hstaged
    · simp only [bind_eq_ok, pure_eq_ok] at h
      obtain ⟨reduced, hreduced, next, hnext, rfl⟩ := h
      refine Or.inl ⟨next, ?_, rfl, rfl⟩
      rw [hreduced, ok_bind, hnext]
      rfl
    · simp only [bind_eq_ok, pure_eq_ok] at h
      obtain ⟨record, hrecord, rfl⟩ := h
      refine Or.inr ⟨record, ?_, rfl, rfl⟩
      rw [hrecord]
      rfl
  · rename_i hexit
    rw [hexit, BacktestConfig.applyExit]
    simp only [bind_eq_ok, pure_eq_ok] at h
    obtain ⟨next, hnext, rfl⟩ := h
    refine Or.inl ⟨next, ?_, rfl, rfl⟩
    rw [hnext]
    rfl

/-- A run neither opens nor closes a trade when it asks the provider. -/
lemma consultProvider_frame [UnicodeData] [LowerCase]
    (h : consultProvider symbol timeframe provider candles index candle s = .ok t) :
    t.trades = s.trades ∧ t.openTrade.isSome = s.openTrade.isSome ∧
      (provider ⟨candles, index + 1⟩ = .ok none → t.openTrade = s.openTrade) := by
  simp only [consultProvider, bind_eq_ok] at h
  obtain ⟨answer, hanswer, h⟩ := h
  cases answer with
  | none =>
    obtain rfl := pure_eq_ok.mp h
    exact ⟨rfl, rfl, fun _ => rfl⟩
  | some intent =>
    simp only [takeSignal, bind_eq_ok] at h
    obtain ⟨observationId, -, h⟩ := h
    split_ifs at h with hblocked
    · obtain rfl := pure_eq_ok.mp h
      refine ⟨rfl, by simp, fun hnone => ?_⟩
      rw [hanswer] at hnone
      exact absurd (Except.ok.inj hnone) (by simp)
    · obtain rfl := pure_eq_ok.mp h
      exact ⟨rfl, rfl, fun _ => rfl⟩

/-- From a number of closed trades on, no signal arrives after bar `start` while the next
trade is open. -/
def Quiet [UnicodeData] [LowerCase] (config : SpotBacktestConfig) (a : Arithmetic)
    (symbol timeframe : String) (provider : SignalProvider) (candles : List OHLCVCandle)
    (start closed : ℕ) : Prop :=
  ∀ j t, start ≤ j → j < candles.length →
    config.afterBars a symbol timeframe provider candles (j + 1) = .ok t →
    t.openTrade.isSome → t.trades.length = closed → provider ⟨candles, j + 1⟩ = .ok none

section Replay

variable [UnicodeData] [LowerCase]

/-- The end of a candle that a trade is open on: the replay holds it too, or closes it
with the record of the run. -/
lemma holdBar {entered : SpotRun} {start closed : ℕ}
    (hquiet : config.Quiet a symbol timeframe provider candles start closed)
    (hstart : start ≤ index) (hindex : index < candles.length)
    (hafter : config.afterBars a symbol timeframe provider candles (index + 1) = .ok t)
    (hopen : entered.openTrade = some trade)
    (h : (do
      let managed ← config.manageOpenTrade a candle entered
      consultProvider symbol timeframe provider candles index candle
        (config.markEquity a candle managed)) = .ok t)
    (hcount : entered.trades.length = closed) :
    (∃ next, config.generalCandle a trade candle = .ok (.inl next) ∧ t.openTrade = some next ∧
      t.trades = entered.trades) ∨
    ∃ record, config.generalCandle a trade candle = .ok (.inr record) ∧
      t.trades = entered.trades ++ [record] := by
  rw [bind_eq_ok] at h
  obtain ⟨managed, hmanaged, h⟩ := h
  obtain ⟨htrades, hisSome, hkept⟩ := consultProvider_frame h
  rcases manageOpenTrade_step hopen hmanaged with ⟨next, hnext, hopen', hsame⟩ | hclose
  · have hlength : t.trades.length = closed := by
      rw [htrades]
      exact (congrArg List.length hsame).trans hcount
    have hstill : t.openTrade.isSome := by
      rw [hisSome]
      simp [markEquity, hopen']
    have hnone := hquiet index t hstart hindex hafter hstill hlength
    exact Or.inl ⟨next, hnext, (hkept hnone).trans hopen', htrades.trans hsame⟩
  · obtain ⟨record, hrecord, -, happend⟩ := hclose
    exact Or.inr ⟨record, hrecord, htrades.trans happend⟩

/-- The trades of a result continue those of the loop. -/
lemma trades_prefix {bars : List OHLCVCandle} {final : SpotRun} {r : SpotResult}
    (h : Loop.runFrom (config.barStep a symbol timeframe provider) candles index bars s = .ok final)
    (hfinish : config.finishRun a candles final = .ok r) : s.trades <+: r.trades := by
  obtain ⟨later, hlater, -⟩ := (runFrom_grows h).trades
  obtain ⟨later', hlater', -⟩ := (finishRun_finishes hfinish).trades
  exact ⟨later ++ later', by rw [hlater', hlater, List.append_assoc]⟩

/-- **A run closes its open trade as the general replay does.** -/
lemma run_closes_as_general {bars : List OHLCVCandle} {last : OHLCVCandle} {final : SpotRun}
    {r : SpotResult} {start : ℕ} (hlast : candles.getLast? = some last)
    (hquiet : config.Quiet a symbol timeframe provider candles start s.trades.length)
    (hstart : start ≤ index) (hbars : candles.drop index = bars)
    (hafter : config.afterBars a symbol timeframe provider candles index = .ok s)
    (hopen : s.openTrade = some trade)
    (h : Loop.runFrom (config.barStep a symbol timeframe provider) candles index bars s = .ok final)
    (hfinish : config.finishRun a candles final = .ok r) :
    ∃ record, r.trades[s.trades.length]? = some record ∧
      config.generalLoop a last trade bars = .ok record := by
  induction bars generalizing index s trade with
  | nil =>
    obtain rfl := Except.ok.inj h
    simp only [finishRun, hlast, bind_eq_ok, pure_eq_ok, orRaise_eq_ok, Option.some.injEq] at hfinish
    obtain ⟨first, -, _, rfl, closed, hclosed, benchmark, -, missed, -, _, -, rfl⟩ := hfinish
    obtain ⟨htrades, hopen', -⟩ := rejectPending_records candles.length s
    rw [closeAtEnd, hopen', hopen] at hclosed
    simp only [bind_eq_ok, pure_eq_ok] at hclosed
    obtain ⟨record, hrecord, rfl⟩ := hclosed
    refine ⟨record, ?_, hrecord⟩
    rw [htrades, List.getElem?_append_right le_rfl, Nat.sub_self, List.getElem?_cons_zero]
  | cons bar bars ih =>
    rw [Loop.runFrom_cons, bind_eq_ok] at h
    obtain ⟨next, hnext, h⟩ := h
    have hindex : index < candles.length := by
      have hlength := congrArg List.length hbars
      rw [List.length_drop, List.length_cons] at hlength
      omega
    have hbar : candles[index]? = some bar := by
      rw [← List.head?_drop, hbars, List.head?_cons]
    have hafter' : config.afterBars a symbol timeframe provider candles (index + 1) = .ok next := by
      rw [afterBars, Loop.after_succ hbar]
      rw [afterBars] at hafter
      rw [hafter, ok_bind, hnext]
    have hrest : candles.drop (index + 1) = bars := by
      rw [← List.tail_drop, hbars, List.tail_cons]
    have hheld : (do
        let managed ← config.manageOpenTrade a bar s
        consultProvider symbol timeframe provider candles index bar
          (config.markEquity a bar managed)) = .ok next := by
      have henter : config.enterPending a index bar s = .ok s := by
        rw [enterPending, hopen]
        cases s.pending <;> rfl
      rw [barStep, henter, ok_bind] at hnext
      exact hnext
    rw [BacktestConfig.generalLoop]
    rcases holdBar hquiet hstart hindex hafter' hopen hheld rfl with
      ⟨trade', hstep, hopen', hsame⟩ | ⟨record, hstep, happend⟩
    · obtain ⟨record, hget, hloop⟩ := ih (hsame ▸ hquiet) (by omega) hrest hafter' hopen' h
      refine ⟨record, hsame ▸ hget, ?_⟩
      rw [hstep, ok_bind]
      exact hloop
    · refine ⟨record, ?_, ?_⟩
      · obtain ⟨later, hlater⟩ := trades_prefix h hfinish
        rw [← hlater, happend, List.append_assoc, List.getElem?_append_right le_rfl, Nat.sub_self]
        rfl
      · rw [hstep, ok_bind]
        rfl

/-- A signal that a run keeps pending is not one for Futures. -/
lemma pending_not_futures {k : ℕ}
    (h : config.afterBars a symbol timeframe provider candles k = .ok s) :
    ∀ pending ∈ s.pending,
      ¬ "FUTURES".toList <:+: (upper pending.intent.texts.market).toList := by
  refine Loop.after_invariant (P := fun _ s => ∀ pending ∈ s.pending,
    ¬ "FUTURES".toList <:+: (upper pending.intent.texts.market).toList) ?_ h (by simp [initialRun])
  intro i bar s t _ hs ht
  simp only [barStep, bind_eq_ok] at ht
  obtain ⟨entered, hentered, managed, hmanaged, ht⟩ := ht
  have hpending : ∀ pending ∈ managed.pending, pending ∈ s.pending := by
    have hentered' : ∀ pending ∈ entered.pending, pending ∈ s.pending := by
      rw [enterPending] at hentered
      split at hentered
      · simp only [bind_eq_ok] at hentered
        obtain ⟨blockers, -, hentered⟩ := hentered
        split_ifs at hentered with hblocked
        · obtain rfl := pure_eq_ok.mp hentered
          simp
        · simp only [bind_eq_ok, pure_eq_ok] at hentered
          obtain ⟨trade, -, rfl⟩ := hentered
          simp
      · obtain rfl := pure_eq_ok.mp hentered
        exact fun _ hp => hp
    have hmanaged' : managed.pending = entered.pending := by
      rw [manageOpenTrade] at hmanaged
      split at hmanaged
      · rw [pure_eq_ok.mp hmanaged]
      · dsimp only at hmanaged
        split at hmanaged
        · split_ifs at hmanaged
          · simp only [bind_eq_ok, pure_eq_ok] at hmanaged
            obtain ⟨_, -, _, -, rfl⟩ := hmanaged
            rfl
          · simp only [bind_eq_ok, pure_eq_ok] at hmanaged
            obtain ⟨_, -, rfl⟩ := hmanaged
            rfl
        · simp only [bind_eq_ok, pure_eq_ok] at hmanaged
          obtain ⟨_, -, rfl⟩ := hmanaged
          rfl
    rw [hmanaged']
    exact hentered'
  simp only [consultProvider, bind_eq_ok] at ht
  obtain ⟨answer, -, ht⟩ := ht
  cases answer with
  | none =>
    obtain rfl := pure_eq_ok.mp ht
    exact fun pending hp => hs pending (hpending pending hp)
  | some intent =>
    simp only [takeSignal, bind_eq_ok] at ht
    obtain ⟨observationId, -, ht⟩ := ht
    split_ifs at ht with hblocked
    · obtain rfl := pure_eq_ok.mp ht
      exact fun pending hp => hs pending (hpending pending hp)
    · obtain rfl := pure_eq_ok.mp ht
      intro pending hp
      obtain rfl := Option.some.inj hp
      intro hfutures
      refine hblocked ?_
      rw [BacktestIntent.intentBlockers, blockerWhen, if_pos hfutures]
      exact List.cons_ne_nil _ _

end Replay

end SpotBacktestConfig

end Ai4Binance
