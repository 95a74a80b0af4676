/-
Single use of an authorization.

A call contacts the exchange only between its claim and its order, and the claim
puts both unique values of its envelope into the ledger, from which nothing is
ever removed.  Hence at most one call at a time is in that stretch for a given
value, and once it has left it no call enters it again.

* `advance_cases`: what one step of a call can do;
* `Consistent`: the invariant of the shared state;
* `IsOpen`: a value for which an order may still be placed;
* `ResolvedAfterClaim`: the second resolution in the history of a call;
* `single_use_authorization`: the result about every interleaving.
-/
import Ai4Binance.Execution.GatedPlace

open Text Check

namespace Ai4Binance

variable [UnicodeData] [CanonicalDigest ExecutionAuthorizationEnvelope] [CanonicalDigest Payload]

namespace PlacePhase

/-- The call has claimed its envelope and not yet placed the order. -/
def Active : PlacePhase → Prop
  | claimed _ | revalidated _ | tested _ => True
  | _ => False

/-- The command of a call that has built it and is still going. -/
def command? : PlacePhase → Option SpotOrderCommand
  | ready c | claimed c | revalidated c | tested c | placed c _ => some c
  | _ => none

end PlacePhase

/-! ### What one step of a call can do -/

/-- The command prepared for the claim is that of the envelope. -/
lemma prepare_command {call : PlaceCall}
    {found : Except QueueError (Option ExecutionAuthorizationEnvelope)} {evidence : GateEvidence}
    {command : SpotOrderCommand} (h : call.prepare found evidence = .inr command) :
    ∃ e, call.authorization = some e ∧ e.toSpotOrderCommand = .ok command := by
  rw [PlaceCall.prepare] at h
  split at h
  · cases h
  rename_i e he
  refine ⟨e, he, ?_⟩
  split at h
  · cases h
  rename_i c hc
  split at h
  · cases h
  dsimp only at h
  split_ifs at h
  rw [hc, Sum.inr.inj h]

/-- Anything but the envelope itself ends the call. -/
lemma afterResolution_of_not {e : ExecutionAuthorizationEnvelope} (command : SpotOrderCommand)
    {found : Except QueueError (Option ExecutionAuthorizationEnvelope)}
    (h : ¬ ∃ resolved, found = .ok (some resolved) ∧ resolved.envelopeSha256 = e.envelopeSha256) :
    ∃ result, afterResolution e command found = .finished result := by
  unfold afterResolution
  split
  · exact ⟨_, rfl⟩
  · rename_i resolved
    rw [if_neg fun hsha => h ⟨resolved, rfl, hsha⟩]
    exact ⟨_, rfl⟩
  · exact ⟨_, rfl⟩

/-- The four kinds of steps: the preparation, a claim that goes through, a step
that ends the call, and a step towards the order. -/
lemma advance_cases {call : PlaceCall} {ledger ledger' : AuthorizationLedger}
    {queue : List QueueLine} {phase phase' : PlacePhase} {input : PlaceInput}
    (h : call.advance ledger queue phase input = some (phase', ledger')) :
    (∃ readable evidence command e, phase = .start ∧ input = .resolve readable evidence ∧
      phase' = .ready command ∧ ledger' = ledger ∧ call.authorization = some e ∧
      e.toSpotOrderCommand = .ok command) ∨
    (∃ command e row, phase = .ready command ∧ input = .claim .inserted ∧
      phase' = .claimed command ∧ call.authorization = some e ∧
      (∀ column : UniqueColumn, column.ofRow row = column.ofEnvelope e) ∧
      ledger.insert? row = some ledger') ∨
    (∃ result, phase' = .finished result ∧ ledger' = ledger ∧ input ≠ .claim .inserted ∧
      (input = .claim .consumed → ∃ e, ∃ column : UniqueColumn, call.authorization = some e ∧
        column.ofEnvelope e ∈ ledger.values column) ∧
      (∀ readable, input = .resolveAgain readable → phase.Active) ∧
      (∀ returns, input = .orderTest returns → phase.Active) ∧
      (∀ answer, input = .orderPlace answer → ∃ command, phase = .tested command)) ∨
    (∃ command e, ledger' = ledger ∧ call.authorization = some e ∧
      ((∃ readable resolved, phase = .claimed command ∧ input = .resolveAgain readable ∧
          phase' = .revalidated command ∧ resolution queue readable e = .ok (some resolved) ∧
          resolved.envelopeSha256 = e.envelopeSha256) ∨
        (phase = .revalidated command ∧ input = .orderTest true ∧ phase' = .tested command) ∨
        (∃ orderId, phase = .tested command ∧ input = .orderPlace (some orderId) ∧
          phase' = .placed command orderId))) := by
  unfold PlaceCall.advance at h
  split at h
  · -- the preparation
    rename_i readable evidence
    dsimp only at h
    split at h
    · rename_i result _
      obtain ⟨rfl, rfl⟩ := Prod.mk.inj (Option.some.inj h)
      exact .inr (.inr (.inl ⟨result, rfl, rfl, by simp, by simp, by simp, by simp, by simp⟩))
    · rename_i command hprep
      obtain ⟨rfl, rfl⟩ := Prod.mk.inj (Option.some.inj h)
      obtain ⟨e, he, hcommand⟩ := prepare_command hprep
      exact .inl ⟨readable, evidence, command, e, rfl, rfl, rfl, rfl, he, hcommand⟩
  · -- the claim
    rename_i command outcome e he
    obtain ⟨ledger'', hledger, heq⟩ := Option.map_eq_some_iff.mp h
    obtain ⟨rfl, rfl⟩ := Prod.mk.inj heq
    cases outcome with
    | inserted =>
      exact .inr (.inl ⟨command, e, _, rfl, rfl, rfl, he,
        fun column => AuthorizationLedger.ofRow_rowFor column e _ _, hledger⟩)
    | consumed =>
      simp only [claimLedger] at hledger
      split_ifs at hledger with hnone
      obtain ⟨column, hcolumn⟩ := AuthorizationLedger.insert?_eq_none hnone
      rw [AuthorizationLedger.ofRow_rowFor] at hcolumn
      exact .inr (.inr (.inl ⟨_, rfl, (Option.some.inj hledger).symm, by simp,
        fun _ => ⟨e, column, he, hcolumn⟩, by simp, by simp, by simp⟩))
    | unavailable =>
      exact .inr (.inr (.inl ⟨_, rfl, (Option.some.inj hledger).symm, by simp, by simp, by simp,
        by simp, by simp⟩))
  · -- the second resolution
    rename_i command readable e he
    obtain ⟨hphase, rfl⟩ := Prod.mk.inj (Option.some.inj h)
    by_cases hok : ∃ resolved, resolution queue readable e = .ok (some resolved) ∧
        resolved.envelopeSha256 = e.envelopeSha256
    · obtain ⟨resolved, hres, hsha⟩ := hok
      rw [hres, afterResolution, if_pos hsha] at hphase
      exact .inr (.inr (.inr ⟨command, e, rfl, he,
        .inl ⟨readable, resolved, rfl, rfl, hphase.symm, hres, hsha⟩⟩))
    · obtain ⟨result, hresult⟩ := afterResolution_of_not command hok
      exact .inr (.inr (.inl ⟨result, hphase.symm.trans hresult, rfl, by simp, by simp,
        fun _ _ => trivial, by simp, by simp⟩))
  · -- `order_test`
    rename_i command returns e he
    obtain ⟨hphase, rfl⟩ := Prod.mk.inj (Option.some.inj h)
    cases returns with
    | true =>
      exact .inr (.inr (.inr ⟨command, e, rfl, he, .inr (.inl ⟨rfl, rfl, hphase.symm⟩)⟩))
    | false =>
      exact .inr (.inr (.inl ⟨_, hphase.symm, rfl, by simp, by simp, by simp,
        fun _ _ => trivial, by simp⟩))
  · -- `order_place`
    rename_i command answer e he
    obtain ⟨hphase, rfl⟩ := Prod.mk.inj (Option.some.inj h)
    cases answer with
    | some orderId =>
      exact .inr (.inr (.inr ⟨command, e, rfl, he, .inr (.inr ⟨orderId, rfl, rfl, hphase.symm⟩)⟩))
    | none =>
      exact .inr (.inr (.inl ⟨_, hphase.symm, rfl, by simp, by simp, by simp, by simp,
        fun _ _ => ⟨command, rfl⟩⟩))
  · -- the read-back
    rename_i command orderId verification e he
    obtain ⟨hphase, rfl⟩ := Prod.mk.inj (Option.some.inj h)
    cases verification with
    | none =>
      exact .inr (.inr (.inl ⟨_, hphase.symm, rfl, by simp, by simp, by simp, by simp, by simp⟩))
    | some v =>
      exact .inr (.inr (.inl ⟨_, hphase.symm, rfl, by simp, by simp, by simp, by simp, by simp⟩))
  · cases h

/-! ### The invariant -/

namespace Placement

variable {ι : Type} [DecidableEq ι] {calls : ι → PlaceCall} {w w' : World ι} {l : Label ι}

/-- The value of a call's envelope in a unique column. -/
def valueOf (calls : ι → PlaceCall) (column : UniqueColumn) (i : ι) : Option String :=
  (calls i).authorization.map column.ofEnvelope

/-- The shared state: every call works on the command of its envelope, the ledger
knows the envelope of every call between claim and order, and no two such calls
agree in a unique value. -/
structure Consistent (calls : ι → PlaceCall) (w : World ι) : Prop where
  command : ∀ i command, (w.phase i).command? = some command →
    ∃ e, (calls i).authorization = some e ∧ e.toSpotOrderCommand = .ok command
  recorded : ∀ i column value, (w.phase i).Active → valueOf calls column i = some value →
    value ∈ w.ledger.values column
  exclusive : ∀ i j column value, (w.phase i).Active → (w.phase j).Active →
    valueOf calls column i = some value → valueOf calls column j = some value → i = j

/-- A step of a call changes its own phase only, and either claims new values or
leaves the ledger alone without making the call active. -/
lemma act_cases {i : ι} {input : PlaceInput} (h : Step calls w (.act i input) w') :
    (∀ j, j ≠ i → w'.phase j = w.phase j) ∧ w'.queue = w.queue ∧
      (calls i).advance w.ledger w.queue (w.phase i) input = some (w'.phase i, w'.ledger) := by
  obtain ⟨⟨phase, ledger⟩, hadv, rfl⟩ := Option.map_eq_some_iff.mp h
  refine ⟨fun j hj => Function.update_of_ne hj _ _, rfl, ?_⟩
  simpa using hadv

/-- What a step does to the ledger and to the active calls. -/
lemma act_effect {i : ι} {input : PlaceInput} (h : Step calls w (.act i input) w') :
    (input = .claim .inserted ∧ ∃ e, (calls i).authorization = some e ∧
        ∀ column : UniqueColumn, column.ofEnvelope e ∉ w.ledger.values column ∧
          w'.ledger.values column = column.ofEnvelope e :: w.ledger.values column) ∨
      (input ≠ .claim .inserted ∧ w'.ledger = w.ledger ∧
        ((w'.phase i).Active → (w.phase i).Active)) := by
  obtain ⟨-, -, hadv⟩ := act_cases h
  rcases advance_cases hadv with ⟨_, _, command, _, -, rfl, hphase, hledger, -⟩ |
    ⟨command, e, row, -, hinput, -, he, hrow, hinsert⟩ | ⟨result, hphase, hledger, hne, -⟩ |
    ⟨command, e, hledger, -, hmove⟩
  · exact .inr ⟨by simp, hledger, fun hact => by simp [hphase, PlacePhase.Active] at hact⟩
  · refine .inl ⟨hinput, e, he, fun column => ?_⟩
    rw [← hrow column]
    exact AuthorizationLedger.insert?_eq_some hinsert column
  · exact .inr ⟨hne, hledger, fun hact => by simp [hphase, PlacePhase.Active] at hact⟩
  · rcases hmove with ⟨_, _, hfrom, rfl, -⟩ | ⟨hfrom, rfl, -⟩ | ⟨_, hfrom, rfl, -⟩
    all_goals exact .inr ⟨by simp, hledger, fun _ => by simp [hfrom, PlacePhase.Active]⟩

/-- Nothing is ever removed from the ledger. -/
lemma values_subset (h : Step calls w l w') (column : UniqueColumn) :
    w.ledger.values column ⊆ w'.ledger.values column := by
  cases l with
  | append line =>
    obtain rfl := Option.some.inj h
    exact List.Subset.refl _
  | act i input =>
    rcases act_effect h with ⟨-, e, -, hvalues⟩ | ⟨-, hledger, -⟩
    · rw [(hvalues column).2]
      exact List.subset_cons_self _ _
    · rw [hledger]
      exact List.Subset.refl _

/-- A call that is active after a step was active before it, or has just claimed
values that were new. -/
lemma active_before {j : ι} (h : Step calls w l w') (hact : (w'.phase j).Active) :
    (w.phase j).Active ∨ ∀ column value, valueOf calls column j = some value →
      value ∉ w.ledger.values column ∧ value ∈ w'.ledger.values column := by
  cases l with
  | append line =>
    obtain rfl := Option.some.inj h
    exact .inl hact
  | act i input =>
    by_cases hj : j = i
    · subst hj
      rcases act_effect h with ⟨-, e, he, hvalues⟩ | ⟨-, -, hback⟩
      · refine .inr fun column value hvalue => ?_
        obtain rfl : column.ofEnvelope e = value := by simpa [valueOf, he] using hvalue
        rw [(hvalues column).2]
        exact ⟨(hvalues column).1, List.mem_cons_self⟩
      · exact .inl (hback hact)
    · rw [(act_cases h).1 j hj] at hact
      exact .inl hact

/-- Two calls cannot both have become active by the same step. -/
lemma active_before_of_ne {i j : ι} (h : Step calls w l w') (hij : i ≠ j)
    (hi : (w'.phase i).Active) (hj : (w'.phase j).Active) :
    (w.phase i).Active ∨ (w.phase j).Active := by
  cases l with
  | append line =>
    obtain rfl := Option.some.inj h
    exact .inl hi
  | act k input =>
    by_cases hk : i = k
    · rw [(act_cases h).1 j (hk ▸ hij.symm)] at hj
      exact .inr hj
    · rw [(act_cases h).1 i hk] at hi
      exact .inl hi

/-- The command of a call stays that of its envelope. -/
lemma command_step {j : ι} {command : SpotOrderCommand} (h : Step calls w l w')
    (hw : Consistent calls w) (hcommand : (w'.phase j).command? = some command) :
    ∃ e, (calls j).authorization = some e ∧ e.toSpotOrderCommand = .ok command := by
  cases l with
  | append line =>
    obtain rfl := Option.some.inj h
    exact hw.command j command hcommand
  | act i input =>
    obtain ⟨hother, -, hadv⟩ := act_cases h
    by_cases hj : j = i
    swap
    · rw [hother j hj] at hcommand
      exact hw.command j command hcommand
    subst hj
    have hkept : ∀ c, (w.phase j).command? = some c → (w'.phase j).command? = some c →
        ∃ e, (calls j).authorization = some e ∧ e.toSpotOrderCommand = .ok command := by
      intro c hc hc'
      obtain rfl : command = c := Option.some.inj (hcommand.symm.trans hc')
      exact hw.command j command hc
    rcases advance_cases hadv with ⟨_, _, c, e, -, -, hphase, -, he, hc⟩ |
      ⟨c, _, _, hfrom, -, hphase, -⟩ | ⟨result, hphase, -⟩ | ⟨c, _, -, -, hmove⟩
    · obtain rfl : c = command := by simpa [hphase, PlacePhase.command?] using hcommand
      exact ⟨e, he, hc⟩
    · exact hkept c (by simp [hfrom, PlacePhase.command?]) (by simp [hphase, PlacePhase.command?])
    · simp [hphase, PlacePhase.command?] at hcommand
    · rcases hmove with ⟨_, _, hfrom, -, hphase, -⟩ | ⟨hfrom, -, hphase⟩ | ⟨_, hfrom, -, hphase⟩
      all_goals
        exact hkept c (by simp [hfrom, PlacePhase.command?])
          (by simp [hphase, PlacePhase.command?])

lemma consistent_step (h : Step calls w l w') (hw : Consistent calls w) :
    Consistent calls w' := by
  have hrecorded : ∀ i column value, (w'.phase i).Active → valueOf calls column i = some value →
      value ∈ w'.ledger.values column := by
    intro i column value hact hvalue
    rcases active_before h hact with hbefore | hnew
    · exact values_subset h column (hw.recorded i column value hbefore hvalue)
    · exact (hnew column value hvalue).2
  -- a call that has just claimed a value shares it with no active call
  have hfresh : ∀ i j column value, (w'.phase i).Active → (w.phase j).Active →
      valueOf calls column i = some value → valueOf calls column j = some value →
      (w.phase i).Active := by
    intro i j column value hi hj hvi hvj
    rcases active_before h hi with hbefore | hnew
    · exact hbefore
    · exact absurd (hw.recorded j column value hj hvj) (hnew column value hvi).1
  refine ⟨fun j command => command_step h hw, hrecorded, ?_⟩
  intro i j column value hi hj hvi hvj
  by_contra hij
  rcases active_before_of_ne h hij hi hj with hbefore | hbefore
  · exact hij (hw.exclusive i j column value hbefore
      (hfresh j i column value hj hbefore hvj hvi) hvi hvj)
  · exact hij (hw.exclusive i j column value (hfresh i j column value hi hbefore hvi hvj)
      hbefore hvi hvj)

omit [CanonicalDigest ExecutionAuthorizationEnvelope] [CanonicalDigest Payload] [DecidableEq ι] in
/-- Where every call is about to start, the invariant holds. -/
lemma consistent_start (h : ∀ i, w.phase i = .start) : Consistent calls w where
  command i command hc := by simp [h i, PlacePhase.command?] at hc
  recorded i column value hact := by simp [h i, PlacePhase.Active] at hact
  exclusive i j column value hact := by simp [h i, PlacePhase.Active] at hact

/-! ### At most once -/

/-- An order may still be placed for the value: the ledger does not know it, or a
call that has claimed it has not placed its order yet. -/
def IsOpen (calls : ι → PlaceCall) (column : UniqueColumn) (value : String) (w : World ι) :
    Prop :=
  value ∉ w.ledger.values column ∨
    ∃ i, (w.phase i).Active ∧ valueOf calls column i = some value

/-- The label is a call of `order_place` under the value. -/
def places (calls : ι → PlaceCall) (column : UniqueColumn) (value : String) : Label ι → Bool
  | .act i (.orderPlace _) => valueOf calls column i = some value
  | _ => false

lemma isOpen_before {column : UniqueColumn} {value : String} (h : Step calls w l w')
    (hopen : IsOpen calls column value w') : IsOpen calls column value w := by
  rcases hopen with hnew | ⟨i, hact, hvalue⟩
  · exact .inl fun hmem => hnew (values_subset h column hmem)
  · rcases active_before h hact with hbefore | hnew
    · exact .inr ⟨i, hbefore, hvalue⟩
    · exact .inl (hnew column value hvalue).1

/-- A call leaves the stretch between claim and order for good: afterwards its
values are closed. -/
lemma closed_of_inactive {column : UniqueColumn} {value : String} {i : ι} {input : PlaceInput}
    (h : Step calls w (.act i input) w') (hw : Consistent calls w) (hact : (w.phase i).Active)
    (hafter : ¬ (w'.phase i).Active) (hvalue : valueOf calls column i = some value) :
    ¬ IsOpen calls column value w' := by
  have hmem := values_subset h column (hw.recorded i column value hact hvalue)
  rintro (hnew | ⟨j, hj, hvj⟩)
  · exact hnew hmem
  · have hji : j ≠ i := by
      rintro rfl
      exact hafter hj
    rw [(act_cases h).1 j hji] at hj
    exact hji (hw.exclusive j i column value hj hact hvj hvalue)

/-- `order_place` is called by an active call, which is not active afterwards. -/
lemma orderPlace_phase {i : ι} {answer : Option String}
    (h : Step calls w (.act i (.orderPlace answer)) w') :
    (∃ command, w.phase i = .tested command) ∧ ¬ (w'.phase i).Active := by
  obtain ⟨-, -, hadv⟩ := act_cases h
  rcases advance_cases hadv with ⟨_, _, _, _, -, hinput, -⟩ | ⟨_, _, _, -, hinput, -⟩ |
    ⟨result, hphase, -, -, -, -, -, hplace⟩ | ⟨command, _, -, -, hmove⟩
  · cases hinput
  · cases hinput
  · exact ⟨hplace answer rfl, by simp [hphase, PlacePhase.Active]⟩
  · rcases hmove with ⟨_, _, -, hinput, -⟩ | ⟨-, hinput, -⟩ | ⟨orderId, hfrom, -, hphase⟩
    · cases hinput
    · cases hinput
    · exact ⟨⟨command, hfrom⟩, by simp [hphase, PlacePhase.Active]⟩

/-- The steps of a consistent system. -/
def SafeStep (calls : ι → PlaceCall) (w : World ι) (l : Label ι) (w' : World ι) : Prop :=
  Step calls w l w' ∧ Consistent calls w

lemma safeStep_places {column : UniqueColumn} {value : String}
    (h : SafeStep calls w l w') (hl : places calls column value l) :
    IsOpen calls column value w ∧ ¬ IsOpen calls column value w' := by
  obtain ⟨hstep, hw⟩ := h
  cases l with
  | append line => simp [places] at hl
  | act i input =>
    cases input with
    | orderPlace answer =>
      have hvalue : valueOf calls column i = some value := by simpa [places] using hl
      obtain ⟨⟨command, htested⟩, hafter⟩ := orderPlace_phase hstep
      have hact : (w.phase i).Active := by simp [htested, PlacePhase.Active]
      exact ⟨.inr ⟨i, hact, hvalue⟩, closed_of_inactive hstep hw hact hafter hvalue⟩
    | _ => simp [places] at hl

/-- A run from a consistent state is a run of a consistent system. -/
lemma safeRun {labels : List (Label ι)} (h : Run (Step calls) w labels w')
    (hw : Consistent calls w) : Run (SafeStep calls) w labels w' := by
  induction h with
  | nil s => exact .nil s
  | cons hst _ ih => exact .cons ⟨hst, hw⟩ (ih (consistent_step hst hw))

lemma countP_places {column : UniqueColumn} {value : String} {labels : List (Label ι)}
    (h : Run (Step calls) w labels w') (hw : Consistent calls w) :
    labels.countP (places calls column value) ≤ 1 ∧
      (¬ IsOpen calls column value w → labels.countP (places calls column value) = 0) :=
  Run.countP_le_one (IsOpen calls column value) safeStep_places
    (fun hst => isOpen_before hst.1) (safeRun h hw)

/-! ### The history of an order -/

/-- A line of the queue was there at the start or has been appended. -/
lemma mem_queue {s : World ι} {labels : List (Label ι)} {line : QueueLine}
    (h : Run (Step calls) s labels w) (hline : line ∈ w.queue) :
    line ∈ s.queue ∨ .append line ∈ labels := by
  induction h with
  | nil s => exact .inl hline
  | @cons s t u l labels hst _ ih =>
    rcases ih hline with hmem | hmem
    · cases l with
      | append line' =>
        obtain rfl := Option.some.inj hst
        rcases List.mem_append.mp hmem with hmem | hmem
        · exact .inl hmem
        · obtain rfl := List.mem_singleton.mp hmem
          exact .inr List.mem_cons_self
      | act i input =>
        rw [(act_cases hst).2.1] at hmem
        exact .inl hmem
    · exact .inr (List.mem_cons_of_mem _ hmem)

/-- A call between claim and order has claimed. -/
lemma claim_mem {s : World ι} {labels : List (Label ι)} (h : Run (Step calls) s labels w)
    (hstart : ∀ i, s.phase i = .start) {i : ι} (hact : (w.phase i).Active) :
    .act i (.claim .inserted) ∈ labels := by
  induction labels using List.reverseRecOn generalizing w with
  | nil =>
    obtain rfl := run_nil_iff.mp h
    simp [hstart i, PlacePhase.Active] at hact
  | append_singleton labels l ih =>
    obtain ⟨t, hrun, hst⟩ := run_snoc_iff.mp h
    by_cases hbefore : (t.phase i).Active
    · exact List.mem_append_left _ (ih hrun hbefore)
    · refine List.mem_append_right _ (List.mem_singleton.mpr ?_)
      cases l with
      | append line =>
        obtain rfl := Option.some.inj hst
        exact absurd hact hbefore
      | act j input =>
        have hij : i = j := by
          by_contra hij
          rw [(act_cases hst).1 i hij] at hact
          exact hbefore hact
        subst hij
        rcases act_effect hst with ⟨rfl, -⟩ | ⟨-, -, hback⟩
        · rfl
        · exact absurd (hback hact) hbefore

/-- A call past the second resolution has made it, after its claim. -/
lemma resolved_history {s : World ι} {labels : List (Label ι)}
    (h : Run (Step calls) s labels w) (hstart : ∀ i, s.phase i = .start) {i : ι}
    {command : SpotOrderCommand}
    (hphase : w.phase i = .revalidated command ∨ w.phase i = .tested command) :
    ∃ before after w₁ e resolved, labels = before ++ .act i (.resolveAgain true) :: after ∧
      Run (Step calls) s before w₁ ∧ w₁.phase i = .claimed command ∧
      (calls i).authorization = some e ∧
      resolveExecutionAuthorization w₁.queue e.authorizationId = .ok (some resolved) ∧
      resolved.envelopeSha256 = e.envelopeSha256 := by
  induction labels using List.reverseRecOn generalizing w with
  | nil =>
    obtain rfl := run_nil_iff.mp h
    simp [hstart i] at hphase
  | append_singleton labels l ih =>
    obtain ⟨t, hrun, hst⟩ := run_snoc_iff.mp h
    -- either the call was past the resolution before this step, or this is the step
    by_cases hbefore : t.phase i = .revalidated command ∨ t.phase i = .tested command
    · obtain ⟨before, after, w₁, e, resolved, rfl, hrest⟩ := ih hrun hbefore
      exact ⟨before, after ++ [l], w₁, e, resolved, by simp, hrest⟩
    · cases l with
      | append line =>
        obtain rfl := Option.some.inj hst
        exact absurd hphase hbefore
      | act j input =>
        have hij : i = j := by
          by_contra hij
          rw [(act_cases hst).1 i hij] at hphase
          exact hbefore hphase
        subst hij
        obtain ⟨-, -, hadv⟩ := act_cases hst
        rcases advance_cases hadv with ⟨_, _, _, _, -, -, hto, -⟩ | ⟨_, _, _, -, -, hto, -⟩ |
          ⟨_, hto, -⟩ | ⟨c, e, -, he, hmove⟩
        · simp [hto] at hphase
        · simp [hto] at hphase
        · simp [hto] at hphase
        · rcases hmove with ⟨readable, resolved, hfrom, rfl, hto, hres, hsha⟩ |
            ⟨hfrom, -, hto⟩ | ⟨_, -, -, hto⟩
          · obtain rfl : c = command := by simpa [hto] using hphase
            cases readable with
            | false => simp [resolution] at hres
            | true => exact ⟨labels, [], t, e, resolved, rfl, hrun, hfrom, he, hres, hsha⟩
          · obtain rfl : c = command := by simpa [hto] using hphase
            exact absurd (.inl hfrom) hbefore
          · simp [hto] at hphase

/-- The command has exactly the order fields of the envelope. -/
def HasOrderFields (c : SpotOrderCommand) (e : ExecutionAuthorizationEnvelope) : Prop :=
  c.symbol = e.symbol ∧ c.side.value = e.side ∧ c.orderType.value = e.orderType ∧
    .finite c.quantity = e.quantity ∧ c.clientOrderId = e.clientOrderId ∧
    c.price.map .finite = e.price ∧ c.timeInForce = e.timeInForce

/-- The history of an order: the call has claimed, and after that the queue
resolved an envelope, from an approved record, with the fields of the order. -/
def ResolvedAfterClaim (calls : ι → PlaceCall) (s : World ι) (labels : List (Label ι)) (i : ι)
    (command : SpotOrderCommand) : Prop :=
  ∃ before after w₁ e record, labels = before ++ .act i (.resolveAgain true) :: after ∧
    .act i (.claim .inserted) ∈ before ∧ Run (Step calls) s before w₁ ∧
    resolveExecutionAuthorization w₁.queue e.authorizationId = .ok (some e) ∧
    .ok record ∈ w₁.queue ∧ record.executionAuthorization = some e ∧
    record.approval.approvalStatus = .approved ∧ HasOrderFields command e

/-- An envelope in the queue file at some time of the run. -/
def Mentions (s : World ι) (labels : List (Label ι)) (e : ExecutionAuthorizationEnvelope) : Prop :=
  ∃ record : ApprovalQueueRecord, (.ok record ∈ s.queue ∨ .append (.ok record) ∈ labels) ∧
    record.executionAuthorization = some e

/-- No envelope in the queue shares the digest of another one that is passed to a
call. -/
def NoCollision (calls : ι → PlaceCall) (s : World ι) (labels : List (Label ι)) : Prop :=
  ∀ i e e', (calls i).authorization = some e → Mentions s labels e' →
    e'.envelopeSha256 = e.envelopeSha256 → e' = e

lemma resolvedAfterClaim_of_tested {s : World ι} {labels : List (Label ι)}
    (h : Run (Step calls) s labels w) (hstart : ∀ i, s.phase i = .start)
    (hcollision : NoCollision calls s labels) {i : ι} {command : SpotOrderCommand}
    (htested : w.phase i = .tested command) : ResolvedAfterClaim calls s labels i command := by
  obtain ⟨before, after, w₁, e, resolved, rfl, hrun, hclaimed, he, hres, hsha⟩ :=
    resolved_history h hstart (.inr htested)
  obtain ⟨record, hmem, hrecord, happ⟩ := resolve_approved hres
  have hmentions : Mentions s (before ++ .act i (.resolveAgain true) :: after) resolved := by
    refine ⟨record, ?_, hrecord⟩
    exact (mem_queue hrun hmem).imp id fun hl => List.mem_append_left _ hl
  obtain rfl : resolved = e := hcollision i e resolved he hmentions hsha
  have hw := Run.invariant (P := Consistent calls) (fun hst => consistent_step hst) h
    (consistent_start hstart)
  obtain ⟨e', he', hcommand⟩ := hw.command i command (by simp [htested, PlacePhase.command?])
  obtain rfl : e' = resolved := Option.some.inj (he'.symm.trans he)
  exact ⟨before, after, w₁, e', record, rfl,
    claim_mem hrun hstart (by simp [hclaimed, PlacePhase.Active]), hrun, hres, hmem, hrecord,
    happ.2.1, e'.toSpotOrderCommand_fields hcommand⟩

/-! ### Failed calls -/

/-- The steps at which a failure spends the authorization: a claim that finds it
consumed, the second resolution, `order_test` and `order_place`. -/
def Spends : PlaceInput → Prop
  | .claim .consumed | .resolveAgain _ | .orderTest _ | .orderPlace _ => True
  | _ => False

/-- No later claim of the envelope goes through. -/
def Unusable (calls : ι → PlaceCall) (e : ExecutionAuthorizationEnvelope)
    (after : List (Label ι)) : Prop :=
  ∀ j f, .act j (.claim .inserted) ∈ after → (calls j).authorization = some f →
    ¬ (f.authorizationId = e.authorizationId ∧ f.singleUseNonce = e.singleUseNonce)

/-- No later order is placed under the id or the nonce of the envelope. -/
def NeverPlaced (calls : ι → PlaceCall) (e : ExecutionAuthorizationEnvelope)
    (after : List (Label ι)) : Prop :=
  ∀ j answer f, .act j (.orderPlace answer) ∈ after → (calls j).authorization = some f →
    f.authorizationId ≠ e.authorizationId ∧ f.singleUseNonce ≠ e.singleUseNonce

/-- A value in the ledger is never claimed again. -/
lemma unusable_of_mem {e : ExecutionAuthorizationEnvelope} {column : UniqueColumn}
    {after : List (Label ι)} (h : Run (Step calls) w after w')
    (hmem : column.ofEnvelope e ∈ w.ledger.values column) : Unusable calls e after := by
  intro j f hclaim hf ⟨hid, hnonce⟩
  have hvalue : column.ofEnvelope f = column.ofEnvelope e := by
    cases column with
    | authorizationId => exact hid
    | singleUseNonce => exact hnonce
  obtain ⟨l₁, l₂, rfl⟩ := List.append_of_mem hclaim
  obtain ⟨t, hrun, hrest⟩ := run_append_iff.mp h
  obtain ⟨t', hst, -⟩ := run_cons_iff.mp hrest
  have hkept : column.ofEnvelope e ∈ t.ledger.values column :=
    Run.invariant (P := fun u : World ι => column.ofEnvelope e ∈ u.ledger.values column)
      (fun hst hm => values_subset hst column hm) hrun hmem
  rcases act_effect hst with ⟨-, f', hf', hnew⟩ | ⟨hne, -⟩
  · obtain rfl : f' = f := Option.some.inj (hf'.symm.trans hf)
    exact (hnew column).1 (hvalue ▸ hkept)
  · exact hne rfl

/-- A step that ends a call at one of these points puts its envelope into the
ledger for good, and an order that was still to come does not come. -/
lemma spent_of_finished {i : ι} {input : PlaceInput} {result : PlaceEnd}
    {e : ExecutionAuthorizationEnvelope} {w₁ w₂ : World ι} {after : List (Label ι)}
    (hw : Consistent calls w₁) (hst : Step calls w₁ (.act i input) w₂)
    (hrun : Run (Step calls) w₂ after w') (hend : w₂.phase i = .finished result)
    (hinput : Spends input) (he : (calls i).authorization = some e) :
    Unusable calls e after ∧ (input ≠ .claim .consumed → NeverPlaced calls e after) := by
  have hvalue : ∀ column : UniqueColumn, valueOf calls column i = some (column.ofEnvelope e) :=
    fun column => by simp [valueOf, he]
  have hinactive : ¬ (w₂.phase i).Active := by simp [hend, PlacePhase.Active]
  obtain ⟨-, -, hadv⟩ := act_cases hst
  -- the call was active, or the claim found one of its values in the ledger
  have hcases : (w₁.phase i).Active ∨ (input = .claim .consumed ∧
      ∃ column : UniqueColumn, column.ofEnvelope e ∈ w₁.ledger.values column) := by
    rcases advance_cases hadv with ⟨_, _, _, _, -, -, hto, -⟩ | ⟨_, _, _, -, -, hto, -⟩ |
      ⟨_, -, -, -, hconsumed, hagain, htest, hplace⟩ | ⟨c, _, -, -, hmove⟩
    · simp [hend] at hto
    · simp [hend] at hto
    · cases input with
      | claim outcome =>
        cases outcome with
        | consumed =>
          obtain ⟨e', column, he', hmem⟩ := hconsumed rfl
          obtain rfl : e' = e := Option.some.inj (he'.symm.trans he)
          exact .inr ⟨rfl, column, hmem⟩
        | _ => simp [Spends] at hinput
      | resolveAgain readable => exact .inl (hagain readable rfl)
      | orderTest returns => exact .inl (htest returns rfl)
      | orderPlace answer =>
        obtain ⟨command, htested⟩ := hplace answer rfl
        exact .inl (by simp [htested, PlacePhase.Active])
      | _ => simp [Spends] at hinput
    · rcases hmove with ⟨_, _, -, -, hto, -⟩ | ⟨-, -, hto⟩ | ⟨_, -, -, hto⟩
      all_goals simp [hend] at hto
  rcases hcases with hact | ⟨rfl, column, hmem⟩
  · have hmem := values_subset hst .authorizationId
      (hw.recorded i .authorizationId _ hact (hvalue .authorizationId))
    refine ⟨unusable_of_mem hrun hmem, fun _ j answer f hplace hf => ?_⟩
    have hclosed : ∀ column : UniqueColumn, column.ofEnvelope f ≠ column.ofEnvelope e := by
      intro column hsame
      have hnot := closed_of_inactive hst hw hact hinactive (hvalue column)
      have hzero := (countP_places hrun (consistent_step hst hw)).2 hnot
      rw [List.countP_eq_zero] at hzero
      exact hzero _ hplace (by simp [places, valueOf, hf, hsame])
    exact ⟨hclosed .authorizationId, hclosed .singleUseNonce⟩
  · exact ⟨unusable_of_mem hrun (values_subset hst column hmem), fun hne => absurd rfl hne⟩

end Placement

end Ai4Binance

/-! ### Two calls with one authorization -/

namespace Ai4Binance.Placement

attribute [local instance] CanonicalDigest.const

/-- The digest of every value under the stand-in digest. -/
def sampleDigest : String := "e3b0c44298fc1c149afbf4c8996fb92427ae41e4649b934ca495991b7852b855"

/-- A market order for one unit. -/
def sampleEnvelope : ExecutionAuthorizationEnvelope where
  authorizationId := "auth"
  approvalId := "approval"
  previewHash := sampleDigest
  decisionId := "decision"
  snapshotId := "snapshot"
  strategyId := "strategy"
  strategyVersion := "v"
  symbol := "BTCUSDT"
  marketType := "SPOT"
  side := "BUY"
  orderType := "MARKET"
  quantity := .finite ⟨false, 1, 0⟩
  clientOrderId := "order"
  riskAssessmentHash := sampleDigest
  validationBundleHash := sampleDigest
  createdAt := .aware 0
  expiresAt := .aware 10
  approvedBy := "operator"
  singleUseNonce := "nonce"
  passes := by decide +kernel
  normal := by decide +kernel

/-- The record that approves it. -/
def sampleRecord : ApprovalQueueRecord where
  action := ⟨"action", .placeSpotOrder, "BTCUSDT", ⟨false, 100, 0⟩, "reason", "effect", "risk",
    .approved, [], by decide, by decide +kernel, by decide⟩
  approval := ⟨"approval", "action", .placeSpotOrder, .approved, by decide⟩
  createdAt := 0
  executionAuthorization := some sampleEnvelope
  sameAction := by decide
  bound := by decide +kernel

/-- Both calls pass the same envelope, with every requirement of the gate met. -/
def sampleCalls (_ : Bool) : PlaceCall where
  executor := { promotionQuery := some ⟨"strategy", "v", "BTCUSDT", "SPOT"⟩ }
  gateInput := fun _ => true
  authorization := some sampleEnvelope
  observedAt := .aware 5

/-- The queue holds the approval. -/
def sampleWorld : World Bool := { queue := [.ok sampleRecord] }

/-- The answer of the two registries. -/
def sampleEvidence : GateEvidence := ⟨some ⟨true, true, true, true, []⟩, some true⟩

/-- The first call meets a ledger that is unavailable; the second one goes through. -/
def sampleLabels : List (Label Bool) :=
  [.act false (.resolve true sampleEvidence), .act false (.claim .unavailable),
    .act true (.resolve true sampleEvidence), .act true (.claim .inserted),
    .act true (.resolveAgain true), .act true (.orderTest true),
    .act true (.orderPlace (some "1"))]

/-- The steps of the function in a row. -/
def runLabels {ι : Type} [DecidableEq ι] (calls : ι → PlaceCall) :
    World ι → List (Label ι) → Option (World ι)
  | w, [] => some w
  | w, l :: labels => (step calls w l).bind fun w' => runLabels calls w' labels

lemma run_of_runLabels {ι : Type} [DecidableEq ι] {calls : ι → PlaceCall} {w w' : World ι}
    {labels : List (Label ι)} (h : runLabels calls w labels = some w') :
    Run (Step calls) w labels w' := by
  induction labels generalizing w with
  | nil =>
    obtain rfl := Option.some.inj h
    exact .nil w
  | cons l labels ih =>
    obtain ⟨t, hst, hrest⟩ := Option.bind_eq_some_iff.mp h
    exact .cons hst (ih hrest)

lemma sampleRun : ∃ w, Run (Step sampleCalls) sampleWorld sampleLabels w := by
  have h : (runLabels sampleCalls sampleWorld sampleLabels).isSome := by decide +kernel
  obtain ⟨w, hw⟩ := Option.isSome_iff_exists.mp h
  exact ⟨w, run_of_runLabels hw⟩

/-- The only envelope in the queue is the one both calls pass. -/
lemma sample_noCollision : NoCollision sampleCalls sampleWorld sampleLabels := by
  rintro i e e' he ⟨record, hmem, hrecord⟩ -
  obtain rfl : sampleEnvelope = e := Option.some.inj he
  have hrec : record = sampleRecord := by simpa [sampleWorld, sampleLabels] using hmem
  subst hrec
  exact (Option.some.inj hrecord).symm

end Ai4Binance.Placement
