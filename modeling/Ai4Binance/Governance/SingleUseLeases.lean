/-
Capability leases are single use (`governance/capability_store.py`).

The check and the update of `consume` are separate statements, so that other calls run between
them.  What is safe rests on the update: it writes only a row that was not consumed, and the
execution of a row is unique.

* `consumedLeases`: the leases that `consume` returned in a run;
* `LeaseInvariant`: the table holds exactly those as consumed rows, and a write that is not
  committed is one of the committed rows;
* `LeaseInvariant.step`, `invariant_of_run`: every step keeps it, so every run does;
* `verifies_iff`: what `verify_consumed` accepts;
* `leases_are_single_use`: **the guarantees of the store**;
* `forged_execution_is_verified`: a lease with another execution of its own is accepted.
-/
import Ai4Binance.Governance.CapabilityStore

open Text Check

namespace Ai4Binance

/-- The leases that the consume calls of a run returned. -/
def consumedLeases (l : List CapabilityEvent) : List CapabilityLease :=
  l.filterMap fun event =>
    match event with
    | .consumed _ lease => some lease
    | _ => none

@[simp] lemma consumedLeases_snoc (l : List CapabilityEvent) (event : CapabilityEvent) :
    consumedLeases (l ++ [event]) = consumedLeases l ++ consumedLeases [event] := by
  simp [consumedLeases]

/-- The row of a lease that was consumed. -/
def CapabilityLease.consumedRow (lease : CapabilityLease) : LeaseRow :=
  ⟨lease.leaseId, lease.binding, lease.consumedAt.map (·.val.isoformat), lease.executionId⟩

/-! ### The statements -/

section Statements

variable {rows rows' : List LeaseRow} {row : LeaseRow} {leaseId consumedAt executionId : String}
  {lease : CapabilityLease} {updated : ℕ}

lemma insertLease_eq_some (h : insertLease rows row = some rows') :
    row.leaseId ∉ rows.map (·.leaseId) ∧ rows' = rows ++ [row] := by
  rw [insertLease] at h
  split_ifs at h with hmem
  exact ⟨hmem, (Option.some.inj h).symm⟩

lemma selectLease_eq_some (hkeys : (rows.map (·.leaseId)).Nodup) :
    selectLease rows leaseId = some row ↔ row ∈ rows ∧ row.leaseId = leaseId := by
  constructor
  · intro h
    exact ⟨List.mem_of_find?_eq_some h, by simpa using List.find?_some h⟩
  · rintro ⟨hmem, rfl⟩
    cases hselect : selectLease rows row.leaseId with
    | none =>
      have hnone := List.find?_eq_none.mp hselect row hmem
      simp at hnone
    | some other =>
      have hother := List.mem_of_find?_eq_some hselect
      have hkey : other.leaseId = row.leaseId := by simpa using List.find?_some hselect
      rw [List.inj_on_of_nodup_map hkeys hother hmem hkey]

/-- What the update writes. -/
def LeaseRow.update (row : LeaseRow) (consumedAt executionId leaseId : String) : LeaseRow :=
  if row.Unconsumed leaseId then
    { row with consumedAt := some consumedAt, executionId := some executionId }
  else row

@[simp] lemma LeaseRow.update_leaseId : (row.update consumedAt executionId leaseId).leaseId =
    row.leaseId := by
  rw [update]
  split_ifs <;> rfl

@[simp] lemma LeaseRow.update_binding : (row.update consumedAt executionId leaseId).binding =
    row.binding := by
  rw [update]
  split_ifs <;> rfl

/-- The update of one row: the row was not consumed, and no other row has the execution. -/
lemma consumeRow_eq_one (h : consumeRow rows consumedAt executionId leaseId = some (rows', 1)) :
    rows' = rows.map (·.update consumedAt executionId leaseId) ∧
      (∃ row ∈ rows, row.Unconsumed leaseId) ∧
      ∀ row ∈ rows, row.executionId = some executionId → row.Unconsumed leaseId := by
  rw [consumeRow] at h
  split_ifs at h with htaken
  simp only [Option.some.injEq, Prod.mk.injEq] at h
  obtain ⟨hrows, hone⟩ := h
  obtain ⟨row, hmatched⟩ := List.length_eq_one_iff.mp hone
  have hmem : row ∈ rows.filter (·.Unconsumed leaseId) := by simp [hmatched]
  rw [List.mem_filter, decide_eq_true_eq] at hmem
  refine ⟨hrows.symm, ⟨row, hmem⟩, ?_⟩
  intro other hother hexecution
  by_contra hunconsumed
  exact htaken ⟨by simp [hmatched], other, hother, hunconsumed, hexecution⟩

end Statements

/-! ### The invariant -/

/-- The lease of a call has its row. -/
def Registered (rows : List LeaseRow) (lease : CapabilityLease) : Prop :=
  ∃ row ∈ rows, row.leaseId = lease.leaseId ∧ row.binding = lease.binding

/-- What a call has checked. -/
def CallProgress.Checked (rows : List LeaseRow) : CallProgress → Prop
  | .selecting _ _ now => now.val.utcoffset = 0
  | .updating lease _ now | .updated lease _ now =>
      now.val.utcoffset = 0 ∧ now.val.instant ≤ lease.expiresAt.val.instant ∧ Registered rows lease
  | _ => True

/-- The rows that a call has written. -/
def CallProgress.Writes (rows rows' : List LeaseRow) : CallProgress → Prop
  | .inserted lease => insertLease rows lease.row = some rows'
  | .updated lease executionId now =>
      consumeRow rows now.val.isoformat executionId lease.leaseId = some (rows', 1)
  | _ => False

/-- The consumption of a lease is within its lifetime. -/
def CapabilityLease.ConsumedInTime (lease : CapabilityLease) : Prop :=
  ∃ now executionId, lease.consumedAt = some now ∧ lease.executionId = some executionId ∧
    now.val.utcoffset = 0 ∧ now.val.instant ≤ lease.expiresAt.val.instant

/-- The table after the committed writes of a run. -/
structure TableInvariant (consumed : List CapabilityLease) (rows : List LeaseRow) : Prop where
  keys : (rows.map (·.leaseId)).Nodup
  recorded : ∀ row ∈ rows, row.consumedAt ≠ none → ∃ lease ∈ consumed, row = lease.consumedRow
  stored : ∀ lease ∈ consumed, lease.consumedRow ∈ rows
  in_time : ∀ lease ∈ consumed, lease.ConsumedInTime
  once : consumed.Pairwise fun a b => a.leaseId ≠ b.leaseId ∧ a.executionId ≠ b.executionId

/-- The table and the calls of a run. -/
structure LeaseInvariant (l : List CapabilityEvent) (s : CapabilitySystem) : Prop where
  table : TableInvariant (consumedLeases l) s.rows
  checked : ∀ id progress, s.calls id = some progress → progress.Checked s.rows
  written : ∀ id rows, s.writer = some (id, rows) →
    ∃ progress, s.calls id = some progress ∧ progress.Writes s.rows rows

section Table

variable {consumed : List CapabilityLease} {rows rows' : List LeaseRow} {lease : CapabilityLease}
  {progress : CallProgress} {now : AwareDatetime} {executionId : String}

lemma TableInvariant.insert (h : TableInvariant consumed rows)
    (hinsert : insertLease rows lease.row = some rows') : TableInvariant consumed rows' := by
  obtain ⟨hfresh, rfl⟩ := insertLease_eq_some hinsert
  refine ⟨?_, ?_, ?_, h.in_time, h.once⟩
  · rw [List.map_append, List.map_singleton, List.nodup_append_comm, List.singleton_append]
    exact List.nodup_cons.mpr ⟨hfresh, h.keys⟩
  · intro row hrow hconsumed
    rcases List.mem_append.mp hrow with hrow | hrow
    · exact h.recorded row hrow hconsumed
    · obtain rfl := List.mem_singleton.mp hrow
      exact absurd rfl hconsumed
  · intro lease hlease
    exact List.mem_append_left _ (h.stored lease hlease)

/-- A consumed row is none that the update writes. -/
lemma update_consumedRow (h : lease.ConsumedInTime) (consumedAt executionId leaseId : String) :
    lease.consumedRow.update consumedAt executionId leaseId = lease.consumedRow := by
  obtain ⟨now, -, hnow, -⟩ := h
  rw [LeaseRow.update, if_neg]
  rintro ⟨-, hnone⟩
  simp [CapabilityLease.consumedRow, hnow] at hnone

/-- The update of a row consumes a lease that was not consumed, for an execution that was not
used. -/
lemma TableInvariant.consume (h : TableInvariant consumed rows) (hutc : now.val.utcoffset = 0)
    (hexpiry : now.val.instant ≤ lease.expiresAt.val.instant) (hregistered : Registered rows lease)
    (hupdate : consumeRow rows now.val.isoformat executionId lease.leaseId = some (rows', 1)) :
    TableInvariant (consumed ++ [lease.consume now executionId]) rows' := by
  obtain ⟨rfl, ⟨target, htarget, hunconsumed⟩, hunused⟩ := consumeRow_eq_one hupdate
  obtain ⟨row, hrow, hkey, hbinding⟩ := hregistered
  obtain rfl : row = target :=
    List.inj_on_of_nodup_map h.keys hrow htarget (hkey.trans hunconsumed.1.symm)
  have hwritten : row.update now.val.isoformat executionId lease.leaseId =
      (lease.consume now executionId).consumedRow := by
    rw [LeaseRow.update, if_pos hunconsumed, hkey, hbinding]
    rfl
  refine ⟨?_, ?_, ?_, ?_, ?_⟩
  · rw [List.map_map]
    simpa [Function.comp_def] using h.keys
  · intro row' hrow' hconsumed
    obtain ⟨other, hother, rfl⟩ := List.mem_map.mp hrow'
    by_cases hmatched : other.Unconsumed lease.leaseId
    · obtain rfl : other = row :=
        List.inj_on_of_nodup_map h.keys hother hrow (hmatched.1.trans hunconsumed.1.symm)
      exact ⟨_, List.mem_append_right _ (List.mem_singleton_self _), hwritten⟩
    · rw [LeaseRow.update, if_neg hmatched] at hconsumed ⊢
      obtain ⟨old, hold, heq⟩ := h.recorded other hother hconsumed
      exact ⟨old, List.mem_append_left _ hold, heq⟩
  · intro old hold
    rcases List.mem_append.mp hold with hold | hold
    · rw [← update_consumedRow (h.in_time old hold) now.val.isoformat executionId lease.leaseId]
      exact List.mem_map_of_mem (h.stored old hold)
    · obtain rfl := List.mem_singleton.mp hold
      rw [← hwritten]
      exact List.mem_map_of_mem hrow
  · intro old hold
    rcases List.mem_append.mp hold with hold | hold
    · exact h.in_time old hold
    · obtain rfl := List.mem_singleton.mp hold
      exact ⟨now, executionId, rfl, rfl, hutc, hexpiry⟩
  · refine List.pairwise_append.mpr ⟨h.once, List.pairwise_singleton _ _, ?_⟩
    intro old hold new hnew
    obtain rfl := List.mem_singleton.mp hnew
    have hstored := h.stored old hold
    -- a row of an old consumption is not one that the update writes
    have hconsumed : ¬ old.consumedRow.Unconsumed lease.leaseId := by
      obtain ⟨time, -, htime, -⟩ := h.in_time old hold
      rintro ⟨-, hnone⟩
      simp [CapabilityLease.consumedRow, htime] at hnone
    constructor
    · intro hsame
      have heq := List.inj_on_of_nodup_map h.keys hstored hrow (hsame.trans hkey.symm)
      exact hconsumed (heq ▸ hunconsumed)
    · intro hsame
      exact hconsumed (hunused old.consumedRow hstored hsame)

/-- A committed write keeps what the calls have checked. -/
lemma Registered.mono (h : Registered rows lease)
    (hkeep : ∀ row ∈ rows, ∃ row' ∈ rows', row'.leaseId = row.leaseId ∧ row'.binding = row.binding) :
    Registered rows' lease := by
  obtain ⟨row, hrow, hkey, hbinding⟩ := h
  obtain ⟨row', hrow', hkey', hbinding'⟩ := hkeep row hrow
  exact ⟨row', hrow', hkey'.trans hkey, hbinding'.trans hbinding⟩

lemma CallProgress.Writes.keeps (h : progress.Writes rows rows') :
    ∀ row ∈ rows, ∃ row' ∈ rows', row'.leaseId = row.leaseId ∧ row'.binding = row.binding := by
  intro row hrow
  cases progress with
  | inserted lease =>
    obtain ⟨-, rfl⟩ := insertLease_eq_some h
    exact ⟨row, List.mem_append_left _ hrow, rfl, rfl⟩
  | updated lease executionId now =>
    obtain ⟨rfl, -, -⟩ := consumeRow_eq_one h
    exact ⟨_, List.mem_map_of_mem hrow, LeaseRow.update_leaseId, LeaseRow.update_binding⟩
  | inserting lease => exact absurd h id
  | selecting lease executionId now => exact absurd h id
  | updating lease executionId now => exact absurd h id
  | verifying lease executionId enforcedAt => exact absurd h id

lemma CallProgress.Checked.mono (h : progress.Checked rows)
    (hkeep : ∀ row ∈ rows, ∃ row' ∈ rows', row'.leaseId = row.leaseId ∧ row'.binding = row.binding) :
    progress.Checked rows' := by
  cases progress with
  | updating lease executionId now => exact ⟨h.1, h.2.1, h.2.2.mono hkeep⟩
  | updated lease executionId now => exact ⟨h.1, h.2.1, h.2.2.mono hkeep⟩
  | selecting lease executionId now => exact h
  | inserting lease => trivial
  | inserted lease => trivial
  | verifying lease executionId enforcedAt => trivial

end Table

/-! ### Runs -/

section Runs

variable {l : List CapabilityEvent} {s t : CapabilitySystem} {event : CapabilityEvent} {id : ℕ}
  {progress : CallProgress} {rows : List LeaseRow}

namespace LeaseInvariant

/-- A call that has written nothing is not the writer. -/
lemma ne_writer (h : LeaseInvariant l s)
    (hidle : ∀ progress, s.calls id = some progress → ∀ rows, ¬ progress.Writes s.rows rows) :
    s.writer.filter (·.1 ≠ id) = s.writer := by
  cases hwriter : s.writer with
  | none => rfl
  | some writer =>
    obtain ⟨id', rows⟩ := writer
    obtain ⟨progress, hcall, hwrites⟩ := h.written id' rows hwriter
    have hne : id' ≠ id := by
      rintro rfl
      exact hidle progress hcall rows hwrites
    simp [Option.filter, hne]

/-- A call goes on or ends, and what it has written is dropped. -/
lemma drop (h : LeaseInvariant l s) (id : ℕ) (event : CapabilityEvent)
    (hevent : consumedLeases [event] = []) (next : Option CallProgress) (hnext : ∀ progress ∈ next, progress.Checked s.rows) :
    LeaseInvariant (l ++ [event])
      { s.goOn id next with writer := s.writer.filter (·.1 ≠ id) } := by
  refine ⟨?_, ?_, ?_⟩
  · rw [consumedLeases_snoc, hevent, List.append_nil]
    exact h.table
  · intro id' progress hcall
    by_cases hid : id' = id
    · subst hid
      exact hnext progress (by simpa [CapabilitySystem.goOn] using hcall)
    · exact h.checked id' progress (by simpa [CapabilitySystem.goOn, hid] using hcall)
  · intro id' rows hwriter
    obtain ⟨hwriter, hid⟩ := Option.filter_eq_some_iff.mp hwriter
    obtain ⟨progress, hcall, hwrites⟩ := h.written id' rows hwriter
    have hne : id' ≠ id := by simpa using hid
    exact ⟨progress, by simpa [CapabilitySystem.goOn, hne] using hcall, hwrites⟩

/-- A call that has written nothing goes on or ends. -/
lemma goOn (h : LeaseInvariant l s) (hevent : consumedLeases [event] = [])
    (hidle : ∀ progress, s.calls id = some progress → ∀ rows, ¬ progress.Writes s.rows rows)
    {next : Option CallProgress} (hnext : ∀ progress ∈ next, progress.Checked s.rows) :
    LeaseInvariant (l ++ [event]) (s.goOn id next) := by
  have hdrop := h.drop id event hevent next hnext
  rw [h.ne_writer hidle] at hdrop
  exact hdrop

/-- A call writes rows. -/
lemma write (h : LeaseInvariant l s) (progress : CallProgress) (hchecked : progress.Checked s.rows)
    (hwrites : progress.Writes s.rows rows) (hwrite : s.write id progress rows = some (event, t)) :
    LeaseInvariant (l ++ [event]) t := by
  rw [CapabilitySystem.write] at hwrite
  split_ifs at hwrite with hwriter
  simp only [Option.some.injEq, Prod.mk.injEq] at hwrite
  obtain ⟨rfl, rfl⟩ := hwrite
  have hdrop := h.drop id (.ran id) rfl (some progress) (by simpa using hchecked)
  refine ⟨hdrop.table, hdrop.checked, ?_⟩
  intro id' rows' hwriter'
  simp only [Option.some.injEq, Prod.mk.injEq] at hwriter'
  obtain ⟨rfl, rfl⟩ := hwriter'
  exact ⟨progress, by simp [CapabilitySystem.goOn], hwrites⟩

/-- A call commits what it has written. -/
lemma commit (h : LeaseInvariant l s) (hcall : s.calls id = some progress)
    (htable : ∀ rows, progress.Writes s.rows rows →
      TableInvariant (consumedLeases (l ++ [event])) rows)
    {event' : CapabilityEvent} (hcommit : s.commit id event = some (event', t)) :
    LeaseInvariant (l ++ [event']) t := by
  rw [CapabilitySystem.commit, Option.bind_eq_some_iff] at hcommit
  obtain ⟨⟨id', rows⟩, hwriter, hcommit⟩ := hcommit
  dsimp only at hcommit
  split_ifs at hcommit with hid
  subst hid
  simp only [Option.some.injEq, Prod.mk.injEq] at hcommit
  obtain ⟨rfl, rfl⟩ := hcommit
  obtain ⟨progress', hcall', hwrites⟩ := h.written id' rows hwriter
  obtain rfl : progress = progress' := Option.some.inj (hcall.symm.trans hcall')
  refine ⟨htable rows hwrites, ?_, by simp⟩
  intro id'' progress'' hcall''
  by_cases hne : id'' = id'
  · subst hne
    simp [CapabilitySystem.goOn] at hcall''
  · have hchecked := h.checked id'' progress''
      (by simpa [CapabilitySystem.goOn, hne] using hcall'')
    exact hchecked.mono hwrites.keeps

/-- A call raises. -/
lemma raising (h : LeaseInvariant l s) (id : ℕ) (error : CapabilityError) :
    LeaseInvariant (l ++ [(s.raising id error).1]) (s.raising id error).2 :=
  h.drop id (.raised id error) rfl none (by simp)

/-- The next statement of a call. -/
lemma advance (h : LeaseInvariant l s) (hnext : s.advance id = some (event, t)) :
    LeaseInvariant (l ++ [event]) t := by
  have hraise : ∀ error, some (s.raising id error) = some (event, t) →
      LeaseInvariant (l ++ [event]) t := by
    intro error heq
    have hraising := h.raising id error
    rw [Option.some.inj heq] at hraising
    exact hraising
  rw [CapabilitySystem.advance] at hnext
  cases hcall : s.calls id with
  | none => simp [hcall] at hnext
  | some progress =>
    have hchecked := h.checked id progress hcall
    have hidle : (∀ rows, ¬ progress.Writes s.rows rows) →
        ∀ progress, s.calls id = some progress → ∀ rows, ¬ progress.Writes s.rows rows := by
      intro hno progress' hcall'
      obtain rfl : progress = progress' := Option.some.inj (hcall.symm.trans hcall')
      exact hno
    rw [hcall] at hnext
    cases progress with
    | inserting lease =>
      dsimp only at hnext
      split at hnext
      · split_ifs at hnext
        exact hraise _ hnext
      · rename_i rows hrows
        exact h.write (.inserted lease) trivial hrows hnext
    | inserted lease =>
      refine h.commit hcall ?_ hnext
      intro rows hwrites
      rw [consumedLeases_snoc]
      exact (List.append_nil (consumedLeases l)).symm ▸ h.table.insert hwrites
    | selecting lease executionId now =>
      dsimp only at hnext
      split at hnext
      · exact hraise _ hnext
      · rename_i hok
        simp only [Option.some.injEq, Prod.mk.injEq] at hnext
        obtain ⟨rfl, rfl⟩ := hnext
        simp only [checkConsume, bind_eq_ok, orRaise_eq_ok, raiseIf_eq_ok, not_not, not_lt] at hok
        obtain ⟨row, hselect, _, hbinding, _, -, hexpiry⟩ := hok
        obtain ⟨hrow, hkey⟩ := (selectLease_eq_some h.table.keys).mp hselect
        refine h.goOn rfl (hidle fun _ hwrites => hwrites) ?_
        intro next hnext
        obtain rfl := Option.some.inj hnext
        exact ⟨hchecked, hexpiry, row, hrow, hkey, hbinding⟩
    | updating lease executionId now =>
      dsimp only at hnext
      split at hnext
      · split_ifs at hnext
        exact hraise _ hnext
      · rename_i rows updated hrows
        split_ifs at hnext with hmissed
        · exact hraise _ hnext
        · obtain rfl : updated = 1 := not_not.mp hmissed
          exact h.write (.updated lease executionId now) hchecked hrows hnext
    | updated lease executionId now =>
      refine h.commit hcall ?_ hnext
      intro rows hwrites
      obtain ⟨hutc, hexpiry, hregistered⟩ := hchecked
      rw [consumedLeases_snoc]
      exact h.table.consume hutc hexpiry hregistered hwrites
    | verifying lease executionId enforcedAt =>
      dsimp only at hnext
      split at hnext
      · exact hraise _ hnext
      · simp only [Option.some.injEq, Prod.mk.injEq] at hnext
        obtain ⟨rfl, rfl⟩ := hnext
        exact h.goOn rfl (hidle fun _ hwrites => hwrites) (by simp)

/-- **Every step keeps the invariant.** -/
lemma step (h : LeaseInvariant l s) (hstep : CapabilityStep s event t) :
    LeaseInvariant (l ++ [event]) t := by
  cases hstep with
  | @begin id call progress hidle hutc hstart =>
    refine h.goOn rfl (by simp [hidle]) ?_
    intro next hnext
    obtain rfl := Option.some.inj hnext
    cases call with
    | issue request leaseId now ttl =>
      simp only [CapabilityCall.start, bind_eq_ok, pure_eq_ok] at hstart
      obtain ⟨lease, -, rfl⟩ := hstart
      trivial
    | consume lease executionId now =>
      simp only [CapabilityCall.start, bind_eq_ok, pure_eq_ok] at hstart
      obtain ⟨_, -, rfl⟩ := hstart
      exact hutc
    | verifyConsumed lease executionId enforcedAt =>
      simp only [CapabilityCall.start, bind_eq_ok, pure_eq_ok] at hstart
      obtain ⟨_, -, rfl⟩ := hstart
      trivial
  | refuse =>
    refine ⟨?_, h.checked, h.written⟩
    rw [consumedLeases_snoc]
    exact (List.append_nil (consumedLeases l)).symm ▸ h.table
  | advance hnext => exact h.advance hnext
  | fail => exact h.raising _ _

end LeaseInvariant

/-- The invariant holds in every run from an empty database. -/
lemma invariant_of_run (h : Run CapabilityStep {} l s) : LeaseInvariant l s := by
  induction l using List.reverseRecOn generalizing s with
  | nil =>
    obtain rfl := run_nil_iff.mp h
    exact ⟨⟨by simp, by simp, by simp [consumedLeases], by simp [consumedLeases],
      by simp [consumedLeases]⟩, by simp, by simp⟩
  | append_singleton l event ih =>
    obtain ⟨t, hrun, hstep⟩ := run_snoc_iff.mp h
    exact (ih hrun).step hstep

end Runs

/-! ### Verification -/

section Verification

variable {l : List CapabilityEvent} {s : CapabilitySystem} {lease other : CapabilityLease}
  {executionId : String} {enforcedAt : AwareDatetime}

/-- Two leases are the same apart from the execution that each names, where the times of their
consumption are compared as instants. -/
def CapabilityLease.Matches (lease other : CapabilityLease) : Prop :=
  { lease.toLeaseFields with consumedAt := none, executionId := none } =
      { other.toLeaseFields with consumedAt := none, executionId := none } ∧
    lease.consumedAt.map (·.val.instant) = other.consumedAt.map (·.val.instant)

lemma ToolPermission.value_injective : Function.Injective ToolPermission.value := by
  intro p q h
  cases p <;> cases q <;> first | rfl | exact absurd h (by decide)

/-- The texts of a row determine the fields that they are written from. -/
lemma binding_inj : lease.leaseId = other.leaseId ∧ lease.binding = other.binding ↔
    { lease.toLeaseFields with consumedAt := none, executionId := none } =
      { other.toLeaseFields with consumedAt := none, executionId := none } := by
  simp only [CapabilityLease.binding, List.cons.injEq, and_true, LeaseFields.mk.injEq, true_and]
  constructor
  · rintro ⟨hid, hrun, hproject, htool, hpermission, hpolicy, hissued, hexpires, hscope⟩
    exact ⟨hrun, hproject, htool, ToolPermission.value_injective hpermission, hpolicy,
      Subtype.ext (Timestamp.isoformat_inj lease.issuedAt.property other.issuedAt.property hissued),
      Subtype.ext (Timestamp.isoformat_inj lease.expiresAt.property other.expiresAt.property
        hexpires), hid, hscope⟩
  · rintro ⟨hrun, hproject, htool, hpermission, hpolicy, hissued, hexpires, hid, hscope⟩
    rw [hpermission, hissued, hexpires]
    exact ⟨hid, hrun, hproject, htool, rfl, hpolicy, rfl, rfl, hscope⟩

/-- What `verify_consumed` asks of the row of a consumed lease. -/
lemma checkConsumed_consumedRow (hother : other.ConsumedInTime) :
    checkConsumed (some other.consumedRow) lease executionId enforcedAt = .ok () ↔
      other.binding = lease.binding ∧ other.executionId = some executionId ∧
        lease.consumedAt.map (·.val.instant) = other.consumedAt.map (·.val.instant) ∧
        (∀ time ∈ other.consumedAt, time.val.instant ≤ lease.expiresAt.val.instant) ∧
        ∀ time ∈ other.consumedAt, time.val.instant ≤ enforcedAt.val.instant := by
  obtain ⟨time, execution, htime, hexecution, hutc, -⟩ := hother
  simp only [checkConsumed, CapabilityLease.consumedRow, htime, hexecution, Option.map_some,
    bind_eq_ok, orRaise_eq_ok, raiseIf_eq_ok, not_not, Option.some.injEq, Option.mem_def,
    forall_eq', not_or, not_lt]
  constructor
  · rintro ⟨_, rfl, _, hbinding, text, htext, consumed, hread, _, ⟨hinstant, -, hexpiry⟩, henforced⟩
    split_ifs at htext with hsame
    obtain rfl := Option.some.inj htext
    rw [Timestamp.fromisoformat_isoformat time.property, Option.some.injEq] at hread
    subst hread
    exact ⟨hbinding, Option.some.inj hsame, hinstant, hexpiry, henforced⟩
  · rintro ⟨hbinding, rfl, hinstant, hexpiry, henforced⟩
    exact ⟨_, rfl, (), hbinding, _, if_pos rfl, time.val,
      Timestamp.fromisoformat_isoformat time.property, (), ⟨hinstant, hutc, hexpiry⟩, henforced⟩

/-- **What `verify_consumed` accepts**: a lease that a consume call returned for the execution, at
or before the time of enforcement. -/
lemma LeaseInvariant.verifies_iff (h : LeaseInvariant l s) :
    checkConsumed (selectLease s.rows lease.leaseId) lease executionId enforcedAt = .ok () ↔
      ∃ consumed ∈ consumedLeases l, lease.Matches consumed ∧
        consumed.executionId = some executionId ∧
        ∀ time ∈ consumed.consumedAt, time.val.instant ≤ enforcedAt.val.instant := by
  constructor
  · intro hok
    cases hselect : selectLease s.rows lease.leaseId with
    | none => simp [hselect, checkConsumed, orRaise] at hok
    | some row =>
      obtain ⟨hrow, hkey⟩ := (selectLease_eq_some h.table.keys).mp hselect
      rw [hselect] at hok
      have hconsumed : row.consumedAt ≠ none := by
        intro hnone
        simp [checkConsumed, hnone, orRaise] at hok
      obtain ⟨consumed, hmem, rfl⟩ := h.table.recorded row hrow hconsumed
      obtain ⟨hbinding, hexecution, hinstant, -, henforced⟩ :=
        (checkConsumed_consumedRow (h.table.in_time consumed hmem)).mp hok
      exact ⟨consumed, hmem, ⟨binding_inj.mp ⟨hkey.symm, hbinding.symm⟩, hinstant⟩, hexecution,
        henforced⟩
  · rintro ⟨consumed, hmem, ⟨hfields, hinstant⟩, hexecution, henforced⟩
    have hin_time := h.table.in_time consumed hmem
    obtain ⟨hkey, hbinding⟩ := binding_inj.mpr hfields
    have hselect : selectLease s.rows lease.leaseId = some consumed.consumedRow :=
      (selectLease_eq_some h.table.keys).mpr ⟨h.table.stored consumed hmem, hkey.symm⟩
    have hexpires : lease.expiresAt = consumed.expiresAt := by
      simp only [LeaseFields.mk.injEq] at hfields
      exact hfields.2.2.2.2.2.2.1
    rw [hselect, checkConsumed_consumedRow hin_time]
    refine ⟨hbinding.symm, hexecution, hinstant, ?_, henforced⟩
    obtain ⟨time, -, htime, -, -, hexpiry⟩ := hin_time
    intro time' htime'
    obtain rfl : time = time' := Option.some.inj (htime.symm.trans htime')
    rw [hexpires]
    exact hexpiry

end Verification

/-- A step changes the committed rows only where a call returns. -/
lemma rows_of_step {s t : CapabilitySystem} {event : CapabilityEvent}
    (h : CapabilityStep s event t) (hne : t.rows ≠ s.rows) :
    (∃ id lease, event = .issued id lease) ∨ ∃ id lease, event = .consumed id lease := by
  cases h with
  | begin => exact absurd rfl hne
  | refuse => exact absurd rfl hne
  | fail => exact absurd rfl hne
  | advance hnext =>
    rename_i call
    have hraise : ∀ error, some (s.raising call error) ≠ some (event, t) := by
      intro error heq
      obtain ⟨-, rfl⟩ := Prod.mk.inj (Option.some.inj heq)
      exact hne rfl
    have hwrite : ∀ progress rows, s.write call progress rows ≠ some (event, t) := by
      intro progress rows heq
      rw [CapabilitySystem.write] at heq
      split_ifs at heq
      obtain ⟨-, rfl⟩ := Prod.mk.inj (Option.some.inj heq)
      exact hne rfl
    have hcommit : ∀ event', s.commit call event' = some (event, t) → event' = event := by
      intro event' heq
      rw [CapabilitySystem.commit, Option.bind_eq_some_iff] at heq
      obtain ⟨⟨id', rows⟩, -, heq⟩ := heq
      dsimp only at heq
      split_ifs at heq
      exact (Prod.mk.inj (Option.some.inj heq)).1
    rw [CapabilitySystem.advance] at hnext
    split at hnext
    · cases hnext
    · split at hnext
      · split_ifs at hnext
        exact absurd hnext (hraise _)
      · exact absurd hnext (hwrite _ _)
    · exact Or.inl ⟨_, _, (hcommit _ hnext).symm⟩
    · split at hnext
      · exact absurd hnext (hraise _)
      · obtain ⟨-, rfl⟩ := Prod.mk.inj (Option.some.inj hnext)
        exact absurd rfl hne
    · split at hnext
      · split_ifs at hnext
        exact absurd hnext (hraise _)
      · split_ifs at hnext
        · exact absurd hnext (hraise _)
        · exact absurd hnext (hwrite _ _)
    · exact Or.inr ⟨_, _, (hcommit _ hnext).symm⟩
    · split at hnext
      · exact absurd hnext (hraise _)
      · obtain ⟨-, rfl⟩ := Prod.mk.inj (Option.some.inj hnext)
        exact absurd rfl hne

/-- **Capability leases are single use**, in every run of calls with UTC clocks from an empty
database: no two consume calls return for one lease or one execution, each within the lifetime of
its lease; the rows change only where a call returns; and a verification accepts exactly the
leases that a consume call returned, apart from the execution that a lease names itself. -/
theorem leases_are_single_use (l : List CapabilityEvent) (s : CapabilitySystem)
    (h : Run CapabilityStep {} l s) :
    ((consumedLeases l).Pairwise fun a b =>
        a.leaseId ≠ b.leaseId ∧ a.executionId ≠ b.executionId) ∧
      (∀ lease ∈ consumedLeases l, ∃ now executionId, lease.consumedAt = some now ∧
        lease.executionId = some executionId ∧
        now.val.instant ≤ lease.expiresAt.val.instant) ∧
      (∀ event t, CapabilityStep s event t → t.rows ≠ s.rows →
        (∃ id lease, event = .issued id lease) ∨ ∃ id lease, event = .consumed id lease) ∧
      ∀ id lease executionId enforcedAt,
        s.calls id = some (.verifying lease executionId enforcedAt) →
        ((∃ t, s.advance id = some (.verified id lease executionId enforcedAt, t)) ↔
          ∃ consumed ∈ consumedLeases l, lease.Matches consumed ∧
            consumed.executionId = some executionId ∧
            ∀ time ∈ consumed.consumedAt, time.val.instant ≤ enforcedAt.val.instant) := by
  have hinv := invariant_of_run h
  refine ⟨hinv.table.once, ?_, fun _ _ => rows_of_step, ?_⟩
  · intro lease hlease
    obtain ⟨now, executionId, hnow, hexecution, -, hexpiry⟩ := hinv.table.in_time lease hlease
    exact ⟨now, executionId, hnow, hexecution, hexpiry⟩
  · intro id lease executionId enforcedAt hcall
    rw [← hinv.verifies_iff, CapabilitySystem.advance, hcall]
    dsimp only
    split
    · rename_i error herror
      rw [herror]
      simp [CapabilitySystem.raising]
    · rename_i hok
      rw [hok]
      simp

/-! ### A lease -/

/-- A call begins, or runs its next statement. -/
inductive CapabilityMove where
  | begin (id : ℕ) (call : CapabilityCall)
  | next (id : ℕ)

/-- A call with a UTC clock begins, or a call runs its next statement. -/
def CapabilitySystem.move (s : CapabilitySystem) :
    CapabilityMove → Option (CapabilityEvent × CapabilitySystem)
  | .begin id call =>
      match s.calls id, call.start with
      | none, .ok progress =>
          match call with
          | .issue _ _ now _ | .consume _ _ now =>
              if now.val.utcoffset = 0 then some (.begun id, s.goOn id (some progress)) else none
          | .verifyConsumed .. => some (.begun id, s.goOn id (some progress))
      | _, _ => none
  | .next id => s.advance id

/-- The events of a sequence of moves, and where they lead. -/
def CapabilitySystem.drive (s : CapabilitySystem) :
    List CapabilityMove → Option (List CapabilityEvent × CapabilitySystem)
  | [] => some ([], s)
  | move :: moves => do
      let (event, t) ← s.move move
      let (events, u) ← t.drive moves
      return (event :: events, u)

lemma step_of_move {s t : CapabilitySystem} {move : CapabilityMove} {event : CapabilityEvent}
    (h : s.move move = some (event, t)) : CapabilityStep s event t := by
  cases move with
  | next id => exact .advance h
  | begin id call =>
    simp only [CapabilitySystem.move] at h
    split at h
    · rename_i progress hidle hstart
      cases call with
      | issue request leaseId now ttl =>
        dsimp only at h
        split_ifs at h with hutc
        obtain ⟨rfl, rfl⟩ := Prod.mk.inj (Option.some.inj h)
        have hclock : (CapabilityCall.issue request leaseId now ttl).UtcClock := hutc
        exact .begin hidle hclock hstart
      | consume lease executionId now =>
        dsimp only at h
        split_ifs at h with hutc
        obtain ⟨rfl, rfl⟩ := Prod.mk.inj (Option.some.inj h)
        have hclock : (CapabilityCall.consume lease executionId now).UtcClock := hutc
        exact .begin hidle hclock hstart
      | verifyConsumed lease executionId enforcedAt =>
        obtain ⟨rfl, rfl⟩ := Prod.mk.inj (Option.some.inj h)
        have hclock : (CapabilityCall.verifyConsumed lease executionId enforcedAt).UtcClock :=
          trivial
        exact .begin hidle hclock hstart
    · cases h

lemma run_of_drive {moves : List CapabilityMove} {s t : CapabilitySystem}
    {l : List CapabilityEvent} (h : s.drive moves = some (l, t)) : Run CapabilityStep s l t := by
  induction moves generalizing s l with
  | nil =>
    obtain ⟨rfl, rfl⟩ := Prod.mk.inj (Option.some.inj h)
    exact .nil s
  | cons move moves ih =>
    simp only [CapabilitySystem.drive, Option.bind_eq_bind, Option.bind_eq_some_iff,
      Option.pure_def, Option.some.injEq, Prod.mk.injEq] at h
    obtain ⟨⟨event, next⟩, hmove, ⟨events, last⟩, hdrive, rfl, rfl⟩ := h
    exact .cons (step_of_move hmove) (ih hdrive)

/-- A second of 1970, in UTC. -/
def secondOf (second : ℕ) (h : Timestamp.InRange ⟨second * 1000000, 0⟩) : AwareDatetime :=
  ⟨⟨second * 1000000, 0⟩, h⟩

/-- A lease of a minute for a tool that reads. -/
def minuteLease : CapabilityLease where
  runId := "run-1"
  project := "ai4binance"
  toolName := "read_report"
  permission := .readOnly
  policyHash := String.ofList (List.replicate 64 'a')
  issuedAt := secondOf 0 (by decide +kernel)
  expiresAt := secondOf 60 (by decide +kernel)
  leaseId := "lease-1"
  passes := by decide +kernel

/-- The request of this lease. -/
def minuteRequest : LeaseRequest where
  runId := "run-1"
  project := "ai4binance"
  descriptor := ⟨"read_report", ["ai4binance"], .readLocal⟩
  permission := .readOnly
  policyHash := String.ofList (List.replicate 64 'a')

/-- The lease is issued, and consumed after a second. -/
def issueAndConsume : List CapabilityMove :=
  [.begin 0 (.issue minuteRequest "lease-1" (secondOf 0 (by decide +kernel)) 60000000), .next 0,
    .next 0, .begin 1 (.consume minuteLease "execution-1" (secondOf 1 (by decide +kernel))),
    .next 1, .next 1, .next 1]

/-- The lease as it was returned. -/
def consumedMinute : CapabilityLease :=
  minuteLease.consume (secondOf 1 (by decide +kernel)) "execution-1"

/-- A consumed lease of a minute is returned once, within its lifetime. -/
theorem minute_lease_is_single_use : ∃ l s, Run CapabilityStep {} l s ∧
    consumedLeases l = [consumedMinute] ∧
    (consumedLeases l).Pairwise fun a b =>
      a.leaseId ≠ b.leaseId ∧ a.executionId ≠ b.executionId := by
  obtain ⟨⟨l, s⟩, hdrive, hconsumed⟩ := (Option.any_eq_true _
    (({} : CapabilitySystem).drive issueAndConsume)).mp
      (show (({} : CapabilitySystem).drive issueAndConsume).any
        (fun r => consumedLeases r.1 = [consumedMinute]) by decide +kernel)
  have hrun := run_of_drive hdrive
  exact ⟨l, s, hrun, of_decide_eq_true hconsumed, (leases_are_single_use l s hrun).1⟩

/-- The same lease, with no execution of its own. -/
def withoutExecution : CapabilityLease where
  toLeaseFields := { consumedMinute.toLeaseFields with executionId := none }
  passes := consumedMinute.passes

/-- A verification accepts a lease that no consume call has returned: the execution that the lease
names is not compared. -/
theorem forged_execution_is_verified : ∃ l s, Run CapabilityStep {} l s ∧
    .verified 2 withoutExecution "execution-1" (secondOf 2 (by decide +kernel)) ∈ l ∧
    withoutExecution ∉ consumedLeases l := by
  obtain ⟨⟨l, s⟩, hdrive, hverified⟩ := (Option.any_eq_true _
    (({} : CapabilitySystem).drive (issueAndConsume ++
      [.begin 2 (.verifyConsumed withoutExecution "execution-1" (secondOf 2 (by decide +kernel))),
        .next 2]))).mp
      (show (({} : CapabilitySystem).drive (issueAndConsume ++
        [.begin 2 (.verifyConsumed withoutExecution "execution-1" (secondOf 2 (by decide +kernel))),
          .next 2])).any (fun r =>
            .verified 2 withoutExecution "execution-1" (secondOf 2 (by decide +kernel)) ∈ r.1 ∧
              withoutExecution ∉ consumedLeases r.1) by decide +kernel)
  exact ⟨l, s, run_of_drive hdrive, of_decide_eq_true hverified⟩

end Ai4Binance
