/-
Order independence and revocation of the approval queue
(`resolve_execution_authorization` of `execution/manual_approval.py`).

An authorization is resolved through three selections of records: those bound to its
id, those of their approval, and the latest of these.  Each of them reads the queue as
a multiset, so the order of the lines does not matter, and a record that is not earlier
than the others of its approval is the latest or shares its time with another one.

* `resolveRecords_eq_some_iff`: the three selections;
* `latestRecord_append`: the latest record after an append;
* `resolution_is_revocable`: both results, for the lines of the queue.
-/
import Ai4Binance.Execution.SingleUse

open Text Check

namespace Ai4Binance

variable [UnicodeData]

/-! ### The selections -/

lemma latestRecord_eq_some_iff {matching : List ApprovalQueueRecord} {r : ApprovalQueueRecord} :
    latestRecord matching = some r ↔
      ∃ latestAt, (matching.map (·.createdAt)).max? = some latestAt ∧
        matching.filter (·.createdAt = latestAt) = [r] := by
  simp only [latestRecord, Option.bind_eq_bind, Option.bind_eq_some_iff]
  refine exists_congr fun latestAt => and_congr_right fun _ => ?_
  split
  · rename_i s hs
    rw [hs, Option.some.injEq, List.cons.injEq, and_iff_left rfl]
  · rename_i hne
    refine iff_of_false ?_ (hne r)
    rintro ⟨⟩

lemma resolveRecords_eq_some_iff {rs : List ApprovalQueueRecord} {authorizationId : String}
    {e : ExecutionAuthorizationEnvelope} :
    resolveRecords rs authorizationId = some e ↔
      ∃ approvalId r,
        (((rs.filterMap (·.executionAuthorization)).filter
          (·.authorizationId = authorizationId)).map (·.approvalId)).dedup = [approvalId] ∧
        latestRecord (rs.filter (·.approval.approvalId = approvalId)) = some r ∧
        r.executionAuthorization = some e ∧ r.Approves authorizationId e := by
  rw [resolveRecords]
  split
  · rename_i approvalId happroval
    simp only [happroval, List.cons.injEq, and_true, exists_and_left, exists_eq_left',
      Option.bind_eq_bind, Option.bind_eq_some_iff]
    refine exists_congr fun r => and_congr_right fun _ => ?_
    constructor
    · rintro ⟨e', he', h⟩
      split_ifs at h with hok
      obtain rfl := Option.some.inj h
      exact ⟨he', hok⟩
    · rintro ⟨he, hok⟩
      exact ⟨e, he, if_pos hok⟩
  · rename_i hne
    constructor
    · intro h
      cases h
    · rintro ⟨approvalId, -, happroval, -⟩
      exact absurd happroval (hne approvalId)

/-! ### Permutations -/

omit [UnicodeData] in
lemma max?_perm {l l' : List ℤ} (h : l.Perm l') {m : ℤ} (hm : l.max? = some m) :
    l'.max? = some m := by
  rw [List.max?_eq_some_iff] at hm ⊢
  exact ⟨h.mem_iff.mp hm.1, fun b hb => hm.2 b (h.mem_iff.mpr hb)⟩

omit [UnicodeData] in
lemma eq_singleton_of_perm {α : Type*} {l l' : List α} {a : α} (h : l.Perm l') (hl : l = [a]) :
    l' = [a] :=
  List.perm_singleton.mp (hl ▸ h.symm)

lemma latestRecord_perm {l l' : List ApprovalQueueRecord} {r : ApprovalQueueRecord}
    (h : l.Perm l') (hr : latestRecord l = some r) : latestRecord l' = some r := by
  obtain ⟨latestAt, hmax, hlatest⟩ := latestRecord_eq_some_iff.mp hr
  exact latestRecord_eq_some_iff.mpr ⟨latestAt, max?_perm (h.map _) hmax,
    eq_singleton_of_perm (h.filter _) hlatest⟩

lemma resolveRecords_perm {rs rs' : List ApprovalQueueRecord} (h : rs.Perm rs')
    (authorizationId : String) :
    resolveRecords rs authorizationId = resolveRecords rs' authorizationId := by
  have hsome : ∀ {l l' : List ApprovalQueueRecord} {e}, l.Perm l' →
      resolveRecords l authorizationId = some e → resolveRecords l' authorizationId = some e := by
    intro l l' e hperm he
    obtain ⟨approvalId, r, happroval, hlatest, hr⟩ := resolveRecords_eq_some_iff.mp he
    refine resolveRecords_eq_some_iff.mpr ⟨approvalId, r, ?_, ?_, hr⟩
    · exact eq_singleton_of_perm (((hperm.filterMap _).filter _).map _).dedup happroval
    · exact latestRecord_perm (hperm.filter _) hlatest
  exact Option.ext fun e => ⟨hsome h, hsome h.symm⟩

lemma records_perm {lines lines' : List QueueLine} (h : lines.Perm lines')
    {rs : List ApprovalQueueRecord} (hrs : records lines = .ok rs) :
    ∃ rs', records lines' = .ok rs' ∧ rs.Perm rs' := by
  induction h generalizing rs with
  | nil => exact ⟨rs, hrs, .refl rs⟩
  | cons line _ ih =>
    simp only [records, List.mapM_cons, id, bind_eq_ok, pure_eq_ok] at hrs
    obtain ⟨r, rfl, tail, htail, rfl⟩ := hrs
    obtain ⟨tail', htail', hperm⟩ := ih htail
    refine ⟨r :: tail', ?_, hperm.cons r⟩
    simp only [records, List.mapM_cons, id, bind_eq_ok, pure_eq_ok]
    exact ⟨r, rfl, tail', htail', rfl⟩
  | swap a b lines =>
    simp only [records, List.mapM_cons, id, bind_eq_ok, pure_eq_ok] at hrs
    obtain ⟨r, rfl, _, ⟨s, rfl, tail, htail, rfl⟩, rfl⟩ := hrs
    refine ⟨s :: r :: tail, ?_, .swap s r tail⟩
    simp only [records, List.mapM_cons, id, bind_eq_ok, pure_eq_ok]
    exact ⟨s, rfl, r :: tail, ⟨r, rfl, tail, htail, rfl⟩, rfl⟩
  | trans _ _ ih₁ ih₂ =>
    obtain ⟨rs₁, hrs₁, hperm₁⟩ := ih₁ hrs
    obtain ⟨rs₂, hrs₂, hperm₂⟩ := ih₂ hrs₁
    exact ⟨rs₂, hrs₂, hperm₁.trans hperm₂⟩

/-! ### Revocation -/

/-- A record that is not earlier than the others is the latest one, or there is
none. -/
lemma latestRecord_append {matching : List ApprovalQueueRecord} {r s : ApprovalQueueRecord}
    (hlate : ∀ t ∈ matching, t.createdAt ≤ r.createdAt)
    (h : latestRecord (matching ++ [r]) = some s) : s = r := by
  obtain ⟨latestAt, hmax, hlatest⟩ := latestRecord_eq_some_iff.mp h
  obtain ⟨hmem, hle⟩ := List.max?_eq_some_iff.mp hmax
  have hlatestAt : r.createdAt = latestAt := by
    refine le_antisymm (hle _ (by simp)) ?_
    obtain ⟨t, ht, rfl⟩ := List.mem_map.mp hmem
    rcases List.mem_append.mp ht with ht | ht
    · exact hlate t ht
    · rw [List.mem_singleton.mp ht]
  have hr : r ∈ (matching ++ [r]).filter (·.createdAt = latestAt) := by simp [hlatestAt]
  rw [hlatest] at hr
  exact (List.mem_singleton.mp hr).symm

/-- The approval behind a resolved envelope. -/
lemma approvalId_of_resolve {rs : List ApprovalQueueRecord} {authorizationId approvalId : String}
    {e : ExecutionAuthorizationEnvelope} {r : ApprovalQueueRecord}
    (hlatest : latestRecord (rs.filter (·.approval.approvalId = approvalId)) = some r)
    (hok : r.Approves authorizationId e) : e.approvalId = approvalId := by
  have hmem := (List.mem_filter.mp (latestRecord_mem hlatest)).2
  rw [hok.2.2.2.2.2.1]
  simpa using hmem

/-- A later record of the same approval that is not approved takes the envelope
back. -/
lemma resolveRecords_revoked {rs : List ApprovalQueueRecord} {authorizationId : String}
    {e : ExecutionAuthorizationEnvelope} {r : ApprovalQueueRecord}
    (he : resolveRecords rs authorizationId = some e)
    (happroval : r.approval.approvalId = e.approvalId)
    (hlate : ∀ t ∈ rs, t.approval.approvalId = r.approval.approvalId → t.createdAt ≤ r.createdAt)
    (hstatus : r.action.approvalStatus ≠ .approved ∨ r.approval.approvalStatus ≠ .approved) :
    resolveRecords (rs ++ [r]) authorizationId = none := by
  rw [Option.eq_none_iff_forall_not_mem]
  intro e' he'
  obtain ⟨approvalId, s, hbound, hlatest, -, hok⟩ := resolveRecords_eq_some_iff.mp he
  obtain ⟨approvalId', s', hbound', hlatest', -, hok'⟩ := resolveRecords_eq_some_iff.mp he'
  -- the approvals of the bound records are those of the longer queue too
  obtain rfl : approvalId = approvalId' := by
    have hmem : approvalId ∈ ((((rs ++ [r]).filterMap (·.executionAuthorization)).filter
        (·.authorizationId = authorizationId)).map (·.approvalId)).dedup := by
      rw [List.filterMap_append, List.filter_append, List.map_append, List.mem_dedup]
      refine List.mem_append_left _ ?_
      rw [← List.mem_dedup, hbound]
      exact List.mem_singleton_self _
    rw [hbound'] at hmem
    exact List.mem_singleton.mp hmem
  have hsame : r.approval.approvalId = approvalId :=
    happroval.trans (approvalId_of_resolve hlatest hok)
  have hlast : s' = r := by
    rw [List.filter_append, List.filter_cons_of_pos (by simp [hsame]), List.filter_nil] at hlatest'
    refine latestRecord_append (fun t ht => ?_) hlatest'
    obtain ⟨ht, hid⟩ := List.mem_filter.mp ht
    exact hlate t ht (by rw [hsame]; simpa using hid)
  subst hlast
  rcases hstatus with hstatus | hstatus
  · exact hstatus hok'.1
  · exact hstatus hok'.2.1

/-- **Approval resolution is order independent and revocable**: what the queue
resolves it resolves for every order of its lines, and an append of a record of the
same approval that is not earlier than the others and not approved takes a resolved
authorization back. -/
theorem resolution_is_revocable (lines : List QueueLine) (authorizationId : String) :
    (∀ lines' result, lines.Perm lines' →
      resolveExecutionAuthorization lines authorizationId = .ok result →
      resolveExecutionAuthorization lines' authorizationId = .ok result) ∧
    ∀ e r, resolveExecutionAuthorization lines authorizationId = .ok (some e) →
      r.approval.approvalId = e.approvalId →
      (∀ t, .ok t ∈ lines → t.approval.approvalId = r.approval.approvalId →
        t.createdAt ≤ r.createdAt) →
      (r.action.approvalStatus ≠ .approved ∨ r.approval.approvalStatus ≠ .approved) →
      resolveExecutionAuthorization (lines ++ [.ok r]) authorizationId = .ok none := by
  constructor
  · intro lines' result hperm h
    rw [resolveExecutionAuthorization] at h ⊢
    split_ifs at h ⊢ with hblank
    · exact h
    · obtain ⟨rs, hrs, rfl⟩ := map_eq_ok.mp h
      obtain ⟨rs', hrs', hperm'⟩ := records_perm hperm hrs
      exact map_eq_ok.mpr ⟨rs', hrs', (resolveRecords_perm hperm' _).symm⟩
  · intro e r h happroval hlate hstatus
    rw [resolveExecutionAuthorization] at h ⊢
    split_ifs at h ⊢ with hblank
    · simp at h
    · obtain ⟨rs, hrs, he⟩ := map_eq_ok.mp h
      refine map_eq_ok.mpr ⟨rs ++ [r], ?_, ?_⟩
      · simp only [records, List.mapM_append, bind_eq_ok, pure_eq_ok]
        exact ⟨rs, hrs, [r], rfl, rfl⟩
      · exact resolveRecords_revoked he happroval
          (fun t ht => hlate t (mem_of_records hrs ht)) hstatus

end Ai4Binance

namespace Ai4Binance.Placement

/-- The sample approval is cancelled at the time it was given. -/
def revokingRecord : ApprovalQueueRecord where
  action := { sampleRecord.action with approvalStatus := .cancelled }
  approval := { sampleRecord.approval with approvalStatus := .cancelled }
  createdAt := 0
  sameAction := by decide
  bound := by simp

/-- The sample authorization is resolved, and no longer after that. -/
theorem sample_is_revoked :
    resolveExecutionAuthorization [.ok sampleRecord] "auth" = .ok (some sampleEnvelope) ∧
      resolveExecutionAuthorization ([.ok sampleRecord] ++ [.ok revokingRecord]) "auth" =
        .ok none := by
  have he : resolveExecutionAuthorization [.ok sampleRecord] "auth" =
      .ok (some sampleEnvelope) := by decide +kernel
  have hlate : ∀ t, (.ok t : QueueLine) ∈ [.ok sampleRecord] →
      t.approval.approvalId = revokingRecord.approval.approvalId →
      t.createdAt ≤ revokingRecord.createdAt := by
    intro t ht _
    obtain rfl := Except.ok.inj (List.mem_singleton.mp ht)
    decide
  exact ⟨he, (resolution_is_revocable _ _).2 sampleEnvelope revokingRecord he (by decide) hlate
    (.inl (by decide))⟩

end Ai4Binance.Placement
