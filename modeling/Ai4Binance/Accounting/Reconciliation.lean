/-
Reconciliation of the accounting ledgers (`accounting/reconciliation.py`).

Orders and positions are recorded from the REST interface and from the user stream, in a file
each.  The reconciler reads the end of both files, keeps the last value of every identifier, and
compares the two where an identifier is in both.

* `readEvents`, `latestById`, `latestPositionAmounts`: what is read of a file;
* `compareEntity`: the record of an identifier;
* `spotOrderRecords`, `futuresOrderRecords`, `futuresPositionRecords`: the records;
* `latestBy_recorded`: a value that is read is the last one of the whole file;
* `Reports`, `reconciliation_reports`: **one record for each identifier at the end of both files,
  with the last values, a mismatch when they differ and none when they are the same**;
* `old_order_not_reported`: an identifier before the end of a file, and a number in two spellings.
-/
import Ai4Binance.Lib.Decimal
import Ai4Binance.Lib.LastEntry
import Ai4Binance.Lib.Python

open Check Text

namespace Ai4Binance

/-! ### Ledger files -/

/-- `payload` of an event.  The ledger writes the fields that are read here as texts, decimals
among them; a `null` is like a field that is missing. -/
abbrev LedgerPayload : Type := SortedMap String String

/-- A line of a ledger file: white space, no JSON object, or an event with its payload, if that is
an object. -/
inductive LedgerLine where
  | blank
  | unreadable
  | event (payload : Option LedgerPayload)
  deriving DecidableEq

/-- A file, of which there may be none that can be read. -/
abbrev LedgerFile : Type := Option (List LedgerLine)

/-- The payload of a line. -/
def LedgerLine.payload? : LedgerLine → Option LedgerPayload
  | .event payload => payload
  | _ => none

/-- `_payloads` of all the lines of a file. -/
def LedgerFile.payloads (file : LedgerFile) : List LedgerPayload :=
  (file.getD []).filterMap LedgerLine.payload?

/-- `deque(stream, maxlen=limit)`. -/
def lastLines (limit : ℕ) (lines : List LedgerLine) : List LedgerLine :=
  lines.drop (lines.length - limit)

/-- `_read_events`, before the lines are decoded. -/
def readEvents (file : LedgerFile) : LedgerFile := file.map (lastLines 500)

/-- The identifier and the value of `_latest_by_id`. -/
def idEntry (idField valueField : String) (payload : LedgerPayload) :
    Option (String × Option String) :=
  match payload.get? idField with
  | some entityId => if isBlank entityId then none else some (entityId, payload.get? valueField)
  | none => none

/-- The identifier and the value of `_latest_position_amounts`. -/
def positionEntry (valueField : String) (payload : LedgerPayload) :
    Option (String × Option String) :=
  match payload.get? "symbol", payload.get? "position_side" with
  | some symbol, some side => some (symbol ++ ":" ++ side, payload.get? valueField)
  | _, _ => none

/-- The values of a file in the order of its lines. -/
def LedgerFile.recorded (file : LedgerFile)
    (entry : LedgerPayload → Option (String × Option String)) : List (String × Option String) :=
  file.payloads.filterMap entry

/-- The dictionary of the last values. -/
def latestBy (entry : LedgerPayload → Option (String × Option String)) (file : LedgerFile) :
    SortedMap String (Option String) :=
  .ofList ((readEvents file).recorded entry)

/-- `_latest_by_id`. -/
def latestById (file : LedgerFile) (idField valueField : String) :
    SortedMap String (Option String) :=
  latestBy (idEntry idField valueField) file

/-- `_latest_position_amounts`. -/
def latestPositionAmounts (file : LedgerFile) (valueField : String) :
    SortedMap String (Option String) :=
  latestBy (positionEntry valueField) file

/-! ### Records -/

/-- `ProductType` of a record. -/
inductive LedgerProduct where
  | spot
  | futuresUsdm
  deriving DecidableEq

/-- `severity` of a comparison. -/
inductive ReconciliationSeverity where
  | ok
  | warning
  deriving DecidableEq

/-- `difference` of a record: nothing, a number, or the two values. -/
inductive LedgerDifference where
  | empty
  | number (value : ℚ)
  | values (rest stream : Option String)
  deriving DecidableEq

/-- `ReconciliationResultRecord`. -/
structure ReconciliationResultRecord where
  productType : LedgerProduct
  entityType : String
  entityId : String
  restValue : Option String
  streamValue : Option String
  difference : LedgerDifference
  severity : ReconciliationSeverity
  reconciledAt : ℤ
  resolution : String
  dataQualityIssues : List String
  entityId_text : isBlank entityId = false

section

variable [UnicodeData]

/-- `_optional_decimal`. -/
def optionalDecimal (value : Option String) : Option Decimal :=
  match value.bind Decimal.parseExact with
  | some (.finite d) => some d
  | _ => none

variable (c : Context)

/-- `_difference`, in the context of the thread. -/
def ledgerDifference (rest stream : Option String) : Except PyError LedgerDifference :=
  match optionalDecimal rest, optionalDecimal stream with
  | some r, some s => orRaise ((c.sub r.toRat s.toRat).map .number) .decimal
  | _, _ => .ok (if rest = stream then .empty else .values rest stream)

/-- The issue of a mismatch. -/
def mismatchIssue (entityType : String) : String := entityType ++ "_REST_WEBSOCKET_MISMATCH"

/-- `_compare_entity`. -/
def compareEntity (productType : LedgerProduct) (entityType entityId : String)
    (rest stream : Option String) (observedAt : ℤ) :
    Except PyError ReconciliationResultRecord := do
  let issues := if rest ≠ stream then [mismatchIssue entityType] else []
  let difference ← ledgerDifference c rest stream
  if h : isBlank entityId = false then
    return {
      productType, entityType, entityId, difference
      restValue := rest
      streamValue := stream
      severity := if issues = [] then .ok else .warning
      reconciledAt := observedAt
      resolution := if issues = [] then "NO_ACTION" else "REST_REPLAY_REQUIRED"
      dataQualityIssues := issues
      entityId_text := h }
  else throw (.value "accounting text fields cannot be blank")

/-- The records of the identifiers in two dictionaries. -/
def entityRecords (productType : LedgerProduct) (entityType : String)
    (rest stream : SortedMap String (Option String)) (observedAt : ℤ) :
    Except PyError (List ReconciliationResultRecord) :=
  (rest.commonKeys stream).mapM fun key =>
    compareEntity c productType entityType key (rest.get? key).join (stream.get? key).join
      observedAt

/-- The files of the ledger that are compared. -/
structure AccountingFiles where
  spotOrders : LedgerFile
  spotOrderEvents : LedgerFile
  futuresOrders : LedgerFile
  futuresOrderEvents : LedgerFile
  positionsCurrent : LedgerFile
  positionEvents : LedgerFile

variable (files : AccountingFiles) (observedAt : ℤ)

/-- `_spot_order_records`. -/
def spotOrderRecords : Except PyError (List ReconciliationResultRecord) :=
  entityRecords c .spot "ORDER_STATUS" (latestById files.spotOrders "order_id" "status")
    (latestById files.spotOrderEvents "order_id" "order_status") observedAt

/-- `_futures_order_records`. -/
def futuresOrderRecords : Except PyError (List ReconciliationResultRecord) :=
  entityRecords c .futuresUsdm "ORDER_STATUS" (latestById files.futuresOrders "order_id" "status")
    (latestById files.futuresOrderEvents "order_id" "order_status") observedAt

/-- `_futures_position_records`. -/
def futuresPositionRecords : Except PyError (List ReconciliationResultRecord) :=
  entityRecords c .futuresUsdm "POSITION_AMOUNT"
    (latestPositionAmounts files.positionsCurrent "position_amt")
    (latestPositionAmounts files.positionEvents "new_position_amt") observedAt

end

/-! ### The last values -/

section LastValues

variable {entry : LedgerPayload → Option (String × Option String)} {file : LedgerFile}
  {entityId : String}

/-- The value recorded last for an identifier in a file. -/
def LedgerFile.lastRecorded (file : LedgerFile)
    (entry : LedgerPayload → Option (String × Option String)) (entityId : String) :
    Option (Option String) :=
  lastValue entityId (file.recorded entry)

/-- What is read of a file is the end of it. -/
lemma recorded_readEvents (file : LedgerFile)
    (entry : LedgerPayload → Option (String × Option String)) :
    ∃ older, file.recorded entry = older ++ (readEvents file).recorded entry := by
  cases file with
  | none => exact ⟨[], rfl⟩
  | some lines =>
      let cut := lines.length - 500
      refine ⟨(LedgerFile.recorded (some (lines.take cut)) entry), ?_⟩
      simp only [LedgerFile.recorded, LedgerFile.payloads, readEvents, lastLines, Option.map_some,
        Option.getD_some, ← List.filterMap_append]
      rw [List.take_append_drop]

/-- A dictionary looks up the values at the end of its file. -/
lemma get?_latestBy (entry : LedgerPayload → Option (String × Option String)) (file : LedgerFile)
    (entityId : String) :
    (latestBy entry file).get? entityId = (readEvents file).lastRecorded entry entityId :=
  SortedMap.get?_ofList _ _

/-- A value that is read is the last one of the whole file. -/
lemma latestBy_recorded {value : Option String}
    (h : (latestBy entry file).get? entityId = some value) :
    file.lastRecorded entry entityId = some value := by
  obtain ⟨older, hfile⟩ := recorded_readEvents file entry
  rw [LedgerFile.lastRecorded, hfile]
  exact lastValue_append_of_some ((get?_latestBy entry file entityId).symm.trans h)

/-- The identifiers of a dictionary are texts. -/
def TextIds (entry : LedgerPayload → Option (String × Option String)) : Prop :=
  ∀ payload e, entry payload = some e → isBlank e.1 = false

lemma textIds_idEntry (idField valueField : String) : TextIds (idEntry idField valueField) := by
  intro payload e h
  rw [idEntry] at h
  split at h
  · split at h
    · exact absurd h nofun
    · rename_i hblank
      cases h
      simpa using hblank
  · exact absurd h nofun

lemma textIds_positionEntry (valueField : String) : TextIds (positionEntry valueField) := by
  intro payload e h
  rw [positionEntry] at h
  split at h
  · rename_i symbol side _ _
    cases h
    have hcolon : ':' ∈ (symbol ++ ":" ++ side).toList := by simp
    rw [isBlank, List.all_eq_false]
    exact ⟨':', hcolon, by decide⟩
  · cases h

/-- An identifier that is looked up is a text. -/
lemma TextIds.of_latestBy (htext : TextIds entry) {value : Option String}
    (h : (latestBy entry file).get? entityId = some value) : isBlank entityId = false := by
  rw [get?_latestBy, LedgerFile.lastRecorded] at h
  have hsome := lastValue_isSome_iff.mp (Option.isSome_iff_exists.mpr ⟨value, h⟩)
  obtain ⟨e, hmem, rfl⟩ := hsome
  obtain ⟨payload, -, hentry⟩ := List.mem_filterMap.mp hmem
  exact htext payload e hentry

end LastValues

/-! ### The comparison of two files -/

section Comparison

variable [UnicodeData] {c : Context} {observedAt : ℤ} {entityId : String}
  {restEntry streamEntry : LedgerPayload → Option (String × Option String)}
  {rest stream : LedgerFile}

/-- The record says that its values differ. -/
def ReconciliationResultRecord.IsMismatch (r : ReconciliationResultRecord) : Prop :=
  mismatchIssue r.entityType ∈ r.dataQualityIssues

/-- Two values differ, as numbers when both are. -/
def Differ (rest stream : Option String) : Prop :=
  match optionalDecimal rest, optionalDecimal stream with
  | some r, some s => r.toRat ≠ s.toRat
  | _, _ => rest ≠ stream

/-- Values that differ are not the same text. -/
lemma Differ.ne {rest stream : Option String} (h : Differ rest stream) : rest ≠ stream := by
  rintro rfl
  rw [Differ] at h
  split at h
  · rename_i r s hr hs
    exact h (congrArg _ (Option.some.inj (hr.symm.trans hs)))
  · exact h rfl

/-- **The comparison of two files.**  It fails only when a difference of two numbers is beyond the
context; it has one record for each identifier at the end of both files, with the last values of
the whole files, a mismatch when these differ and none when they are the same. -/
structure Reports (c : Context)
    (restEntry streamEntry : LedgerPayload → Option (String × Option String))
    (rest stream : LedgerFile) (result : Except PyError (List ReconciliationResultRecord)) :
    Prop where
  returns : (∀ entityId restValue streamValue r s,
    rest.lastRecorded restEntry entityId = some restValue →
    stream.lastRecorded streamEntry entityId = some streamValue →
    optionalDecimal restValue = some r → optionalDecimal streamValue = some s →
    (c.sub r.toRat s.toRat).isSome) → ∃ records, result = .ok records
  once : ∀ records, result = .ok records → (records.map (·.entityId)).Nodup
  present : ∀ records, result = .ok records → ∀ entityId,
    entityId ∈ records.map (·.entityId) ↔
      ((readEvents rest).lastRecorded restEntry entityId).isSome ∧
        ((readEvents stream).lastRecorded streamEntry entityId).isSome
  latest : ∀ records, result = .ok records → ∀ r ∈ records,
    rest.lastRecorded restEntry r.entityId = some r.restValue ∧
      stream.lastRecorded streamEntry r.entityId = some r.streamValue
  differs : ∀ records, result = .ok records → ∀ r ∈ records,
    Differ r.restValue r.streamValue → r.IsMismatch
  same : ∀ records, result = .ok records → ∀ r ∈ records,
    r.restValue = r.streamValue → ¬ r.IsMismatch

/-- The record of an identifier. -/
lemma compareEntity_ok {productType : LedgerProduct} {entityType : String}
    {restValue streamValue : Option String} {r : ReconciliationResultRecord}
    (h : compareEntity c productType entityType entityId restValue streamValue observedAt = .ok r) :
    r.entityId = entityId ∧ r.restValue = restValue ∧ r.streamValue = streamValue ∧
      (r.IsMismatch ↔ restValue ≠ streamValue) := by
  rw [compareEntity] at h
  obtain ⟨difference, -, h⟩ := bind_eq_ok.mp h
  split at h
  · cases h
    refine ⟨rfl, rfl, rfl, ?_⟩
    by_cases hne : restValue ≠ streamValue
    · simp [ReconciliationResultRecord.IsMismatch, hne]
    · simp [ReconciliationResultRecord.IsMismatch, not_not.mp hne]
  · exact absurd h nofun

/-- The comparison of an identifier fails only when a difference is beyond the context. -/
lemma compareEntity_returns {productType : LedgerProduct} {entityType : String}
    {restValue streamValue : Option String} (htext : isBlank entityId = false)
    (hsub : ∀ r s, optionalDecimal restValue = some r → optionalDecimal streamValue = some s →
      (c.sub r.toRat s.toRat).isSome) :
    ∃ r, compareEntity c productType entityType entityId restValue streamValue observedAt =
      .ok r := by
  have hdifference : ∃ d, ledgerDifference c restValue streamValue = .ok d := by
    rw [ledgerDifference]
    split
    · rename_i r s hr hs
      obtain ⟨value, hvalue⟩ := Option.isSome_iff_exists.mp (hsub r s hr hs)
      exact ⟨.number value, by rw [hvalue]; rfl⟩
    · exact ⟨_, rfl⟩
  obtain ⟨d, hd⟩ := hdifference
  rw [compareEntity, hd, ok_bind, dif_pos htext]
  exact ⟨_, rfl⟩

/-- The comparison of two files, of identifiers that are texts. -/
lemma reports_entityRecords (hrest : TextIds restEntry) (productType : LedgerProduct)
    (entityType : String) :
    Reports c restEntry streamEntry rest stream
      (entityRecords c productType entityType (latestBy restEntry rest)
        (latestBy streamEntry stream) observedAt) := by
  have hvalues : ∀ key ∈ (latestBy restEntry rest).commonKeys (latestBy streamEntry stream),
      ∃ restValue streamValue, (latestBy restEntry rest).get? key = some restValue ∧
        (latestBy streamEntry stream).get? key = some streamValue := by
    intro key hkey
    obtain ⟨hr, hs⟩ := SortedMap.mem_commonKeys.mp hkey
    obtain ⟨restValue, hr⟩ := Option.isSome_iff_exists.mp hr
    obtain ⟨streamValue, hs⟩ := Option.isSome_iff_exists.mp hs
    exact ⟨restValue, streamValue, hr, hs⟩
  have hrecord : ∀ records, entityRecords c productType entityType (latestBy restEntry rest)
      (latestBy streamEntry stream) observedAt = .ok records → ∀ r ∈ records,
      (latestBy restEntry rest).get? r.entityId = some r.restValue ∧
      (latestBy streamEntry stream).get? r.entityId = some r.streamValue ∧
      (r.IsMismatch ↔ r.restValue ≠ r.streamValue) := by
    intro records hrecords r hr
    obtain ⟨key, hkey, hcompare⟩ := mem_of_mapM_eq_ok hrecords hr
    obtain ⟨restValue, streamValue, hrestValue, hstreamValue⟩ := hvalues key hkey
    rw [hrestValue, hstreamValue] at hcompare
    obtain ⟨rfl, hr', hs', hmismatch⟩ := compareEntity_ok hcompare
    rw [Option.join_some] at hr' hs' hmismatch
    exact ⟨hr' ▸ hrestValue, hs' ▸ hstreamValue, by rw [hr', hs']; exact hmismatch⟩
  have hids : ∀ records, entityRecords c productType entityType (latestBy restEntry rest)
      (latestBy streamEntry stream) observedAt = .ok records →
      records.map (·.entityId) =
        (latestBy restEntry rest).commonKeys (latestBy streamEntry stream) := by
    intro records hrecords
    exact map_of_mapM_eq_ok hrecords fun key r hr => (compareEntity_ok hr).1
  refine ⟨fun hsub => ?_, fun records h => ?_, fun records h entityId => ?_, fun records h r hr => ?_,
    fun records h r hr hdiffer => ?_, fun records h r hr heq hmismatch => ?_⟩
  · refine exists_mapM_eq_ok fun key hkey => ?_
    obtain ⟨restValue, streamValue, hr, hs⟩ := hvalues key hkey
    rw [hr, hs]
    exact compareEntity_returns (hrest.of_latestBy hr) fun r s =>
      hsub key restValue streamValue r s (latestBy_recorded hr) (latestBy_recorded hs)
  · rw [hids records h]
    exact SortedMap.nodup_commonKeys _ _
  · rw [hids records h, SortedMap.mem_commonKeys, get?_latestBy, get?_latestBy]
  · obtain ⟨hr', hs', -⟩ := hrecord records h r hr
    exact ⟨latestBy_recorded hr', latestBy_recorded hs'⟩
  · exact (hrecord records h r hr).2.2.mpr hdiffer.ne
  · exact (hrecord records h r hr).2.2.mp hmismatch heq

/-- **The records of the orders and of the positions.** -/
theorem reconciliation_reports (c : Context) (files : AccountingFiles) (observedAt : ℤ) :
    Reports c (idEntry "order_id" "status") (idEntry "order_id" "order_status")
      files.spotOrders files.spotOrderEvents (spotOrderRecords c files observedAt) ∧
    Reports c (idEntry "order_id" "status") (idEntry "order_id" "order_status")
      files.futuresOrders files.futuresOrderEvents (futuresOrderRecords c files observedAt) ∧
    Reports c (positionEntry "position_amt") (positionEntry "new_position_amt")
      files.positionsCurrent files.positionEvents
      (futuresPositionRecords c files observedAt) :=
  ⟨reports_entityRecords (textIds_idEntry _ _) _ _,
    reports_entityRecords (textIds_idEntry _ _) _ _,
    reports_entityRecords (textIds_positionEntry _) _ _⟩

end Comparison

/-! ### An order before the end of its file -/

/-- The status of an order. -/
def orderLine (orderId valueField status : String) : LedgerLine :=
  .event (some (.ofList [("order_id", orderId), (valueField, status)]))

/-- The amount of a long position. -/
def positionLine (valueField amount : String) : LedgerLine :=
  .event (some (.ofList [("symbol", "BTCUSDT"), ("position_side", "LONG"), (valueField, amount)]))

/-- An order that is followed by five hundred lines of another one, and a position of which the
user stream writes the amount with one digit more. -/
def longFiles : AccountingFiles where
  spotOrders := some (orderLine "1" "status" "NEW" ::
    List.replicate 500 (orderLine "2" "status" "NEW"))
  spotOrderEvents := some [orderLine "1" "order_status" "FILLED"]
  futuresOrders := none
  futuresOrderEvents := none
  positionsCurrent := some [positionLine "position_amt" "0.5"]
  positionEvents := some [positionLine "new_position_amt" "0.50"]

/-- An order in both files with another status has no record, and a position of the same amount
has one of a mismatch. -/
theorem old_order_not_reported :
    (LedgerFile.lastRecorded longFiles.spotOrders (idEntry "order_id" "status") "1" =
        some (some "NEW") ∧
      LedgerFile.lastRecorded longFiles.spotOrderEvents (idEntry "order_id" "order_status") "1" =
        some (some "FILLED") ∧
      ∃ records, spotOrderRecords .default longFiles 0 = .ok records ∧
        "1" ∉ records.map (·.entityId)) ∧
    ∃ records, futuresPositionRecords .default longFiles 0 = .ok records ∧
      ∃ r ∈ records, r.restValue = some "0.5" ∧ r.streamValue = some "0.50" ∧
        ¬ Differ r.restValue r.streamValue ∧ r.IsMismatch := by
  have horders : (spotOrderRecords .default longFiles 0).toOption.any fun records =>
      "1" ∉ records.map (·.entityId) := by decide +kernel
  have hpositions : (futuresPositionRecords .default longFiles 0).toOption.any fun records =>
      records.any fun r => r.restValue = some "0.5" ∧ r.streamValue = some "0.50" ∧
        mismatchIssue r.entityType ∈ r.dataQualityIssues := by decide +kernel
  have hdiffer : ¬ Differ (some "0.5") (some "0.50") := by
    have hhalf : optionalDecimal (some "0.5") = some ⟨false, 5, -1⟩ := by decide +kernel
    have hhalf' : optionalDecimal (some "0.50") = some ⟨false, 50, -2⟩ := by decide +kernel
    simp only [Differ, hhalf, hhalf']
    norm_num [Decimal.toRat]
  obtain ⟨records, hrecords, hnone⟩ := exists_ok_of_any horders
  obtain ⟨records', hrecords', hany⟩ := exists_ok_of_any hpositions
  obtain ⟨r, hr, hvalues⟩ := List.any_eq_true.mp hany
  obtain ⟨hrest, hstream, hmismatch⟩ := of_decide_eq_true hvalues
  exact ⟨⟨by decide +kernel, by decide +kernel, records, hrecords, of_decide_eq_true hnone⟩,
    records', hrecords', r, hr, hrest, hstream, by rw [hrest, hstream]; exact hdiffer, hmismatch⟩

end Ai4Binance
