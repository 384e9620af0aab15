import MaterialEmail.PersistedState.Schemas

/-! What a stored state is read as is read again as it is. -/
namespace PersistedState

open JsString
open JsonText (Numerals Plain PlainItems PlainMembers)
open Schema
open Identities (Identifier MailIdentity belonging)
open MessageTags (MessageTag MessageTagState)
open MailService (AttachmentRiskAssessment AttachmentRiskReason maxSafeInteger)

variable {host : Host} {numerals : Numerals} {value result : JsValue}

section Records

@[simp] theorem settles_bounded (maximum : Nat) : Settles numerals (bounded maximum) := settles_text _

@[simp] theorem settles_filled (maximum : Nat) : Settles numerals (filled maximum) := settles_text _

@[simp] theorem settles_count : Settles numerals count := settles_whole _ _

@[simp] theorem settles_identifier : Settles numerals identifierSchema := settles_trimmed _

@[simp] theorem settles_folderPath : Settles numerals folderPath := settles_text _

@[simp] theorem settles_messageUid : Settles numerals messageUid := settles_whole _ _

@[simp] theorem settles_nativePath : Settles numerals nativePathSchema := settles_text _

@[simp] theorem settles_recipient : Settles numerals recipientSchema := settles_trimmed _

@[simp] theorem settles_timestamp : Settles numerals (timestampSchema host) := settles_text _

@[simp] theorem settles_address : Settles numerals addressSchema :=
  settles_named (by decide) (by simp)

@[simp] theorem settles_folder : Settles numerals folderSchema :=
  settles_named (by decide) (by simp)

@[simp] theorem settles_quarantineRisk : Settles numerals quarantineRiskSchema :=
  settles_named (by decide) (by simp [attachmentRiskReasonSchema])

@[simp] theorem settles_addresses : Settles numerals addresses := settles_array _ _ settles_address

@[simp] theorem settles_remoteContentSource : Settles numerals (remoteContentSourceSchema host) := by
  refine settles_refine _ (settles_named ?_ (by simp))
  simp only [List.map_cons, List.map_nil]
  decide

@[simp] theorem settles_serverSettings : Settles numerals serverSettingsSchema :=
  settles_named (by decide) (by simp)

@[simp] theorem settles_composeDraft : Settles numerals composeDraftSchema :=
  settles_named (by decide) (by simp)

@[simp] theorem settles_pendingOperation : Settles numerals (pendingOperationSchema host) := by
  have patch : Settles numerals (strictObject (named [("unread", optional boolean), ("starred", optional boolean)])) :=
    settles_named (by decide) (by simp)
  refine settles_refine _ (settles_named ?_ (by simp [patch]))
  simp only [List.map_cons, List.map_nil]
  decide

@[simp] theorem settles_outboxItem : Settles numerals (outboxItemSchema host) := by
  refine settles_named ?_ (by simp)
  simp only [List.map_cons, List.map_nil]
  decide

@[simp] theorem settles_quarantinedAttachment : Settles numerals (quarantinedAttachmentSchema host) := by
  have source : Settles numerals (strictObject (named [("accountId", identifierSchema), ("folderPath", folderPath),
      ("uid", messageUid), ("uidValidity", filled 128), ("attachmentIndex", whole 0 9999),
      ("messageId", optional (filled 4096))])) :=
    settles_named (by decide) (by simp)
  refine settles_named ?_ (by simp [source])
  simp only [List.map_cons, List.map_nil]
  decide

@[simp] theorem settles_messageFilter : Settles numerals messageFilterSchema := by
  have condition : Settles numerals messageFilterConditionSchema := settles_named (by decide) (by simp)
  have action : Settles numerals messageFilterActionSchema := settles_named (by decide) (by simp)
  exact settles_named (by decide) (by simp [condition, action])

@[simp] theorem settles_junkModel : Settles numerals junkModelSchema := by
  have counts : Settles numerals junkTokenCountSchema := settles_named (by decide) (by simp)
  exact settles_named (by decide) (by simp [counts])

theorem distinct_summaryShape : (((messageSummaryShape host).map Prod.fst).map ofString).Nodup := by
  simp only [messageSummaryShape, List.map_cons, List.map_nil]
  decide

theorem settles_summaryShape : ((messageSummaryShape host).map Prod.snd).Forall (SettlesMember numerals) := by
  simp [messageSummaryShape]

@[simp] theorem settles_messageSummary : Settles numerals (messageSummarySchema host) :=
  settles_named distinct_summaryShape settles_summaryShape

end Records

section Defaults

theorem settled_emptyText (maximum : Nat) : Settled numerals (bounded maximum) (.string []) :=
  ⟨text_eq_some.2 ⟨[], rfl, by simp [MailService.boundedString], rfl⟩, by simp [Plain]⟩

theorem settled_emptyArray (schema : Schema) (most : Nat) : Settled numerals (array schema 0 most) (.array []) :=
  ⟨array_eq_some.2 ⟨[], [], rfl, by simp, rfl, rfl⟩, by simp [Plain, PlainItems]⟩

@[simp] theorem settles_falseDefault : Settles numerals (orDefault boolean (.boolean false)) :=
  settles_boolean.orDefault ⟨rfl, by simp [Plain]⟩

@[simp] theorem settles_textDefault (maximum : Nat) : Settles numerals (orDefault (bounded maximum) (.string [])) :=
  (settles_bounded maximum).orDefault (settled_emptyText maximum)

@[simp] theorem settles_arrayDefault {schema : Schema} (most : Nat) (settles : Settles numerals schema) :
    Settles numerals (orDefault (array schema 0 most) (.array [])) :=
  (settles_array 0 most settles).orDefault (settled_emptyArray schema most)

end Defaults

section Attachments

theorem oneOf_again {values : List String} {value : String} (listed : value ∈ values) :
    oneOf values (textValue value) = some (textValue value) :=
  text_eq_some.2 ⟨_, rfl, by simpa using ⟨value, listed, rfl⟩, rfl⟩

theorem riskValue_again (risk : AttachmentRiskAssessment) (few : risk.reasons.length ≤ 9) :
    attachmentRiskSchema (riskValue risk) = some (riskValue risk) := by
  have level : oneOf ["ordinary", "caution", "dangerous"] (textValue (riskLevelText risk.level)) =
      some (textValue (riskLevelText risk.level)) :=
    oneOf_again (by cases risk.level <;> simp [riskLevelText])
  have reason (reason : AttachmentRiskReason) : attachmentRiskReasonSchema (textValue (riskReasonText reason)) =
      some (textValue (riskReasonText reason)) :=
    oneOf_again (by cases reason <;> simp [riskReasonText])
  have reasons : array attachmentRiskReasonSchema 0 9
      (.array (risk.reasons.map fun reason => textValue (riskReasonText reason))) =
        some (.array (risk.reasons.map fun reason => textValue (riskReasonText reason))) := by
    refine array_eq_some.2 ⟨_, _, rfl, ⟨Nat.zero_le _, by simpa using few⟩, mapM_same ?_, rfl⟩
    exact List.forall_mem_map.2 fun other _ => reason other
  have levels : (riskValue risk).get (ofString "level") = textValue (riskLevelText risk.level) := JsValue.member_self _ _ _
  have lists : (riskValue risk).get (ofString "reasons") =
      .array (risk.reasons.map fun reason => textValue (riskReasonText reason)) := by
    refine (JsValue.member_other (by decide) _ _).trans (JsValue.member_self _ _ _)
  refine strictObject_eq_some.2 ⟨_, _, rfl, by simp [named], ?_, rfl⟩
  simp only [named, List.map_cons, List.map_nil, readFields, levels, level, lists, reasons]
  rfl

theorem plain_riskValue (risk : AttachmentRiskAssessment) : Plain numerals (riskValue risk) := by
  refine plain_objectOf ["level", "reasons"] rfl (by decide) ?_
  have reasons : Plain numerals (.array (risk.reasons.map fun reason => textValue (riskReasonText reason))) :=
    plain_array (List.forall_mem_map.2 fun reason _ => by simp [textValue, Plain])
  simpa [textValue, Plain] using reasons

/-- The risk that is assessed is one that may stand in the state. -/
theorem settles_assessed {letters : LetterCase} (filename contentType : JsString) :
    Settles numerals (replaced (optional attachmentRiskSchema)
      (riskValue (MailService.classifyAttachment letters filename contentType))) := by
  refine settles_replaced (plain_riskValue _) ?_
  have there : (riskValue (MailService.classifyAttachment letters filename contentType)).isUndefined = false := rfl
  have again := riskValue_again _ (MailService.classifyAttachment_reasons letters filename contentType)
  simp [Schema.optional, there, again]

theorem distinct_attachmentFields (risk : AttachmentRiskAssessment) :
    ((attachmentFields risk).map Prod.fst).Nodup := by
  simp only [attachmentFields, keys_named, List.map_cons, List.map_nil]
  decide

theorem settles_assessedFields {letters : LetterCase} (filename contentType : JsString) :
    Settles numerals (strictObject (attachmentFields (MailService.classifyAttachment letters filename contentType))) := by
  refine settles_named ?_ (by simp [settles_assessed])
  simp only [List.map_cons, List.map_nil]
  decide

/-- The risk is assessed from what stays: the name and the type. -/
@[simp] theorem settles_attachmentSummary {letters : LetterCase} : Settles numerals (attachmentSummarySchema letters) := by
  intro value result proper ok
  unfold attachmentSummarySchema at ok
  have distinct := distinct_attachmentFields
    (MailService.classifyAttachment letters (value.member "filename").text (value.member "contentType").text)
  have kept (name : String) (maximum : Nat) (isField : (ofString name, filled maximum) ∈ attachmentFields
      (MailService.classifyAttachment letters (value.member "filename").text (value.member "contentType").text)) :
      result.member name = value.member name := by
    obtain ⟨-, -, -, same⟩ := text_eq_some.1 (get_strictObject distinct ok isField)
    exact same
  have filename := kept "filename" 4096 (by simp [attachmentFields, named])
  have contentType := kept "contentType" 1024 (by simp [attachmentFields, named])
  have settled := settles_assessedFields _ _ value result proper ok
  refine ⟨?_, settled.plain⟩
  rw [attachmentSummarySchema, filename, contentType]
  exact settled.again

end Attachments

section Messages

@[simp] theorem settles_messageDetail : Settles numerals (messageDetailSchema host) := by
  refine settles_named ?_ ?_
  · simp only [messageSummaryShape, List.cons_append, List.nil_append, List.map_cons, List.map_nil]
    decide
  · have cryptography := settles_assessment.orDefault (@assessmentValue_settled numerals .noContainer)
    rw [List.map_append, List.forall_iff_forall_mem, List.forall_mem_append]
    refine ⟨List.forall_iff_forall_mem.1 settles_summaryShape, ?_⟩
    rw [← List.forall_iff_forall_mem]
    simp [cryptography, unsignedMessageCryptography]

end Messages

section Notifications

theorem settles_action {mark : String} {fields : List (String × Schema)}
    (distinct : ((fields.map Prod.fst).map ofString).Nodup) (each : (fields.map Prod.snd).Forall (SettlesMember numerals))
    (isTarget : ("target", literal mark) ∈ fields) :
    Settles numerals (strictObject (named fields)) ∧
      Marked (ofString "target") (ofString mark) (strictObject (named fields)) :=
  ⟨settles_named distinct each,
    marked_strictObject (by rwa [keys_named]) (List.mem_map.2 ⟨_, isTarget, rfl⟩)⟩

theorem settles_notificationAction : Settles numerals notificationActionSchema := by
  have distinct : (notificationActions.map Prod.fst).Nodup := by
    simp only [notificationActions, List.map_cons, List.map_nil]
    decide
  refine @settles_union numerals (ofString "target") notificationActions distinct ?_
  simp only [notificationActions, List.forall_mem_cons]
  refine ⟨?_, ?_, ?_, ?_, ?_, ?_, List.forall_mem_nil _⟩ <;>
    exact settles_action (by decide) (by simp) (by simp)

/-- The first schema of two that accepts a value. -/
theorem union_pair {first second : Schema} {value result : JsValue} :
    union [first, second] value = some result ↔
      first value = some result ∨ first value = none ∧ second value = some result := by
  rw [union, List.findSome?_cons]
  cases first value with
  | some made => simp
  | none => cases made : second value <;> simp [made]

/-- An action that was stored once is dropped, and then there is none. -/
theorem settles_storedAction : SettlesMember numerals storedNotificationActionSchema := by
  refine settlesMember_optional fun value result proper ok => ?_
  rcases union_pair.1 ok with taken | ⟨-, legacy⟩
  · have settled := settles_notificationAction value result proper taken
    exact Or.inr ⟨union_pair.2 (Or.inl settled.again), settled.plain⟩
  · obtain ⟨-, -, rfl⟩ := Option.map_eq_some_iff.1 legacy
    exact Or.inl rfl

@[simp] theorem settles_notification : Settles numerals (notificationSchema host) := by
  have category : Settles numerals (orDefault (oneOf ["account", "mail", "delivery", "security", "history", "system"])
      (textValue "system")) :=
    (settles_oneOf _).orDefault ⟨text_eq_some.2 ⟨_, rfl, by decide, rfl⟩, by simp [textValue, Plain]⟩
  refine settles_named ?_ (by simp [category, settles_storedAction])
  simp only [List.map_cons, List.map_nil]
  decide

end Notifications

section History

mutual

theorem settled_jsonValue (value result : JsValue) (proper : Proper numerals value) (ok : jsonValueSchema value = some result) :
    Settled numerals jsonValueSchema result := by
  cases value with
  | null =>
    cases ok
    exact ⟨rfl, by simp [Plain]⟩
  | boolean flag =>
    cases ok
    exact ⟨rfl, by simp [Plain]⟩
  | string units =>
    cases ok
    exact ⟨rfl, by simp [Plain]⟩
  | number value =>
    cases value with
    | finite value =>
      cases ok
      exact ⟨rfl, by simpa [Plain, Proper] using proper⟩
    | infinite negative => cases ok
  | array items =>
    rw [jsonValueSchema] at ok
    obtain ⟨results, reads, rfl⟩ := Option.map_eq_some_iff.1 ok
    rw [Proper] at proper
    obtain ⟨again, plain⟩ := settled_jsonItems items results proper reads
    exact ⟨by rw [jsonValueSchema, again, Option.map_some], by rwa [Plain]⟩
  | object members =>
    rw [jsonValueSchema] at ok
    obtain ⟨results, reads, rfl⟩ := Option.map_eq_some_iff.1 ok
    rw [Proper] at proper
    obtain ⟨again, plain, keys⟩ := settled_jsonMembers members results proper.2 reads
    refine ⟨by rw [jsonValueSchema, again, Option.map_some], ?_⟩
    rw [Plain]
    exact ⟨proper.1.sublist keys, plain⟩
  | undefined => cases ok
  | nan => cases ok

theorem settled_jsonItems (items results : List JsValue) (proper : ProperItems numerals items)
    (ok : jsonItems items = some results) : jsonItems results = some results ∧ PlainItems numerals results := by
  cases items with
  | nil =>
    cases ok
    exact ⟨rfl, by simp [PlainItems]⟩
  | cons item items =>
    simp only [jsonItems, Option.bind_eq_bind, Option.bind_eq_some_iff, Option.pure_def, Option.some.injEq] at ok
    obtain ⟨first, isFirst, rest, isRest, rfl⟩ := ok
    rw [ProperItems] at proper
    have settled := settled_jsonValue item first proper.1 isFirst
    obtain ⟨again, plain⟩ := settled_jsonItems items rest proper.2 isRest
    exact ⟨by simp [jsonItems, settled.again, again], by rw [PlainItems]; exact ⟨settled.plain, plain⟩⟩

theorem settled_jsonMembers (members results : List (JsString × JsValue)) (proper : ProperMembers numerals members)
    (ok : jsonMembers members = some results) :
    jsonMembers results = some results ∧ PlainMembers numerals results ∧
      (results.map Prod.fst).Sublist (members.map Prod.fst) := by
  cases members with
  | nil =>
    cases ok
    exact ⟨rfl, by simp [PlainMembers], List.Sublist.refl _⟩
  | cons member members =>
    obtain ⟨key, value⟩ := member
    rw [ProperMembers] at proper
    rw [jsonMembers] at ok
    split at ok
    · obtain ⟨again, plain, keys⟩ := settled_jsonMembers members results proper.2 ok
      exact ⟨again, plain, keys.cons _⟩
    · rename_i own
      simp only [Option.bind_eq_bind, Option.bind_eq_some_iff, Option.pure_def, Option.some.injEq] at ok
      obtain ⟨first, isFirst, rest, isRest, rfl⟩ := ok
      have settled := settled_jsonValue value first proper.1 isFirst
      obtain ⟨again, plain, keys⟩ := settled_jsonMembers members rest proper.2 isRest
      refine ⟨by simp [jsonMembers, own, settled.again, again], ?_, keys.cons_cons _⟩
      rw [PlainMembers]
      exact ⟨settled.plain, plain⟩

end

@[simp] theorem settles_historyRecord : Settles numerals (historyRecordSchema host) := by
  have snapshot : Settles numerals jsonValueSchema := settled_jsonValue
  refine settles_named ?_ (by simp [snapshot])
  simp only [List.map_cons, List.map_nil]
  decide

end History

section Settings

@[simp] theorem settles_preferences : Settles host.numerals preferencesSchema := by
  have days : Settles host.numerals (orDefault (whole 30 3650) (.number (.finite 365))) := by
    have year : host.numerals.isNumber 365 := by simpa using host.isNumber_nat 365 (by decide)
    exact (settles_whole _ _).orDefault ⟨number_eq_some.2 ⟨365, rfl, by decide, rfl⟩, by simpa [Plain] using year⟩
  have dropped : SettlesMember host.numerals (replaced (optional boolean) .undefined) := settlesMember_dropped rfl
  exact settles_named (by decide) (by simp [days, dropped])

@[simp] theorem settles_junkDefault : Settles host.numerals (orDefault junkModelSchema emptyJunkModel) := by
  have zero : host.numerals.isNumber 0 := by simpa using host.isNumber_nat 0 (by decide)
  have one : host.numerals.isNumber 1 := by simpa using host.isNumber_nat 1 (by decide)
  refine settles_junkModel.orDefault ⟨by rfl, ?_⟩
  refine plain_objectOf ["schemaVersion", "junkMessageCount", "goodMessageCount", "tokens"] rfl (by decide) ?_
  simp [Plain, PlainMembers, zero, one]

theorem distinct_accountFields (host : Host) : ((accountFields host).map Prod.fst).Nodup := by
  simp only [accountFields, keys_named, List.map_cons, List.map_nil]
  decide

theorem mem_accountFields (host : Host) : (ofString "messageCryptography", orDefault
    (messageCryptoProfileSchema host.toLetterCase host.dates) emptyMessageCryptoProfile) ∈ accountFields host := by
  simp [accountFields, named]

/-- An account is read again as it is, if the addresses of its profile are not too long in lower case. -/
theorem settled_account (proper : Proper host.numerals value) (ok : accountSchema host value = some result)
    (fits : EmailsFit (result.member "messageCryptography")) : Settled host.numerals (accountSchema host) result := by
  have read := (Option.filter_eq_some_iff.1 ok).1
  have one : host.numerals.isNumber 1 := by simpa using host.isNumber_nat 1 (by decide)
  have made := get_strictObject (distinct_accountFields host) read (mem_accountFields host)
  have profile : Settled host.numerals (orDefault (messageCryptoProfileSchema host.toLetterCase host.dates)
      emptyMessageCryptoProfile) (result.member "messageCryptography") :=
    settled_orDefault (settled_emptyProfile one) made fun given => settled_profile one host.lower_clean given fits
  refine settled_refine ok (settled_named ?_ proper read ?_)
  · simp only [List.map_cons, List.map_nil]
    decide
  · simp [profile.member]

end Settings

section Lists

variable {α : Type}

theorem hasOnly_objectOf {names : List String} {members : List (String × JsValue)} (are : members.map Prod.fst = names) :
    hasOnly names (.objectOf members) = true := by
  subst are
  rw [JsValue.objectOf, hasOnly, List.all_map, List.all_eq_true]
  intro member isMember
  have inside : ofString member.1 ∈ (members.map Prod.fst).map ofString :=
    List.mem_map_of_mem (List.mem_map_of_mem isMember)
  simp only [Function.comp_apply, inside, decide_true, Bool.or_true]

theorem mapM_written {read : JsValue → Option α} {write : α → JsValue} {list : List α}
    (each : ∀ item ∈ list, read (write item) = some item) : (list.map write).mapM read = some list := by
  rw [mapM_eq_some, List.forall₂_map_left_iff]
  exact List.forall₂_same.2 each

theorem wholeOf_int (number : Int) : wholeOf (.number (.finite number)) = some number := by
  simp [wholeOf]

theorem tagOf_tagValue (tag : MessageTag) : tagOf (tagValue tag) = some tag := by
  have known : hasOnly tagNames (tagValue tag) = true := hasOnly_objectOf rfl
  rw [tagOf, if_pos known]
  simp (disch := decide) only [tagValue, JsValue.member_self, JsValue.member_other, textOf, wholeOf_int, flagOf]
  rfl

theorem tagStateOf_tagStateValue {state : MessageTagState}
    (own : ∀ assignment ∈ state.assignments, assignment.1 ≠ protoKey) :
    tagStateOf (tagStateValue state) = some state := by
  have known : hasOnly ["catalog", "assignments"] (tagStateValue state) = true := hasOnly_objectOf rfl
  have catalog : listOf tagOf (.array (state.catalog.map tagValue)) = some state.catalog :=
    mapM_written fun tag _ => tagOf_tagValue tag
  have assignments : assignmentsOf (.object (state.assignments.map fun assignment =>
      (assignment.1, .array (assignment.2.map .string)))) = some state.assignments := by
    have kept : (state.assignments.map fun assignment => (assignment.1, JsValue.array (assignment.2.map .string))).filter
        (·.1 ≠ protoKey) = state.assignments.map fun assignment => (assignment.1, .array (assignment.2.map .string)) := by
      rw [List.filter_eq_self]
      exact List.forall_mem_map.2 fun assignment member => decide_eq_true (own assignment member)
    rw [assignmentsOf, kept, mapM_eq_some, List.forall₂_map_left_iff]
    refine List.forall₂_same.2 fun assignment _ => ?_
    have ids : listOf textOf (.array (assignment.2.map .string)) = some assignment.2 := mapM_written fun id _ => rfl
    rw [assignmentOf, ids]
    rfl
  rw [tagStateOf, if_pos known]
  simp (disch := decide) only [tagStateValue, JsValue.member_self, JsValue.member_other, catalog, assignments]
  rfl

theorem parse_identifier (id : Identifier) : Identifier.parse id = some id := by
  unfold Identifier.parse
  split
  · rename_i valid parsed
    rw [id.2, Option.some.injEq] at parsed
    subst parsed
    rfl
  · rename_i parsed
    rw [id.2] at parsed
    cases parsed

theorem placementOf_placementText (placement : Identities.SignaturePlacement) :
    placementOf (textValue (placementText placement)) = some placement := by
  cases placement <;> rfl

theorem identityOf_identityValue (identity : MailIdentity) : identityOf (identityValue identity) = some identity := by
  have known : hasOnly identityNames (identityValue identity) = true := hasOnly_objectOf rfl
  rw [identityOf, if_pos known]
  simp (disch := decide) only [identityValue, JsValue.member_self, JsValue.member_other, textOf, wholeOf_int, flagOf,
    Option.bind_some, parse_identifier, placementOf_placementText]
  rfl

/-- The keys of the assignments are those of an object, which has each of them once. -/
theorem keys_tagStateOf {state : MessageTagState} (proper : Proper numerals value) (ok : tagStateOf value = some state) :
    (state.assignments.map Prod.fst).Nodup ∧ ∀ assignment ∈ state.assignments, assignment.1 ≠ protoKey := by
  obtain ⟨-, ok⟩ := Option.ite_none_right_eq_some.1 ok
  simp only [Option.bind_eq_bind, Option.bind_eq_some_iff, Option.pure_def, Option.some.injEq] at ok
  obtain ⟨catalog, -, assignments, isAssignments, rfl⟩ := ok
  have inside : Proper numerals (value.member "assignments") := proper.get _
  cases given : value.member "assignments" with
  | object members =>
    rw [given] at isAssignments inside
    have keys : assignments.map Prod.fst = (members.filter (·.1 ≠ protoKey)).map Prod.fst := by
      refine keys_of_mapM (fun member made isMade => ?_) isAssignments
      obtain ⟨ids, -, rfl⟩ := Option.map_eq_some_iff.1 isMade
      rfl
    refine ⟨keys ▸ inside.distinct.sublist (List.filter_sublist.map _), fun assignment member => ?_⟩
    have isKey := List.mem_map_of_mem (f := Prod.fst) member
    rw [keys] at isKey
    obtain ⟨original, isOriginal, same⟩ := List.mem_map.1 isKey
    exact same ▸ of_decide_eq_true (List.mem_filter.1 isOriginal).2
  | _ =>
    rw [given] at isAssignments
    cases isAssignments

theorem isNumber_bounded (host : Host) {number : Int} (least : 0 ≤ number) (most : number ≤ maxSafeInteger) :
    host.numerals.isNumber number := by
  obtain ⟨count, rfl⟩ := Int.eq_ofNat_of_zero_le least
  simpa using host.isNumber_nat count (by exact_mod_cast most)

theorem plain_tagStateValue {state : MessageTagState} (distinct : (state.assignments.map Prod.fst).Nodup)
    (stored : MessageTags.messageTagStateSchema host.toHost state = some state) :
    Plain host.numerals (tagStateValue state) := by
  obtain ⟨⟨-, catalogue, -, -⟩, -⟩ := Option.ite_none_right_eq_some.1 stored
  have tag (tag : MessageTag) (member : tag ∈ state.catalog) : Plain host.numerals (tagValue tag) := by
    have ok := List.all_eq_true.1 catalogue tag member
    simp only [MessageTags.messageTagSchema, Bool.and_eq_true, decide_eq_true_eq] at ok
    have least : 0 ≤ tag.ordinal := ok.1.2
    have most : tag.ordinal ≤ maxSafeInteger := ok.2.trans (by decide)
    refine plain_objectOf tagNames rfl (by decide) ?_
    simp [Plain, isNumber_bounded host least most]
  have catalog : Plain host.numerals (.array (state.catalog.map tagValue)) :=
    plain_array (List.forall_mem_map.2 tag)
  have assignments : Plain host.numerals (.object (state.assignments.map fun assignment =>
      (assignment.1, .array (assignment.2.map .string)))) := by
    refine plain_object (by rw [List.map_map]; exact distinct) (List.forall_mem_map.2 fun assignment _ => ?_)
    exact plain_array (List.forall_mem_map.2 fun id _ => by simp [Plain])
  exact plain_objectOf ["catalog", "assignments"] rfl (by decide) (by simp [catalog, assignments])

theorem tagStateOf_loaded {state next : MessageTagState} (proper : Proper numerals value)
    (isState : tagStateOf value = some state) (isNext : MessageTags.messageTagStateSchema host.toHost state = some next) :
    tagStateOf (tagStateValue next) = some next := by
  obtain ⟨-, own⟩ := keys_tagStateOf proper isState
  obtain ⟨-, keys, -⟩ := MessageTags.messageTagStateSchema_settled isNext
  refine tagStateOf_tagStateValue fun assignment member => ?_
  obtain ⟨original, isOriginal, same⟩ := List.mem_map.1 (keys.subset (List.mem_map_of_mem member))
  exact same ▸ own original isOriginal

@[simp] theorem settles_messageTagState : Settles host.numerals (messageTagStateSchema host) := by
  intro value result proper ok
  obtain ⟨state, isState, ok⟩ := Option.bind_eq_some_iff.1 ok
  obtain ⟨next, isNext, ok⟩ := Option.bind_eq_some_iff.1 ok
  obtain rfl : tagStateValue next = result := Option.some.inj ok
  obtain ⟨distinct, -⟩ := keys_tagStateOf proper isState
  obtain ⟨-, keys, again⟩ := MessageTags.messageTagStateSchema_settled isNext
  constructor
  · simp only [messageTagStateSchema, tagStateOf_loaded proper isState isNext, again, Option.bind_eq_bind,
      Option.bind_some, Option.pure_def]
  · exact plain_tagStateValue (distinct.sublist keys) again

theorem plain_identityValue {identity : MailIdentity} (valid : Identities.identitySchema identity = true) :
    Plain host.numerals (identityValue identity) := by
  simp only [Identities.identitySchema, Bool.and_eq_true, decide_eq_true_eq] at valid
  have least : 0 ≤ identity.ordinal := valid.1.2
  have most : identity.ordinal ≤ maxSafeInteger := valid.2.trans (by decide)
  refine plain_objectOf identityNames rfl (by decide) ?_
  simp [textValue, Plain, isNumber_bounded host least most]

@[simp] theorem settles_identityList : Settles host.numerals identityListSchema := by
  intro value result _ ok
  obtain ⟨identities, -, ok⟩ := Option.bind_eq_some_iff.1 ok
  obtain ⟨next, isNext, ok⟩ := Option.bind_eq_some_iff.1 ok
  obtain rfl : JsValue.array (next.map identityValue) = result := Option.some.inj ok
  obtain ⟨-, -, again⟩ := Identities.identityListSchema_settled isNext
  have read : listOf identityOf (.array (next.map identityValue)) = some next :=
    mapM_written fun identity _ => identityOf_identityValue identity
  constructor
  · simp only [identityListSchema, read, again, Option.bind_eq_bind, Option.bind_some, Option.pure_def]
  · obtain ⟨⟨valid, -⟩, -⟩ := Option.ite_none_right_eq_some.1 again
    exact plain_array (List.forall_mem_map.2 fun identity member =>
      plain_identityValue (List.all_eq_true.1 valid identity member))

theorem tagStateOf_empty :
    tagStateOf (tagStateValue MessageTags.emptyMessageTagState) = some MessageTags.emptyMessageTagState :=
  tagStateOf_tagStateValue fun assignment member => by cases member

@[simp] theorem settles_tagDefault : Settles host.numerals
    (orDefault (messageTagStateSchema host) (tagStateValue MessageTags.emptyMessageTagState)) := by
  have stored : MessageTags.messageTagStateSchema host.toHost MessageTags.emptyMessageTagState =
      some MessageTags.emptyMessageTagState :=
    (MessageTags.accepted_iff (MessageTags.wellFormed_emptyMessageTagState _)).2
      (MessageTags.storable_emptyMessageTagState _)
  refine settles_messageTagState.orDefault ⟨?_, plain_tagStateValue List.nodup_nil stored⟩
  simp only [messageTagStateSchema, tagStateOf_empty, stored, Option.bind_eq_bind, Option.bind_some, Option.pure_def]

@[simp] theorem settles_identityDefault : Settles host.numerals (orDefault identityListSchema (.array [])) :=
  settles_identityList.orDefault ⟨rfl, by simp [Plain, PlainItems]⟩

end Lists

section State

/-- The addresses of the accounts' profiles are not longer than an address may be. -/
def AddressesFit (state : JsValue) : Prop :=
  ∀ account ∈ (state.member "accounts").items, EmailsFit (account.member "messageCryptography")

theorem distinct_stateFields (host : Host) : ((stateFields host).map Prod.fst).Nodup := by
  simp only [stateFields, keys_named, List.map_cons, List.map_nil]
  decide

/-- What a member of the state was made of. -/
theorem made_state (ok : parsePersistedState host value = some result) {name : String} {schema : Schema}
    (isField : (ofString name, schema) ∈ stateFields host) : schema (value.member name) = some (result.member name) :=
  get_strictObject (distinct_stateFields host) ok isField

theorem settled_state (proper : Proper host.numerals value) (ok : parsePersistedState host value = some result)
    (fits : AddressesFit result) : Settled host.numerals (parsePersistedState host) result := by
  have read : array (accountSchema host) 0 100 (value.member "accounts") = some (result.member "accounts") :=
    made_state ok (by simp [stateFields, named])
  have accounts : Settled host.numerals (array (accountSchema host) 0 100) (result.member "accounts") := by
    refine settled_array read fun account isAccount made isMade isRead => settled_account ?_ isRead (fits made isMade)
    exact (proper.get _).ofItems isAccount
  have folders : Settles host.numerals (array folderSchema 0 10000) := settles_array _ _ settles_folder
  have messages : Settles host.numerals (array (messageSummarySchema host) 0 10000) :=
    settles_array _ _ settles_messageSummary
  refine settled_named ?_ proper ok ?_
  · simp only [List.map_cons, List.map_nil]
    decide
  · simp [accounts.member, folders, messages]

end State

end PersistedState
