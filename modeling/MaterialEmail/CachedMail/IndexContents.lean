import MaterialEmail.CachedMail.Index
import MaterialEmail.Library.Arrangement

/-! What is in the index, and what a search finds in it: each cached message of a folder that is known, once, with the
conversation that it belongs to among them. -/
namespace CachedMail

open Interrupted JsString MailService

variable (host : Host)

section Selection

/-- The messages of an entry that belong to its folder, where account and folder are known. -/
def offered (source : CachedMailIndexSource) (entry : JsString × List MessageSummary) : List MessageSummary :=
  match cacheParts entry.1 with
  | none => []
  | some parts =>
    match mapGet (accountEntries source) parts.1, mapGet (folderEntries source) entry.1 with
    | some _, some _ => entry.2.filter fun message => message.accountId = parts.1 ∧ message.folderPath = parts.2
    | _, _ => []

/-- A cached message of a folder that is known. -/
def Cached (source : CachedMailIndexSource) (message : MessageSummary) : Prop :=
  ∃ entry ∈ source.messages, message ∈ offered source entry

/-- A message with its account and its folder. -/
def Placed (source : CachedMailIndexSource) (item : Selected) : Prop :=
  ∃ key parts, cacheParts key = some parts ∧ mapGet (accountEntries source) parts.1 = some item.account ∧
    mapGet (folderEntries source) key = some item.folder ∧ item.message.accountId = parts.1 ∧
    item.message.folderPath = parts.2

/-- What the loops have come to when they have gone through the messages that were seen. -/
structure Selecting.Follows (source : CachedMailIndexSource) (seen : MessageSummary → Prop) (s : Selecting) : Prop where
  identities : ∀ id, id ∈ s.identities ↔ ∃ item ∈ s.selected, item.message.id = id
  distinct : (s.selected.map (·.message.id)).Nodup
  few : s.selected.length ≤ cachedMailIndexDocumentLimit
  among : ∀ item ∈ s.selected, seen item.message ∧ Placed source item
  complete : s.documentLimitReached = false → ∀ message, seen message → message.id ∈ s.identities
  full : s.documentLimitReached = true → s.selected.length = cachedMailIndexDocumentLimit ∧
    ∃ message, seen message ∧ message.id ∉ s.identities

variable {source : CachedMailIndexSource} {seen seen' : MessageSummary → Prop} {s : Selecting}

theorem follows_start : Selecting.Follows source (fun _ => False) ⟨[], [], false⟩ where
  identities := by simp
  distinct := .nil
  few := Nat.zero_le _
  among := by simp
  complete := by simp
  full := by simp

theorem Selecting.Follows.congr (follows : Selecting.Follows source seen s) (same : ∀ message, seen message ↔ seen' message) :
    Selecting.Follows source seen' s := by
  obtain rfl : seen = seen' := funext fun message => propext (same message)
  exact follows

theorem selectMessage_follows {key : JsString} {parts : JsString × JsString} {account : AccountSummary}
    {folder : FolderSummary} (isKey : cacheParts key = some parts)
    (isAccount : mapGet (accountEntries source) parts.1 = some account)
    (isFolder : mapGet (folderEntries source) key = some folder) (follows : Selecting.Follows source seen s)
    (message : MessageSummary) :
    Selecting.Follows source
      (fun other => seen other ∨ (other = message ∧ message.accountId = parts.1 ∧ message.folderPath = parts.2))
      (selectMessage source parts account folder s message) := by
  have widen : ∀ item ∈ s.selected, (seen item.message ∨ (item.message = message ∧ message.accountId = parts.1 ∧
      message.folderPath = parts.2)) ∧ Placed source item :=
    fun item member => ⟨.inl (follows.among item member).1, (follows.among item member).2⟩
  unfold selectMessage
  split
  · rename_i reached
    refine ⟨follows.identities, follows.distinct, follows.few, widen, fun is => ?_, fun is => ?_⟩
    · rw [reached] at is
      cases is
    · obtain ⟨full, other, isSeen, absent⟩ := follows.full reached
      exact ⟨full, other, .inl isSeen, absent⟩
  rename_i goes
  have goes : s.documentLimitReached = false := by simpa using goes
  split
  · rename_i passed
    refine ⟨follows.identities, follows.distinct, follows.few, widen, fun _ other isSeen => ?_, fun is => ?_⟩
    · rcases isSeen with before | ⟨rfl, isAccount', isFolder'⟩
      · exact follows.complete goes other before
      · rcases passed with elsewhere | elsewhere | known
        · exact absurd isAccount' elsewhere
        · exact absurd isFolder' elsewhere
        · exact known
    · rw [goes] at is
      cases is
  · rename_i taken
    simp only [not_or, not_not] at taken
    obtain ⟨isAccount', isFolder', fresh⟩ := taken
    split
    · rename_i full
      refine ⟨follows.identities, follows.distinct, follows.few, widen, fun is => (nomatch is), fun _ => ?_⟩
      exact ⟨Nat.le_antisymm follows.few full, message, .inr ⟨rfl, isAccount', isFolder'⟩, fresh⟩
    · rename_i room
      refine ⟨fun id => ?_, ?_, ?_, ?_, fun _ other isSeen => ?_, fun is => ?_⟩
      · simp only [List.mem_cons, follows.identities, List.mem_append, List.not_mem_nil, or_false, or_and_right,
          exists_or, exists_eq_left]
        rw [or_comm, @eq_comm _ id]
      · rw [List.map_append, List.map_singleton, ← List.concat_eq_append, List.nodup_concat]
        refine ⟨fun listed => fresh ?_, follows.distinct⟩
        obtain ⟨item, member, same⟩ := List.mem_map.1 listed
        exact (follows.identities _).2 ⟨item, member, same⟩
      · rw [List.length_append, List.length_singleton]
        exact Nat.lt_of_not_le room
      · intro item member
        rcases List.mem_append.1 member with old | new
        · exact widen item old
        · rw [List.mem_singleton.1 new]
          exact ⟨.inr ⟨rfl, isAccount', isFolder'⟩, key, parts, isKey, isAccount, isFolder, isAccount', isFolder'⟩
      · rcases isSeen with before | ⟨rfl, _⟩
        · exact List.mem_cons_of_mem _ (follows.complete goes other before)
        · exact List.mem_cons_self
      · rw [goes] at is
        cases is

theorem selectMessages_follows {key : JsString} {parts : JsString × JsString} {account : AccountSummary}
    {folder : FolderSummary} (isKey : cacheParts key = some parts)
    (isAccount : mapGet (accountEntries source) parts.1 = some account)
    (isFolder : mapGet (folderEntries source) key = some folder) (messages : List MessageSummary) {seen : MessageSummary → Prop}
    {s : Selecting} (follows : Selecting.Follows source seen s) :
    Selecting.Follows source
      (fun other => seen other ∨ other ∈ messages.filter fun message => message.accountId = parts.1 ∧ message.folderPath = parts.2)
      (messages.foldl (selectMessage source parts account folder) s) := by
  induction messages generalizing seen s with
  | nil => exact follows.congr fun other => by simp
  | cons message messages ih =>
    rw [List.foldl_cons]
    refine (ih (selectMessage_follows isKey isAccount isFolder follows message)).congr fun other => ?_
    simp only [List.mem_filter, List.mem_cons, decide_eq_true_eq, or_and_right, or_assoc]
    refine or_congr_right (or_congr_left (and_congr_right fun is => ?_))
    rw [is]

theorem selectEntry_follows (entry : JsString × List MessageSummary) (follows : Selecting.Follows source seen s) :
    Selecting.Follows source (fun other => seen other ∨ other ∈ offered source entry) (selectEntry host source s entry) := by
  cases isKey : cacheParts entry.1 with
  | none =>
    simp only [selectEntry, offered, isKey]
    exact follows.congr fun other => by simp
  | some parts =>
    cases isAccount : mapGet (accountEntries source) parts.1 with
    | none =>
      simp only [selectEntry, offered, isKey, isAccount]
      exact follows.congr fun other => by simp
    | some account =>
      cases isFolder : mapGet (folderEntries source) entry.1 with
      | none =>
        simp only [selectEntry, offered, isKey, isAccount, isFolder]
        exact follows.congr fun other => by simp
      | some folder =>
        simp only [selectEntry, offered, isKey, isAccount, isFolder]
        refine (selectMessages_follows isKey isAccount isFolder _ follows).congr fun other => ?_
        simp only [List.mem_filter, (sortBy_perm (newestFirst host) entry.2).mem_iff]

theorem selectEntries_follows (entries : List (JsString × List MessageSummary)) {seen : MessageSummary → Prop}
    {s : Selecting} (follows : Selecting.Follows source seen s) :
    Selecting.Follows source (fun other => seen other ∨ ∃ entry ∈ entries, other ∈ offered source entry)
      (entries.foldl (selectEntry host source) s) := by
  induction entries generalizing seen s with
  | nil => exact follows.congr fun other => by simp
  | cons entry entries ih =>
    rw [List.foldl_cons]
    refine (ih (selectEntry_follows host entry follows)).congr fun other => ?_
    simp only [List.mem_cons, or_and_right, exists_or, exists_eq_left, or_assoc]

theorem selectAll_follows (source : CachedMailIndexSource) :
    Selecting.Follows source (Cached source) (selectAll host source) := by
  refine (selectEntries_follows host _ follows_start).congr fun message => ?_
  simp only [false_or, Cached, (sortBy_perm _ source.messages).mem_iff]

end Selection

section Totality

theorem length_flatMap_le {α β : Type} {each : α → List β} (single : ∀ value, (each value).length ≤ 1) (values : List α) :
    (values.flatMap each).length ≤ values.length := by
  induction values with
  | nil => exact Nat.le_refl _
  | cons value values ih =>
    rw [List.flatMap_cons, List.length_append, List.length_cons, Nat.add_comm]
    exact Nat.add_le_add ih (single value)

theorem length_referenceTokens_le (message : MessageSummary) :
    (referenceTokens host message).length ≤ cachedConversationReferenceLimit + 2 := by
  unfold referenceTokens
  have subset (list : List JsString) : list.eraseDups.length ≤ list.length :=
    ((Arrangement.nodup_eraseDups list).subperm fun token member => List.mem_eraseDups.1 member).length_le
  refine (subset _).trans ?_
  refine (length_flatMap_le (fun value => ?_) _).trans ?_
  · cases value with
    | none => exact Nat.zero_le _
    | some value =>
      simp only
      split
      · exact Nat.zero_le _
      · cases normalizedMessageReference host value <;> simp
  · simp only [List.length_append, List.length_cons, List.length_nil, List.length_map, List.length_take]
    omega

theorem length_keysOf_le (message : MessageSummary) :
    (keysOf host message).length ≤ cachedConversationReferenceLimit + 3 := by
  have few := length_referenceTokens_le host message
  unfold keysOf
  rw [List.length_append, List.length_map]
  split <;> simp <;> omega

theorem length_seenIn_le (entries : List (MessageSummary × Nat)) :
    (seenIn host entries).length ≤ entries.length * (cachedConversationReferenceLimit + 3) := by
  induction entries with
  | nil => exact Nat.zero_le _
  | cons entry entries ih =>
    have first := length_keysOf_le host entry.1
    unfold seenIn at ih ⊢
    rw [List.flatMap_cons, List.length_append, List.length_map, List.length_cons, Nat.succ_mul, Nat.add_comm]
    exact Nat.add_le_add ih first

variable {host} {source : CachedMailIndexSource} {s : Selecting} {seen : MessageSummary → Prop}

theorem Selecting.Follows.grouped (host : Host) (follows : Selecting.Follows source seen s) :
    ∃ conversations, groupCachedConversations host indexFuel (s.selected.map (·.message)) =
        .ok ⟨sortBy (newestConversationFirst host) conversations, false⟩ ∧
      Presents host (s.selected.map (·.message)) conversations := by
  have single : (s.selected.map (·.message)).Nodup := by
    refine List.Nodup.of_map (·.id) ?_
    rw [List.map_map]
    exact follows.distinct
  refine groupCachedConversations_presents host ?_ single ((length_seenIn_le host _).trans ?_)
  · rw [List.length_map]
    exact follows.few
  · rw [List.length_zipIdx, List.length_map]
    exact Nat.mul_le_mul_right _ follows.few

end Totality

section Conversations

variable {host} {messages : List MessageSummary} {conversations : List CachedConversation}

theorem mapGet_of_agree {entries : List (JsString × α)} {key : JsString} {value : α} (listed : (key, value) ∈ entries)
    (agree : ∀ other, (key, other) ∈ entries → other = value) : mapGet entries key = some value := by
  unfold mapGet
  cases found : entries.reverse.lookup key with
  | none =>
    have absent := List.lookup_eq_none_iff.1 found (key, value) (List.mem_reverse.2 listed)
    simp at absent
  | some other =>
    obtain ⟨before, after, is, _⟩ := List.lookup_eq_some_iff.1 found
    have member : (key, other) ∈ entries.reverse := by
      rw [is]
      simp
    rw [agree other (List.mem_reverse.1 member)]

theorem mem_of_mapGet {entries : List (JsString × α)} {key : JsString} {value : α} (found : mapGet entries key = some value) :
    (key, value) ∈ entries := by
  obtain ⟨before, after, is, _⟩ := List.lookup_eq_some_iff.1 found
  have member : (key, value) ∈ entries.reverse := by
    rw [is]
    simp
  exact List.mem_reverse.1 member

theorem conversationOf_id {component : List MessageSummary} {conversation : CachedConversation}
    (made : conversationOf host component = .ok conversation) :
    ∃ message ∈ conversation.messages, conversation.id = ofString "conversation:" ++ message.id := by
  unfold conversationOf at made
  cases sorted : sortBy (newestFirst host) component with
  | nil =>
    rw [sorted] at made
    cases made
  | cons newest rest =>
    rw [sorted] at made
    cases made
    have perm : (sortTexts ((newest :: rest).map fun message => message.id)).Perm
      ((newest :: rest).map fun message => message.id) := List.mergeSort_perm _ _
    cases least : sortTexts ((newest :: rest).map fun message => message.id) with
    | nil =>
      rw [least] at perm
      exact absurd (List.nil_perm.1 perm) (by simp)
    | cons first others =>
      obtain ⟨message, listed, rfl⟩ := List.mem_map.1 (perm.mem_iff.1 (least ▸ List.mem_cons_self))
      refine ⟨message, listed, ?_⟩
      simp only [List.head?_cons, Option.getD_some]

theorem Presents.of_perm {conversations' : List CachedConversation} (presents : Presents host messages conversations)
    (perm : conversations'.Perm conversations) : Presents host messages conversations' where
  made conversation member := presents.made conversation (perm.mem_iff.1 member)
  once := (perm.flatMap_right _).trans presents.once
  linked conversation member := presents.linked conversation (perm.mem_iff.1 member)

/-- What a document says of the conversation of its message. -/
def attribution (conversation : CachedConversation) : HitConversation :=
  ⟨conversation.id, conversation.subject, conversation.messages.length⟩

theorem attributed (presents : Presents host messages conversations) (distinct : (messages.map (·.id)).Nodup)
    {conversation : CachedConversation} (member : conversation ∈ conversations) {message : MessageSummary}
    (listed : message ∈ conversation.messages) :
    mapGet (conversationEntries conversations) message.id = some (attribution conversation) := by
  have inMessages {other : MessageSummary} {conversation : CachedConversation} (member : conversation ∈ conversations)
      (listed : other ∈ conversation.messages) : other ∈ messages :=
    presents.once.mem_iff.1 (List.mem_flatMap.2 ⟨conversation, member, listed⟩)
  apply mapGet_of_agree
  · exact List.mem_flatMap.2 ⟨conversation, member, List.mem_map.2 ⟨message, listed, rfl⟩⟩
  · intro other among
    obtain ⟨conversation', member', among⟩ := List.mem_flatMap.1 among
    obtain ⟨message', listed', is⟩ := List.mem_map.1 among
    obtain ⟨sameId, rfl⟩ := Prod.mk.inj is
    obtain rfl := List.inj_on_of_nodup_map distinct (inMessages member' listed') (inMessages member listed) sameId
    rw [presents.eq_of_mem host distinct.of_map member' member listed' listed]
    rfl

theorem conversation_ids (presents : Presents host messages conversations) (distinct : (messages.map (·.id)).Nodup)
    {one two : CachedConversation} (inOne : one ∈ conversations) (inTwo : two ∈ conversations) (same : one.id = two.id) :
    one = two := by
  obtain ⟨component, made⟩ := presents.made one inOne
  obtain ⟨component', made'⟩ := presents.made two inTwo
  obtain ⟨message, listed, is⟩ := conversationOf_id made
  obtain ⟨message', listed', is'⟩ := conversationOf_id made'
  have sameId : message.id = message'.id := List.append_cancel_left (is.symm.trans (same.trans is'))
  have inMessages := presents.once.mem_iff.1 (List.mem_flatMap.2 ⟨one, inOne, listed⟩)
  have inMessages' := presents.once.mem_iff.1 (List.mem_flatMap.2 ⟨two, inTwo, listed'⟩)
  obtain rfl := List.inj_on_of_nodup_map distinct inMessages inMessages' sameId
  exact presents.eq_of_mem host distinct.of_map inOne inTwo listed listed'

end Conversations

section Contents

/-- Each cached message is in the index once, as far as there is room, with its account and its folder; and two of
them have one conversation where a chain of sharing leads from one to the other. -/
structure Contents (source : CachedMailIndexSource) (index : CachedMailIndex) : Prop where
  once : (index.documents.map (·.message.id)).Nodup
  few : index.documents.length ≤ cachedMailIndexDocumentLimit
  cached : ∀ document ∈ index.documents, Cached source document.message
  complete : index.documentLimitReached = false → ∀ message, Cached source message →
    ∃ document ∈ index.documents, document.message.id = message.id
  full : index.documentLimitReached = true → index.documents.length = cachedMailIndexDocumentLimit ∧
    ∃ message, Cached source message ∧ ∀ document ∈ index.documents, document.message.id ≠ message.id
  account : ∀ document ∈ index.documents, document.account.id = document.message.accountId
  folder : (∀ account ∈ source.accounts, 0 ∉ account.id) →
    ∀ document ∈ index.documents, document.folder.path = document.message.folderPath
  together : ∀ left ∈ index.documents, ∀ right ∈ index.documents, left.conversation.id = right.conversation.id ↔
    Linked host (index.documents.map (·.message)) left.message right.message
  counted : ∀ document ∈ index.documents, document.conversation.messageCount =
    (index.documents.filter fun other => other.conversation.id = document.conversation.id).length

variable {host} {source : CachedMailIndexSource}

theorem Placed.account {item : Selected} (placed : Placed source item) : item.account.id = item.message.accountId := by
  obtain ⟨key, parts, _, found, _, isAccount, _⟩ := placed
  obtain ⟨account, _, is⟩ := List.mem_map.1 (mem_of_mapGet found)
  obtain ⟨isId, rfl⟩ := Prod.mk.inj is
  exact isId.trans isAccount.symm

theorem cacheParts_of_key {accountId folderPath : JsString} (plain : 0 ∉ accountId) {parts : JsString × JsString}
    (is : cacheParts (accountId ++ 0 :: folderPath) = some parts) : parts = (accountId, folderPath) := by
  have place : (accountId ++ 0 :: folderPath).idxOf 0 = accountId.length := by
    rw [List.idxOf_append_of_notMem plain, List.idxOf_cons_self, Nat.add_zero]
  unfold cacheParts at is
  rw [place] at is
  simp only at is
  split at is
  · cases is
  · obtain rfl := Option.some.inj is
    simp [List.take_left', List.drop_append]

theorem Placed.folder {item : Selected} (plain : ∀ account ∈ source.accounts, 0 ∉ account.id)
    (placed : Placed source item) : item.folder.path = item.message.folderPath := by
  obtain ⟨key, parts, isKey, _, found, _, isFolder⟩ := placed
  obtain ⟨account, member, among⟩ := List.mem_flatMap.1 (mem_of_mapGet found)
  obtain ⟨folder, _, is⟩ := List.mem_map.1 among
  obtain ⟨rfl, rfl⟩ := Prod.mk.inj is
  rw [isFolder, cacheParts_of_key (plain account member) isKey]

theorem createDocument_conversation {messages : List MessageSummary} {conversations : List CachedConversation}
    (presents : Presents host messages conversations) (distinct : (messages.map (·.id)).Nodup) {item : Selected}
    (member : item.message ∈ messages) : ∃ conversation ∈ conversations, item.message ∈ conversation.messages ∧
      (createDocument host conversations item).conversation = attribution conversation := by
  obtain ⟨conversation, among, listed⟩ := List.mem_flatMap.1 (presents.once.mem_iff.2 member)
  refine ⟨conversation, among, listed, ?_⟩
  simp only [createDocument, attributed presents distinct among listed, Option.getD_some]

theorem createCachedMailIndex_eq (host : Host) (source : CachedMailIndexSource) : ∃ conversations,
    Presents host ((selectAll host source).selected.map (·.message)) conversations ∧
    createCachedMailIndex host source = .ok ⟨sortBy (fun left right => newestFirst host left.message right.message)
      ((selectAll host source).selected.map (createDocument host conversations)),
      (selectAll host source).documentLimitReached⟩ := by
  obtain ⟨conversations, grouped, presents⟩ := (selectAll_follows host source).grouped host
  refine ⟨sortBy (newestConversationFirst host) conversations, presents.of_perm (sortBy_perm _ _), ?_⟩
  simp only [createCachedMailIndex, grouped, bind, Except.bind, pure, Except.pure]

/-- An index can be made of every source, and holds its cached messages. -/
theorem createCachedMailIndex_contents (host : Host) (source : CachedMailIndexSource) :
    ∃ index, createCachedMailIndex host source = .ok index ∧ Contents host source index := by
  obtain ⟨conversations, presents, made⟩ := createCachedMailIndex_eq host source
  have follows := selectAll_follows host source
  generalize selectAll host source = s at presents made follows
  refine ⟨_, made, ?_⟩
  have perm : (sortBy (fun left right => newestFirst host left.message right.message)
      (s.selected.map (createDocument host conversations))).Perm (s.selected.map (createDocument host conversations)) :=
    sortBy_perm _ _
  generalize sortBy (fun left right => newestFirst host left.message right.message)
    (s.selected.map (createDocument host conversations)) = documents at perm made
  have distinct : ((s.selected.map (·.message)).map (·.id)).Nodup := by
    rw [List.map_map]
    exact follows.distinct
  have messages : (documents.map (·.message)).Perm (s.selected.map (·.message)) := by
    have mapped := perm.map (·.message)
    rwa [List.map_map] at mapped
  have ids : (documents.map (·.message.id)).Perm (s.selected.map (·.message.id)) := by
    have mapped := messages.map (·.id)
    rwa [List.map_map, List.map_map] at mapped
  have isDocument : ∀ document ∈ documents, ∃ item ∈ s.selected, createDocument host conversations item = document :=
    fun document member => List.mem_map.1 (perm.mem_iff.1 member)
  have attributes : ∀ document ∈ documents, ∃ conversation ∈ conversations, document.message ∈ conversation.messages ∧
      document.conversation = attribution conversation := by
    intro document member
    obtain ⟨item, listed, rfl⟩ := isDocument document member
    exact createDocument_conversation presents distinct (List.mem_map_of_mem listed)
  constructor
  case once => exact ids.nodup_iff.2 follows.distinct
  case few =>
    rw [perm.length_eq, List.length_map]
    exact follows.few
  case cached =>
    intro document member
    obtain ⟨item, listed, rfl⟩ := isDocument document member
    exact (follows.among item listed).1
  case complete =>
    intro room message cached
    obtain ⟨item, listed, same⟩ := (follows.identities _).1 (follows.complete room message cached)
    exact ⟨_, perm.mem_iff.2 (List.mem_map_of_mem listed), same⟩
  case full =>
    intro reached
    obtain ⟨full, message, cached, absent⟩ := follows.full reached
    refine ⟨by rw [perm.length_eq, List.length_map, full], message, cached, fun document member same => absent ?_⟩
    obtain ⟨item, listed, rfl⟩ := isDocument document member
    exact (follows.identities _).2 ⟨item, listed, same⟩
  case account =>
    intro document member
    obtain ⟨item, listed, rfl⟩ := isDocument document member
    exact (follows.among item listed).2.account
  case folder =>
    intro plain document member
    obtain ⟨item, listed, rfl⟩ := isDocument document member
    exact (follows.among item listed).2.folder plain
  case together =>
    intro left inLeft right inRight
    obtain ⟨one, inOne, listed, isOne⟩ := attributes left inLeft
    obtain ⟨two, inTwo, listed', isTwo⟩ := attributes right inRight
    rw [isOne, isTwo]
    constructor
    · intro same
      obtain rfl := conversation_ids presents distinct inOne inTwo same
      exact linked_perm host messages.symm ((presents.linked one inOne _ listed _).1 listed').2
    · intro linked
      have inMessages := messages.mem_iff.1 (List.mem_map_of_mem inRight)
      have also := (presents.linked one inOne _ listed _).2 ⟨inMessages, linked_perm host messages linked⟩
      rw [presents.eq_of_mem host distinct.of_map inOne inTwo also listed']
  case counted =>
    intro document member
    obtain ⟨conversation, among, listed, is⟩ := attributes document member
    have same : ((documents.filter fun other => other.conversation.id = document.conversation.id).map (·.message)).Perm
        conversation.messages := by
      refine (List.perm_ext_iff_of_nodup ?_ ?_).2 fun message => ?_
      · refine List.Nodup.sublist ((List.filter_sublist).map _) (messages.nodup_iff.2 distinct.of_map)
      · exact (List.nodup_flatMap.1 (presents.once.nodup_iff.2 distinct.of_map)).1 conversation among
      · simp only [List.mem_map, List.mem_filter, decide_eq_true_eq]
        constructor
        · rintro ⟨other, ⟨inOther, sameId⟩, rfl⟩
          obtain ⟨conversation', among', listed', is'⟩ := attributes other inOther
          rw [is, is'] at sameId
          rwa [conversation_ids presents distinct among among' sameId.symm]
        · intro inConversation
          have inMessages := messages.mem_iff.2 (presents.once.mem_iff.1
            (List.mem_flatMap.2 ⟨conversation, among, inConversation⟩))
          obtain ⟨other, inOther, rfl⟩ := List.mem_map.1 inMessages
          obtain ⟨conversation', among', listed', is'⟩ := attributes other inOther
          refine ⟨other, ⟨inOther, ?_⟩, rfl⟩
          rw [is, is', presents.eq_of_mem host distinct.of_map among among' inConversation listed']
    have length := same.length_eq
    rw [List.length_map] at length
    exact (congrArg HitConversation.messageCount is).trans length.symm

end Contents

section Examples

def emptySource : CachedMailIndexSource := ⟨[], [], [], []⟩

def serverSettings (port : Int) : Json :=
  .object [(ofString "host", .string (ofString "mail.host")), (ofString "port", .number port),
    (ofString "security", .string (ofString "tls")), (ofString "username", .string (ofString "home"))]

def planAccount : AccountSummary where
  id := ofString "home"
  displayName := ofString "Home"
  email := ofString "home@host"
  incoming := serverSettings 993
  outgoing := serverSettings 465
  authMode := .string (ofString "password")
  oauthProvider := none
  kind := .string (ofString "imap")
  createdAt := .string (ofString "2026-03-01T09:00:00.000Z")
  lastSyncAt := none
  syncError := none
  messageCryptography := none

def planFolder : FolderSummary := ⟨ofString "home", ofString "INBOX", ofString "Inbox", .inbox, 1, 1, none⟩

def planSource : CachedMailIndexSource where
  accounts := [planAccount]
  folders := [(ofString "home", [planFolder])]
  messages := [(ofString "home" ++ 0 :: ofString "INBOX", [planMessage])]
  details := []

def planQuery : CachedMailSearchQuery := ⟨⟨.plain, ofString "plan", ofString "i"⟩, 50⟩

/-- A pattern of letters is found where it stands. -/
def plainSearchHost : SearchHost where
  toHost := plainHost
  engine := {
    compile := fun _ _ => .ok ()
    toLocaleString := fun _ => ofString "2,048"
    test := fun source _ text => text.tails.any (source.isPrefixOf ·) }

end Examples

section Order

/-- The same cached mail: its records and the messages of a folder stand in another order. -/
structure Rearranged (source source' : CachedMailIndexSource) : Prop where
  accounts : source'.accounts = source.accounts
  folders : source'.folders = source.folders
  details : source'.details = source.details
  messages : ∃ order : JsString × List MessageSummary → List MessageSummary,
    (∀ entry ∈ source.messages, (order entry).Perm entry.2) ∧
      source'.messages.Perm (source.messages.map fun entry => (entry.1, order entry))

variable {host} {source source' : CachedMailIndexSource}

theorem entries_rank {entries : List (JsString × List MessageSummary)} (distinct : (entries.map Prod.fst).Nodup)
    (ranks : Ranks host.localeCompare (entries.map Prod.fst)) :
    Ranks (fun left right => host.localeCompare left.1 right.1) entries := by
  apply ranks.along (fun entry key => entry.1 = key)
  · exact fun entry member => ⟨entry.1, List.mem_map_of_mem member, rfl⟩
  · rintro entry member entry' member' differ _ _ rfl rfl
    exact ⟨fun same => differ (List.inj_on_of_nodup_map distinct member member' same), rfl⟩

/-- The index does not depend on the order in which the mail is stored. -/
theorem createCachedMailIndex_order (rearranged : Rearranged source source')
    (keys : (source.messages.map Prod.fst).Nodup) (rankKeys : Ranks host.localeCompare (source.messages.map Prod.fst))
    (ids : ∀ entry ∈ source.messages, (entry.2.map (·.id)).Nodup)
    (rankIds : ∀ entry ∈ source.messages, Ranks host.localeCompare (entry.2.map (·.id))) :
    createCachedMailIndex host source' = createCachedMailIndex host source := by
  obtain ⟨accounts', folders', messages', details'⟩ := source'
  obtain ⟨isAccounts, isFolders, isDetails, order, perm, moved⟩ := rearranged
  obtain rfl : accounts' = source.accounts := isAccounts
  obtain rfl : folders' = source.folders := isFolders
  obtain rfl : details' = source.details := isDetails
  have sorted : sortBy (fun left right => host.localeCompare left.1 right.1) messages' =
      (sortBy (fun left right => host.localeCompare left.1 right.1) source.messages).map
        fun entry => (entry.1, order entry) := by
    have keys' : (messages'.map Prod.fst).Perm (source.messages.map Prod.fst) := by
      have mapped := moved.map Prod.fst
      rwa [List.map_map] at mapped
    have ranks' := entries_rank (keys'.nodup_iff.2 keys)
      (rankKeys.of_subset fun key (member : key ∈ messages'.map Prod.fst) => keys'.mem_iff.1 member)
    have single : messages'.Nodup := (keys'.nodup_iff.2 keys).of_map
    refine (ranks'.mergeSort_perm_eq single moved).trans ?_
    exact (List.map_mergeSort (f := fun entry => (entry.1, order entry)) fun _ _ _ _ => rfl).symm
  have step (entries : List (JsString × List MessageSummary)) (s : Selecting)
      (among : ∀ entry ∈ entries, entry ∈ source.messages) :
      (entries.map fun entry => (entry.1, order entry)).foldl
        (selectEntry host ⟨source.accounts, source.folders, messages', source.details⟩) s =
      entries.foldl (selectEntry host source) s := by
    induction entries generalizing s with
    | nil => rfl
    | cons entry entries ih =>
      have member := among entry List.mem_cons_self
      have same : sortBy (newestFirst host) (order entry) = sortBy (newestFirst host) entry.2 :=
        ((newestFirst_ranks host (ids entry member) (rankIds entry member)).mergeSort_perm_eq (ids entry member).of_map
          (perm entry member).symm).symm
      have one : selectEntry host ⟨source.accounts, source.folders, messages', source.details⟩ s (entry.1, order entry) =
          selectEntry host source s entry := by
        unfold selectEntry
        rw [same]
        rfl
      rw [List.map_cons, List.foldl_cons, List.foldl_cons, one]
      exact ih _ fun other listed => among other (List.mem_cons_of_mem _ listed)
  have selected : selectAll host ⟨source.accounts, source.folders, messages', source.details⟩ = selectAll host source := by
    unfold selectAll
    rw [sorted]
    exact step _ _ fun entry member => (sortBy_perm _ _).mem_iff.1 member
  simp only [createCachedMailIndex, selected]

/-- Messages of one folder. -/
def inboxSource (messages : List MessageSummary) : CachedMailIndexSource :=
  { planSource with messages := [(ofString "home" ++ 0 :: ofString "INBOX", messages)] }

theorem createCachedMailIndex_order_two :
    createCachedMailIndex plainHost (inboxSource [lunchMessage, planMessage]) =
      createCachedMailIndex plainHost (inboxSource [planMessage, lunchMessage]) := by
  have rearranged : Rearranged (inboxSource [planMessage, lunchMessage]) (inboxSource [lunchMessage, planMessage]) := by
    refine ⟨rfl, rfl, rfl, fun entry => entry.2.reverse, fun entry _ => List.reverse_perm _, ?_⟩
    exact .refl _
  apply createCachedMailIndex_order rearranged
  · decide
  · exact ⟨by decide, by decide, by decide⟩
  · intro entry member
    rw [List.mem_singleton.1 member]
    decide
  · intro entry member
    rw [List.mem_singleton.1 member]
    exact ⟨by decide, by decide, by decide⟩

end Order

section Searches

/-- What a document becomes. -/
def hitOf (fieldsOf : CachedMailIndexDocument → List CachedMailSearchField) (document : CachedMailIndexDocument) :
    CachedMailSearchHit :=
  ⟨document.message, document.snippet, fieldsOf document, document.account, document.folder, document.conversation⟩

/-- The loop counts the documents that match, and keeps the first ones. -/
theorem collectHits_eq (resultLimit : Nat) (fieldsOf : CachedMailIndexDocument → List CachedMailSearchField)
    (documents : List CachedMailIndexDocument) (hits : List CachedMailSearchHit) (count : Nat) :
    documents.foldl (collectHit resultLimit fieldsOf) (hits, count) =
      (hits ++ ((documents.filter fun document => fieldsOf document ≠ []).take (resultLimit - hits.length)).map (hitOf fieldsOf),
        count + (documents.filter fun document => fieldsOf document ≠ []).length) := by
  induction documents generalizing hits count with
  | nil => simp
  | cons document documents ih =>
    rw [List.foldl_cons, collectHit]
    split
    · rename_i nothing
      rw [ih, List.filter_cons_of_neg (by simpa using nothing)]
    · rename_i something
      rw [List.filter_cons_of_pos (by simpa using something)]
      split
      · rename_i room
        have room : hits.length < resultLimit := room
        have left : resultLimit - hits.length = resultLimit - (hits.length + 1) + 1 := by omega
        rw [ih, List.length_append, List.length_singleton, left, List.take_succ_cons, List.map_cons, List.length_cons,
          List.append_assoc, List.singleton_append, Nat.add_right_comm, ← Nat.add_assoc]
        rfl
      · rename_i noRoom
        have noRoom : ¬ hits.length < resultLimit := noRoom
        have none : resultLimit - hits.length = 0 := by omega
        rw [ih, none, List.take_zero, List.take_zero, List.length_cons, Nat.add_right_comm, ← Nat.add_assoc]

/-- A result that counts the documents of an index in which a field matches, and shows the first of them. -/
structure Finds (index : CachedMailIndex) (fieldsOf : CachedMailIndexDocument → List CachedMailSearchField)
    (result : CachedMailSearchResult) : Prop where
  counted : result.totalMatched = (index.documents.filter fun document => fieldsOf document ≠ []).length
  shown : result.hits =
    ((index.documents.filter fun document => fieldsOf document ≠ []).take result.resultLimit).map (hitOf fieldsOf)
  some_ : 1 ≤ result.resultLimit
  few : result.resultLimit ≤ cachedMailIndexResultLimit
  indexed : result.indexedDocumentCount = index.documents.length
  limited : result.documentLimitReached = index.documentLimitReached

/-- A search that does not throw finds what it is asked for among all cached messages. -/
theorem plainSearch_finds {host : SearchHost} {source : CachedMailIndexSource} {query : CachedMailSearchQuery}
    {result : CachedMailSearchResult} (ok : plainSearch host source query = .ok result) :
    ∃ index matcher, createCachedMailIndex host.toHost source = .ok index ∧ Contents host.toHost source index ∧
      SearchPatterns.createMatcher host.engine (matcherOptions host query) = .ok matcher ∧
      Finds index (matchedFields host query (isCaseInsensitive host query) matcher) result := by
  obtain ⟨index, made, contents⟩ := createCachedMailIndex_contents host.toHost source
  simp only [plainSearch, made, Except.mapError, bind, Except.bind, searchCachedMailIndex] at ok
  split at ok
  · cases ok
  split at ok
  · cases ok
  rename_i matcher isMatcher
  obtain rfl := Except.ok.inj ok
  refine ⟨index, matcher, made, contents, isMatcher, ?_⟩
  rw [collectHits_eq]
  constructor
  case counted => exact Nat.zero_add _
  case shown => rfl
  case some_ =>
    simp only [resultLimitOf]
    omega
  case few =>
    simp only [resultLimitOf, cachedMailIndexResultLimit]
    omega
  case indexed => rfl
  case limited => rfl

/-- Three messages, of which the second answers the first. -/
def linkedSource : CachedMailIndexSource := inboxSource [planMessage, answerMessage, lunchMessage]

theorem plainSearch_finds_linked : ∃ result index matcher, plainSearch plainSearchHost linkedSource planQuery = .ok result ∧
    createCachedMailIndex plainHost linkedSource = .ok index ∧ Contents plainHost linkedSource index ∧
    SearchPatterns.createMatcher plainSearchHost.engine (matcherOptions plainSearchHost planQuery) = .ok matcher ∧
    Finds index (matchedFields plainSearchHost planQuery (isCaseInsensitive plainSearchHost planQuery) matcher) result := by
  obtain ⟨result, ok⟩ : ∃ result, plainSearch plainSearchHost linkedSource planQuery = .ok result := by
    obtain ⟨index, made, _⟩ := createCachedMailIndex_contents plainHost linkedSource
    rw [plainSearch, show plainSearchHost.toHost = plainHost from rfl, made]
    exact ⟨_, rfl⟩
  obtain ⟨index, matcher, finds⟩ := plainSearch_finds ok
  exact ⟨result, index, matcher, ok, finds⟩

end Searches

end CachedMail
