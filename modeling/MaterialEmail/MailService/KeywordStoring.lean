import MaterialEmail.Library.Program
import MaterialEmail.MailService.Keywords
import Mathlib.Data.List.Perm.Subperm

/-! The keywords of a message are brought to those of its tags. The server may answer as it likes; only keywords with
the prefix are ever sent to it, and none where nothing is to change. -/
namespace MailService

open JsString MessageTags Interrupted

section Model

/-- What the client knows of the mailbox it has opened. -/
structure OpenMailbox where
  uidValidity : Option JsString
  permanentFlags : Option (List JsString)

/-- `mailbox` reads what the client knows; the others are commands to the server. -/
inductive KeywordOp where
  | mailbox
  | fetchFlags (uid : Nat)
  | messageFlagsAdd (uid : Nat) (flags : List JsString)
  | messageFlagsRemove (uid : Nat) (flags : List JsString)

/-- An error of the client. -/
inductive ClientError where
  | thrown

abbrev KeywordReply : KeywordOp → Type
  | .mailbox => Option OpenMailbox
  | .fetchFlags _ => Except ClientError (Option (List JsString))
  | .messageFlagsAdd _ _ => Except ClientError Bool
  | .messageFlagsRemove _ _ => Except ClientError Bool

inductive KeywordFailure where
  | keyword (error : MailKeywordError)
  /-- `MailboxGenerationMismatchError`. -/
  | generation (folderPath expectedUidValidity : JsString) (liveUidValidity : Option JsString)
  | client (error : ClientError)

structure MailKeywordResult where
  added : List JsString
  removed : List JsString
  keywords : List JsString

abbrev KeywordWork (α : Type) := Program KeywordOp KeywordReply KeywordFailure α

variable (host : Host)

def assertMailboxGeneration (folderPath expectedUidValidity : JsString) : KeywordWork Unit :=
  .call .mailbox fun mailbox =>
    let live := mailbox.bind OpenMailbox.uidValidity
    if live ≠ some expectedUidValidity then .throw (.generation folderPath expectedUidValidity live) else .done ()

/-- Flags of the system begin with a backslash. -/
def isSystemFlag (flag : JsString) : Bool := (ofString "\\").isPrefixOf flag

/-- The map from folded atoms to the atoms that the server reported; the last one counts. -/
def keywordMap (flags : List JsString) : List (JsString × JsString) :=
  ((flags.filter fun flag => !isSystemFlag flag).map fun flag => (host.lower flag, flag)).foldl
    (fun map entry => Keyed.put Prod.fst entry map) []

def messageKeywords (uid : Nat) : KeywordWork (List (JsString × JsString)) :=
  .call (.fetchFlags uid) fun
    | .error error => .throw (.client error)
    | .ok none => .throw (.keyword ⟨.MESSAGE_UNAVAILABLE, ofString "The message is no longer available on the server."⟩)
    | .ok (some flags) => .done (keywordMap host flags)

def keywordsUnsupported (folderPath : JsString) : KeywordFailure :=
  .keyword ⟨.KEYWORDS_UNSUPPORTED, ofString "The mail server does not accept tag keywords in " ++ folderPath ++
    ofString ", so the tags were left unchanged there."⟩

def assertKeywordSupport (folderPath : JsString) (keywords : List JsString) : KeywordWork Unit :=
  .call .mailbox fun mailbox =>
    match mailbox.bind OpenMailbox.permanentFlags with
    | none => .throw (keywordsUnsupported folderPath)
    | some permanent =>
      if permanent = [] then .throw (keywordsUnsupported folderPath)
      else if ofString "\\*" ∈ permanent then .done ()
      else if keywords.any (fun keyword => keyword ∉ permanent.map host.lower) then .throw (keywordsUnsupported folderPath)
      else .done ()

/-- The answer to a command that stores. -/
def confirmStored : Except ClientError Bool → KeywordWork Unit
  | .error error => .throw (.client error)
  | .ok true => .done ()
  | .ok false => .throw (.keyword ⟨.KEYWORD_NOT_STORED, ofString "The mail server did not confirm the tag change."⟩)

def addKeywords (uid : Nat) (added : List JsString) : KeywordWork Unit :=
  if added = [] then .done () else .call (.messageFlagsAdd uid added) confirmStored

def removeKeywords (uid : Nat) (removed : List JsString) : KeywordWork Unit :=
  if removed = [] then .done () else .call (.messageFlagsRemove uid removed) confirmStored

def applyKeywords (folderPath : JsString) (uid : Nat) (desired : List JsString) (expectedUidValidity : JsString) :
    KeywordWork MailKeywordResult := do
  assertMailboxGeneration folderPath expectedUidValidity
  let current ← messageKeywords host uid
  let added := sortTexts (desired.filter fun keyword => keyword ∉ current.map Prod.fst)
  let removed := sortTexts ((current.map Prod.fst).filter fun keyword =>
    isMessageTagKeyword host keyword && keyword ∉ desired)
  if added = [] ∧ removed = [] then return ⟨added, removed, sortTexts (current.map Prod.snd)⟩
  else
    assertKeywordSupport host folderPath (added ++ removed)
    addKeywords uid added
    removeKeywords uid removed
    let stored ← messageKeywords host uid
    let ours := (stored.map Prod.fst).filter (isMessageTagKeyword host)
    if ours.length ≠ desired.length ∨ ours.any (fun keyword => keyword ∉ desired) then
      .throw (.keyword ⟨.KEYWORD_NOT_STORED,
        ofString "The mail server accepted the tag change but did not keep the keywords."⟩)
    else return ⟨added, removed, sortTexts (stored.map Prod.snd)⟩

end Model

section Keywords

variable {host : Host} {desired flags : List JsString}

/-- The keywords among flags that carry the prefix, in lower case. -/
def oursAmong (host : Host) (flags : List JsString) : List JsString :=
  ((flags.filter fun flag => !isSystemFlag flag).map host.lower).filter fun keyword =>
    messageTagKeywordPrefix.isPrefixOf keyword

/-- A set of keywords of tags. -/
structure TagKeywords (host : Host) (desired : List JsString) : Prop where
  distinct : desired.Nodup
  atoms : ∀ keyword ∈ desired, ∃ name, messageTagKeyword host name = .ok keyword

theorem TagKeywords.prefixed (tags : TagKeywords host desired) {keyword : JsString} (member : keyword ∈ desired) :
    messageTagKeywordPrefix <+: keyword := by
  obtain ⟨name, ok⟩ := tags.atoms keyword member
  obtain ⟨-, -, rfl, -⟩ := messageTagKeyword_ok ok
  exact List.prefix_append _ _

theorem keywordMap_keys (host : Host) (flags : List JsString) :
    ((keywordMap host flags).map Prod.fst).Nodup ∧ ∀ keyword, keyword ∈ (keywordMap host flags).map Prod.fst ↔
      keyword ∈ (flags.filter fun flag => !isSystemFlag flag).map host.lower := by
  unfold keywordMap
  generalize flags.filter (fun flag => !isSystemFlag flag) = flags
  have each : ∀ map : List (JsString × JsString), (map.map Prod.fst).Nodup →
      (((flags.map fun flag => (host.lower flag, flag)).foldl (fun map entry => Keyed.put Prod.fst entry map) map).map
        Prod.fst).Nodup ∧
      ∀ keyword, keyword ∈ ((flags.map fun flag => (host.lower flag, flag)).foldl
        (fun map entry => Keyed.put Prod.fst entry map) map).map Prod.fst ↔
        keyword ∈ map.map Prod.fst ∨ keyword ∈ flags.map host.lower := by
    induction flags with
    | nil => exact fun map distinct => ⟨distinct, by simp⟩
    | cons flag rest ih =>
      intro map distinct
      obtain ⟨distinct', keys⟩ := ih (Keyed.put Prod.fst (host.lower flag, flag) map) (Keyed.nodup_put distinct)
      refine ⟨distinct', fun keyword => (keys keyword).trans ?_⟩
      rw [Keyed.map_put, List.map_cons, List.mem_cons]
      split
      · rename_i known
        constructor
        · exact fun is => is.imp_right Or.inr
        · rintro (old | rfl | new)
          · exact Or.inl old
          · exact Or.inl known
          · exact Or.inr new
      · rw [List.mem_append, List.mem_singleton, or_assoc]
  obtain ⟨distinct, keys⟩ := each [] .nil
  exact ⟨distinct, fun keyword => (keys keyword).trans (by simp)⟩

theorem ours_keywordMap (keyword : JsString) :
    keyword ∈ ((keywordMap host flags).map Prod.fst).filter (isMessageTagKeyword host) ↔ keyword ∈ oursAmong host flags := by
  unfold oursAmong
  rw [List.mem_filter, List.mem_filter, (keywordMap_keys host flags).2]
  refine and_congr_right fun member => ?_
  obtain ⟨flag, -, rfl⟩ := List.mem_map.1 member
  rw [isMessageTagKeyword, host.lower_lower]

theorem mem_sortTexts {texts : List JsString} {text : JsString} : text ∈ sortTexts texts ↔ text ∈ texts :=
  List.mem_mergeSort

theorem mem_added {keyword : JsString} :
    keyword ∈ sortTexts (desired.filter fun keyword => keyword ∉ (keywordMap host flags).map Prod.fst) ↔
      keyword ∈ desired ∧ keyword ∉ (keywordMap host flags).map Prod.fst := by
  rw [mem_sortTexts, List.mem_filter, decide_eq_true_eq]

theorem mem_removed {keyword : JsString} :
    keyword ∈ sortTexts (((keywordMap host flags).map Prod.fst).filter fun keyword =>
      isMessageTagKeyword host keyword && keyword ∉ desired) ↔ keyword ∈ oursAmong host flags ∧ keyword ∉ desired := by
  rw [mem_sortTexts, ← ours_keywordMap, List.mem_filter, List.mem_filter, Bool.and_eq_true, decide_eq_true_eq, and_assoc]

theorem prefix_of_ours {keyword : JsString} (member : keyword ∈ oursAmong host flags) : messageTagKeywordPrefix <+: keyword :=
  List.isPrefixOf_iff_prefix.1 (List.mem_filter.1 member).2

/-- Nothing is to change exactly where the keywords with the prefix are those that are wanted. -/
theorem unchanged_iff (tags : TagKeywords host desired) :
    (sortTexts (desired.filter fun keyword => keyword ∉ (keywordMap host flags).map Prod.fst) = [] ∧
      sortTexts (((keywordMap host flags).map Prod.fst).filter fun keyword =>
        isMessageTagKeyword host keyword && keyword ∉ desired) = []) ↔
      ∀ keyword, keyword ∈ oursAmong host flags ↔ keyword ∈ desired := by
  rw [List.eq_nil_iff_forall_not_mem, List.eq_nil_iff_forall_not_mem]
  simp only [mem_added, mem_removed, not_and, not_not]
  constructor
  · rintro ⟨noneAdded, noneRemoved⟩ keyword
    refine ⟨noneRemoved keyword, fun wanted => ?_⟩
    refine List.mem_filter.2 ⟨((keywordMap_keys host flags).2 keyword).1 (noneAdded keyword wanted), ?_⟩
    exact List.isPrefixOf_iff_prefix.2 (tags.prefixed wanted)
  · intro same
    refine ⟨fun keyword wanted => ?_, fun keyword is => (same keyword).1 is⟩
    exact ((keywordMap_keys host flags).2 keyword).2 (List.mem_of_mem_filter ((same keyword).2 wanted))

/-- As many as are wanted, and none that is not: the keywords are those that are wanted. -/
theorem stored_iff
    (count : (((keywordMap host flags).map Prod.fst).filter (isMessageTagKeyword host)).length = desired.length)
    (none_ : ∀ keyword ∈ oursAmong host flags, keyword ∈ desired) (keyword : JsString) :
    keyword ∈ oursAmong host flags ↔ keyword ∈ desired := by
  have distinct := (keywordMap_keys host flags).1.filter (isMessageTagKeyword host)
  have within := distinct.subperm fun keyword member => none_ keyword ((ours_keywordMap keyword).1 member)
  have perm := within.perm_of_length_le (Nat.le_of_eq count.symm)
  rw [← ours_keywordMap]
  exact perm.mem_iff

end Keywords

section Conversation

abbrev KeywordLog := List ((op : KeywordOp) × KeywordReply op)

/-- The flags that a command changes. -/
def KeywordOp.stores : KeywordOp → List JsString
  | .messageFlagsAdd _ flags => flags
  | .messageFlagsRemove _ flags => flags
  | _ => []

def KeywordOp.isStore : KeywordOp → Bool
  | .messageFlagsAdd _ _ => true
  | .messageFlagsRemove _ _ => true
  | _ => false

/-- The flags that the server reports. -/
def fetchedFlags : ((op : KeywordOp) × KeywordReply op) → Option (List JsString)
  | ⟨.fetchFlags _, .ok flags⟩ => flags
  | _ => none

/-- What a conversation with the server keeps to. -/
structure Synchronises (host : Host) (uid : Nat) (desired : List JsString) (log : KeywordLog)
    (result : Except KeywordFailure MailKeywordResult) : Prop where
  ours : ∀ entry ∈ log, ∀ flag ∈ entry.1.stores, messageTagKeywordPrefix <+: flag
  idle : ∀ flags, log.findSome? fetchedFlags = some flags →
    (∀ keyword, keyword ∈ oursAmong host flags ↔ keyword ∈ desired) → ∀ entry ∈ log, entry.1.isStore = false
  stored : ∀ value, result = .ok value → ∃ front flags, log = front ++ [⟨.fetchFlags uid, .ok (some flags)⟩] ∧
    ∀ keyword, keyword ∈ oursAmong host flags ↔ keyword ∈ desired

/-- The log of a conversation in which nothing has been changed yet. -/
def Untouched (log : KeywordLog) : Prop := ∀ entry ∈ log, entry.1.isStore = false

theorem KeywordOp.stores_eq_nil {op : KeywordOp} (reads : op.isStore = false) : op.stores = [] := by
  cases op with
  | mailbox => rfl
  | fetchFlags uid => rfl
  | messageFlagsAdd uid flags => contradiction
  | messageFlagsRemove uid flags => contradiction

variable {host : Host} {uid : Nat} {desired : List JsString} {log : KeywordLog}

theorem Untouched.snoc (untouched : Untouched log) (op : KeywordOp) (reads : op.isStore = false) (reply : KeywordReply op) :
    Untouched (log ++ [⟨op, reply⟩]) := by
  intro entry member
  rcases List.mem_append.1 member with old | new
  · exact untouched entry old
  · cases List.mem_singleton.1 new
    exact reads

theorem Untouched.fails (untouched : Untouched log) (failure : KeywordFailure) :
    Synchronises host uid desired log (.error failure) where
  ours entry member flag flagged := by
    rw [KeywordOp.stores_eq_nil (untouched entry member)] at flagged
    cases flagged
  idle _ _ _ := untouched
  stored _ is := by cases is

/-- What is known once the keywords turned out to be others than those wanted. -/
structure Changing (host : Host) (desired : List JsString) (log : KeywordLog) : Prop where
  ours : ∀ entry ∈ log, ∀ flag ∈ entry.1.stores, messageTagKeywordPrefix <+: flag
  differs : ∃ flags, log.findSome? fetchedFlags = some flags ∧
    ¬ ∀ keyword, keyword ∈ oursAmong host flags ↔ keyword ∈ desired

theorem Changing.snoc (changing : Changing host desired log) (op : KeywordOp)
    (prefixed : ∀ flag ∈ op.stores, messageTagKeywordPrefix <+: flag) (reply : KeywordReply op) :
    Changing host desired (log ++ [⟨op, reply⟩]) where
  ours entry member := by
    rcases List.mem_append.1 member with old | new
    · exact changing.ours entry old
    · cases List.mem_singleton.1 new
      exact prefixed
  differs := by
    obtain ⟨flags, first, other⟩ := changing.differs
    refine ⟨flags, ?_, other⟩
    rw [List.findSome?_append, first, Option.some_or]

theorem Changing.ends (changing : Changing host desired log) {result : Except KeywordFailure MailKeywordResult}
    (stored : ∀ value, result = .ok value → ∃ front flags, log = front ++ [⟨.fetchFlags uid, .ok (some flags)⟩] ∧
      ∀ keyword, keyword ∈ oursAmong host flags ↔ keyword ∈ desired) : Synchronises host uid desired log result where
  ours := changing.ours
  idle flags first same := by
    obtain ⟨flags', first', other⟩ := changing.differs
    cases first.symm.trans first'
    exact absurd same other
  stored := stored

theorem Changing.fails (changing : Changing host desired log) (failure : KeywordFailure) :
    Synchronises host uid desired log (.error failure) :=
  changing.ends fun _ is => by cases is

variable {world : KeywordLog → (op : KeywordOp) → KeywordReply op}

/-- A step at which the conversation either fails or goes on as before. -/
def goesOn (host : Host) (uid : Nat) (desired : List JsString) (next : KeywordLog → Prop) :
    KeywordLog → Except KeywordFailure Unit → Prop
  | log, .ok _ => next log
  | log, .error failure => Synchronises host uid desired log (.error failure)

theorem confirmStored_ends (changing : Changing host desired log) (answer : Except ClientError Bool) :
    (confirmStored answer).Ends world (goesOn host uid desired (Changing host desired)) log := by
  rcases answer with error | confirmed
  · exact changing.fails _
  · cases confirmed with
    | false => exact changing.fails _
    | true => exact changing

theorem addKeywords_ends (changing : Changing host desired log) {added : List JsString}
    (prefixed : ∀ flag ∈ added, messageTagKeywordPrefix <+: flag) :
    (addKeywords uid added).Ends world (goesOn host uid desired (Changing host desired)) log := by
  unfold addKeywords
  split
  · exact changing
  · exact confirmStored_ends (changing.snoc (.messageFlagsAdd uid added) prefixed _) _

theorem removeKeywords_ends (changing : Changing host desired log) {removed : List JsString}
    (prefixed : ∀ flag ∈ removed, messageTagKeywordPrefix <+: flag) :
    (removeKeywords uid removed).Ends world (goesOn host uid desired (Changing host desired)) log := by
  unfold removeKeywords
  split
  · exact changing
  · exact confirmStored_ends (changing.snoc (.messageFlagsRemove uid removed) prefixed _) _

theorem assertKeywordSupport_ends (changing : Changing host desired log) (folderPath : JsString)
    (keywords : List JsString) :
    (assertKeywordSupport host folderPath keywords).Ends world (goesOn host uid desired (Changing host desired)) log := by
  have asked := changing.snoc .mailbox (fun _ none => by cases none) (world log .mailbox)
  unfold assertKeywordSupport Program.Ends
  rw [Program.converse]
  split
  · exact asked.fails _
  · split
    · exact asked.fails _
    · split
      · exact asked
      · split
        · exact asked.fails _
        · exact asked

/-- The flags of the message are asked for, and the conversation goes on with them if the server reports any. -/
theorem messageKeywords_ends {post : KeywordLog → Except KeywordFailure (List (JsString × JsString)) → Prop}
    (fails : ∀ reply failure, post (log ++ [⟨.fetchFlags uid, reply⟩]) (.error failure))
    (reports : ∀ flags, post (log ++ [⟨.fetchFlags uid, .ok (some flags)⟩]) (.ok (keywordMap host flags))) :
    (messageKeywords host uid).Ends world post log := by
  unfold messageKeywords Program.Ends
  rw [Program.converse]
  generalize world log (.fetchFlags uid) = reply
  match reply with
  | .error error => exact fails (.error error) _
  | .ok none => exact fails (.ok none) _
  | .ok (some flags) => exact reports flags

theorem assertMailboxGeneration_ends (untouched : Untouched log) (unread : log.findSome? fetchedFlags = none)
    (folderPath expected : JsString) :
    (assertMailboxGeneration folderPath expected).Ends world
      (goesOn host uid desired fun log' => Untouched log' ∧ log'.findSome? fetchedFlags = none) log := by
  have asked := untouched.snoc .mailbox rfl (world log .mailbox)
  have still : (log ++ [⟨.mailbox, world log .mailbox⟩] : KeywordLog).findSome? fetchedFlags = none := by
    rw [List.findSome?_append, unread]
    rfl
  unfold assertMailboxGeneration Program.Ends
  rw [Program.converse]
  dsimp only
  split
  · exact asked.fails _
  · exact ⟨asked, still⟩

theorem goesOn_seq {p : KeywordWork Unit} {rest : KeywordWork MailKeywordResult} {next : KeywordLog → Prop}
    (first : p.Ends world (goesOn host uid desired next) log)
    (after : ∀ log', next log' → rest.Ends world (Synchronises host uid desired) log') :
    (p >>= fun _ => rest).Ends world (Synchronises host uid desired) log := by
  refine Program.Ends.seq (first.mono fun log' result holds => ?_)
  cases result with
  | ok _ => exact after log' holds
  | error failure => exact holds

/-- Whatever the server answers: only keywords with the prefix are sent, none where the keywords are those wanted, and
success means that they are read back. -/
theorem applyKeywords_synchronises (tags : TagKeywords host desired) (folderPath expected : JsString)
    (world : KeywordLog → (op : KeywordOp) → KeywordReply op) :
    Synchronises host uid desired ((applyKeywords host folderPath uid desired expected).converse world []).1
      ((applyKeywords host folderPath uid desired expected).converse world []).2 := by
  show (applyKeywords host folderPath uid desired expected).Ends world (Synchronises host uid desired) []
  have start : Untouched [] := fun _ none => by cases none
  refine goesOn_seq (assertMailboxGeneration_ends start rfl folderPath expected) ?_
  rintro log ⟨untouched, unread⟩
  have asked := fun reply => untouched.snoc (.fetchFlags uid) rfl reply
  refine Program.Ends.seq (messageKeywords_ends (fun reply failure => (asked reply).fails failure) fun flags => ?_)
  have read : (log ++ [⟨.fetchFlags uid, .ok (some flags)⟩] : KeywordLog).findSome? fetchedFlags = some flags := by
    rw [List.findSome?_append, unread]
    rfl
  dsimp only
  by_cases same : ∀ keyword, keyword ∈ oursAmong host flags ↔ keyword ∈ desired
  · rw [if_pos ((unchanged_iff tags).2 same)]
    refine ⟨fun entry member flag flagged => ?_, fun _ _ _ => asked _, fun _ _ => ⟨log, flags, rfl, same⟩⟩
    rw [KeywordOp.stores_eq_nil (asked _ entry member)] at flagged
    cases flagged
  · rw [if_neg (mt (unchanged_iff tags).1 same)]
    have changing : Changing host desired (log ++ [⟨.fetchFlags uid, .ok (some flags)⟩]) := by
      refine ⟨fun entry member flag flagged => ?_, flags, read, same⟩
      rw [KeywordOp.stores_eq_nil (asked _ entry member)] at flagged
      cases flagged
    refine goesOn_seq (assertKeywordSupport_ends changing folderPath _) fun _ supported => ?_
    refine goesOn_seq (addKeywords_ends supported fun flag member => ?_) fun _ added => ?_
    · exact tags.prefixed (mem_added.1 member).1
    refine goesOn_seq (removeKeywords_ends added fun flag member => ?_) fun log' removed => ?_
    · exact prefix_of_ours (mem_removed.1 member).1
    have again := fun reply => removed.snoc (.fetchFlags uid) (fun _ none => by cases none) reply
    refine Program.Ends.seq (messageKeywords_ends (fun reply failure => (again reply).fails failure) fun stored => ?_)
    dsimp only
    split
    · exact (again _).fails _
    · rename_i kept
      obtain ⟨count, within⟩ := not_or.1 kept
      refine (again _).ends fun _ _ => ⟨log', stored, rfl, stored_iff (not_not.1 count) fun keyword member => ?_⟩
      rw [Bool.not_eq_true, List.any_eq_false] at within
      have wanted := within keyword ((ours_keywordMap keyword).2 member)
      simpa using wanted

/-- A server that does what it is told. -/
def obligingWorld (log : KeywordLog) : (op : KeywordOp) → KeywordReply op
  | .mailbox => some ⟨some (ofString "7"), some [ofString "\\*"]⟩
  | .fetchFlags _ =>
    if log.any (fun entry => entry.1.isStore) then .ok (some [ofString "\\Seen", ofString "MTAG-LATER"])
    else .ok (some [ofString "\\Seen", ofString "$Forwarded", ofString "MTAG-WORK"])
  | .messageFlagsAdd _ _ => .ok true
  | .messageFlagsRemove _ _ => .ok true

theorem later_synchronises :
    Synchronises Host.plain 5 [ofString "mtag-later"]
      ((applyKeywords Host.plain (ofString "INBOX") 5 [ofString "mtag-later"] (ofString "7")).converse
        obligingWorld []).1
      ((applyKeywords Host.plain (ofString "INBOX") 5 [ofString "mtag-later"] (ofString "7")).converse
        obligingWorld []).2 := by
  refine applyKeywords_synchronises ⟨List.nodup_singleton _, fun keyword member => ?_⟩ _ _ obligingWorld
  rw [List.mem_singleton.1 member]
  exact ⟨ofString "later", by decide⟩

end Conversation

end MailService
