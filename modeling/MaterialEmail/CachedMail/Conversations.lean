import MaterialEmail.Library.Forest
import MaterialEmail.MailService.Model

/-! The grouping of cached messages into conversations: messages belong together that share a subject, or a message
identifier that one of them has or refers to. -/
namespace CachedMail

open JsString MailService

/-- `normalize("NFKC")`, `toLocaleLowerCase("en-US")`, `localeCompare` and `Date.parse`. -/
structure Host where
  normalize : JsString → JsString
  lower : JsString → JsString
  localeCompare : JsString → JsString → Ordering
  parseDate : JsString → Option Int

def cachedConversationMessageLimit : Nat := 2000
def cachedConversationReferenceLimit : Nat := 100
def cachedConversationSubjectLimit : Nat := 4096

structure CachedConversation where
  id : JsString
  subject : JsString
  messages : List MessageSummary
  unreadCount : Nat
  accountIds : List JsString

structure CachedConversationGrouping where
  conversations : List CachedConversation
  limited : Bool

/-- A loop that has not come to its end, or an error. -/
inductive Failure where
  | runsOn
  | error (message : String)
  deriving DecidableEq

section Subjects

/-- `\[\d{1,4}\]` at the start of a text. -/
def skipCount (text : JsString) : JsString :=
  match text with
  | 91 :: rest =>
    let digits := rest.takeWhile fun unit => (digit? unit).isSome
    match rest.dropWhile fun unit => (digit? unit).isSome with
    | 93 :: after => if 1 ≤ digits.length ∧ digits.length ≤ 4 then after else text
    | _ => text
  | _ => text

/-- What follows the word and a colon, where the text begins so. -/
def afterReplyWord (word text : JsString) : Option JsString :=
  if (text.take word.length).map asciiLower = word then
    match (skipCount ((text.drop word.length).dropWhile isWhiteSpace)).dropWhile isWhiteSpace with
    | 58 :: rest => some (rest.dropWhile isWhiteSpace)
    | _ => none
  else none

/-- `replace(replyPrefix, "")`. -/
def withoutReplyPrefix (text : JsString) : JsString :=
  ([ofString "re", ofString "fw", ofString "fwd"].findSome? fun word => afterReplyWord word text).getD text

/-- The loop of `conversationSubject`, with the passes that are left. -/
def stripReplyPrefixes : Nat → JsString → JsString
  | 0, value => value
  | count + 1, value =>
    let next := trim (withoutReplyPrefix value)
    if next = value then value else stripReplyPrefixes count next

variable (host : Host)

def conversationSubject (subject : JsString) : JsString :=
  stripReplyPrefixes 20 (replaceRuns isWhiteSpace 32 false
    (trim ((host.normalize subject).take cachedConversationSubjectLimit)))

def normalizedConversationSubject (subject : JsString) : JsString := host.lower (conversationSubject host subject)

/-- `/^<([^<>\s]+)>$/u`. -/
def bracketed (text : JsString) : Option JsString :=
  match text with
  | 60 :: rest =>
    if rest.getLast? = some 62 ∧ rest.dropLast ≠ [] ∧ ∀ unit ∈ rest.dropLast, unit ≠ 60 ∧ unit ≠ 62 ∧ isWhiteSpace unit = false
    then some rest.dropLast else none
  | _ => none

def normalizedMessageReference (value : JsString) : Option JsString :=
  let trimmed := trim (host.normalize value)
  if trimmed = [] ∨ trimmed.length > 4096 then none
  else
    let candidate := trim ((bracketed trimmed).getD trimmed)
    if candidate = [] ∨ candidate.any isWhiteSpace then none else some (host.lower candidate)

def referenceTokens (message : MessageSummary) : List JsString :=
  let values := [message.messageId, message.inReplyTo] ++
    ((message.references.getD []).take cachedConversationReferenceLimit).map some
  (values.flatMap fun value =>
    match value with
    | none => []
    | some value => if value = [] then [] else (normalizedMessageReference host value).toList).eraseDups

end Subjects

section Order

variable (host : Host)

/-- `dateValue`; what is no date, minus infinity in the source, comes before every date. -/
def dateValue (message : MessageSummary) : Option Int := host.parseDate message.date

def newestFirst (left right : MessageSummary) : Ordering :=
  (compare (dateValue host right) (dateValue host left)).then (host.localeCompare left.id right.id)

/-- `sort` with a comparison. -/
def sortBy {α : Type} (compare : α → α → Ordering) (values : List α) : List α :=
  values.mergeSort fun left right => compare left right ≠ .gt

end Order

section Grouping

variable (host : Host)

def singleton (message : MessageSummary) : CachedConversation where
  id := ofString "message:" ++ message.id
  subject :=
    if conversationSubject host message.subject = [] then message.subject else conversationSubject host message.subject
  messages := [message]
  unreadCount := if message.unread then 1 else 0
  accountIds := [message.accountId]

/-- The parents of the indices, and the first index seen for each subject and for each reference. -/
structure Linking where
  parents : List Nat
  subjects : List (JsString × Nat)
  references : List (JsString × Nat)

def orRunsOn {α : Type} : Option α → Except Failure α
  | some value => .ok value
  | none => .error .runsOn

/-- Joins an index to the first one with the key, or notes it as the first. -/
def joinFirst (fuel : Nat) (parents : List Nat) (firsts : List (JsString × Nat)) (key : JsString) (index : Nat) :
    Except Failure (List Nat × List (JsString × Nat)) :=
  match firsts.lookup key with
  | none => .ok (parents, firsts ++ [(key, index)])
  | some existing => do
    let parents ← orRunsOn (Forest.union fuel parents existing index)
    return (parents, firsts)

def joinSubject (fuel : Nat) (linking : Linking) (subject : JsString) (index : Nat) : Except Failure Linking := do
  let (parents, subjects) ← joinFirst fuel linking.parents linking.subjects subject index
  return { linking with parents := parents, subjects := subjects }

def joinReference (fuel : Nat) (index : Nat) (linking : Linking) (token : JsString) : Except Failure Linking := do
  let (parents, references) ← joinFirst fuel linking.parents linking.references token index
  return { linking with parents := parents, references := references }

/-- One pass of the loop that joins. -/
def joinMessage (fuel : Nat) (linking : Linking) (entry : MessageSummary × Nat) : Except Failure Linking := do
  let subject := normalizedConversationSubject host entry.1.subject
  let linking ← (if subject ≠ [] ∧ subject ≠ ofString "(no subject)" then joinSubject fuel linking subject entry.2
    else .ok linking)
  (referenceTokens host entry.1).foldlM (joinReference fuel entry.2) linking

/-- `components.get(root)?.push(message) ?? components.set(root, [message])`. -/
def addTo (root : Nat) (message : MessageSummary) :
    List (Nat × List MessageSummary) → List (Nat × List MessageSummary)
  | [] => [(root, [message])]
  | (other, component) :: rest =>
    if other = root then (other, component ++ [message]) :: rest else (other, component) :: addTo root message rest

/-- One pass of the loop that collects. -/
def collectMessage (fuel : Nat) (collected : List Nat × List (Nat × List MessageSummary))
    (entry : MessageSummary × Nat) : Except Failure (List Nat × List (Nat × List MessageSummary)) := do
  let (root, parents) ← orRunsOn (Forest.find fuel collected.1 entry.2)
  return (parents, addTo root entry.1 collected.2)

def conversationOf (component : List MessageSummary) : Except Failure CachedConversation :=
  let sorted := sortBy (newestFirst host) component
  match sorted with
  | [] => .error (.error "A cached conversation cannot be empty.")
  | newest :: _ => .ok {
      id := ofString "conversation:" ++ ((sortTexts (sorted.map fun message => message.id)).head?.getD newest.id)
      subject :=
        if conversationSubject host newest.subject = [] then newest.subject else conversationSubject host newest.subject
      messages := sorted
      unreadCount := (sorted.filter fun message => message.unread).length
      accountIds := sortTexts (sorted.map fun message => message.accountId).eraseDups
    }

/-- The comparison of conversations, by their newest messages. -/
def newestConversationFirst (left right : CachedConversation) : Ordering :=
  match left.messages, right.messages with
  | newest :: _, newest' :: _ => (newestFirst host newest newest').then (host.localeCompare left.id right.id)
  | _, _ => .eq

def groupCachedConversations (fuel : Nat) (messages : List MessageSummary) :
    Except Failure CachedConversationGrouping := do
  if messages.length > cachedConversationMessageLimit then
    return ⟨messages.map (singleton host), true⟩
  let linking ← messages.zipIdx.foldlM (joinMessage host fuel) ⟨List.range messages.length, [], []⟩
  let (_, components) ← messages.zipIdx.foldlM (collectMessage fuel) (linking.parents, [])
  let conversations ← components.mapM fun component => conversationOf host component.2
  return ⟨sortBy (newestConversationFirst host) conversations, false⟩

end Grouping

end CachedMail
