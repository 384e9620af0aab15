import MaterialEmail.Library.TextPattern
import MaterialEmail.Library.WhiteSpace

/-! What is shown of an error. A message that a list of patterns takes for one of the program's own is shown as it is;
of every other one the category is shown. -/
namespace UserVisibleError

open JsString Regular TextPattern

section Texts

def mailFallback : JsString := ofString "The mail server operation could not complete. Check the account server settings and network, then retry."
def searchFallback : JsString := ofString "The search could not complete. Review the search settings and try again."

/-- What a mail error may be shown as, whatever its message. -/
inductive MailCategory where
  | fallback
  | refused
  | unresolved
  | timedOut
  | rejected
  | insecure
  | disconnected
  | cancelled
  | tooBig
  | protocol
  deriving DecidableEq, Repr

def MailCategory.all : List MailCategory :=
  [.fallback, .refused, .unresolved, .timedOut, .rejected, .insecure, .disconnected, .cancelled, .tooBig, .protocol]

def MailCategory.text : MailCategory → JsString
  | .fallback => mailFallback
  | .refused =>
    ofString "The server refused the connection. Check the server address, port, security mode, and network, then retry."
  | .unresolved => ofString "The server address could not be resolved. Check the server name and network, then retry."
  | .timedOut =>
    ofString "The server did not respond before the connection timed out. Check the server settings and network, then retry."
  | .rejected =>
    ofString "The server rejected the account sign-in. Check the credential or provider authorization, then retry."
  | .insecure => ofString
    "The secure connection could not be verified. Review the server name, security mode, and certificate diagnostics before retrying."
  | .disconnected => ofString "The network connection ended before the mail operation completed. Check the network and retry."
  | .cancelled => ofString "The POP3 account test was cancelled. Its connection was closed and no account was saved."
  | .tooBig => ofString "The POP3 server response exceeded the safe account-test limit. No account was saved."
  | .protocol =>
    ofString "The POP3 server response did not satisfy the bounded account-test protocol checks. No account was saved."

/-- `PUBLIC_MAIL_MESSAGES`. -/
def publicMailMessages : List JsString := MailCategory.all.map MailCategory.text

end Texts

section Messages

/-- A value that was thrown: nothing, or what it says of itself, and its `code` if that is a text. -/
inductive ErrorValue where
  | nothing
  | thrown (text : JsString) (code : Option JsString)

/-- What is left of a text behind another one, in whatever case that is written. -/
def stripFolded : JsString → JsString → Option JsString
  | [], text => some text
  | expected :: start, unit :: text => if folded unit = folded expected then stripFolded start text else none
  | _ :: _, [] => none

/-- `replace(/^Error invoking remote method '[^']+': Error:\s*/iu, "")`. -/
def withoutInvocation (text : JsString) : JsString :=
  let behind := (stripFolded (ofString "Error invoking remote method '") text).bind fun rest =>
    if rest.head? = some 39 then none
    else (stripFolded (ofString "': Error:") (rest.dropWhile (· ≠ 39))).map fun rest => rest.dropWhile isWhiteSpace
  behind.getD text

/-- `[\u0000-\u0008\u000B\u000C\u000E-\u001F\u007F]`. -/
def isHidden (unit : UInt16) : Bool := isControl unit && unit ≠ 9 && unit ≠ 10 && unit ≠ 13

def cleaned (text : JsString) : JsString :=
  trim (replaceRuns isWhiteSpace 32 false (text.map fun unit => if isHidden unit then 32 else unit))

def rawErrorMessage : ErrorValue → JsString
  | .nothing => []
  | .thrown text _ => cleaned (withoutInvocation text)

/-- The code in upper case, or nothing. -/
def errorCode (toUpperCase : JsString → JsString) : ErrorValue → JsString
  | .nothing => []
  | .thrown _ code => (code.map toUpperCase).getD []

end Messages

section Patterns

def address : Pattern :=
  all [oneOf (["http", "https", "ws", "wss", "ftp", "file"].map fun scheme => opening (opensWord true) (literal true scheme)),
    literal true "://", plus visible]

/-- `(?:^|[\s("'\u0060])` in front of a letter. -/
def startsPath (letter : Letter) : Bool :=
  letter.before.all fun unit => isWhiteSpace unit || unit = 40 || unit = 34 || unit = 39 || unit = 0x60

def path : Pattern :=
  let name := plus (unitIn fun unit => unit ≠ 92 && !isWhiteSpace unit)
  oneOf [
    all [opening startsPath (unitIn isLetter), literal false ":", anyOf "\\/"],
    all [opening startsPath (literal false "\\\\"), name, literal false "\\", name],
    all [opening startsPath (literal false "/"),
      oneOf (["Users", "home", "tmp", "var", "private", "opt", "mnt", "Volumes", "etc"].map (literal false)),
      plus (all [literal false "/", plus (unitIn fun unit => unit ≠ 58 && !isWhiteSpace unit)])]]

def credential : Pattern :=
  let token (kind : String) := all [literal true kind, optional (anyOf "_ -"), literal true "token"]
  let names := [literal true "authorization", token "access", token "refresh"] ++
    ["password", "secret", "query", "pattern"].map (literal true)
  all [oneOf (names.map (opening (opensWord true))), literal true "=", plus visible]

def implementation : Pattern :=
  let isName (unit : UInt16) : Bool := isAlphanumeric unit || unit ∈ ofString "_./-"
  opening (opensWord false) (closing (closesWord false) (oneOf [
    literal false "Nodemailer",
    literal false "ImapFlow",
    seq (literal false "node:") (seq (star (unitIn isName)) (unitIn isName))]))

def stackFrame : Pattern :=
  all [opening (opensWord false) (literal false "at"), plus white, optional (seq (literal false "async") (plus white)),
    plus (unitIn fun unit => isWord false unit || unit ∈ ofString ".$<>"), star white, literal false "(", star (noneOf ")"),
    literal false ":", digits, literal false ":", digits, literal false ")"]

def containsSensitiveImplementationDetail (message : JsString) : Bool :=
  occurs address message || occurs path message || occurs credential message || occurs implementation message ||
    occurs stackFrame message

def invalidExpression : Pattern := literal true "Invalid regular expression:"

/-- `\b(?:…)\b`. -/
def wholeWords (patterns : List Pattern) : Pattern :=
  opening (opensWord true) (closing (closesWord true) (oneOf patterns))

def words (texts : List String) : Pattern := wholeWords (texts.map (literal true))

/-- The tests for categories, in their order: codes, and what a message says. -/
def mailCategories : List (List String × Pattern × MailCategory) := [
  (["ECANCELLED"], literal true "POP3 account test was cancelled", .cancelled),
  (["ETOOBIG"], literal true "POP3 server response exceeded", .tooBig),
  (["EPROTOCOL"], literal true "bounded account test could not safely accept", .protocol),
  (["ECONNREFUSED"], words ["ECONNREFUSED", "connection refused"], .refused),
  (["ENOTFOUND", "EAI_AGAIN", "EAI_FAIL"], words ["ENOTFOUND", "EAI_AGAIN", "getaddrinfo"], .unresolved),
  (["ETIMEDOUT", "ESOCKETTIMEDOUT", "ETIMEOUT"], words ["ETIMEDOUT", "ESOCKETTIMEDOUT", "time out", "timed out"], .timedOut),
  (["EAUTH", "AUTHENTICATIONFAILED"],
    words ["authentication failed", "invalid login", "invalid credentials", "login failed", "EAUTH"], .rejected),
  (["ETLS"], wholeWords [
    literal true "certificate",
    all [literal true "self", anyOf "- ", literal true "signed"],
    literal true "ERR_TLS",
    all [literal true "CERT_", star upperCase, upperCase],
    literal true "TLS handshake", literal true "SSL handshake", literal true "secure POP3 connection"], .insecure),
  (["ENETUNREACH", "EHOSTUNREACH", "ENETDOWN", "ECONNRESET", "EPIPE"],
    words ["ENETUNREACH", "EHOSTUNREACH", "ENETDOWN", "ECONNRESET", "socket hang up", "network unreachable",
      "network is unreachable"], .disconnected)]
where
  /-- `[A-Z_]`, in any case. -/
  upperCase := unitIn fun unit => isLetter (folded unit) || unit = 95

def categoryOf (message code : JsString) : Option MailCategory :=
  (mailCategories.find? fun (codes, pattern, _) =>
    (codes.map ofString).contains code || occurs pattern message).map fun (_, _, category) => category

/-- Beginnings of messages about what a mail server did. -/
def serverMessages : List JsString := [
  ofString "The mail server does not advertise MOVE",
  ofString "The mail server did not confirm the move",
  ofString "The mail server did not confirm the read-state change",
  ofString "The mail server did not confirm the star change",
  ofString "The mail server did not confirm the tag change",
  ofString "The mail server returned an invalid destination UID",
  ofString "The mail server does not accept tag keywords in",
  ofString "The mail server accepted the tag change but did not keep the keywords"]

/-- `.`. -/
def inLine : Pattern := unitIn fun unit => unit ≠ 10 && unit ≠ 13 && unit ≠ 0x2028 && unit ≠ 0x2029

def tagMessages : Pattern :=
  oneOf [
    closing closesText (literal false "A tag needs a name before it can be stored on the mail server."),
    all [literal false "The tag ", plus inLine, literal false " encodes to a ", digits,
      literal false "-character mail server keyword, over the ", digits,
      closing closesText (literal false "-character limit. Shorten the tag name; it was not stored.")],
    all [literal false "Material Email stores at most ", digits, literal false " tags on one message; ", digits,
      closing closesText (literal false " were requested and none were stored.")]]

/-- The messages that are shown as they are. -/
def isOwnMessage (message : JsString) : Bool :=
  serverMessages.any (fun start => start.isPrefixOf message) ||
    message = ofString "The message is no longer available on the server." || begins tagMessages message

end Patterns

section Rendering

inductive UserVisibleErrorContext where
  | general
  | mail
  | search
  deriving DecidableEq, Repr

def generalFallback : JsString := ofString "The operation could not complete. Review the current settings and try again."

def maxVisibleErrorCharacters : Nat := 480

def mailErrorCodes : List JsString := [
  "EAUTH", "AUTHENTICATIONFAILED", "ECONNREFUSED", "ECONNRESET", "EHOSTUNREACH", "ENETDOWN", "ENETUNREACH",
  "EPIPE", "ETIMEDOUT", "ESOCKETTIMEDOUT", "ETIMEOUT", "ENOTFOUND", "EAI_AGAIN", "EAI_FAIL", "ECANCELLED",
  "ETLS", "EPROTOCOL", "ETOOBIG"].map ofString

def mailFailureMessage (message code : JsString) : JsString :=
  if message ∈ publicMailMessages then message
  else
    match categoryOf message code with
    | some category => category.text
    | none => if isOwnMessage message then message else mailFallback

def UserVisibleErrorContext.fallback : UserVisibleErrorContext → JsString
  | .general => generalFallback
  | .mail => mailFallback
  | .search => searchFallback

/-- Words of a message that is about mail. -/
def aboutMail : Pattern := words ["SMTP", "IMAP", "POP3", "Nodemailer", "ImapFlow", "ECONN", "EAI_", "ENET", "EHOST", "socket"]

variable (toUpperCase : JsString → JsString)

def userVisibleErrorMessage (error : ErrorValue) (context : UserVisibleErrorContext) (fallback : Option JsString) : JsString :=
  let fallback := fallback.getD context.fallback
  let message := rawErrorMessage error
  if message = [] then fallback
  else if context = .search || begins invalidExpression message then searchFallback
  else
    let code := errorCode toUpperCase error
    if context = .mail then mailFailureMessage message code
    else if maxVisibleErrorCharacters < message.length || containsSensitiveImplementationDetail message then fallback
    else if mailErrorCodes.contains code || occurs aboutMail message then mailFailureMessage message code
    else message

end Rendering

section Cleaning

variable {text : JsString}

theorem cleaned_clean {unit : UInt16} (member : unit ∈ cleaned text) : isHidden unit = false := by
  rcases mem_replaceRuns (trim_within.subset member) with rfl | ⟨inText, -⟩
  · rfl
  · obtain ⟨other, -, rfl⟩ := List.mem_map.1 inText
    split
    · rfl
    · rename_i shown
      simpa using shown

theorem cleaned_cleaned (text : JsString) : cleaned (cleaned text) = cleaned text := by
  have shown : (cleaned text).map (fun unit => if isHidden unit then 32 else unit) = cleaned text := by
    have same : ∀ unit ∈ cleaned text, (if isHidden unit then 32 else unit) = unit := by
      intro unit member
      rw [if_neg (by simp [cleaned_clean member])]
    rw [List.map_congr_left same, List.map_id']
  have tidy : Tidy (cleaned text) := (tidy_replaceRuns false).inside trim_within
  rw [cleaned, shown, replaceRuns_of_tidy tidy (by simp)]
  exact trim_trim _

end Cleaning

section Details

variable {text : JsString} {pattern : Pattern}

/-- Units without which a text holds no address, no path, no credential and no stack frame. -/
def marks : List UInt16 := [58, 47, 92, 61, 40]

theorem mark_of_reads {ignoreCase : Bool} {letter : Letter} {unit : UInt16} (mark : unit ∈ marks)
    (read : reads ignoreCase letter unit) : letter.unit ∈ marks := by
  cases ignoreCase with
  | false => exact (show letter.unit = unit from read) ▸ mark
  | true =>
    have same : folded letter.unit = folded unit := read
    have lower : ∀ unit ∈ marks, folded unit ∈ marks := by decide
    have isMark : folded letter.unit ∈ marks := same ▸ lower unit mark
    unfold folded at isMark
    split at isMark
    · exact absurd isMark (by decide)
    · split at isMark
      · exact absurd isMark (by decide)
      · by_cases upper : 65 ≤ letter.unit ∧ letter.unit ≤ 90
        · obtain ⟨position, isUpper⟩ := upper_eq upper
          have noMark : ∀ position : Fin 26, asciiLower (UInt16.ofNat (65 + position)) ∉ marks := by decide
          exact absurd (isUpper ▸ isMark) (noMark position)
        · rwa [asciiLower, if_neg upper] at isMark

theorem mark_of_literal {ignoreCase : Bool} {literal : String} {word : List Letter}
    (marked : ∃ unit ∈ ofString literal, unit ∈ marks) (isWord : word ∈ (TextPattern.literal ignoreCase literal).language) :
    ∃ letter ∈ word, letter.unit ∈ marks := by
  obtain ⟨unit, member, mark⟩ := marked
  obtain ⟨position, inside, rfl⟩ := List.getElem_of_mem member
  have read := mem_literalOf isWord
  have long : position < word.length := read.length_eq ▸ inside
  exact ⟨word[position], List.getElem_mem long, mark_of_reads mark (read.get long inside)⟩

theorem mark_of_all {ignoreCase : Bool} {literal : String} {patterns : List Pattern} {word : List Letter}
    (member : TextPattern.literal ignoreCase literal ∈ patterns) (marked : ∃ unit ∈ ofString literal, unit ∈ marks)
    (isWord : word ∈ (all patterns).language) : ∃ letter ∈ word, letter.unit ∈ marks := by
  obtain ⟨part, isPart, inside⟩ := part_of_all member isWord
  obtain ⟨letter, inPart, mark⟩ := mark_of_literal marked isPart
  exact ⟨letter, inside.subset inPart, mark⟩

theorem path_mark {word : List Letter} (isPath : word ∈ path.language) : ∃ letter ∈ word, letter.unit ∈ marks := by
  obtain ⟨kind, isKind, isWord⟩ := mem_oneOf.1 isPath
  have opened {literal : String} {rest : List Pattern} (marked : ∃ unit ∈ ofString literal, unit ∈ marks)
      (isWord : word ∈ (all (opening startsPath (TextPattern.literal false literal) :: rest)).language) :
      ∃ letter ∈ word, letter.unit ∈ marks := by
    obtain ⟨front, isFront, back, -, rfl⟩ := mem_all.1 isWord
    obtain ⟨letter, inFront, mark⟩ := mark_of_literal marked (mem_of_opening isFront)
    exact ⟨letter, List.mem_append_left back inFront, mark⟩
  simp only [List.mem_cons, List.not_mem_nil, or_false] at isKind
  rcases isKind with rfl | rfl | rfl
  · exact mark_of_all (List.mem_cons_of_mem _ List.mem_cons_self) (by decide) isWord
  · exact opened (by decide) isWord
  · exact opened (by decide) isWord

/-- A text without these units holds nothing that is sensitive but the name of a part of the program. -/
theorem sensitive_of_unmarked (unmarked : ∀ unit ∈ text, unit ∉ marks) :
    containsSensitiveImplementationDetail text = occurs implementation text := by
  have absent {pattern : Pattern} (needs : ∀ word ∈ pattern.language, ∃ letter ∈ word, letter.unit ∈ marks) :
      occurs pattern text = false := by
    rw [Bool.eq_false_iff]
    intro found
    obtain ⟨word, isWord, inText⟩ := unit_mem_of_occurs found
    obtain ⟨letter, member, mark⟩ := needs word isWord
    exact unmarked _ (inText letter member) mark
  have noAddress : occurs address text = false :=
    absent fun _ => mark_of_all (List.mem_cons_of_mem _ List.mem_cons_self) (by decide)
  have noCredential : occurs credential text = false :=
    absent fun _ => mark_of_all (List.mem_cons_of_mem _ List.mem_cons_self) (by decide)
  have noFrame : occurs stackFrame text = false :=
    absent fun _ => mark_of_all (List.mem_of_getElem? (i := 5) rfl) (by decide)
  unfold containsSensitiveImplementationDetail
  rw [noAddress, absent fun _ => path_mark, noCredential, noFrame]
  simp

end Details

section OwnMessages

variable {message code : JsString}

/-- Nothing of a text is taken for anything but a message. -/
structure Plain (text : JsString) : Prop where
  unmarked : ∀ unit ∈ text, unit ∉ marks
  unnamed : occurs implementation text = false
  valid : begins invalidExpression text = false
  kept : rawErrorMessage (.thrown text none) = text
  nonempty : text ≠ []

instance (text : JsString) : Decidable (Plain text) :=
  decidable_of_iff ((∀ unit ∈ text, unit ∉ marks) ∧ occurs implementation text = false ∧
    begins invalidExpression text = false ∧ rawErrorMessage (.thrown text none) = text ∧ text ≠ [])
    ⟨fun ⟨unmarked, unnamed, valid, kept, nonempty⟩ => ⟨unmarked, unnamed, valid, kept, nonempty⟩,
      fun plain => ⟨plain.1, plain.2, plain.3, plain.4, plain.5⟩⟩

theorem Plain.clean {text : JsString} (plain : Plain text) : containsSensitiveImplementationDetail text = false := by
  rw [sensitive_of_unmarked plain.unmarked, plain.unnamed]

theorem ofString_ofList (characters : List Char) :
    ofString (String.ofList characters) = characters.map fun character => UInt16.ofNat character.toNat := by
  rw [ofString, String.toList_ofList]

set_option maxRecDepth 4000 in
theorem MailCategory.plain (category : MailCategory) : Plain category.text := by
  cases category <;> rw [MailCategory.text] <;> try rw [mailFallback]
  all_goals
    rw [ofString_ofList]
    decide +kernel

set_option maxRecDepth 4000 in
theorem searchFallback_plain : Plain searchFallback := by
  rw [searchFallback, ofString_ofList]
  decide

set_option maxRecDepth 4000 in
theorem searchFallback_not_public : searchFallback ∉ publicMailMessages := by
  intro member
  obtain ⟨category, -, same⟩ := List.mem_map.1 member
  rw [searchFallback, ofString_ofList] at same
  cases category <;> rw [MailCategory.text] at same <;> try rw [mailFallback] at same
  all_goals
    rw [ofString_ofList] at same
    exact absurd same (by decide)

theorem mem_public (category : MailCategory) : category.text ∈ publicMailMessages :=
  List.mem_map_of_mem (by cases category <;> decide)

theorem public_plain (member : message ∈ publicMailMessages) : Plain message := by
  obtain ⟨category, -, rfl⟩ := List.mem_map.1 member
  exact category.plain

/-- A message is shown as it is, or as one that is shown whatever the message was. -/
theorem mailFailureMessage_cases (message code : JsString) :
    mailFailureMessage message code ∈ publicMailMessages ∨
      mailFailureMessage message code = message ∧ categoryOf message code = none ∧ isOwnMessage message = true := by
  unfold mailFailureMessage
  split
  · exact Or.inl ‹_›
  · split
    · exact Or.inl (mem_public _)
    · split
      · exact Or.inr ⟨rfl, ‹_›, ‹_›⟩
      · exact Or.inl (mem_public .fallback)

theorem mailFailureMessage_public (member : message ∈ publicMailMessages) : mailFailureMessage message code = message :=
  if_pos member

theorem mailFailureMessage_own (uncategorised : categoryOf message code = none) (own : isOwnMessage message = true) :
    mailFailureMessage message code = message := by
  simp only [mailFailureMessage, uncategorised, own, if_true, ite_self]

/-- A message without a category has none without its code either. -/
theorem categoryOf_nil (uncategorised : categoryOf message code = none) : categoryOf message [] = none := by
  simp only [categoryOf, Option.map_eq_none_iff, List.find?_eq_none] at uncategorised ⊢
  intro test member
  have noCode : ∀ test ∈ mailCategories, (test.1.map ofString).contains [] = false := by decide
  have noPattern := uncategorised test member
  simp only [Bool.or_eq_true, not_or] at noPattern
  simp only [noCode test member, Bool.false_or]
  exact noPattern.2

theorem head_of_literal {literal : String} {first : UInt16} {word : List Letter}
    (isFirst : (ofString literal).head? = some first) (isWord : word ∈ (TextPattern.literal false literal).language) :
    ∃ letter ∈ word.head?, letter.unit = first := by
  have read := mem_literalOf isWord
  generalize ofString literal = text at isFirst read
  cases read with
  | nil => cases isFirst
  | cons here _ =>
    cases isFirst
    exact ⟨_, rfl, here⟩

theorem head_of_all {first : UInt16} {pattern : Pattern} {patterns : List Pattern} {word : List Letter}
    (starts : ∀ word ∈ pattern.language, ∃ letter ∈ word.head?, letter.unit = first)
    (isWord : word ∈ (all (pattern :: patterns)).language) : ∃ letter ∈ word.head?, letter.unit = first := by
  obtain ⟨front, isFront, back, -, rfl⟩ := mem_all.1 isWord
  obtain ⟨letter, isHead, isFirst⟩ := starts front isFront
  exact ⟨letter, by rw [List.head?_append]; simp [Option.mem_def.1 isHead], isFirst⟩

theorem tagMessages_start {word : List Letter} (isWord : word ∈ tagMessages.language) :
    ∃ first ∈ ofString "ATM", ∃ letter ∈ word.head?, letter.unit = first := by
  obtain ⟨kind, isKind, isWord⟩ := mem_oneOf.1 isWord
  simp only [List.mem_cons, List.not_mem_nil, or_false] at isKind
  rcases isKind with rfl | rfl | rfl
  · exact ⟨65, by decide, head_of_literal (by decide) (mem_of_closing isWord)⟩
  · exact ⟨84, by decide, head_of_all (fun _ => head_of_literal (by decide)) isWord⟩
  · exact ⟨77, by decide, head_of_all (fun _ => head_of_literal (by decide)) isWord⟩

/-- The messages of the program begin with one of three letters. -/
theorem own_starts (own : isOwnMessage message = true) : ∃ unit ∈ message.head?, unit ∈ ofString "ATM" := by
  simp only [isOwnMessage, Bool.or_eq_true, decide_eq_true_eq, List.any_eq_true] at own
  obtain (⟨start, member, isStart⟩ | rfl) | isTag := own
  · have heads : ∀ start ∈ serverMessages, start.head? = some 84 := by decide
    obtain ⟨rest, rfl⟩ := List.isPrefixOf_iff_prefix.1 isStart
    exact ⟨84, by simp [heads start member], by decide⟩
  · exact ⟨84, rfl, by decide⟩
  · obtain ⟨word, isWord, after, whole⟩ := beginsWith_iff.1 isTag
    obtain ⟨first, inTag, letter, isHead, isFirst⟩ := tagMessages_start isWord
    cases message with
    | nil => simp_all [inContext]
    | cons unit rest =>
      have same : (inContext none (unit :: rest)).head? = some letter := by
        rw [← whole, List.head?_append, Option.mem_def.1 isHead, Option.some_or]
      cases same
      exact ⟨unit, rfl, (show unit = first from isFirst) ▸ inTag⟩

theorem withoutInvocation_of_start (starts : ∃ unit ∈ message.head?, unit ∈ ofString "ATM") :
    withoutInvocation message = message := by
  obtain ⟨unit, isHead, inTag⟩ := starts
  cases message with
  | nil => cases isHead
  | cons first rest =>
    cases isHead
    have other : ∀ unit ∈ ofString "ATM", folded unit ≠ folded 69 := by decide
    have start : ofString "Error invoking remote method '" = 69 :: ofString "rror invoking remote method '" := by decide
    rw [withoutInvocation, start, stripFolded, if_neg (other _ inTag)]
    rfl

end OwnMessages

section Rerendering

variable (toUpperCase : JsString → JsString) {shown : JsString}

/-- A text that is shown holds nothing sensitive, and is shown as it is when it is given as an error itself. -/
def SafeAndStable (shown : JsString) : Prop :=
  containsSensitiveImplementationDetail shown = false ∧
    userVisibleErrorMessage toUpperCase (.thrown shown none) .mail none = shown

theorem shown_mail {error : ErrorValue} (nonempty : rawErrorMessage error ≠ [])
    (valid : begins invalidExpression (rawErrorMessage error) = false) :
    userVisibleErrorMessage toUpperCase error .mail none =
      mailFailureMessage (rawErrorMessage error) (errorCode toUpperCase error) := by
  simp [userVisibleErrorMessage, nonempty, valid]

theorem shown_kept (kept : rawErrorMessage (.thrown shown none) = shown) (nonempty : shown ≠ [])
    (valid : begins invalidExpression shown = false) :
    userVisibleErrorMessage toUpperCase (.thrown shown none) .mail none = mailFailureMessage shown [] := by
  have named : rawErrorMessage (.thrown shown none) ≠ [] := by rwa [kept]
  rw [shown_mail toUpperCase named (by rwa [kept]), kept]
  rfl

theorem public_safeAndStable (member : shown ∈ publicMailMessages) : SafeAndStable toUpperCase shown := by
  have plain := public_plain member
  refine ⟨plain.clean, ?_⟩
  rw [shown_kept toUpperCase plain.kept plain.nonempty plain.valid]
  exact mailFailureMessage_public member

/-- The text for searches is shown as one for mail when it is given as an error. -/
theorem searchFallback_changes : ¬SafeAndStable toUpperCase searchFallback := by
  rintro ⟨-, same⟩
  rw [shown_kept toUpperCase searchFallback_plain.kept searchFallback_plain.nonempty searchFallback_plain.valid] at same
  rcases mailFailureMessage_cases searchFallback [] with inPublic | ⟨-, -, own⟩
  · exact searchFallback_not_public (same ▸ inPublic)
  · exact absurd own (by decide)

theorem own_stable {message : JsString} (kept : cleaned message = message) (nonempty : message ≠ [])
    (valid : begins invalidExpression message = false) (uncategorised : categoryOf message [] = none)
    (own : isOwnMessage message = true) :
    userVisibleErrorMessage toUpperCase (.thrown message none) .mail none = message := by
  have raw : rawErrorMessage (.thrown message none) = message := by
    rw [rawErrorMessage, withoutInvocation_of_start (own_starts own), kept]
  rw [shown_kept toUpperCase raw nonempty valid]
  exact mailFailureMessage_own uncategorised own

/-- What is shown of an error in mail is safe and stable exactly if the message is not a report of an invalid
expression and, where it is taken for one of the program's own, holds nothing sensitive. -/
theorem shown_safeAndStable (error : ErrorValue) :
    SafeAndStable toUpperCase (userVisibleErrorMessage toUpperCase error .mail none) ↔
      rawErrorMessage error = [] ∨ begins invalidExpression (rawErrorMessage error) = false ∧
        (rawErrorMessage error ∉ publicMailMessages →
          categoryOf (rawErrorMessage error) (errorCode toUpperCase error) = none →
          isOwnMessage (rawErrorMessage error) = true →
          containsSensitiveImplementationDetail (rawErrorMessage error) = false) := by
  have raw : cleaned (rawErrorMessage error) = rawErrorMessage error := by
    cases error with
    | nothing => rfl
    | thrown text code => exact cleaned_cleaned _
  by_cases nonempty : rawErrorMessage error = []
  · have fallback : userVisibleErrorMessage toUpperCase error .mail none = mailFallback := by
      simp [userVisibleErrorMessage, nonempty, UserVisibleErrorContext.fallback]
    rw [fallback]
    exact iff_of_true (public_safeAndStable toUpperCase (mem_public .fallback)) (Or.inl nonempty)
  cases valid : begins invalidExpression (rawErrorMessage error) with
  | true =>
    have search : userVisibleErrorMessage toUpperCase error .mail none = searchFallback := by
      simp [userVisibleErrorMessage, nonempty, valid]
    rw [search]
    exact iff_of_false (searchFallback_changes toUpperCase) (by simp [nonempty])
  | false =>
    rw [shown_mail toUpperCase nonempty valid]
    generalize errorCode toUpperCase error = code
    generalize rawErrorMessage error = message at *
    rcases mailFailureMessage_cases message code with inPublic | ⟨same, uncategorised, own⟩
    · refine iff_of_true (public_safeAndStable toUpperCase inPublic) (Or.inr ⟨rfl, fun other uncategorised own => ?_⟩)
      rw [mailFailureMessage_own uncategorised own] at inPublic
      exact absurd inPublic other
    · have stable := own_stable toUpperCase raw nonempty valid (categoryOf_nil uncategorised) own
      rw [same]
      constructor
      · exact fun safe => Or.inr ⟨rfl, fun _ _ _ => safe.1⟩
      · rintro (empty | ⟨-, clean⟩)
        · exact absurd empty nonempty
        · by_cases member : message ∈ publicMailMessages
          · exact public_safeAndStable toUpperCase member
          · exact ⟨clean member uncategorised own, stable⟩

/-- A message about a move, with an address behind it, is shown with the address. -/
theorem movedAddress_shown :
    ¬∀ (toUpperCase : JsString → JsString) (error : ErrorValue),
      SafeAndStable toUpperCase (userVisibleErrorMessage toUpperCase error .mail none) := by
  intro safe
  have clean := (safe id (.thrown (ofString "The mail server did not confirm the move ws://x") none)).1
  have shown : userVisibleErrorMessage id (.thrown (ofString "The mail server did not confirm the move ws://x") none)
      .mail none = ofString "The mail server did not confirm the move ws://x" := by
    rw [ofString_ofList]
    rw [shown_mail id (by decide) (by decide)]
    exact mailFailureMessage_own (by decide) (by decide)
  rw [shown, ofString_ofList] at clean
  exact absurd clean (by decide +kernel)

end Rerendering

end UserVisibleError
