import MaterialEmail.Library.Fallible
import MaterialEmail.Library.Json
import MaterialEmail.Library.Utf8
import Mathlib.Data.List.DropRight
import Mathlib.Data.List.Forall2
import Mathlib.Data.List.Infix

/-! The preview of a revision: the text that `git diff` prints, cut where it is too long, in lines from which the values
of credentials are left out. -/
namespace HistoryRepository

open JsString Utf8

def previewByteLimit : Nat := 2 * 1024 * 1024
def previewLineLimit : Nat := 400

section Model

inductive DiffLineKind where
  | metadata
  | hunk
  | added
  | removed
  | context
  deriving DecidableEq

structure LocalRevisionDiffLine where
  kind : DiffLineKind
  text : JsString
  deriving DecidableEq

/-- What `JSON.parse` throws. -/
inductive SyntaxError where
  | unexpected

def encryptedSecret : JsString := ofString "\"encryptedSecret\""
def lastError : JsString := ofString "\"lastError\""
def syncError : JsString := ofString "\"syncError\""

/-- `/key\s*:/u.test(text)`. -/
def mentions (key text : JsString) : Bool :=
  text.tails.any fun tail => key.isPrefixOf tail && ((tail.drop key.length).dropWhile isWhiteSpace).head? = some 58

/-- `/,?\s*$/u` from the start of a text. -/
def isLineEnd : JsString → Bool
  | 44 :: rest => rest.all isWhiteSpace
  | text => text.all isWhiteSpace

/-- What `.` does not stand for. -/
def isLineTerminator (unit : UInt16) : Bool := unit = 10 || unit = 13 || unit = 0x2028 || unit = 0x2029

/-- `text.replace(/(:\s*)value/u, …)`: `replacement` has what replaces a match of `value`, if there is one. -/
def replaceValue (replacement : JsString → Option (Except SyntaxError JsString)) : JsString → Except SyntaxError JsString
  | [] => .ok []
  | unit :: rest =>
    match if unit = 58 then replacement (rest.dropWhile isWhiteSpace) else none with
    | some replaced => replaced.map fun text => 58 :: rest.takeWhile isWhiteSpace ++ text
    | none => (replaceValue replacement rest).map (unit :: ·)

/-- `/".*"(,?\s*)$/u`; only the last quotation mark can be the second. -/
def omitValue : JsString → Option (Except SyntaxError JsString)
  | 34 :: body =>
    let quoted := body.rdropWhile (· ≠ 34)
    let suffix := body.rtakeWhile (· ≠ 34)
    if quoted ≠ [] ∧ quoted.dropLast.all (fun unit => !isLineTerminator unit) ∧ isLineEnd suffix then
      some (.ok (ofString "\"[encrypted value omitted]\"" ++ suffix))
    else none
  | _ => none

/-- `(?:\\.|[^"\\])*"`, and what follows it. -/
def scanString : JsString → Option (JsString × JsString)
  | [] => none
  | 34 :: rest => some ([34], rest)
  | [92] => none
  | 92 :: unit :: rest =>
    if isLineTerminator unit then none
    else (scanString rest).map fun scanned => (92 :: unit :: scanned.1, scanned.2)
  | unit :: rest => (scanString rest).map fun scanned => (unit :: scanned.1, scanned.2)

variable (userVisibleErrorMessage : JsString → JsString)

/-- `/("(?:\\.|[^"\\])*")(,?\s*)$/u`, and the text of the error as users may see it. -/
def visibleError : JsString → Option (Except SyntaxError JsString)
  | 34 :: body =>
    match scanString body with
    | none => none
    | some (encoded, suffix) =>
      if isLineEnd suffix then
        match Json.readString encoded with
        | some (raw, []) => some (.ok (Json.quoted (userVisibleErrorMessage raw) ++ suffix))
        | _ => some (.error .unexpected)
      else none
  | _ => none

def diffKind (rawLine : JsString) : DiffLineKind × JsString :=
  if (ofString "diff --git ").isPrefixOf rawLine || (ofString "index ").isPrefixOf rawLine ||
      (ofString "--- ").isPrefixOf rawLine || (ofString "+++ ").isPrefixOf rawLine then (.metadata, rawLine)
  else if (ofString "@@").isPrefixOf rawLine then (.hunk, rawLine)
  else if (ofString "+").isPrefixOf rawLine then (.added, rawLine.drop 1)
  else if (ofString "-").isPrefixOf rawLine then (.removed, rawLine.drop 1)
  else if (ofString " ").isPrefixOf rawLine then (.context, rawLine.drop 1)
  else (.context, rawLine)

def diffLine (rawLine : JsString) : Except SyntaxError LocalRevisionDiffLine :=
  let (kind, text) := diffKind rawLine
  if mentions encryptedSecret text then (replaceValue omitValue text).map fun text => ⟨kind, text⟩
  else if mentions lastError text || mentions syncError text then
    (replaceValue (visibleError userVisibleErrorMessage) text).map fun text => ⟨kind, text⟩
  else .ok ⟨kind, text⟩

structure GitPreview where
  output : JsString
  truncated : Bool

/-- What `execFile` keeps of the pieces in which the output arrives: of the one in which more than `maxBuffer` bytes have
arrived, as many units as bytes are left. -/
def gitPreview (maxBuffer : Nat) : List JsString → GitPreview
  | [] => ⟨[], false⟩
  | chunk :: chunks =>
    if maxBuffer < (utf8Bytes chunk).length then ⟨chunk.take maxBuffer, true⟩
    else
      let rest := gitPreview (maxBuffer - (utf8Bytes chunk).length) chunks
      ⟨chunk ++ rest.output, rest.truncated⟩

/-- `replaceAll("\r\n", "\n")`. -/
def replaceCrLf : JsString → JsString
  | [] => []
  | 13 :: 10 :: rest => 10 :: replaceCrLf rest
  | unit :: rest => unit :: replaceCrLf rest

/-- `LocalRevisionDiff` without the revisions. -/
structure LocalRevisionDiff where
  lines : List LocalRevisionDiffLine
  truncated : Bool

/-- `diff`, from the output of git on. -/
def diff (chunks : List JsString) : Except SyntaxError LocalRevisionDiff := do
  let preview := gitPreview previewByteLimit chunks
  let allLines := (replaceCrLf preview.output).splitOn 10
  let lines ← (allLines.take previewLineLimit).mapM (diffLine userVisibleErrorMessage)
  return ⟨lines, preview.truncated || previewLineLimit < allLines.length⟩

end Model

section Text

/-- The end of a line without the carriage return. -/
def stripCr (line : JsString) : JsString := if line.getLast? = some 13 then line.dropLast else line

theorem replaceCrLf_cons {unit : UInt16} {rest : JsString} (plain : ¬ (unit = 13 ∧ rest.head? = some 10)) :
    replaceCrLf (unit :: rest) = unit :: replaceCrLf rest := by
  rw [replaceCrLf.eq_def]
  split
  · contradiction
  · rename_i is
    obtain ⟨rfl, rfl⟩ := List.cons.inj is
    exact absurd ⟨rfl, rfl⟩ plain
  · rename_i is
    obtain ⟨rfl, rfl⟩ := List.cons.inj is
    rfl

theorem replaceCrLf_line {line : JsString} (single : 10 ∉ line) : replaceCrLf line = line := by
  induction line with
  | nil => rfl
  | cons unit rest ih =>
    rw [List.mem_cons, not_or] at single
    rw [replaceCrLf_cons, ih single.2]
    rintro ⟨-, first⟩
    exact single.2 (List.mem_of_mem_head? first)

theorem replaceCrLf_append {line : JsString} (single : 10 ∉ line) (rest : JsString) :
    replaceCrLf (line ++ 10 :: rest) = stripCr line ++ 10 :: replaceCrLf rest := by
  induction line with
  | nil => rfl
  | cons unit line ih =>
    rw [List.mem_cons, not_or] at single
    by_cases last : line = []
    · subst last
      by_cases return_ : unit = 13
      · subst return_
        rfl
      · rw [List.cons_append, replaceCrLf_cons (fun both => return_ both.1), ih single.2]
        simp [stripCr, return_]
    · have plain : ¬ (unit = 13 ∧ (line ++ 10 :: rest).head? = some 10) := by
        rintro ⟨-, first⟩
        rw [List.head?_append_of_ne_nil _ last] at first
        exact single.2 (List.mem_of_mem_head? first)
      rw [List.cons_append, replaceCrLf_cons plain, ih single.2]
      unfold stripCr
      rw [List.getLast?_cons_of_ne_nil last]
      split
      · rw [List.dropLast_cons_of_ne_nil last]
        rfl
      · rfl

def cutLines (kept : Nat) : List JsString → List JsString
  | [] => [[]]
  | [line] => [line.take kept]
  | line :: next :: rest =>
    if kept ≤ line.length then [line.take kept] else stripCr line :: cutLines (kept - line.length - 1) (next :: rest)

theorem not_mem_stripCr {line : JsString} (single : 10 ∉ line) : 10 ∉ stripCr line := by
  unfold stripCr
  split
  · exact fun member => single ((List.dropLast_sublist line).subset member)
  · exact single

theorem splitOn_take {line : JsString} (single : 10 ∉ line) (kept : Nat) :
    (replaceCrLf (line.take kept)).splitOn 10 = [line.take kept] := by
  have within : 10 ∉ line.take kept := fun member => single (List.mem_of_mem_take member)
  rw [replaceCrLf_line within, List.splitOn_eq_singleton within]

theorem splitOn_cut {lines : List JsString} (single : ∀ line ∈ lines, 10 ∉ line) (kept : Nat) :
    (replaceCrLf ((List.intercalate [10] lines).take kept)).splitOn 10 = cutLines kept lines := by
  induction lines generalizing kept with
  | nil => simp [cutLines, replaceCrLf]
  | cons line rest ih =>
    have first := single line List.mem_cons_self
    cases rest with
    | nil =>
      rw [List.intercalate_singleton]
      exact splitOn_take first kept
    | cons next rest =>
      rw [List.intercalate_cons_cons, List.append_assoc, cutLines]
      split
      · rename_i short
        rw [List.take_append_of_le_length short]
        exact splitOn_take first kept
      · rename_i long
        obtain ⟨more, rfl⟩ : ∃ more, kept = line.length + (more + 1) := ⟨kept - line.length - 1, by omega⟩
        rw [List.take_length_add_append, List.singleton_append, List.take_succ_cons, replaceCrLf_append first,
          List.splitOn_append_cons_self_of_not_mem (not_mem_stripCr first),
          ih (fun line member => single line (List.mem_cons_of_mem _ member)), Nat.add_sub_cancel_left,
          Nat.add_sub_cancel]

end Text

section Secrets

/-- `[A-Za-z0-9+/]`. -/
def isBase64Unit (unit : UInt16) : Bool := isAlphanumeric unit || unit = 43 || unit = 47

def isBase64 (text : JsString) : Bool :=
  let digits := text.rdropWhile (· = 61)
  digits.all isBase64Unit && text.length ≤ digits.length + 2 && text.length % 4 = 0

abbrev Base64 := { text : JsString // isBase64 text = true }

inductive Marker where
  | added
  | removed
  | context

def Marker.unit : Marker → UInt16
  | .added => 43
  | .removed => 45
  | .context => 32

def Marker.kind : Marker → DiffLineKind
  | .added => .added
  | .removed => .removed
  | .context => .context

/-- A line of a diff of a state: one with the value of a credential, or any other. -/
inductive RawLine where
  | plain (text : { text : JsString // 10 ∉ text })
  | secret (marker : Marker) (indent : Nat) (value : Base64) (comma : Bool)

/-- What stands between the marker and the value. -/
def secretLead (indent : Nat) : JsString := List.replicate indent 32 ++ (encryptedSecret ++ [58, 32, 34])

def secretEnd (comma : Bool) : JsString := if comma then [44] else []

def RawLine.text : RawLine → JsString
  | .plain text => text.val
  | .secret marker indent value comma => marker.unit :: (secretLead indent ++ (value.val ++ 34 :: secretEnd comma))

def RawLine.size (line : RawLine) : Nat := line.text.length + 1

/-- The other texts that the values of credentials may be replaced by. -/
inductive RawLine.Replaces : RawLine → RawLine → Prop where
  | plain (text : { text : JsString // 10 ∉ text }) : Replaces (.plain text) (.plain text)
  | secret (marker : Marker) (indent : Nat) (value value' : Base64) (comma : Bool)
      (same : value'.val.length = value.val.length) :
      Replaces (.secret marker indent value comma) (.secret marker indent value' comma)

def rawText (lines : List RawLine) : JsString := List.intercalate [10] (lines.map RawLine.text)

/-- How much of a text arrives before the limit is exceeded. -/
def keptUnits (limit : Nat) : List JsString → Nat
  | [] => 0
  | chunk :: chunks =>
    if limit < (utf8Bytes chunk).length then min limit chunk.length
    else chunk.length + keptUnits (limit - (utf8Bytes chunk).length) chunks

/-- The pieces in which a text arrives. -/
def chunked : List Nat → JsString → List JsString
  | [], text => [text]
  | size :: sizes, text => text.take size :: chunked sizes (text.drop size)

/-- The text ends inside the value of a credential: behind its first unit, and before the quotation mark. -/
def RawLine.SplitsAt (kept : Nat) : RawLine → Prop
  | .plain _ => False
  | .secret _ indent value _ =>
    1 + (secretLead indent).length < kept ∧ kept ≤ 1 + (secretLead indent).length + value.val.length

/-- So does the text of a diff, on one of the lines that are shown. -/
def SplitsSecret (shown kept : Nat) (lines : List RawLine) : Prop :=
  ∃ front line back, lines = front ++ line :: back ∧ front.length < shown ∧
    line.SplitsAt (kept - (front.map RawLine.size).sum)

theorem splitsSecret_cons {shown kept : Nat} {line : RawLine} {rest : List RawLine} :
    SplitsSecret (shown + 1) kept (line :: rest) ↔
      line.SplitsAt kept ∨ SplitsSecret shown (kept - line.text.length - 1) rest := by
  constructor
  · rintro ⟨front, line', back, is, early, splits⟩
    cases front with
    | nil =>
      obtain ⟨rfl, rfl⟩ := List.cons.inj is
      exact Or.inl splits
    | cons first front =>
      obtain ⟨rfl, rfl⟩ := List.cons.inj is
      refine Or.inr ⟨front, line', back, rfl, Nat.lt_of_succ_lt_succ early, ?_⟩
      rw [Nat.sub_sub, Nat.sub_sub]
      simpa [RawLine.size, Nat.add_assoc] using splits
  · rintro (splits | ⟨front, line', back, rfl, early, splits⟩)
    · exact ⟨[], line, rest, rfl, Nat.succ_pos _, splits⟩
    · refine ⟨line :: front, line', back, rfl, Nat.succ_lt_succ early, ?_⟩
      rw [Nat.sub_sub, Nat.sub_sub] at splits
      simpa [RawLine.size, Nat.add_assoc] using splits

end Secrets

section Values

theorem base64_units {text : JsString} (canonical : isBase64 text = true) {unit : UInt16} (member : unit ∈ text) :
    unit ≠ 34 ∧ unit ≠ 58 ∧ unit < 128 ∧ isLineTerminator unit = false := by
  have named : isBase64Unit unit = true ∨ unit = 61 := by
    simp only [isBase64, Bool.and_eq_true] at canonical
    have whole : text.rdropWhile (· = 61) ++ text.rtakeWhile (· = 61) = text := List.rdropWhile_append_rtakeWhile
    rw [← whole, List.mem_append] at member
    rcases member with digit | padding
    · exact Or.inl (List.all_eq_true.1 canonical.1.1 unit digit)
    · have padded := List.mem_rtakeWhile_imp padding
      exact Or.inr (by simpa using padded)
  rcases named with digit | rfl
  · simp only [isBase64Unit, isAlphanumeric, isLetter, Bool.or_eq_true, Bool.and_eq_true, decide_eq_true_eq,
      UInt16.le_iff_toNat_le, ← UInt16.toNat_inj, UInt16.reduceToNat] at digit
    simp only [isLineTerminator, Bool.or_eq_false_iff, decide_eq_false_iff_not, ne_eq, UInt16.lt_iff_toNat_lt,
      ← UInt16.toNat_inj, UInt16.reduceToNat]
    omega
  · decide

theorem replaceValue_append {replacement : JsString → Option (Except SyntaxError JsString)} {front : JsString}
    (plain : 58 ∉ front) (rest : JsString) :
    replaceValue replacement (front ++ rest) = (replaceValue replacement rest).map (front ++ ·) := by
  induction front with
  | nil => cases h : replaceValue replacement rest <;> simp [Except.map, h]
  | cons unit front ih =>
    rw [List.mem_cons, not_or] at plain
    rw [List.cons_append, replaceValue, if_neg fun is => plain.1 is.symm, ih plain.2]
    cases replaceValue replacement rest <;> rfl

theorem replaceValue_plain {replacement : JsString → Option (Except SyntaxError JsString)} {text : JsString}
    (plain : 58 ∉ text) : replaceValue replacement text = .ok text := by
  have whole : replaceValue replacement (text ++ []) = (replaceValue replacement []).map (text ++ ·) :=
    replaceValue_append plain []
  rw [List.append_nil] at whole
  rw [whole, replaceValue]
  simp [Except.map]

theorem rdropWhile_mark (front : JsString) {tail : JsString} (unmarked : ∀ unit ∈ tail, unit ≠ 34) :
    (front ++ 34 :: tail).rdropWhile (· ≠ 34) = front ++ [34] := by
  have before : ∀ unit ∈ tail.reverse, decide (unit ≠ 34) = true := by
    simpa using unmarked
  rw [List.rdropWhile, List.reverse_append, List.reverse_cons, List.append_assoc, List.dropWhile_append_of_pos before,
    List.singleton_append, List.dropWhile_cons_of_neg (by decide), List.reverse_cons, List.reverse_reverse]

theorem rtakeWhile_mark (front : JsString) {tail : JsString} (unmarked : ∀ unit ∈ tail, unit ≠ 34) :
    (front ++ 34 :: tail).rtakeWhile (· ≠ 34) = tail := by
  have before : ∀ unit ∈ tail.reverse, decide (unit ≠ 34) = true := by
    simpa using unmarked
  rw [List.rtakeWhile, List.reverse_append, List.reverse_cons, List.append_assoc, List.takeWhile_append_of_pos before,
    List.singleton_append, List.takeWhile_cons_of_neg (by decide), List.append_nil, List.reverse_reverse]

theorem omitValue_quoted {value : JsString} (canonical : isBase64 value = true) (comma : Bool) :
    omitValue (34 :: (value ++ 34 :: secretEnd comma)) =
      some (.ok (ofString "\"[encrypted value omitted]\"" ++ secretEnd comma)) := by
  have tail : ∀ unit ∈ secretEnd comma, unit ≠ 34 := by
    cases comma <;> decide
  have quoted := rdropWhile_mark value tail
  have suffix := rtakeWhile_mark value tail
  have single : value.all (fun unit => !isLineTerminator unit) = true := by
    rw [List.all_eq_true]
    intro unit member
    rw [(base64_units canonical member).2.2.2]
    rfl
  have ends : isLineEnd (secretEnd comma) = true := by
    cases comma <;> rfl
  rw [omitValue]
  simp only [quoted, suffix, List.dropLast_concat, single, ends]
  simp

theorem omitValue_open {part : JsString} (open_ : 34 ∉ part) : omitValue (34 :: part) = none := by
  have quoted : part.rdropWhile (· ≠ 34) = [] := by
    rw [List.rdropWhile_eq_nil_iff]
    intro unit member
    exact decide_eq_true fun is => open_ (is ▸ member)
  rw [omitValue]
  simp only [quoted]
  simp

theorem secretLead_eq (indent : Nat) :
    secretLead indent = (List.replicate indent 32 ++ encryptedSecret) ++ [58, 32, 34] := by
  rw [secretLead, List.append_assoc]

theorem colon_not_mem (indent : Nat) : 58 ∉ List.replicate indent 32 ++ encryptedSecret := by
  rw [List.mem_append, not_or]
  refine ⟨fun member => ?_, by decide⟩
  exact absurd (List.eq_of_mem_replicate member) (by decide)

theorem mentions_secret (indent : Nat) (rest : JsString) :
    mentions encryptedSecret (secretLead indent ++ rest) = true := by
  rw [mentions, List.any_eq_true]
  refine ⟨encryptedSecret ++ (58 :: 32 :: 34 :: rest), ?_, ?_⟩
  · rw [List.mem_tails]
    refine ⟨List.replicate indent 32, ?_⟩
    simp [secretLead]
  · rw [List.drop_left]
    simp [List.isPrefixOf_iff_prefix, isWhiteSpace]

theorem diffKind_secret (marker : Marker) (indent : Nat) (rest : JsString) :
    diffKind (marker.unit :: (secretLead indent ++ rest)) = (marker.kind, secretLead indent ++ rest) := by
  cases indent <;> cases marker <;> rfl

variable {userVisibleErrorMessage : JsString → JsString}

theorem diffLine_secret (marker : Marker) (indent : Nat) (rest : JsString) :
    diffLine userVisibleErrorMessage (marker.unit :: (secretLead indent ++ rest)) =
      (replaceValue omitValue (secretLead indent ++ rest)).map fun text => ⟨marker.kind, text⟩ := by
  unfold diffLine
  rw [diffKind_secret]
  simp only [mentions_secret, if_true]

theorem diffLine_closed (marker : Marker) (indent : Nat) {value : JsString} (canonical : isBase64 value = true)
    (comma : Bool) :
    diffLine userVisibleErrorMessage (marker.unit :: (secretLead indent ++ (value ++ 34 :: secretEnd comma))) =
      .ok ⟨marker.kind, (List.replicate indent 32 ++ encryptedSecret) ++
        58 :: 32 :: (ofString "\"[encrypted value omitted]\"" ++ secretEnd comma)⟩ := by
  rw [diffLine_secret, secretLead_eq, List.append_assoc, replaceValue_append (colon_not_mem indent)]
  have space : (32 :: 34 :: (value ++ 34 :: secretEnd comma) : JsString).dropWhile isWhiteSpace =
      34 :: (value ++ 34 :: secretEnd comma) := rfl
  rw [List.cons_append, replaceValue, if_pos rfl, List.cons_append, List.cons_append, List.nil_append, space,
    omitValue_quoted canonical]
  rfl

theorem diffLine_open (marker : Marker) (indent : Nat) {part : JsString} (open_ : 34 ∉ part) (plain : 58 ∉ part) :
    diffLine userVisibleErrorMessage (marker.unit :: (secretLead indent ++ part)) =
      .ok ⟨marker.kind, secretLead indent ++ part⟩ := by
  rw [diffLine_secret, secretLead_eq, List.append_assoc, replaceValue_append (colon_not_mem indent)]
  have space : (32 :: 34 :: part : JsString).dropWhile isWhiteSpace = 34 :: part := rfl
  have rest : 58 ∉ (32 :: 34 :: part : JsString) := by
    simpa using plain
  rw [List.cons_append, replaceValue, if_pos rfl, List.cons_append, List.cons_append, List.nil_append, space,
    omitValue_open open_, replaceValue_plain rest]
  rfl

end Values

section Cuts

variable {userVisibleErrorMessage : JsString → JsString} {kept shown : Nat}

theorem take_secretEnd (comma : Bool) (more : Nat) :
    (secretEnd comma).take more = secretEnd (comma && decide (more ≠ 0)) := by
  cases comma <;> cases more <;> simp [secretEnd]

theorem take_closed (marker : Marker) (indent : Nat) (value : Base64) (comma : Bool) (more : Nat) :
    (RawLine.secret marker indent value comma).text.take (1 + (secretLead indent).length + value.val.length + 1 + more) =
      marker.unit :: (secretLead indent ++ (value.val ++ 34 :: secretEnd (comma && decide (more ≠ 0)))) := by
  have count : 1 + (secretLead indent).length + value.val.length + 1 + more =
      (secretLead indent).length + (value.val.length + (more + 1)) + 1 := by omega
  rw [RawLine.text, count, List.take_succ_cons, List.take_length_add_append, List.take_length_add_append,
    List.take_succ_cons, take_secretEnd]

theorem take_open (marker : Marker) (indent : Nat) (value : Base64) (comma : Bool) {count : Nat}
    (short : count ≤ value.val.length) :
    (RawLine.secret marker indent value comma).text.take (1 + (secretLead indent).length + count) =
      marker.unit :: (secretLead indent ++ value.val.take count) := by
  rw [RawLine.text, Nat.add_assoc, Nat.add_comm 1, List.take_succ_cons, List.take_length_add_append,
    List.take_append_of_le_length short]

theorem length_secret (marker : Marker) (indent : Nat) (value : Base64) (comma : Bool) :
    (RawLine.secret marker indent value comma).text.length =
      1 + (secretLead indent).length + value.val.length + 1 + (secretEnd comma).length := by
  simp only [RawLine.text, List.length_cons, List.length_append]
  omega

theorem RawLine.Replaces.refl (line : RawLine) : line.Replaces line := by
  cases line with
  | plain text => exact .plain text
  | secret marker indent value comma => exact .secret marker indent value value comma rfl

theorem RawLine.Replaces.length {line line' : RawLine} (replaces : line.Replaces line') :
    line'.text.length = line.text.length := by
  cases replaces with
  | plain text => rfl
  | secret marker indent value value' comma same => rw [length_secret, length_secret, same]

theorem diffLine_take {line line' : RawLine} (replaces : line.Replaces line') (whole : ¬ line.SplitsAt kept) :
    diffLine userVisibleErrorMessage (line'.text.take kept) = diffLine userVisibleErrorMessage (line.text.take kept) := by
  cases replaces with
  | plain text => rfl
  | secret marker indent value value' comma same =>
    by_cases early : kept ≤ 1 + (secretLead indent).length
    · have before : ∀ value : Base64, (RawLine.secret marker indent value comma).text.take kept =
          (marker.unit :: secretLead indent).take kept := by
        intro value
        have length : (marker.unit :: secretLead indent).length = 1 + (secretLead indent).length := by
          rw [List.length_cons, Nat.add_comm]
        rw [RawLine.text, ← List.cons_append, List.take_append_of_le_length (length ▸ early)]
      rw [before, before]
    · obtain ⟨more, rfl⟩ : ∃ more, kept = 1 + (secretLead indent).length + value.val.length + 1 + more := by
        have late : ¬ kept ≤ 1 + (secretLead indent).length + value.val.length := fun short =>
          whole ⟨Nat.not_le.1 early, short⟩
        exact ⟨kept - (1 + (secretLead indent).length + value.val.length + 1), by omega⟩
      rw [take_closed, diffLine_closed _ _ value.property, ← same, take_closed, diffLine_closed _ _ value'.property]

theorem diffLine_part (marker : Marker) (indent : Nat) (value : Base64) (count : Nat) :
    diffLine userVisibleErrorMessage (marker.unit :: (secretLead indent ++ value.val.take count)) =
      .ok ⟨marker.kind, secretLead indent ++ value.val.take count⟩ := by
  have units : ∀ unit ∈ value.val.take count, unit ≠ 34 ∧ unit ≠ 58 := by
    intro unit member
    obtain ⟨unmarked, plain, -⟩ := base64_units value.property (List.mem_of_mem_take member)
    exact ⟨unmarked, plain⟩
  exact diffLine_open _ _ (fun member => (units 34 member).1 rfl) fun member => (units 58 member).2 rfl

theorem stripCr_secret (marker : Marker) (indent : Nat) (value : Base64) (comma : Bool) :
    stripCr (RawLine.secret marker indent value comma).text = (RawLine.secret marker indent value comma).text := by
  have last : (RawLine.secret marker indent value comma).text.getLast? ≠ some 13 := by
    cases comma <;> simp [RawLine.text, secretEnd, List.getLast?_cons, List.getLast?_append]
  rw [stripCr, if_neg last]

theorem diffLine_stripCr {line line' : RawLine} (replaces : line.Replaces line') :
    diffLine userVisibleErrorMessage (stripCr line'.text) = diffLine userVisibleErrorMessage (stripCr line.text) := by
  cases replaces with
  | plain text => rfl
  | secret marker indent value value' comma same =>
    rw [stripCr_secret, stripCr_secret]
    show diffLine _ (marker.unit :: _) = diffLine _ (marker.unit :: _)
    rw [diffLine_closed _ _ value.property, diffLine_closed _ _ value'.property]

def shownLines (shown kept : Nat) (lines : List RawLine) : List JsString :=
  (cutLines kept (lines.map RawLine.text)).take shown

theorem shownLines_last (line : RawLine) {rest : List RawLine} (short : kept ≤ line.text.length) :
    shownLines (shown + 1) kept (line :: rest) = [line.text.take kept] := by
  cases rest with
  | nil => simp [shownLines, cutLines]
  | cons next rest => simp [shownLines, cutLines, short]

theorem shownLines_cons (line next : RawLine) {rest : List RawLine} (long : line.text.length < kept) :
    shownLines (shown + 1) kept (line :: next :: rest) =
      stripCr line.text :: shownLines shown (kept - line.text.length - 1) (next :: rest) := by
  simp [shownLines, cutLines, Nat.not_le.2 long]

theorem RawLine.SplitsAt.le_length {line : RawLine} (splits : line.SplitsAt kept) : kept ≤ line.text.length := by
  cases line with
  | plain text => exact splits.elim
  | secret marker indent value comma =>
    rw [length_secret]
    exact Nat.le_trans splits.2 (by omega)

theorem exists_diffLine_take {line : RawLine} (splits : line.SplitsAt kept) :
    ∃ shown, diffLine userVisibleErrorMessage (line.text.take kept) = .ok shown := by
  cases line with
  | plain text => exact splits.elim
  | secret marker indent value comma =>
    obtain ⟨late, early⟩ := splits
    obtain ⟨count, rfl⟩ : ∃ count, kept = 1 + (secretLead indent).length + count :=
      ⟨kept - (1 + (secretLead indent).length), by omega⟩
    rw [take_open _ _ _ _ (by omega), diffLine_part]
    exact ⟨_, rfl⟩

/-- Line by line two diffs look the same, but for the one that is cut inside its value. -/
theorem shownLines_pairs {lines lines' : List RawLine} (replaced : List.Forall₂ RawLine.Replaces lines lines') :
    List.Forall₂ (fun one other => diffLine userVisibleErrorMessage other = diffLine userVisibleErrorMessage one ∨
        SplitsSecret shown kept lines ∧ ∃ line, diffLine userVisibleErrorMessage one = .ok line)
      (shownLines shown kept lines) (shownLines shown kept lines') := by
  induction replaced generalizing shown kept with
  | nil => exact List.forall₂_same.2 fun line _ => Or.inl rfl
  | @cons line line' rest rest' replaces others ih =>
    cases shown with
    | zero => exact .nil
    | succ shown =>
      have cut : diffLine userVisibleErrorMessage (line'.text.take kept) =
            diffLine userVisibleErrorMessage (line.text.take kept) ∨
          SplitsSecret (shown + 1) kept (line :: rest) ∧
            ∃ shown, diffLine userVisibleErrorMessage (line.text.take kept) = .ok shown := by
        by_cases splits : line.SplitsAt kept
        · exact Or.inr ⟨splitsSecret_cons.2 (Or.inl splits), exists_diffLine_take splits⟩
        · exact Or.inl (diffLine_take replaces splits)
      by_cases short : kept ≤ line.text.length
      · rw [shownLines_last line short, shownLines_last line' (replaces.length ▸ short)]
        exact .cons cut .nil
      · have long := Nat.not_le.1 short
        cases others with
        | nil =>
          simp only [shownLines, cutLines, List.map_cons, List.map_nil, List.take_succ_cons, List.take_nil]
          exact .cons cut .nil
        | cons second third =>
          rw [shownLines_cons line _ long, shownLines_cons line' _ (replaces.length ▸ long), replaces.length]
          refine .cons (Or.inl (diffLine_stripCr replaces)) (ih.imp fun one other is => ?_)
          exact is.imp_right fun both => ⟨splitsSecret_cons.2 (Or.inr both.1), both.2⟩

def Differ (userVisibleErrorMessage : JsString → JsString) (lines lines' : List JsString) : Prop :=
  ∃ front line line' back back', lines = front ++ line :: back ∧ lines' = front ++ line' :: back' ∧
    diffLine userVisibleErrorMessage line ≠ diffLine userVisibleErrorMessage line'

theorem Differ.cons {lines lines' : List JsString} (differ : Differ userVisibleErrorMessage lines lines')
    (line : JsString) : Differ userVisibleErrorMessage (line :: lines) (line :: lines') := by
  obtain ⟨front, one, other, back, back', rfl, rfl, unlike⟩ := differ
  exact ⟨line :: front, one, other, back, back', rfl, rfl, unlike⟩

theorem Differ.mapM_ne {lines lines' : List JsString} (differ : Differ userVisibleErrorMessage lines lines')
    {shown : List LocalRevisionDiffLine} (one : lines.mapM (diffLine userVisibleErrorMessage) = .ok shown)
    (other : lines'.mapM (diffLine userVisibleErrorMessage) = .ok shown) : False := by
  obtain ⟨front, line, line', back, back', rfl, rfl, unlike⟩ := differ
  have each := Fallible.mapM_eq_ok one
  have each' := Fallible.mapM_eq_ok other
  clear one other
  induction front generalizing shown with
  | nil =>
    cases each with
    | cons is _ =>
      cases each' with
      | cons is' _ => exact unlike (is.trans is'.symm)
  | cons first front ih =>
    cases each with
    | cons _ rest =>
      cases each' with
      | cons _ rest' => exact ih rest rest'

theorem rdropWhile_cons {unit : UInt16} (digit : isBase64Unit unit = true) (rest : JsString) :
    (unit :: rest).rdropWhile (· = 61) = unit :: rest.rdropWhile (· = 61) := by
  have other : ¬ decide (unit = 61) = true := by
    intro is
    rw [of_decide_eq_true is] at digit
    exact absurd digit (by decide)
  rw [List.rdropWhile, List.rdropWhile, List.reverse_cons, List.dropWhile_append]
  split
  · rename_i empty
    rw [List.isEmpty_iff] at empty
    have single : ([unit] : JsString).dropWhile (· = 61) = [unit] := by
      rw [List.dropWhile_cons]
      exact if_neg other
    rw [single, empty]
    rfl
  · rw [List.reverse_append]
    rfl

theorem base64_head {unit : UInt16} {rest : JsString} (canonical : isBase64 (unit :: rest) = true) :
    isBase64Unit unit = true := by
  simp only [isBase64, Bool.and_eq_true, decide_eq_true_eq] at canonical
  obtain ⟨⟨digits, padding⟩, quads⟩ := canonical
  have cut : (unit :: rest).rdropWhile (· = 61) <+: unit :: rest := List.rdropWhile_prefix _ _
  cases is : (unit :: rest).rdropWhile (· = 61) with
  | nil =>
    rw [is] at padding
    simp only [List.length_cons, List.length_nil] at padding quads
    omega
  | cons first others =>
    rw [is] at cut digits
    rw [(List.cons_prefix_cons.1 cut).1] at digits
    exact List.all_eq_true.1 digits unit List.mem_cons_self

theorem exists_other_base64 {unit : UInt16} {rest : JsString} (canonical : isBase64 (unit :: rest) = true) :
    ∃ unit', unit ≠ unit' ∧ isBase64 (unit' :: rest) = true := by
  obtain ⟨unit', digit, unlike⟩ : ∃ unit', isBase64Unit unit' = true ∧ unit ≠ unit' := by
    by_cases is : unit = 65
    · exact ⟨66, by decide, is ▸ by decide⟩
    · exact ⟨65, by decide, is⟩
  refine ⟨unit', unlike, ?_⟩
  have first := base64_head canonical
  simp only [isBase64, rdropWhile_cons first, rdropWhile_cons digit, List.all_cons, first, digit,
    List.length_cons] at canonical ⊢
  exact canonical

theorem exists_leak_first {line : RawLine} (splits : line.SplitsAt kept) (rest : List RawLine) :
    ∃ line', line.Replaces line' ∧
      Differ userVisibleErrorMessage (shownLines (shown + 1) kept (line :: rest))
        (shownLines (shown + 1) kept (line' :: rest)) := by
  cases line with
  | plain text => exact splits.elim
  | secret marker indent value comma =>
    obtain ⟨late, early⟩ := splits
    obtain ⟨count, rfl⟩ : ∃ count, kept = 1 + (secretLead indent).length + (count + 1) :=
      ⟨kept - (1 + (secretLead indent).length) - 1, by omega⟩
    have short : count + 1 ≤ value.val.length := by omega
    have within : ∀ value : Base64, count + 1 ≤ value.val.length → shownLines (shown + 1)
        (1 + (secretLead indent).length + (count + 1)) (.secret marker indent value comma :: rest) =
          [marker.unit :: (secretLead indent ++ value.val.take (count + 1))] := by
      intro value short
      rw [shownLines_last, take_open _ _ _ _ short]
      rw [length_secret]
      omega
    obtain ⟨text, canonical⟩ := value
    cases text with
    | nil => exact absurd short (Nat.not_succ_le_zero _)
    | cons unit others =>
      obtain ⟨unit', unlike, canonical'⟩ := exists_other_base64 canonical
      refine ⟨.secret marker indent ⟨unit' :: others, canonical'⟩ comma, .secret _ _ _ _ _ rfl, ?_⟩
      refine ⟨[], _, _, [], [], within _ short, within ⟨unit' :: others, canonical'⟩ short, ?_⟩
      rw [diffLine_part, diffLine_part]
      intro same
      simp only [Except.ok.injEq, LocalRevisionDiffLine.mk.injEq, List.append_cancel_left_eq, List.take_succ_cons,
        List.cons.injEq] at same
      exact unlike same.2.1

theorem not_splitsAt_zero (line : RawLine) : ¬ line.SplitsAt 0 := by
  cases line <;> simp [RawLine.SplitsAt]

theorem exists_leak {lines : List RawLine} (splits : SplitsSecret shown kept lines) :
    ∃ lines', List.Forall₂ RawLine.Replaces lines lines' ∧
      Differ userVisibleErrorMessage (shownLines shown kept lines) (shownLines shown kept lines') := by
  induction lines generalizing shown kept with
  | nil =>
    obtain ⟨front, line, back, is, -⟩ := splits
    exact absurd is.symm (List.append_ne_nil_of_right_ne_nil _ (List.cons_ne_nil _ _))
  | cons line rest ih =>
    cases shown with
    | zero =>
      obtain ⟨_, _, _, _, early, -⟩ := splits
      exact absurd early (Nat.not_lt_zero _)
    | succ shown =>
      rcases splitsSecret_cons.1 splits with here | later
      · obtain ⟨line', replaces, differ⟩ := exists_leak_first here rest
        exact ⟨line' :: rest, .cons replaces (List.forall₂_same.2 fun line _ => .refl line), differ⟩
      · obtain ⟨rest', replaced, differ⟩ := ih later
        refine ⟨line :: rest', .cons (.refl line) replaced, ?_⟩
        have long : line.text.length < kept := by
          obtain ⟨_, line', _, _, _, splits⟩ := later
          refine Nat.not_le.1 fun short => ?_
          rw [Nat.sub_eq_zero_of_le short, Nat.zero_sub] at splits
          exact not_splitsAt_zero _ splits
        cases replaced with
        | nil => exact absurd later (by rintro ⟨front, _, _, is, -⟩; cases front <;> cases is)
        | cons one others =>
          rw [shownLines_cons line _ long, shownLines_cons line _ long]
          exact differ.cons _

end Cuts

section Preview

variable {userVisibleErrorMessage : JsString → JsString} {lines lines' : List RawLine} {limit : Nat} {sizes : List Nat}

theorem gitPreview_output (limit : Nat) (chunks : List JsString) :
    (gitPreview limit chunks).output = chunks.flatten.take (keptUnits limit chunks) := by
  induction chunks generalizing limit with
  | nil => rfl
  | cons chunk chunks ih =>
    rw [gitPreview, keptUnits, List.flatten_cons]
    split
    · rw [List.take_append_of_le_length (Nat.min_le_right _ _), ← List.take_take, List.take_length]
    · dsimp only
      rw [List.take_length_add_append, ih]

theorem flatten_chunked (sizes : List Nat) (text : JsString) : (chunked sizes text).flatten = text := by
  induction sizes generalizing text with
  | nil => simp [chunked]
  | cons size sizes ih => rw [chunked, List.flatten_cons, ih, List.take_append_drop]

/-- Where the output is cut does not depend on the units of one byte. -/
theorem keptUnits_alike {text text' : JsString} (alike : List.Forall₂ Alike text text') :
    keptUnits limit (chunked sizes text') = keptUnits limit (chunked sizes text) := by
  induction sizes generalizing text text' limit with
  | nil => simp only [chunked, keptUnits, length_utf8Bytes_alike alike, alike.length_eq]
  | cons size sizes ih =>
    have first := List.forall₂_take size alike
    simp only [chunked, keptUnits, length_utf8Bytes_alike first, ih (List.forall₂_drop size alike), first.length_eq]

theorem alike_refl (text : JsString) : List.Forall₂ Alike text text := List.forall₂_same.2 fun _ _ => Or.inl rfl

theorem RawLine.Replaces.alike {line line' : RawLine} (replaces : line.Replaces line') :
    List.Forall₂ Alike line.text line'.text := by
  cases replaces with
  | plain text => exact alike_refl _
  | secret marker indent value value' comma same =>
    have values : List.Forall₂ Alike value.val value'.val := by
      refine List.forall₂_iff_get.2 ⟨same.symm, fun i here there => Or.inr ⟨?_, ?_⟩⟩
      · exact (base64_units value.property (List.get_mem _ _)).2.2.1
      · exact (base64_units value'.property (List.get_mem _ _)).2.2.1
    exact .cons (Or.inl rfl) (List.rel_append (alike_refl _) (List.rel_append values (alike_refl _)))

theorem rawText_alike (replaced : List.Forall₂ RawLine.Replaces lines lines') :
    List.Forall₂ Alike (rawText lines) (rawText lines') := by
  unfold rawText
  induction replaced with
  | nil => exact .nil
  | cons replaces others ih =>
    cases others with
    | nil => simpa using replaces.alike
    | cons =>
      simp only [List.map_cons, List.intercalate_cons_cons, List.append_assoc] at ih ⊢
      exact List.rel_append replaces.alike (.cons (Or.inl rfl) ih)

theorem text_single (line : RawLine) : 10 ∉ line.text := by
  cases line with
  | plain text => exact text.property
  | secret marker indent value comma =>
    have value_ : 10 ∉ value.val := fun member => by
      have := (base64_units value.property member).2.2.2
      exact absurd this (by decide)
    have lead : 10 ∉ secretLead indent := by
      rw [secretLead, List.mem_append, not_or]
      exact ⟨fun member => absurd (List.eq_of_mem_replicate member) (by decide), by decide⟩
    simp only [RawLine.text, List.mem_cons, List.mem_append, not_or]
    refine ⟨by cases marker <;> decide, lead, value_, by decide, by cases comma <;> decide⟩

/-- The lines of a preview are those shown of the diff as far as it is kept. -/
theorem diff_lines (sizes : List Nat) (lines : List RawLine) :
    (diff userVisibleErrorMessage (chunked sizes (rawText lines))).map LocalRevisionDiff.lines =
      (shownLines previewLineLimit (keptUnits previewByteLimit (chunked sizes (rawText lines))) lines).mapM
        (diffLine userVisibleErrorMessage) := by
  have single : ∀ line ∈ lines.map RawLine.text, 10 ∉ line := by
    intro line member
    obtain ⟨raw, -, rfl⟩ := List.mem_map.1 member
    exact text_single raw
  unfold diff
  dsimp only
  rw [gitPreview_output, flatten_chunked]
  generalize keptUnits previewByteLimit (chunked sizes (rawText lines)) = kept
  rw [rawText, splitOn_cut single kept, ← shownLines]
  cases (shownLines previewLineLimit kept lines).mapM (diffLine userVisibleErrorMessage) <;> rfl

/-- `JSON.parse` refuses the text of an error on one of the lines that are shown. -/
def Refused (userVisibleErrorMessage : JsString → JsString) (kept : Nat) (lines : List RawLine) : Prop :=
  ∃ line ∈ shownLines previewLineLimit kept lines, ∃ error, diffLine userVisibleErrorMessage line = .error error

theorem mapM_eq_error {texts : List JsString} : texts.mapM (diffLine userVisibleErrorMessage) = .error .unexpected ↔
    ∃ line ∈ texts, ∃ error, diffLine userVisibleErrorMessage line = .error error := by
  induction texts with
  | nil => simp [pure, Except.pure]
  | cons line rest ih =>
    rw [List.mapM_cons]
    simp only [List.mem_cons, exists_eq_or_imp]
    cases is : diffLine userVisibleErrorMessage line with
    | error error =>
      cases error
      exact iff_of_true rfl (Or.inl ⟨_, rfl⟩)
    | ok shown =>
      rw [← ih]
      cases rest.mapM (diffLine userVisibleErrorMessage) with
      | error error => simp [bind, Except.bind]
      | ok others => simp [bind, Except.bind, pure, Except.pure]

theorem mapM_congr {texts texts' : List JsString} (same : List.Forall₂ (fun one other =>
      diffLine userVisibleErrorMessage other = diffLine userVisibleErrorMessage one) texts texts') :
    texts'.mapM (diffLine userVisibleErrorMessage) = texts.mapM (diffLine userVisibleErrorMessage) := by
  induction same with
  | nil => rfl
  | cons one _ ih => rw [List.mapM_cons, List.mapM_cons, one, ih]

/-- A line that is refused is refused whatever the values are. -/
theorem refused_pairs {texts texts' : List JsString} {split : Prop} (pairs : List.Forall₂ (fun one other =>
      diffLine userVisibleErrorMessage other = diffLine userVisibleErrorMessage one ∨
        split ∧ ∃ line, diffLine userVisibleErrorMessage one = .ok line) texts texts')
    (refused : ∃ line ∈ texts, ∃ error, diffLine userVisibleErrorMessage line = .error error) :
    ∃ line ∈ texts', ∃ error, diffLine userVisibleErrorMessage line = .error error := by
  induction pairs with
  | nil =>
    obtain ⟨_, member, _⟩ := refused
    cases member
  | cons pair _ ih =>
    simp only [List.mem_cons, exists_eq_or_imp] at refused ⊢
    rcases refused with ⟨error, is⟩ | later
    · rcases pair with same | ⟨-, line, ok⟩
      · exact Or.inl ⟨error, same.trans is⟩
      · cases ok.symm.trans is
    · exact Or.inr (ih later)

/-- The lines of a preview are the same for all values of credentials exactly if the output is not cut inside one of
them. -/
theorem diff_hides_secrets (sizes : List Nat) (lines : List RawLine) :
    (∀ lines', List.Forall₂ RawLine.Replaces lines lines' →
      (diff userVisibleErrorMessage (chunked sizes (rawText lines'))).map LocalRevisionDiff.lines =
        (diff userVisibleErrorMessage (chunked sizes (rawText lines))).map LocalRevisionDiff.lines) ↔
      ¬ SplitsSecret previewLineLimit (keptUnits previewByteLimit (chunked sizes (rawText lines))) lines ∨
        Refused userVisibleErrorMessage (keptUnits previewByteLimit (chunked sizes (rawText lines))) lines := by
  rw [diff_lines]
  generalize cut : keptUnits previewByteLimit (chunked sizes (rawText lines)) = kept
  have lines_ : ∀ lines', List.Forall₂ RawLine.Replaces lines lines' →
      (diff userVisibleErrorMessage (chunked sizes (rawText lines'))).map LocalRevisionDiff.lines =
        (shownLines previewLineLimit kept lines').mapM (diffLine userVisibleErrorMessage) := by
    intro lines' replaced
    rw [diff_lines, keptUnits_alike (rawText_alike replaced), cut]
  constructor
  · intro same
    by_cases splits : SplitsSecret previewLineLimit kept lines
    · obtain ⟨lines', replaced, differ⟩ := exists_leak splits
      have again := same lines' replaced
      rw [lines_ lines' replaced] at again
      cases ended : (shownLines previewLineLimit kept lines).mapM (diffLine userVisibleErrorMessage) with
      | ok shown => exact absurd (again.trans ended) fun other => differ.mapM_ne ended other
      | error error =>
        cases error
        exact Or.inr (mapM_eq_error.1 ended)
    · exact Or.inl splits
  · intro holds lines' replaced
    rw [lines_ lines' replaced]
    rcases holds with whole | refused
    · exact mapM_congr ((shownLines_pairs replaced).imp fun one other is => is.resolve_right fun both => whole both.1)
    · rw [mapM_eq_error.2 refused, mapM_eq_error.2 (refused_pairs (shownLines_pairs replaced) refused)]

theorem le_length_rawText (front : List RawLine) (line : RawLine) (back : List RawLine) :
    (front.map RawLine.size).sum + line.text.length ≤ (rawText (front ++ line :: back)).length := by
  induction front with
  | nil =>
    cases back with
    | nil => simp [rawText]
    | cons next back => simp [rawText, List.intercalate_cons_cons]
  | cons first front ih =>
    obtain ⟨next, others, is⟩ : ∃ next others, front ++ line :: back = next :: others :=
      List.exists_cons_of_ne_nil (List.append_ne_nil_of_right_ne_nil _ (List.cons_ne_nil _ _))
    have longer : (rawText (first :: (front ++ line :: back))).length =
        first.size + (rawText (front ++ line :: back)).length := by
      rw [is]
      simp only [rawText, List.map_cons, List.intercalate_cons_cons, List.length_append, List.length_singleton, RawLine.size]
    rw [List.cons_append, longer, List.map_cons, List.sum_cons]
    omega

def repeatedSecret (unit : UInt16) (quads : Nat) (digit : isBase64Unit unit = true) : Base64 :=
  ⟨List.replicate (4 * quads) unit, by
    have other : ¬ decide (unit = 61) = true := by
      intro is
      rw [of_decide_eq_true is] at digit
      exact absurd digit (by decide)
    have whole : (List.replicate (4 * quads) unit).rdropWhile (· = 61) = List.replicate (4 * quads) unit := by
      rw [List.rdropWhile, List.reverse_replicate, List.dropWhile_replicate, if_neg other, List.reverse_replicate]
    simp [isBase64, whole, digit]⟩

theorem length_repeatedSecret (unit : UInt16) (quads : Nat) (digit : isBase64Unit unit = true) :
    (repeatedSecret unit quads digit).val.length = 4 * quads :=
  List.length_replicate

/-- The hunk of an account with a new password, both of the greatest length that is stored. -/
def rotatedAccount (header : { text : JsString // 10 ∉ text }) : List RawLine :=
  [.plain header, .plain ⟨ofString "         \"identities\": []", by decide⟩, .plain ⟨ofString "       \x7d,", by decide⟩,
    .secret .removed 6 (repeatedSecret 65 32768 (by decide)) false,
    .secret .added 6 (repeatedSecret 66 32768 (by decide)) false,
    .plain ⟨ofString "     \x7d,", by decide⟩, .plain ⟨ofString "     \x7b", by decide⟩]

theorem size_plain {text : { text : JsString // 10 ∉ text }} : (RawLine.plain text).size = text.val.length + 1 := rfl

theorem size_longest {marker : Marker} {unit : UInt16} {digit : isBase64Unit unit = true} :
    (RawLine.secret marker 6 (repeatedSecret unit 32768 digit) false).size = 131101 := by
  rw [RawLine.size, length_secret, length_repeatedSecret]
  rfl

theorem sum_rotatedAccount (header : { text : JsString // 10 ∉ text }) :
    ((rotatedAccount header).map RawLine.size).sum = header.val.length + 262254 := by
  have identities : (ofString "         \"identities\": []").length = 25 := rfl
  have ends : (ofString "       \x7d,").length = 9 ∧ (ofString "     \x7d,").length = 7 ∧ (ofString "     \x7b").length = 6 :=
    ⟨rfl, rfl, rfl⟩
  simp only [rotatedAccount, List.map_cons, List.map_nil, List.sum_cons, List.sum_nil, size_plain, size_longest,
    identities, ends]
  omega

def diffHeader : List RawLine :=
  [.plain ⟨ofString "diff --git a/state/material-email-state-v1.json b/state/material-email-state-v1.json", by decide⟩,
    .plain ⟨ofString "index 1f0c2d4..7a9b3e1 100644", by decide⟩,
    .plain ⟨ofString "--- a/state/material-email-state-v1.json", by decide⟩,
    .plain ⟨ofString "+++ b/state/material-email-state-v1.json", by decide⟩]

/-- The hunks of accounts before the last one. -/
def rotatedBefore : List RawLine :=
  diffHeader ++ rotatedAccount ⟨ofString "@@ -81,5 +81,5 @@", by decide⟩ ++
    rotatedAccount ⟨ofString "@@ -106,5 +106,5 @@", by decide⟩ ++
    rotatedAccount ⟨ofString "@@ -131,5 +131,5 @@", by decide⟩ ++
    rotatedAccount ⟨ofString "@@ -156,5 +156,5 @@", by decide⟩ ++
    rotatedAccount ⟨ofString "@@ -181,5 +181,5 @@", by decide⟩ ++
    rotatedAccount ⟨ofString "@@ -206,5 +206,5 @@", by decide⟩ ++
    rotatedAccount ⟨ofString "@@ -231,5 +231,5 @@", by decide⟩

/-- The diff of a state in which eight accounts have got new passwords. -/
def rotation : List RawLine :=
  rotatedBefore ++ rotatedAccount ⟨ofString "@@ -256,5 +256,5 @@", by decide⟩ ++ [.plain ⟨[], by decide⟩]

def beforeLast : List RawLine :=
  rotatedBefore ++ (rotatedAccount ⟨ofString "@@ -256,5 +256,5 @@", by decide⟩).take 4

theorem sum_beforeLast : (beforeLast.map RawLine.size).sum = 1967263 := by
  have header : (diffHeader.map RawLine.size).sum = 197 := rfl
  have last : (((rotatedAccount ⟨ofString "@@ -256,5 +256,5 @@", by decide⟩).take 4).map RawLine.size).sum = 131157 := by
    simp only [rotatedAccount, List.take_succ_cons, List.take_zero, List.map_cons, List.map_nil, List.sum_cons,
      List.sum_nil, size_plain, size_longest]
    rfl
  simp only [beforeLast, rotatedBefore, List.map_append, List.sum_append, sum_rotatedAccount, header, last]
  rfl

theorem rotation_eq : ∃ back, rotation =
    beforeLast ++ .secret .added 6 (repeatedSecret 66 32768 (by decide)) false :: back :=
  ⟨_, by simp only [rotation, beforeLast, rotatedAccount, List.take_succ_cons, List.take_zero, List.append_assoc,
    List.cons_append, List.nil_append]; rfl⟩

/-- A line that can be shown. -/
def Shown (userVisibleErrorMessage : JsString → JsString) (text : JsString) : Prop :=
  ∃ line, diffLine userVisibleErrorMessage text = .ok line

theorem shown_of_splits {shown kept : Nat} {front : List RawLine} {line : RawLine} (back : List RawLine)
    (early : front.length < shown) (splits : line.SplitsAt (kept - (front.map RawLine.size).sum))
    (fine : ∀ line ∈ front, Shown userVisibleErrorMessage (stripCr line.text)) :
    ∀ text ∈ shownLines shown kept (front ++ line :: back), Shown userVisibleErrorMessage text := by
  induction front generalizing shown kept with
  | nil =>
    obtain ⟨shown, rfl⟩ := Nat.exists_eq_succ_of_ne_zero (Nat.ne_of_gt early)
    rw [List.map_nil, List.sum_nil, Nat.sub_zero] at splits
    intro text member
    rw [List.nil_append, shownLines_last line splits.le_length, List.mem_singleton] at member
    rw [member]
    exact exists_diffLine_take splits
  | cons first front ih =>
    obtain ⟨shown, rfl⟩ := Nat.exists_eq_succ_of_ne_zero (Nat.ne_of_gt (Nat.lt_of_le_of_lt (Nat.zero_le _) early))
    obtain ⟨next, others, is⟩ : ∃ next others, front ++ line :: back = next :: others :=
      List.exists_cons_of_ne_nil (List.append_ne_nil_of_right_ne_nil _ (List.cons_ne_nil _ _))
    rw [List.map_cons, List.sum_cons, RawLine.size, ← Nat.sub_sub, ← Nat.sub_sub] at splits
    have long : first.text.length < kept := by
      refine Nat.not_le.1 fun short => ?_
      rw [Nat.sub_eq_zero_of_le short, Nat.zero_sub] at splits
      exact not_splitsAt_zero line splits
    intro text member
    rw [List.cons_append, is, shownLines_cons first next long, ← is] at member
    rcases List.mem_cons.1 member with rfl | later
    · exact fine first List.mem_cons_self
    · exact ih (Nat.lt_of_succ_lt_succ early) splits (fun line member => fine line (List.mem_cons_of_mem _ member)) text later

theorem rotatedAccount_shown {header : { text : JsString // 10 ∉ text }}
    (fine : Shown userVisibleErrorMessage (stripCr header.val)) :
    ∀ line ∈ rotatedAccount header, Shown userVisibleErrorMessage (stripCr line.text) := by
  have closed : ∀ marker indent value comma,
      Shown userVisibleErrorMessage (stripCr (RawLine.secret marker indent value comma).text) := by
    intro marker indent value comma
    rw [stripCr_secret]
    exact ⟨_, diffLine_closed marker indent value.property comma⟩
  simp only [rotatedAccount, List.forall_mem_cons]
  exact ⟨fine, ⟨_, rfl⟩, ⟨_, rfl⟩, closed _ _ _ _, closed _ _ _ _, ⟨_, rfl⟩, ⟨_, rfl⟩, fun _ none => nomatch none⟩

theorem beforeLast_shown : ∀ line ∈ beforeLast, Shown userVisibleErrorMessage (stripCr line.text) := by
  have header : ∀ line ∈ diffHeader, Shown userVisibleErrorMessage (stripCr line.text) := by
    simp only [diffHeader, List.forall_mem_cons]
    exact ⟨⟨_, rfl⟩, ⟨_, rfl⟩, ⟨_, rfl⟩, ⟨_, rfl⟩, fun _ none => nomatch none⟩
  simp only [beforeLast, rotatedBefore, List.forall_mem_append]
  refine ⟨⟨⟨⟨⟨⟨⟨⟨header, ?_⟩, ?_⟩, ?_⟩, ?_⟩, ?_⟩, ?_⟩, ?_⟩, fun line member => ?_⟩
  case refine_8 => exact rotatedAccount_shown ⟨_, rfl⟩ line (List.mem_of_mem_take member)
  all_goals exact rotatedAccount_shown ⟨_, rfl⟩

theorem last_splits : (RawLine.secret .added 6 (repeatedSecret 66 32768 (by decide)) false).SplitsAt
    (previewByteLimit - (beforeLast.map RawLine.size).sum) := by
  rw [sum_beforeLast, RawLine.SplitsAt, length_repeatedSecret]
  decide

theorem keptUnits_rotation : keptUnits previewByteLimit (chunked [] (rawText rotation)) = previewByteLimit := by
  obtain ⟨back, is⟩ := rotation_eq
  have long : previewByteLimit < (rawText rotation).length := by
    have within := le_length_rawText beforeLast (.secret .added 6 (repeatedSecret 66 32768 (by decide)) false) back
    rw [← is, sum_beforeLast, length_secret, length_repeatedSecret] at within
    refine Nat.lt_of_lt_of_le ?_ within
    decide
  rw [chunked, keptUnits, if_pos (Nat.lt_of_lt_of_le long (length_le_utf8Bytes _)), Nat.min_eq_left (Nat.le_of_lt long)]

/-- The start of the last new password is shown. -/
theorem rotation_leaks : ¬ ∃ userVisibleErrorMessage, ∀ lines', List.Forall₂ RawLine.Replaces rotation lines' →
    (diff userVisibleErrorMessage (chunked [] (rawText lines'))).map LocalRevisionDiff.lines =
      (diff userVisibleErrorMessage (chunked [] (rawText rotation))).map LocalRevisionDiff.lines := by
  rintro ⟨userVisibleErrorMessage, same⟩
  obtain ⟨back, is⟩ := rotation_eq
  have early : beforeLast.length < previewLineLimit := by decide
  have fine : ∀ text ∈ shownLines previewLineLimit previewByteLimit (beforeLast ++ _ :: back),
      Shown userVisibleErrorMessage text := shown_of_splits back early last_splits beforeLast_shown
  have splits : SplitsSecret previewLineLimit previewByteLimit rotation :=
    ⟨beforeLast, _, back, is, early, last_splits⟩
  obtain ⟨lines', replaced, differ⟩ := exists_leak splits
  have again := same lines' replaced
  rw [diff_lines, diff_lines, keptUnits_alike (rawText_alike replaced), keptUnits_rotation] at again
  rw [← is] at fine
  have all : ∃ shown, (shownLines previewLineLimit previewByteLimit rotation).mapM (diffLine userVisibleErrorMessage) =
      .ok shown ∧ ∀ line ∈ shown, True :=
    Fallible.exists_mapM_ok.2 fun text member => (fine text member).imp fun _ ok => ⟨ok, trivial⟩
  obtain ⟨shown, ok, -⟩ := all
  exact differ.mapM_ne ok (again.trans ok)

end Preview

end HistoryRepository
