import MaterialEmail.Library.JsString

/-! Content lines: texts of one line each, `NAME;PARAMETER=VALUE:TEXT`, that are folded into physical lines
of a limited length, with escapes for the characters that separate. -/
namespace ContentLine

open JsString

section Bytes

def unitBytes (unit : UInt16) : Nat := if unit < 0x80 then 1 else if unit < 0x800 then 2 else 3

/-- `Buffer.byteLength`, in UTF-8; half of a pair alone is written as U+FFFD. -/
def byteLength : JsString → Nat
  | high :: low :: rest =>
    if isHighSurrogate high && isLowSurrogate low then 4 + byteLength rest
    else unitBytes high + byteLength (low :: rest)
  | [unit] => unitBytes unit
  | [] => 0

variable {text : JsString}

theorem byteLength_basic (basic : ∀ unit ∈ text, unit < 0x80) : byteLength text = text.length := by
  induction text using byteLength.induct with
  | case1 high low rest isPair ih =>
    have isHigh : isHighSurrogate high = true := by
      rw [Bool.and_eq_true] at isPair
      exact isPair.1
    have small := UInt16.lt_iff_toNat_lt.1 (basic high (by simp))
    unfold isHighSurrogate at isHigh
    simp only [Bool.and_eq_true, decide_eq_true_eq, UInt16.le_iff_toNat_le] at isHigh
    simp only [UInt16.reduceToNat] at small isHigh
    omega
  | case2 high low rest single ih =>
    have tail := ih fun unit member => basic unit (List.mem_cons_of_mem _ member)
    have small : high < 0x80 := basic high List.mem_cons_self
    rw [byteLength, if_neg single, tail, unitBytes, if_pos small]
    simp only [List.length_cons]
    omega
  | case3 unit =>
    have small : unit < 0x80 := basic unit List.mem_cons_self
    simp [byteLength, unitBytes, small]
  | case4 => rfl

end Bytes

section Writing

/-- A text without line breaks. -/
def OneLine (text : JsString) : Prop := ∀ unit ∈ text, unit ≠ 10 ∧ unit ≠ 13

instance (text : JsString) : Decidable (OneLine text) := inferInstanceAs (Decidable (∀ unit ∈ text, _))

/-- Lines, each with its line break. -/
def terminated (lines : List JsString) : JsString := lines.flatMap (· ++ [13, 10])

variable {text front back : JsString} {lines : List JsString}

@[simp] theorem oneLine_append : OneLine (front ++ back) ↔ OneLine front ∧ OneLine back := by
  simp only [OneLine, List.mem_append, or_imp, forall_and]
  tauto

@[simp] theorem oneLine_cons {unit : UInt16} : OneLine (unit :: text) ↔ (unit ≠ 10 ∧ unit ≠ 13) ∧ OneLine text := by
  simp [OneLine]

@[simp] theorem oneLine_nil : OneLine [] := by simp [OneLine]

theorem OneLine.subset (oneLine : OneLine back) (subset : front ⊆ back) : OneLine front :=
  fun unit member => oneLine unit (subset member)

theorem digit_oneLine (digits : ∀ unit ∈ text, (digit? unit).isSome = true) : OneLine text := by
  intro unit member
  have isDigit := digits unit member
  constructor
  · rintro rfl
    cases isDigit
  · rintro rfl
    cases isDigit

@[simp] theorem terminated_append (first second : List JsString) :
    terminated (first ++ second) = terminated first ++ terminated second := by simp [terminated]

/-- `replace(/\r\n?/g, "\n")`. -/
def unifyNewlines : JsString → JsString
  | 13 :: 10 :: rest => 10 :: unifyNewlines rest
  | unit :: rest => (if unit = 13 then 10 else unit) :: unifyNewlines rest
  | [] => []

/-- `replace(/\r\n?/g, "\n").split("\n")`. -/
def normalizedLines (source : JsString) : List JsString := (unifyNewlines source).splitOn 10

theorem unifyNewlines_line (oneLine : OneLine front) :
    unifyNewlines (front ++ 13 :: 10 :: back) = front ++ 10 :: unifyNewlines back := by
  induction front with
  | nil => rfl
  | cons unit rest ih =>
    simp only [oneLine_cons] at oneLine
    have tail := ih oneLine.2
    rw [List.cons_append, unifyNewlines, tail, if_neg oneLine.1.2]
    · rfl
    · intro rest isBreak
      exact absurd isBreak oneLine.1.2

/-- Lines that are written are the ones that are read, and an empty one. -/
theorem normalizedLines_terminated (oneLine : ∀ line ∈ lines, OneLine line) :
    normalizedLines (terminated lines) = lines ++ [[]] := by
  induction lines with
  | nil => rfl
  | cons line lines ih =>
    have tail := ih fun other member => oneLine other (List.mem_cons_of_mem _ member)
    have head := oneLine line List.mem_cons_self
    have written : terminated (line :: lines) = line ++ 13 :: 10 :: terminated lines := by simp [terminated]
    unfold normalizedLines at tail ⊢
    rw [written, unifyNewlines_line head, List.splitOn_append_cons_self_of_not_mem, tail]
    · rfl
    · intro member
      exact (head 10 member).1 rfl

end Writing

section Lines

/-- `/^[ \t]/`. -/
def startsWithBlank : JsString → Bool
  | unit :: _ => unit = 32 || unit = 9
  | [] => false

/-- A physical line with those that continue it. -/
structure Folded where
  first : JsString
  continuations : List JsString

/-- The line that is folded. -/
def Folded.whole (folded : Folded) : JsString := folded.first ++ folded.continuations.flatMap List.tail

/-- The lines at the front that continue what stands before, and the others with their continuations. -/
def gather : List JsString → List JsString × List Folded
  | [] => ([], [])
  | line :: rest =>
    let (continuations, groups) := gather rest
    if startsWithBlank line then (line :: continuations, groups) else ([], ⟨line, continuations⟩ :: groups)

/-- Physical lines with their continuations. The first line of a text continues nothing. -/
def groupLines : List JsString → List Folded
  | [] => []
  | line :: rest => ⟨line, (gather rest).1⟩ :: (gather rest).2

/-- The lines that a text unfolds to. -/
def logicalLines (source : JsString) : List JsString := (groupLines (normalizedLines source)).map Folded.whole

/-- Folds a line into physical lines of at most `limit` bytes, from the character that would exceed them. -/
def foldFrom (limit : Nat) (current : JsString) : List JsString → List JsString
  | [] => [current]
  | character :: rest =>
    if limit < byteLength (current ++ character) then current :: foldFrom limit (32 :: character) rest
    else foldFrom limit (current ++ character) rest

section Folds

variable {front back text : JsString}

theorem flatten_characters (text : JsString) : (characters text).flatten = text := by
  induction text using characters.induct with
  | case1 high low rest isPair ih => simp [characters, isPair, ih]
  | case2 high low rest single ih => simpa [characters, single] using ih
  | case3 unit => rfl
  | case4 => rfl

theorem characters_plain (plain : ∀ unit ∈ front, isHighSurrogate unit = false) :
    characters (front ++ back) = front.map (fun unit => [unit]) ++ characters back := by
  induction front with
  | nil => rfl
  | cons unit rest ih =>
    have tail := ih fun other member => plain other (List.mem_cons_of_mem _ member)
    have here := plain unit List.mem_cons_self
    have apart : ¬ PartsPair [unit] (rest ++ back) := by
      rintro ⟨⟨last, isLast, isHigh⟩, -⟩
      obtain rfl : unit = last := by simpa using isLast
      rw [here] at isHigh
      cases isHigh
    have split : characters (unit :: (rest ++ back)) = characters [unit] ++ characters (rest ++ back) :=
      characters_append apart
    rw [List.cons_append, split, tail]
    rfl

variable {limit : Nat} {current : JsString} {points : List JsString}

theorem foldFrom_nil : foldFrom limit current [] = [current] := rfl

theorem foldFrom_cons {point : JsString} : foldFrom limit current (point :: points) =
    if limit < byteLength (current ++ point) then current :: foldFrom limit (32 :: point) points
    else foldFrom limit (current ++ point) points := rfl

theorem foldFrom_ne_nil : foldFrom limit current points ≠ [] := by
  induction points generalizing current with
  | nil => simp [foldFrom_nil]
  | cons point points ih =>
    rw [foldFrom_cons]
    split
    · simp
    · exact ih

theorem foldFrom_first : ∃ rest others, foldFrom limit current points = (current ++ rest) :: others ∧
    ∀ line ∈ others, startsWithBlank line = true := by
  induction points generalizing current with
  | nil => exact ⟨[], [], by simp [foldFrom_nil], by simp⟩
  | cons point points ih =>
    rw [foldFrom_cons]
    split
    · obtain ⟨rest, others, split, blank⟩ := @ih (32 :: point)
      refine ⟨[], foldFrom limit (32 :: point) points, by simp, ?_⟩
      rw [split]
      intro line member
      rcases List.mem_cons.1 member with rfl | later
      · rfl
      · exact blank line later
    · obtain ⟨rest, others, split, blank⟩ := @ih (current ++ point)
      exact ⟨point ++ rest, others, by rw [split, List.append_assoc], blank⟩

theorem foldFrom_oneLine (start : OneLine current) (oneLine : OneLine points.flatten) :
    ∀ line ∈ foldFrom limit current points, OneLine line := by
  induction points generalizing current with
  | nil => simpa [foldFrom_nil] using start
  | cons point points ih =>
    rw [List.flatten_cons, oneLine_append] at oneLine
    rw [foldFrom_cons]
    split
    · intro line member
      rcases List.mem_cons.1 member with rfl | later
      · exact start
      · exact ih (by simpa using oneLine.1) oneLine.2 line later
    · exact ih (by simp [start, oneLine.1]) oneLine.2

theorem foldFrom_fits {base : JsString} (basic : ∀ unit ∈ current ++ base, unit < 0x80)
    (fits : (current ++ base).length ≤ limit) :
    foldFrom limit current (base.map (fun unit => [unit]) ++ points) = foldFrom limit (current ++ base) points := by
  induction base generalizing current with
  | nil => simp
  | cons unit rest ih =>
    have short : ¬ limit < byteLength (current ++ [unit]) := by
      have sub : current ++ [unit] ⊆ current ++ unit :: rest := by simp
      rw [byteLength_basic fun other member => basic other (sub member)]
      simp only [List.length_append, List.length_cons] at fits ⊢
      simp only [List.length_nil]
      omega
    have tail := @ih (current ++ [unit]) (by simpa using basic) (by simpa using fits)
    rw [List.map_cons, List.cons_append, foldFrom_cons, if_neg short, tail]
    simp

end Folds

end Lines

section Separators

variable {delimiter : UInt16} {base rest current : JsString} {quoted : Bool} {text : JsString}

/-- `splitUnescaped`: an escaped delimiter does not separate, nor does one between quotes. -/
def splitFrom (delimiter : UInt16) (escaped quoted : Bool) (current : JsString) : JsString → List JsString
  | [] => [if escaped then current ++ [92] else current]
  | unit :: rest =>
    if escaped then splitFrom delimiter false quoted (current ++ [92, unit]) rest
    else if unit = 92 then splitFrom delimiter true quoted current rest
    else if unit = 34 then splitFrom delimiter false (!quoted) (current ++ [unit]) rest
    else if unit = delimiter && !quoted then current :: splitFrom delimiter false false [] rest
    else splitFrom delimiter false quoted (current ++ [unit]) rest

def splitUnescaped (value : JsString) (delimiter : UInt16) : List JsString := splitFrom delimiter false false [] value

theorem splitFrom_append (plain : ∀ unit ∈ base, unit ≠ 92 ∧ unit ≠ 34 ∧ unit ≠ delimiter) :
    splitFrom delimiter false quoted current (base ++ rest) = splitFrom delimiter false quoted (current ++ base) rest := by
  induction base generalizing current with
  | nil => simp
  | cons unit others ih =>
    obtain ⟨notEscape, notQuote, notDelimiter⟩ := plain unit List.mem_cons_self
    have tail := @ih (current ++ [unit]) fun other member => plain other (List.mem_cons_of_mem _ member)
    rw [List.cons_append, splitFrom]
    simp only [Bool.false_eq_true, if_false, if_neg notEscape, if_neg notQuote, notDelimiter, decide_false,
      Bool.false_and]
    rw [tail, List.append_assoc, List.singleton_append]

/-- Where the value of a line begins: after the first colon that is not between quotes. -/
def separatorFrom (quoted : Bool) : JsString → Option Nat
  | [] => none
  | unit :: rest =>
    let quoted := if unit = 34 then !quoted else quoted
    if unit = 58 && !quoted then some 0 else (separatorFrom quoted rest).map (· + 1)

theorem separatorFrom_append (plain : ∀ unit ∈ base, unit ≠ 34 ∧ unit ≠ 58) :
    separatorFrom quoted (base ++ rest) = (separatorFrom quoted rest).map (· + base.length) := by
  induction base with
  | nil => simp
  | cons unit others ih =>
    obtain ⟨notQuote, notColon⟩ := plain unit List.mem_cons_self
    have tail := ih fun other member => plain other (List.mem_cons_of_mem _ member)
    simp only [List.cons_append, separatorFrom, if_neg notQuote, notColon, decide_false, Bool.false_and,
      Bool.false_eq_true, if_false, tail, Option.map_map, List.length_cons]
    congr 1

/-- `unescapeText`. -/
def unescapeText : JsString → JsString
  | 92 :: unit :: rest =>
    if unit = 92 ∨ unit = 44 ∨ unit = 59 then unit :: unescapeText rest
    else if unit = 110 ∨ unit = 78 then 10 :: unescapeText rest
    else 92 :: unescapeText (unit :: rest)
  | unit :: rest => unit :: unescapeText rest
  | [] => []

/-- `escapeText`. -/
def escapeText : JsString → JsString
  | 13 :: 10 :: rest => 92 :: 110 :: escapeText rest
  | unit :: rest =>
    if unit = 13 ∨ unit = 10 then 92 :: 110 :: escapeText rest
    else if unit = 92 ∨ unit = 59 ∨ unit = 44 then 92 :: unit :: escapeText rest
    else unit :: escapeText rest
  | [] => []

theorem escapeText_oneLine (text : JsString) : OneLine (escapeText text) := by
  induction text using escapeText.induct with
  | case1 rest ih => simpa [escapeText] using ih
  | case2 unit rest notPair isBreak ih => simpa [escapeText, isBreak] using ih
  | case3 unit rest notPair noBreak special ih =>
    rw [not_or] at noBreak
    rw [escapeText, if_neg (by simpa using noBreak), if_pos special]
    · simpa [noBreak.1, noBreak.2] using ih
    · exact notPair
  | case4 unit rest notPair noBreak plain ih =>
    rw [not_or] at noBreak
    rw [escapeText, if_neg (by simpa using noBreak), if_neg plain]
    · simpa [noBreak.1, noBreak.2] using ih
    · exact notPair
  | case5 => simp [escapeText]

theorem unescapeText_escapeText (plain : ∀ unit ∈ text, unit ≠ 13) : unescapeText (escapeText text) = text := by
  induction text using escapeText.induct with
  | case1 rest ih => exact absurd rfl (plain 13 List.mem_cons_self)
  | case2 unit rest notPair isBreak ih =>
    have tail := ih fun other member => plain other (List.mem_cons_of_mem _ member)
    have isFeed : unit = 10 := isBreak.resolve_left (plain unit List.mem_cons_self)
    subst isFeed
    simp [escapeText, unescapeText, tail]
  | case3 unit rest notPair noBreak special ih =>
    have tail := ih fun other member => plain other (List.mem_cons_of_mem _ member)
    rw [escapeText, if_neg noBreak, if_pos special]
    · rw [unescapeText, if_pos (by tauto), tail]
    · exact notPair
  | case4 unit rest notPair noBreak ordinary ih =>
    have tail := ih fun other member => plain other (List.mem_cons_of_mem _ member)
    rw [not_or, not_or] at ordinary
    rw [escapeText, if_neg noBreak, if_neg (by tauto)]
    · rw [unescapeText.eq_def]
      split
      · rename_i isEscape
        rw [List.cons.injEq] at isEscape
        exact absurd isEscape.1 ordinary.1
      · rename_i other others parts
        cases parts
        rw [tail]
      · rename_i empty
        cases empty
    · exact notPair
  | case5 => rfl

/-- `replace(/^"|"$/g, "")`. -/
def unquote (value : JsString) : JsString :=
  let value := match value with
    | 34 :: rest => rest
    | value => value
  if value.getLast? = some 34 then value.dropLast else value

end Separators

end ContentLine
