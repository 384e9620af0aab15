import MaterialEmail.Library.ContentLine
import Mathlib.Algebra.Group.Nat.Even

/-! Lists of texts in one value: each text with its escapes, and separators between them. Splitting looks at
quotes, of which the escapes know nothing, so a separator is found where the quotes before it are even in number. -/
namespace ContentLine

open JsString

variable {delimiter : UInt16} {quoted : Bool} {current rest text : JsString} {texts : List JsString}

def textList (delimiter : UInt16) (texts : List JsString) : JsString :=
  ((texts.map escapeText).intersperse [delimiter]).flatten

/-- The characters that have an escape. -/
def Separates (delimiter : UInt16) : Prop := delimiter = 44 ∨ delimiter = 59

instance (delimiter : UInt16) : Decidable (Separates delimiter) := inferInstanceAs (Decidable (_ ∨ _))

/-- An odd number of quotes: what is quoted afterwards was not before. -/
def turnsQuotes (text : JsString) : Bool := !decide (Even (text.count 34))

theorem turnsQuotes_cons (unit : UInt16) (text : JsString) :
    turnsQuotes (unit :: text) = if unit = 34 then !turnsQuotes text else turnsQuotes text := by
  unfold turnsQuotes
  by_cases quote : unit = 34
  · subst quote
    simp [Nat.even_add_one, -Nat.not_even_iff_odd]
  · simp [quote]

section Splitting

theorem splitFrom_escape (unit : UInt16) :
    splitFrom delimiter false quoted current (92 :: unit :: rest) =
      splitFrom delimiter false quoted (current ++ [92, unit]) rest := by
  simp [splitFrom]

/-- A text with its escapes belongs to the current part and turns the quotes as the text does. -/
theorem splitFrom_escapeText (separates : Separates delimiter) :
    splitFrom delimiter false quoted current (escapeText text ++ rest) =
      splitFrom delimiter false (quoted ^^ turnsQuotes text) (current ++ escapeText text) rest := by
  induction text using escapeText.induct generalizing quoted current with
  | case1 others ih =>
    rw [escapeText, List.cons_append, List.cons_append, splitFrom_escape, ih]
    simp [turnsQuotes_cons]
  | case2 unit others notPair isBreak ih =>
    have notQuote : unit ≠ 34 := by
      rintro rfl
      simp at isBreak
    rw [escapeText, if_pos isBreak, List.cons_append, List.cons_append, splitFrom_escape, ih]
    · simp [turnsQuotes_cons, notQuote]
    · exact notPair
  | case3 unit others notPair noBreak special ih =>
    have notQuote : unit ≠ 34 := by
      rintro rfl
      simp at special
    rw [escapeText, if_neg noBreak, if_pos special, List.cons_append, List.cons_append, splitFrom_escape, ih]
    · simp [turnsQuotes_cons, notQuote]
    · exact notPair
  | case4 unit others notPair noBreak plain ih =>
    have escaped : escapeText (unit :: others) = unit :: escapeText others := by
      rw [escapeText, if_neg noBreak, if_neg plain]
      exact notPair
    have notEscape : unit ≠ 92 := fun is => plain (Or.inl is)
    have notDelimiter : unit ≠ delimiter := by
      rintro rfl
      exact plain (Or.inr separates.symm)
    rw [escaped, List.cons_append, splitFrom]
    by_cases quote : unit = 34
    · simp [quote, ih, turnsQuotes_cons]
    · simp [notEscape, quote, notDelimiter, ih, turnsQuotes_cons]
  | case5 => simp [escapeText, turnsQuotes]

theorem splitFrom_separator (separates : Separates delimiter) :
    splitFrom delimiter false quoted current (delimiter :: rest) =
      if quoted then splitFrom delimiter false true (current ++ [delimiter]) rest
      else current :: splitFrom delimiter false false [] rest := by
  have plain : delimiter ≠ 92 ∧ delimiter ≠ 34 := by
    rcases separates with rfl | rfl <;> decide
  cases quoted <;> simp [splitFrom, plain]

theorem textList_cons (next : JsString) (others : List JsString) :
    textList delimiter (text :: next :: others) = escapeText text ++ delimiter :: textList delimiter (next :: others) := by
  simp [textList]

/-- The first of several texts: where it leaves the quotes open, the next one goes on with its part. -/
theorem splitFrom_textList (separates : Separates delimiter) (next : JsString) (others : List JsString) :
    splitFrom delimiter false quoted current (textList delimiter (text :: next :: others)) =
      if quoted ^^ turnsQuotes text then
        splitFrom delimiter false true (current ++ escapeText text ++ [delimiter]) (textList delimiter (next :: others))
      else
        (current ++ escapeText text) :: splitFrom delimiter false false [] (textList delimiter (next :: others)) := by
  rw [textList_cons, splitFrom_escapeText separates, splitFrom_separator separates]

theorem splitFrom_last (separates : Separates delimiter) :
    splitFrom delimiter false quoted current (textList delimiter [text]) = [current ++ escapeText text] := by
  have split := @splitFrom_escapeText delimiter quoted current [] text separates
  rw [List.append_nil] at split
  simp [textList, split, splitFrom]

theorem length_splitFrom_le (separates : Separates delimiter) :
    (splitFrom delimiter false quoted current (textList delimiter (text :: texts))).length ≤ (text :: texts).length := by
  induction texts generalizing text quoted current with
  | nil => simp [splitFrom_last separates]
  | cons next others ih =>
    rw [splitFrom_textList separates]
    split
    · have later := @ih true (current ++ escapeText text ++ [delimiter]) next
      simp only [List.length_cons] at later ⊢
      omega
    · have later := @ih false [] next
      simp only [List.length_cons] at later ⊢
      omega

theorem even_of_length (separates : Separates delimiter)
    (whole : (splitFrom delimiter false false [] (textList delimiter (text :: texts))).length = (text :: texts).length) :
    ∀ other ∈ (text :: texts).dropLast, Even (other.count 34) := by
  induction texts generalizing text with
  | nil => simp
  | cons next others ih =>
    rw [splitFrom_textList separates, Bool.false_xor] at whole
    cases turns : turnsQuotes text with
    | true =>
      have fewer := @length_splitFrom_le delimiter true ([] ++ escapeText text ++ [delimiter]) next others separates
      rw [turns, if_pos rfl] at whole
      simp only [List.length_cons] at whole fewer
      omega
    | false =>
      rw [turns, if_neg (by simp), List.length_cons, List.length_cons, Nat.add_right_cancel_iff] at whole
      have even : Even (text.count 34) := by simpa [turnsQuotes] using turns
      intro other member
      rw [List.dropLast_cons_cons, List.mem_cons] at member
      rcases member with rfl | later
      · exact even
      · exact ih whole other later

theorem splitFrom_of_even (separates : Separates delimiter) (even : ∀ other ∈ (text :: texts).dropLast, Even (other.count 34)) :
    splitFrom delimiter false false [] (textList delimiter (text :: texts)) = (text :: texts).map escapeText := by
  induction texts generalizing text with
  | nil => simp [splitFrom_last separates]
  | cons next others ih =>
    rw [List.dropLast_cons_cons] at even
    have first : turnsQuotes text = false := by simpa [turnsQuotes] using even text List.mem_cons_self
    have later := @ih next fun other member => even other (List.mem_cons_of_mem _ member)
    rw [splitFrom_textList separates, first, later]
    simp

end Splitting

section RoundTrip

theorem split_textList (separates : Separates delimiter) (nonempty : texts ≠ []) (plain : ∀ text ∈ texts, 13 ∉ text)
    (even : ∀ text ∈ texts.dropLast, Even (text.count 34)) :
    (splitUnescaped (textList delimiter texts) delimiter).map unescapeText = texts := by
  have unescaped : (texts.map escapeText).map unescapeText = texts := by
    rw [List.map_map]
    apply (List.map_congr_left fun text member => ?_).trans (List.map_id texts)
    apply unescapeText_escapeText
    rintro unit isIn rfl
    exact plain text member isIn
  obtain ⟨text, others, rfl⟩ := List.exists_cons_of_ne_nil nonempty
  unfold splitUnescaped
  rw [splitFrom_of_even separates even, unescaped]

/-- A list is read back as it was exactly where no text but the last one turns the quotes. -/
theorem split_textList_iff (separates : Separates delimiter) (nonempty : texts ≠ []) (plain : ∀ text ∈ texts, 13 ∉ text) :
    (splitUnescaped (textList delimiter texts) delimiter).map unescapeText = texts ↔
      ∀ text ∈ texts.dropLast, Even (text.count 34) := by
  constructor
  · intro same
    have length := congrArg List.length same
    obtain ⟨text, others, rfl⟩ := List.exists_cons_of_ne_nil nonempty
    rw [List.length_map] at length
    exact even_of_length separates length
  · exact split_textList separates nonempty plain

end RoundTrip

end ContentLine
