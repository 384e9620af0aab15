import MaterialEmail.Library.JsString
import MaterialEmail.Library.Regular

/-! Regular expressions on texts, with the assertions `^`, `$` and `\b` and with the flag `i`. A unit is matched with its
neighbours, at which the assertions look. -/
namespace TextPattern

open JsString Regular

structure Letter where
  before : Option UInt16
  unit : UInt16
  after : Option UInt16

abbrev Pattern := Regular Letter

def inContext (before : Option UInt16) : JsString → List Letter
  | [] => []
  | unit :: rest => ⟨before, unit, rest.head?⟩ :: inContext (some unit) rest

/-- The flags `iu`: besides the case of ASCII letters, the Kelvin sign is a `k` and the long s an `s`. -/
def folded (unit : UInt16) : UInt16 :=
  if unit = 0x212A then 107 else if unit = 0x17F then 115 else asciiLower unit

/-- `\w`. -/
def isWord (ignoreCase : Bool) (unit : UInt16) : Bool :=
  isAlphanumeric unit || unit = 95 || (ignoreCase && (unit = 0x212A || unit = 0x17F))

def isDigit (unit : UInt16) : Bool := 48 ≤ unit && unit ≤ 57

section Building

variable (ignoreCase : Bool)

/-- `\b` before a letter. -/
def opensWord (letter : Letter) : Bool := letter.before.any (isWord ignoreCase) != isWord ignoreCase letter.unit

/-- `\b` after a letter. -/
def closesWord (letter : Letter) : Bool := letter.after.any (isWord ignoreCase) != isWord ignoreCase letter.unit

/-- `$`. -/
def closesText (letter : Letter) : Bool := letter.after.isNone

def unitIn (accepts : UInt16 → Bool) : Pattern := letter fun letter => accepts letter.unit

/-- `[abc]`. -/
def anyOf (units : String) : Pattern := unitIn fun unit => unit ∈ ofString units

/-- `[^abc]`. -/
def noneOf (units : String) : Pattern := unitIn fun unit => unit ∉ ofString units

/-- `\S`. -/
def visible : Pattern := unitIn fun unit => !isWhiteSpace unit

def white : Pattern := unitIn isWhiteSpace

def digits : Pattern := plus (unitIn isDigit)

def expects (expected : UInt16) : Pattern :=
  unitIn fun unit => if ignoreCase then folded unit = folded expected else unit = expected

def literalOf : JsString → Pattern
  | [] => empty
  | [unit] => expects ignoreCase unit
  | unit :: rest => seq (expects ignoreCase unit) (literalOf rest)

def literal (text : String) : Pattern := literalOf ignoreCase (ofString text)

def oneOf (patterns : List Pattern) : Pattern := patterns.foldr orElse nothing

/-- One after the other. -/
def all : List Pattern → Pattern
  | [] => empty
  | [pattern] => pattern
  | pattern :: rest => seq pattern (all rest)

/-- An assertion in front of an expression that begins with a letter. -/
def opening (asserts : Letter → Bool) : Pattern → Pattern
  | letter accepts => letter fun letter => asserts letter && accepts letter
  | seq first second => seq (opening asserts first) second
  | alt left right => alt (opening asserts left) (opening asserts right)
  | other => other

/-- An assertion behind an expression that ends with a letter. -/
def closing (asserts : Letter → Bool) : Pattern → Pattern
  | letter accepts => letter fun letter => asserts letter && accepts letter
  | seq first second => seq first (closing asserts second)
  | alt left right => alt (closing asserts left) (closing asserts right)
  | other => other

end Building

/-- Some part of a text matches. -/
def occurs (pattern : Pattern) (text : JsString) : Bool := pattern.test (inContext none text)

/-- The beginning of a text matches. -/
def begins (pattern : Pattern) (text : JsString) : Bool := pattern.beginsWith (inContext none text)

section Words

variable {pattern : Pattern} {patterns : List Pattern} {word : List Letter} {asserts : Letter → Bool}

theorem mem_oneOf : word ∈ (oneOf patterns).language ↔ ∃ pattern ∈ patterns, word ∈ pattern.language := by
  induction patterns with
  | nil => simp [oneOf]
  | cons pattern rest ih =>
    rw [show oneOf (pattern :: rest) = orElse pattern (oneOf rest) from rfl, mem_orElse, ih, List.exists_mem_cons_iff]

theorem mem_all : word ∈ (all (pattern :: patterns)).language ↔
    ∃ front ∈ pattern.language, ∃ back ∈ (all patterns).language, front ++ back = word := by
  cases patterns with
  | nil => simp [all]
  | cons next rest => exact mem_seq

theorem part_of_all (member : pattern ∈ patterns) (isWord : word ∈ (all patterns).language) :
    ∃ part ∈ pattern.language, part <:+: word := by
  induction patterns generalizing word with
  | nil => cases member
  | cons first rest ih =>
    obtain ⟨front, isFront, back, isBack, rfl⟩ := mem_all.1 isWord
    rcases List.mem_cons.1 member with rfl | later
    · exact ⟨front, isFront, (List.prefix_append front back).isInfix⟩
    · obtain ⟨part, isPart, inside⟩ := ih later isBack
      exact ⟨part, isPart, inside.trans (List.suffix_append front back).isInfix⟩

theorem mem_of_opening (isWord : word ∈ (opening asserts pattern).language) : word ∈ pattern.language := by
  induction pattern generalizing word with
  | letter accepts =>
    obtain ⟨letter, rfl, accepted⟩ := isWord
    exact ⟨letter, rfl, (Bool.and_eq_true_iff.1 accepted).2⟩
  | seq first second ih _ =>
    obtain ⟨front, isFront, back, isBack, rfl⟩ := mem_seq.1 isWord
    exact mem_seq.2 ⟨front, ih isFront, back, isBack, rfl⟩
  | alt left right leftIh rightIh => exact isWord.imp leftIh rightIh
  | nothing => exact isWord
  | empty => exact isWord
  | star body => exact isWord

theorem mem_of_closing (isWord : word ∈ (closing asserts pattern).language) : word ∈ pattern.language := by
  induction pattern generalizing word with
  | letter accepts =>
    obtain ⟨letter, rfl, accepted⟩ := isWord
    exact ⟨letter, rfl, (Bool.and_eq_true_iff.1 accepted).2⟩
  | seq first second _ ih =>
    obtain ⟨front, isFront, back, isBack, rfl⟩ := mem_seq.1 isWord
    exact mem_seq.2 ⟨front, isFront, back, ih isBack, rfl⟩
  | alt left right leftIh rightIh => exact isWord.imp leftIh rightIh
  | nothing => exact isWord
  | empty => exact isWord
  | star body => exact isWord

/-- A letter is read as a unit of a literal. -/
def reads (ignoreCase : Bool) (letter : Letter) (unit : UInt16) : Prop :=
  if ignoreCase then folded letter.unit = folded unit else letter.unit = unit

theorem mem_literalOf {ignoreCase : Bool} {text : JsString} (isWord : word ∈ (literalOf ignoreCase text).language) :
    List.Forall₂ (reads ignoreCase) word text := by
  have one {unit : UInt16} {part : List Letter} (isPart : part ∈ (expects ignoreCase unit).language) :
      ∃ letter, part = [letter] ∧ reads ignoreCase letter unit := by
    obtain ⟨letter, isPart, accepted⟩ := isPart
    refine ⟨letter, isPart, ?_⟩
    unfold reads
    split <;> simp_all
  induction text using literalOf.induct generalizing word with
  | case1 =>
    cases isWord
    exact .nil
  | case2 unit =>
    obtain ⟨letter, rfl, accepted⟩ := one isWord
    exact .cons accepted .nil
  | case3 unit rest more ih =>
    rw [literalOf.eq_3 _ _ _ more, mem_seq] at isWord
    obtain ⟨front, isFront, back, isBack, rfl⟩ := isWord
    obtain ⟨letter, rfl, accepted⟩ := one isFront
    exact .cons accepted (ih isBack)

theorem unit_mem_of_occurs {text : JsString} (found : occurs pattern text = true) :
    ∃ word ∈ pattern.language, ∀ letter ∈ word, letter.unit ∈ text := by
  obtain ⟨before, inside, isWord, after, whole⟩ := test_iff.1 found
  have units : ∀ (text : JsString) (before : Option UInt16), (inContext before text).map Letter.unit = text := by
    intro text
    induction text with
    | nil => exact fun _ => rfl
    | cons unit rest ih => exact fun _ => congrArg _ (ih _)
  refine ⟨inside, isWord, fun letter member => ?_⟩
  rw [← units text none, ← whole]
  exact List.mem_map_of_mem (by simp [member])

end Words

end TextPattern
