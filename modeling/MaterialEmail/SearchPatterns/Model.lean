import MaterialEmail.Library.JsString
import MaterialEmail.Library.Regular
import Mathlib.Data.List.Sort

/-! The patterns that messages are searched with, and the checks that refuse those which could keep the engine of
regular expressions busy for too long. A place in a pattern is the text that follows it. -/
namespace SearchPatterns

open JsString

/-- `new RegExp(pattern, flags)`, which throws an error with a message or something else, and numbers in texts. -/
structure Host where
  compile : JsString → JsString → Except (Option JsString) Unit
  toLocaleString : Nat → JsString

inductive MatchMode where
  | plain
  | regex
  deriving DecidableEq, Repr

structure MatcherOptions where
  mode : MatchMode
  pattern : JsString
  flags : JsString

structure RegexValidation where
  valid : Bool
  message : JsString
  normalizedFlags : JsString
  deriving DecidableEq

def maxPatternLength : Nat := 2048

def validFlags : JsString := ofString "imsu"

/-- Each of the flags once, in order, without those that are not known. -/
def normalizeFlags (flags : JsString) : JsString :=
  ((flags.eraseDups).filter (· ∈ validFlags)).insertionSort (· ≤ ·)

section Repetition

def isNoLineTerminator (unit : UInt16) : Bool := unit ≠ 10 && unit ≠ 13 && unit ≠ 0x2028 && unit ≠ 0x2029

def isDigit (unit : UInt16) : Bool := 48 ≤ unit && unit ≤ 57

def oneOf (units : JsString) : Regular UInt16 := .letter fun unit => unit ∈ units

/-- `(?:\\.|\[[^\]]*\]|[^()])`. -/
def groupPiece : Regular UInt16 :=
  .alt (.seq (oneOf [92]) (.letter isNoLineTerminator))
    (.alt (.seq (oneOf [91]) (.seq (.star (.letter fun unit => unit ≠ 93)) (oneOf [93])))
      (.letter fun unit => unit ≠ 40 && unit ≠ 41))

/-- `(?:[+*]|\{\d+(?:,\d*)?\})`. -/
def quantifier : Regular UInt16 :=
  .alt (oneOf [43, 42])
    (.seq (oneOf [123]) (.seq (.plus (.letter isDigit))
      (.seq (.optional (.seq (oneOf [44]) (.star (.letter isDigit)))) (oneOf [125]))))

def groupWithQuantifier : Regular UInt16 :=
  .seq (oneOf [40]) (.seq (.star groupPiece) (.seq (oneOf [43, 42]) (.seq (.star groupPiece)
    (.seq (oneOf [41]) (.seq (.star (.letter isWhiteSpace)) quantifier)))))

/-- `/(?:\.\*|\.\+)\s*` and a quantifier. -/
def repeatedWildcard : Regular UInt16 :=
  .seq (.alt (.seq (oneOf [46]) (oneOf [42])) (.seq (oneOf [46]) (oneOf [43])))
    (.seq (.star (.letter isWhiteSpace)) quantifier)

def hasRiskyNestedQuantifier (pattern : JsString) : Bool :=
  groupWithQuantifier.test pattern || repeatedWildcard.test pattern

/-- The rest of a character class, up to the bracket that closes it, and what follows. -/
def readClass : Bool → JsString → Option (JsString × JsString)
  | _, [] => none
  | escaped, value :: rest =>
    if !escaped && value = 93 then some ([93], rest)
    else (readClass (!escaped && value = 92) rest).map fun (key, after) => (value :: key, after)

def readBraces : JsString → Option (JsString × JsString)
  | [] => none
  | value :: rest =>
    if value = 125 then some ([125], rest) else (readBraces rest).map fun (key, after) => (value :: key, after)

def noAtom : JsString := [40, 41, 124, 94, 36, 42, 43, 63, 123, 125]

def readPatternAtom : JsString → Option (JsString × JsString)
  | [] => none
  | first :: rest =>
    if first ∈ noAtom then none
    else if first = 92 then
      match rest with
      | [] => none
      | second :: after =>
        let escape := ([first, second], after)
        if second = 112 || second = 80 || second = 117 then
          match after with
          | 123 :: inside =>
            match readBraces inside with
            | some (key, after) => some (first :: second :: 123 :: key, after)
            | none => some escape
          | _ => some escape
        else some escape
    else if first = 91 then (readClass false rest).map fun (key, after) => (first :: key, after)
    else
      match rest with
      | second :: after =>
        if isHighSurrogate first && isLowSurrogate second then some ([first, second], after) else some ([first], rest)
      | [] => some ([first], rest)

def skipLazy : JsString → JsString
  | 63 :: rest => rest
  | rest => rest

def readUnboundedQuantifierEnd : JsString → Option JsString
  | 42 :: rest => some (skipLazy rest)
  | 43 :: rest => some (skipLazy rest)
  | 123 :: rest =>
    if rest.takeWhile isDigit = [] then none
    else
      match rest.dropWhile isDigit with
      | 44 :: 125 :: after => some (skipLazy after)
      | _ => none
  | _ => none

def atomsCanOverlap (left right : JsString) : Bool := left = [46] || right = [46] || left = right

/-- The loop of `hasAdjacentOverlappingQuantifiers`; `prior` is the atom before, with the place where it ends. -/
def scanAdjacent : Nat → Option (JsString × JsString) → JsString → Bool
  | 0, _, _ => false
  | _, _, [] => false
  | fuel + 1, prior, first :: rest =>
    match readPatternAtom (first :: rest) with
    | none => scanAdjacent fuel none rest
    | some (key, after) =>
      match readUnboundedQuantifierEnd after with
      | none => scanAdjacent fuel none after
      | some place =>
        (prior.any fun (priorKey, priorEnd) => priorEnd = first :: rest && atomsCanOverlap priorKey key) ||
          scanAdjacent fuel (some (key, place)) place

def hasAdjacentOverlappingQuantifiers (pattern : JsString) : Bool := scanAdjacent pattern.length none pattern

/-- The loop of `splitTopLevelAlternatives`; `current` is the alternative so far. -/
def splitAlternatives (depth : Int) (inClass escaped : Bool) (current : JsString) : JsString → List JsString
  | [] => [current]
  | value :: rest =>
    if escaped then splitAlternatives depth inClass false (current ++ [value]) rest
    else if value = 92 then splitAlternatives depth inClass true (current ++ [value]) rest
    else if inClass then splitAlternatives depth (value ≠ 93) false (current ++ [value]) rest
    else if value = 91 then splitAlternatives depth true false (current ++ [value]) rest
    else if value = 40 then splitAlternatives (depth + 1) false false (current ++ [value]) rest
    else if value = 41 then splitAlternatives (depth - 1) false false (current ++ [value]) rest
    else if value = 124 && depth = 0 then current :: splitAlternatives depth false false [] rest
    else splitAlternatives depth false false (current ++ [value]) rest

def splitTopLevelAlternatives (content : JsString) : List JsString := splitAlternatives 0 false false [] content

/-- The loop of `simpleAlternativeAtoms`. -/
def scanAtoms : Nat → JsString → Option (List JsString)
  | _, [] => some []
  | 0, _ => none
  | fuel + 1, alternative => do
    let (key, after) ← readPatternAtom alternative
    return key :: (← scanAtoms fuel after)

def simpleAlternativeAtoms (alternative : JsString) : Option (List JsString) := scanAtoms alternative.length alternative

def isAtomPrefix : List JsString → List JsString → Bool
  | [], _ => true
  | _ :: _, [] => false
  | atom :: left, other :: right => atomsCanOverlap atom other && isAtomPrefix left right

def overlapping (left right : Option (List JsString)) : Bool :=
  match left, right with
  | some left, some right => isAtomPrefix left right || isAtomPrefix right left
  | _, _ => false

def anyOverlap : List (Option (List JsString)) → Bool
  | [] => false
  | left :: later => later.any (overlapping left) || anyOverlap later

def alternativesOverlap (content : JsString) : Bool :=
  let alternatives := splitTopLevelAlternatives content
  let atoms := alternatives.map simpleAlternativeAtoms
  2 ≤ alternatives.length && (atoms.any (· = some []) || anyOverlap atoms)

/-- The loop of `repeatedGroupHasOverlappingAlternatives`, at an index of the pattern; `groups` are the places
where the contents of the open groups begin. -/
def scanGroups (pattern : JsString) (index : Nat) (groups : List Nat) (inClass escaped : Bool) : JsString → Bool
  | [] => false
  | value :: rest =>
    if escaped then scanGroups pattern (index + 1) groups inClass false rest
    else if value = 92 then scanGroups pattern (index + 1) groups inClass true rest
    else if inClass then scanGroups pattern (index + 1) groups (value ≠ 93) false rest
    else if value = 91 then scanGroups pattern (index + 1) groups true false rest
    else if value = 40 then
      let prefixLength := if rest.take 2 = [63, 58] then 2 else 0
      scanGroups pattern (index + 1) ((index + 1 + prefixLength) :: groups) false false rest
    else if value ≠ 41 then scanGroups pattern (index + 1) groups false false rest
    else
      match groups with
      | [] => scanGroups pattern (index + 1) [] false false rest
      | contentStart :: groups =>
        ((readUnboundedQuantifierEnd rest).isSome &&
            alternativesOverlap ((pattern.take index).drop contentStart)) ||
          scanGroups pattern (index + 1) groups false false rest

def repeatedGroupHasOverlappingAlternatives (pattern : JsString) : Bool := scanGroups pattern 0 [] false false pattern

def hasRiskyRepetition (pattern : JsString) : Bool :=
  hasRiskyNestedQuantifier pattern || hasAdjacentOverlappingQuantifiers pattern ||
    repeatedGroupHasOverlappingAlternatives pattern

end Repetition

def validatePattern (host : Host) (options : MatcherOptions) : RegexValidation :=
  let normalizedFlags := normalizeFlags options.flags
  if options.pattern = [] then ⟨false, ofString "Enter a search pattern.", normalizedFlags⟩
  else if maxPatternLength < options.pattern.length then
    ⟨false, ofString "Patterns are limited to " ++ host.toLocaleString maxPatternLength ++ ofString " characters.",
      normalizedFlags⟩
  else if options.mode = .plain then ⟨true, ofString "Plain-text search is ready.", normalizedFlags⟩
  else if hasRiskyRepetition options.pattern then
    ⟨false, ofString "This pattern contains a nested quantifier or overlapping repetition that could make the " ++
      ofString "JavaScript regex engine unresponsive.", normalizedFlags⟩
  else
    match host.compile options.pattern normalizedFlags with
    | .ok () => ⟨true, ofString "Valid JavaScript regular expression.", normalizedFlags⟩
    | .error message => ⟨false, message.getD (ofString "Invalid regular expression."), normalizedFlags⟩

section Matching

/-- An engine of regular expressions: `new RegExp(source, flags).test(text)`, for those that compile. -/
structure Engine extends Host where
  test : JsString → JsString → JsString → Bool

def maxSampleLength : Nat := 50000

/-- `/[.*+?^${}()|[\]\\]/g`. -/
def syntaxUnits : JsString := ofString ".*+?^$\x7b\x7d()|[]\\"

def escapeRegex (value : JsString) : JsString :=
  value.flatMap fun unit => if unit ∈ syntaxUnits then [92, unit] else [unit]

/-- What `new RegExp` throws it throws too. -/
def createMatcher (engine : Engine) (options : MatcherOptions) : Except (Option JsString) (JsString → Bool) :=
  let validation := validatePattern engine.toHost options
  if validation.valid = false then .ok fun _ => false
  else
    let source := if options.mode = .plain then escapeRegex options.pattern else options.pattern
    match engine.compile source validation.normalizedFlags with
    | .error message => .error message
    | .ok () => .ok fun value => engine.test source validation.normalizedFlags (value.take maxSampleLength)

end Matching

end SearchPatterns
