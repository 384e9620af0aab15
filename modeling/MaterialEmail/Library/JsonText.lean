import MaterialEmail.Library.Json
import MaterialEmail.Library.JsValue
import MaterialEmail.Library.Keyed

/-! The text that `JSON.stringify(value, null, 2)` makes of a value, and `JSON.parse`: with white space between the tokens
and with all numbers of the language. What is written is read back. -/
namespace JsonText

open JsString
open Json (isDigit quoted readString)

section Numbers

def isNumeralUnit (unit : UInt16) : Bool :=
  isDigit unit || unit = 43 || unit = 45 || unit = 46 || unit = 69 || unit = 101

def allDigits (text : JsString) : Bool := text ≠ [] && text.all isDigit

/-- `(?:[eE][+-]?[0-9]+)?` -/
def isExponent : JsString → Bool
  | [] => true
  | mark :: rest =>
    (mark = 69 || mark = 101) && allDigits (if rest.head? = some 43 ∨ rest.head? = some 45 then rest.tail else rest)

/-- `(?:\.[0-9]+)?(?:[eE][+-]?[0-9]+)?` -/
def isFraction (text : JsString) : Bool :=
  if text.head? = some 46 then
    text.tail.takeWhile isDigit ≠ [] && isExponent (text.tail.dropWhile isDigit)
  else isExponent text

/-- The numbers of a text: no zero stands before another digit. -/
def isNumeral (text : JsString) : Bool :=
  let unsigned := if text.head? = some 45 then text.tail else text
  let whole := unsigned.takeWhile isDigit
  text.all isNumeralUnit && whole ≠ [] && (whole = [48] || whole.head? ≠ some 48) &&
    isFraction (unsigned.dropWhile isDigit)

/-- The finite numbers of the language, how they are written and how they are read. What is used of it are these laws. -/
structure Numerals where
  isNumber : Rat → Prop
  write : Rat → JsString
  read : JsString → JsNumber
  read_write : ∀ value, isNumber value → read (write value) = .finite value
  numeral_write : ∀ value, isNumber value → isNumeral (write value) = true
  length_write : ∀ value, isNumber value → (write value).length ≤ 25

end Numbers

section Writing

variable (numerals : Numerals)

/-- `\n` and two blanks for each level. -/
def lineBreak (depth : Nat) : JsString := 10 :: List.replicate (2 * depth) 32

/-- What follows a part of an array or an object. -/
def following (closing : UInt16) (depth : Nat) : List JsString → JsString
  | [] => lineBreak depth ++ [closing]
  | part :: parts => 44 :: lineBreak (depth + 1) ++ (part ++ following closing depth parts)

def enclose (opening closing : UInt16) (depth : Nat) : List JsString → JsString
  | [] => [opening, closing]
  | part :: parts => opening :: lineBreak (depth + 1) ++ (part ++ following closing depth parts)

mutual

/-- `JSON.stringify(value, null, 2)`, at a level. -/
def write (depth : Nat) : JsValue → JsString
  | .boolean true => ofString "true"
  | .boolean false => ofString "false"
  | .number (.finite value) => numerals.write value
  | .string value => quoted value
  | .array items => enclose 91 93 depth (itemTexts (depth + 1) items)
  | .object members => enclose 123 125 depth (memberTexts (depth + 1) members)
  | .undefined => ofString "null"
  | .null => ofString "null"
  | .nan => ofString "null"
  | .number (.infinite _) => ofString "null"

def itemTexts (depth : Nat) : List JsValue → List JsString
  | [] => []
  | item :: items => write depth item :: itemTexts depth items

/-- Members that are undefined are left out. -/
def memberTexts (depth : Nat) : List (JsString × JsValue) → List JsString
  | [] => []
  | (key, value) :: members =>
    if value.isUndefined then memberTexts depth members
    else (quoted key ++ 58 :: 32 :: write depth value) :: memberTexts depth members

end

end Writing

section Reading

variable (numerals : Numerals)

def isJsonSpace (unit : UInt16) : Bool := unit = 9 || unit = 10 || unit = 13 || unit = 32

def skip (text : JsString) : JsString := text.dropWhile isJsonSpace

/-- A number, or one of the three words. -/
def readScalar (text : JsString) : Option (JsValue × JsString) :=
  if isNumeral (text.takeWhile isNumeralUnit) then
    some (.number (numerals.read (text.takeWhile isNumeralUnit)), text.dropWhile isNumeralUnit)
  else if ofString "null" <+: text then some (.null, text.drop 4)
  else if ofString "true" <+: text then some (.boolean true, text.drop 4)
  else if ofString "false" <+: text then some (.boolean false, text.drop 5)
  else none

/-- The members of an object: of those with one key the last counts, in the place of the first. -/
def collect (members : List (JsString × JsValue)) : List (JsString × JsValue) :=
  members.foldl (fun collected member => Keyed.put Prod.fst member collected) []

mutual

/-- A value, and what follows it. -/
def read : Nat → JsString → Option (JsValue × JsString)
  | 0, _ => none
  | fuel + 1, text =>
    match skip text with
    | [] => none
    | unit :: rest =>
      if unit = 34 then (readString rest).map fun ended => (.string ended.1, ended.2)
      else if unit = 91 then
        if (skip rest).head? = some 93 then some (.array [], (skip rest).tail)
        else do
          let (item, rest) ← read fuel rest
          let (items, rest) ← readItems fuel rest
          return (.array (item :: items), rest)
      else if unit = 123 then
        if (skip rest).head? = some 125 then some (.object [], (skip rest).tail)
        else do
          let (member, rest) ← readMember fuel rest
          let (members, rest) ← readMembers fuel rest
          return (.object (collect (member :: members)), rest)
      else readScalar numerals (unit :: rest)

def readItems : Nat → JsString → Option (List JsValue × JsString)
  | 0, _ => none
  | fuel + 1, text =>
    match skip text with
    | [] => none
    | unit :: rest =>
      if unit = 93 then some ([], rest)
      else if unit = 44 then do
        let (item, rest) ← read fuel rest
        let (items, rest) ← readItems fuel rest
        return (item :: items, rest)
      else none

def readMember : Nat → JsString → Option ((JsString × JsValue) × JsString)
  | 0, _ => none
  | fuel + 1, text =>
    match skip text with
    | [] => none
    | mark :: rest =>
      if mark = 34 then do
        let (key, rest) ← readString rest
        if (skip rest).head? = some 58 then
          let (value, rest) ← read fuel (skip rest).tail
          return ((key, value), rest)
        else none
      else none

def readMembers : Nat → JsString → Option (List (JsString × JsValue) × JsString)
  | 0, _ => none
  | fuel + 1, text =>
    match skip text with
    | [] => none
    | unit :: rest =>
      if unit = 125 then some ([], rest)
      else if unit = 44 then do
        let (member, rest) ← readMember fuel rest
        let (members, rest) ← readMembers fuel rest
        return (member :: members, rest)
      else none

end

/-- `JSON.parse`, if the text is one of a value. Every step takes a unit of the text for its fuel. -/
def parse (text : JsString) : Option JsValue :=
  match read numerals text.length text with
  | some (value, rest) => if skip rest = [] then some value else none
  | none => none

end Reading

section Written

variable (numerals : Numerals)

mutual

/-- The values that are written as they are. -/
def Plain : JsValue → Prop
  | .null => True
  | .boolean _ => True
  | .number (.finite value) => numerals.isNumber value
  | .string _ => True
  | .array items => PlainItems items
  | .object members => (members.map Prod.fst).Nodup ∧ PlainMembers members
  | .undefined => False
  | .nan => False
  | .number (.infinite _) => False

def PlainItems : List JsValue → Prop
  | [] => True
  | item :: items => Plain item ∧ PlainItems items

def PlainMembers : List (JsString × JsValue) → Prop
  | [] => True
  | (_, value) :: members => Plain value ∧ PlainMembers members

end

theorem plainItems_iff {items : List JsValue} : PlainItems numerals items ↔ ∀ item ∈ items, Plain numerals item := by
  induction items with
  | nil => simp [PlainItems]
  | cons item items ih => simp [PlainItems, ih]

theorem plainMembers_iff {members : List (JsString × JsValue)} :
    PlainMembers numerals members ↔ ∀ member ∈ members, Plain numerals member.2 := by
  induction members with
  | nil => simp [PlainMembers]
  | cons member members ih => simp [PlainMembers, ih]

variable {numerals}

theorem Plain.defined {value : JsValue} (plain : Plain numerals value) : value.isUndefined = false := by
  cases value with
  | undefined => exact absurd plain (by simp [Plain])
  | _ => rfl

end Written

section Tokens

variable {numerals : Numerals} {rest : JsString}

theorem skip_lineBreak (depth : Nat) (text : JsString) : skip (lineBreak depth ++ text) = skip text := by
  unfold skip
  refine List.dropWhile_append_of_pos fun unit member => ?_
  rcases List.mem_cons.1 member with rfl | blank
  · rfl
  · rw [List.eq_of_mem_replicate blank]
    rfl

theorem skip_skip (text : JsString) : skip (skip text) = skip text := List.dropWhile_idempotent ..

theorem skip_of_head {unit : UInt16} (other : isJsonSpace unit = false) : skip (unit :: rest) = unit :: rest :=
  List.dropWhile_cons_of_neg (by simp [other])

/-- What comes next is not part of a number. -/
def Stops (rest : JsString) : Prop := ∀ unit ∈ rest.head?, isNumeralUnit unit = false

theorem stops_cons {unit : UInt16} (other : isNumeralUnit unit = false) : Stops (unit :: rest) := by
  intro next is
  cases is
  exact other

theorem stops_following (closing : UInt16) (depth : Nat) (parts : List JsString) :
    Stops (following closing depth parts ++ rest) := by
  cases parts with
  | nil => exact stops_cons (by decide)
  | cons part parts => exact stops_cons (by decide)

/-- A unit with which a value other than a string, an array or an object may begin. -/
def begins (unit : UInt16) : Prop :=
  isJsonSpace unit = false ∧ unit ≠ 34 ∧ unit ≠ 91 ∧ unit ≠ 123 ∧ unit ≠ 93 ∧ unit ≠ 125

theorem begins_of_numeralUnit {unit : UInt16} (isUnit : isNumeralUnit unit = true) : begins unit := by
  unfold begins
  refine ⟨?_, ?_, ?_, ?_, ?_, ?_⟩
  · by_contra space
    simp only [isJsonSpace, Bool.not_eq_false, Bool.or_eq_true, decide_eq_true_eq] at space
    rcases space with ((rfl | rfl) | rfl) | rfl <;> exact absurd isUnit (by decide)
  all_goals
    rintro rfl
    exact absurd isUnit (by decide)

theorem isNumeral_cons {text : JsString} (numeral : isNumeral text = true) :
    (∀ unit ∈ text, isNumeralUnit unit = true) ∧ ∃ unit front, text = unit :: front := by
  simp only [isNumeral, Bool.and_eq_true, List.all_eq_true] at numeral
  obtain ⟨⟨⟨units, filled⟩, -⟩, -⟩ := numeral
  refine ⟨units, ?_⟩
  cases text with
  | nil => simp at filled
  | cons unit front => exact ⟨unit, front, rfl⟩

theorem readScalar_numeral {text : JsString} (numeral : isNumeral text = true) (stops : Stops rest) :
    readScalar numerals (text ++ rest) = some (.number (numerals.read text), rest) := by
  have units := (isNumeral_cons numeral).1
  have front : rest.takeWhile isNumeralUnit = [] ∧ rest.dropWhile isNumeralUnit = rest := by
    cases rest with
    | nil => exact ⟨rfl, rfl⟩
    | cons unit rest =>
      have other := stops unit rfl
      exact ⟨List.takeWhile_cons_of_neg (by simp [other]), List.dropWhile_cons_of_neg (by simp [other])⟩
  have token : (text ++ rest).takeWhile isNumeralUnit = text := by
    rw [List.takeWhile_append_of_pos units, front.1, List.append_nil]
  rw [readScalar, token, if_pos numeral, List.dropWhile_append_of_pos units, front.2]

end Tokens

section Collecting

theorem collect_of_nodup {members : List (JsString × JsValue)} (distinct : (members.map Prod.fst).Nodup) :
    collect members = members := by
  have added : ∀ collected rest : List (JsString × JsValue), ((collected ++ rest).map Prod.fst).Nodup →
      rest.foldl (fun collected member => Keyed.put Prod.fst member collected) collected = collected ++ rest := by
    intro collected rest
    induction rest generalizing collected with
    | nil => simp
    | cons member rest ih =>
      intro distinct
      have absent : member.1 ∉ collected.map Prod.fst := by
        rw [List.map_append, List.map_cons] at distinct
        exact fun present => List.disjoint_of_nodup_append distinct present List.mem_cons_self
      rw [List.foldl_cons, Keyed.put_of_not_mem absent, ih _ (by simpa using distinct)]
      simp
  exact added [] members distinct

end Collecting

section Steps

variable {numerals : Numerals} {fuel : Nat} {text left after : JsString} {item : JsValue} {items : List JsValue}
  {member : JsString × JsValue} {members : List (JsString × JsValue)}

/-- A value begins with a unit that is no space. -/
theorem read_head {unit : UInt16} (isHead : isJsonSpace unit = false) : read numerals (fuel + 1) (unit :: text) =
    if unit = 34 then (readString text).map fun ended => (.string ended.1, ended.2)
    else if unit = 91 then
      if (skip text).head? = some 93 then some (.array [], (skip text).tail)
      else (read numerals fuel text).bind fun first => (readItems numerals fuel first.2).bind fun later =>
        some (.array (first.1 :: later.1), later.2)
    else if unit = 123 then
      if (skip text).head? = some 125 then some (.object [], (skip text).tail)
      else (readMember numerals fuel text).bind fun first => (readMembers numerals fuel first.2).bind fun later =>
        some (.object (collect (first.1 :: later.1)), later.2)
    else readScalar numerals (unit :: text) := by
  rw [read, skip_of_head isHead]
  rfl

theorem read_scalar {unit : UInt16} (isBegin : begins unit) :
    read numerals (fuel + 1) (unit :: text) = readScalar numerals (unit :: text) := by
  obtain ⟨notSpace, notQuote, notArray, notObject, -⟩ := isBegin
  rw [read_head notSpace]
  simp [notQuote, notArray, notObject]

theorem read_string {value : JsString} (reads : readString text = some (value, after)) :
    read numerals (fuel + 1) (34 :: text) = some (.string value, after) := by
  rw [read_head (by decide)]
  simp [reads]

theorem read_array (more : (skip text).head? ≠ some 93) (first : read numerals fuel text = some (item, left))
    (later : readItems numerals fuel left = some (items, after)) :
    read numerals (fuel + 1) (91 :: text) = some (.array (item :: items), after) := by
  rw [read_head (by decide)]
  simp [more, first, later]

theorem read_object (more : (skip text).head? ≠ some 125) (first : readMember numerals fuel text = some (member, left))
    (later : readMembers numerals fuel left = some (members, after)) :
    read numerals (fuel + 1) (123 :: text) = some (.object (collect (member :: members)), after) := by
  rw [read_head (by decide)]
  simp [more, first, later]

theorem readItems_cons (first : read numerals fuel text = some (item, left))
    (later : readItems numerals fuel left = some (items, after)) :
    readItems numerals (fuel + 1) (44 :: text) = some (item :: items, after) := by
  rw [readItems, skip_of_head (by decide)]
  simp [first, later]

theorem readMember_key {key : JsString} {value : JsValue} (reads : readString text = some (key, 58 :: left))
    (first : read numerals fuel left = some (value, after)) :
    readMember numerals (fuel + 1) (34 :: text) = some ((key, value), after) := by
  rw [readMember, skip_of_head (by decide)]
  simp [reads, skip_of_head (by decide : isJsonSpace 58 = false), first]

theorem readMembers_cons (first : readMember numerals fuel text = some (member, left))
    (later : readMembers numerals fuel left = some (members, after)) :
    readMembers numerals (fuel + 1) (44 :: text) = some (member :: members, after) := by
  rw [readMembers, skip_of_head (by decide)]
  simp [first, later]

theorem read_skip (fuel : Nat) (text : JsString) : read numerals fuel (skip text) = read numerals fuel text := by
  cases fuel with
  | zero => simp [read]
  | succ fuel =>
    rw [read, read, skip_skip]

theorem readMember_skip (fuel : Nat) (text : JsString) :
    readMember numerals fuel (skip text) = readMember numerals fuel text := by
  cases fuel with
  | zero => simp [readMember]
  | succ fuel =>
    rw [readMember, readMember, skip_skip]

theorem readItems_end (depth fuel : Nat) (rest : JsString) :
    readItems numerals (fuel + 1) (lineBreak depth ++ [93] ++ rest) = some ([], rest) := by
  rw [readItems, List.append_assoc, skip_lineBreak]
  rfl

theorem readMembers_end (depth fuel : Nat) (rest : JsString) :
    readMembers numerals (fuel + 1) (lineBreak depth ++ [125] ++ rest) = some ([], rest) := by
  rw [readMembers, List.append_assoc, skip_lineBreak]
  rfl

end Steps

section RoundTrip

variable {numerals : Numerals}

theorem write_cons (depth : Nat) {value : JsValue} (plain : Plain numerals value) :
    ∃ unit rest, write numerals depth value = unit :: rest ∧ isJsonSpace unit = false ∧ unit ≠ 93 ∧ unit ≠ 125 := by
  cases value with
  | undefined => simp [Plain] at plain
  | nan => simp [Plain] at plain
  | null => exact ⟨110, _, by rw [write]; rfl, by decide⟩
  | boolean value =>
    cases value with
    | false => exact ⟨102, _, by rw [write]; rfl, by decide⟩
    | true => exact ⟨116, _, by rw [write]; rfl, by decide⟩
  | number value =>
    cases value with
    | infinite negative => simp [Plain] at plain
    | finite value =>
      rw [Plain] at plain
      obtain ⟨units, unit, front, is⟩ := isNumeral_cons (numerals.numeral_write value plain)
      obtain ⟨notSpace, -, -, -, notArray, notObject⟩ :=
        begins_of_numeralUnit (units unit (is ▸ List.mem_cons_self))
      exact ⟨unit, front, by rw [write, is], notSpace, notArray, notObject⟩
  | string value => exact ⟨34, _, by rw [write]; rfl, by decide⟩
  | array items =>
    rw [write]
    cases itemTexts numerals (depth + 1) items with
    | nil => exact ⟨91, _, rfl, by decide⟩
    | cons part parts => exact ⟨91, _, rfl, by decide⟩
  | object members =>
    rw [write]
    cases memberTexts numerals (depth + 1) members with
    | nil => exact ⟨123, _, rfl, by decide⟩
    | cons part parts => exact ⟨123, _, rfl, by decide⟩

theorem skip_write (depth : Nat) {value : JsValue} (plain : Plain numerals value) (rest : JsString) :
    skip (write numerals depth value ++ rest) = write numerals depth value ++ rest := by
  obtain ⟨unit, front, is, notSpace, -⟩ := write_cons depth plain
  rw [is]
  exact skip_of_head notSpace

theorem memberTexts_cons (depth : Nat) {key : JsString} {value : JsValue} (plain : Plain numerals value)
    (members : List (JsString × JsValue)) : memberTexts numerals depth ((key, value) :: members) =
      (quoted key ++ 58 :: 32 :: write numerals depth value) :: memberTexts numerals depth members := by
  rw [memberTexts, if_neg (by simp [plain.defined])]

theorem skip_member (depth : Nat) (text rest : JsString) :
    skip (lineBreak depth ++ (quoted text ++ rest)) = 34 :: (Json.escape text ++ 34 :: rest) := by
  have opens : quoted text ++ rest = 34 :: (Json.escape text ++ 34 :: rest) := by simp [quoted]
  rw [skip_lineBreak, opens, skip_of_head (by decide)]

mutual

/-- What is written is read back, with whatever follows it. The recursion is on the fuel, of which each level of the value
takes a unit. -/
theorem read_write (value : JsValue) (plain : Plain numerals value) (depth fuel : Nat) (rest : JsString)
    (enough : (write numerals depth value).length ≤ fuel) (stops : Stops rest) :
    read numerals fuel (write numerals depth value ++ rest) = some (value, rest) := by
  match fuel with
  | 0 =>
    obtain ⟨unit, front, is, -⟩ := write_cons depth plain
    rw [is] at enough
    cases enough
  | fuel + 1 =>
    cases value with
    | undefined => simp [Plain] at plain
    | nan => simp [Plain] at plain
    | null =>
      rw [write]
      rfl
    | boolean value =>
      cases value with
      | false =>
        rw [write]
        rfl
      | true =>
        rw [write]
        rfl
    | number value =>
      cases value with
      | infinite negative => simp [Plain] at plain
      | finite value =>
        rw [Plain] at plain
        rw [write]
        have numeral := numerals.numeral_write value plain
        have whole : readScalar numerals (numerals.write value ++ rest) = _ := readScalar_numeral numeral stops
        obtain ⟨units, unit, front, is⟩ := isNumeral_cons numeral
        have isBegin := begins_of_numeralUnit (units unit (is ▸ List.mem_cons_self))
        rw [numerals.read_write value plain] at whole
        rw [is, List.cons_append] at whole ⊢
        rw [read_scalar isBegin, whole]
    | string value =>
      have text : quoted value ++ rest = 34 :: (Json.escape value ++ 34 :: rest) := by simp [quoted]
      rw [write, text]
      exact read_string (Json.readString_escape value rest)
    | array items =>
      rw [Plain] at plain
      rw [write] at enough ⊢
      cases items with
      | nil => rfl
      | cons item items =>
        rw [PlainItems] at plain
        rw [itemTexts, enclose] at enough ⊢
        simp only [List.length_append, List.length_cons, List.cons_append, List.append_assoc] at enough ⊢
        have first := read_write item plain.1 (depth + 1) fuel
          (following 93 depth (itemTexts numerals (depth + 1) items) ++ rest) (by omega) (stops_following _ _ _)
        have later := readItems_following items plain.2 depth fuel rest (by omega)
        have opens : skip (lineBreak (depth + 1) ++ (write numerals (depth + 1) item ++
            (following 93 depth (itemTexts numerals (depth + 1) items) ++ rest))) = write numerals (depth + 1) item ++
              (following 93 depth (itemTexts numerals (depth + 1) items) ++ rest) := by
          rw [skip_lineBreak, skip_write _ plain.1]
        refine read_array ?_ (by rw [← read_skip, opens, first]) later
        obtain ⟨unit, front, is, -, other, -⟩ := write_cons (depth + 1) plain.1
        rw [opens, is]
        simpa using other
    | object members =>
      rw [Plain] at plain
      obtain ⟨distinct, plain⟩ := plain
      rw [write] at enough ⊢
      cases members with
      | nil => rfl
      | cons member members =>
        obtain ⟨key, value⟩ := member
        rw [PlainMembers] at plain
        rw [memberTexts_cons _ plain.1, enclose] at enough ⊢
        simp only [List.length_append, List.length_cons, List.cons_append, List.append_assoc] at enough ⊢
        have later := readMembers_following members plain.2 depth fuel rest (by omega)
        have opens := skip_member (depth + 1) key (58 :: 32 :: (write numerals (depth + 1) value ++
          (following 125 depth (memberTexts numerals (depth + 1) members) ++ rest)))
        have first := readMember_following key value plain.1 (depth + 1) fuel
          (following 125 depth (memberTexts numerals (depth + 1) members) ++ rest)
          (by simp only [quoted, List.length_append, List.length_cons] at enough ⊢; omega) (stops_following _ _ _)
        have whole := read_object (by rw [opens]; simp) first later
        rwa [collect_of_nodup distinct] at whole
termination_by fuel

theorem readMember_following (key : JsString) (value : JsValue) (plain : Plain numerals value) (depth fuel : Nat)
    (rest : JsString) (enough : (quoted key ++ 58 :: 32 :: write numerals depth value).length ≤ fuel) (stops : Stops rest) :
    readMember numerals fuel (lineBreak depth ++ (quoted key ++ 58 :: 32 :: (write numerals depth value ++ rest))) =
      some ((key, value), rest) := by
  match fuel with
  | 0 => simp at enough
  | fuel + 1 =>
    simp only [List.length_append, List.length_cons] at enough
    rw [← readMember_skip, skip_member]
    refine readMember_key (Json.readString_escape key _) ?_
    have blank : skip (32 :: (write numerals depth value ++ rest)) = write numerals depth value ++ rest := by
      rw [skip, List.dropWhile_cons_of_pos (by decide), ← skip, skip_write depth plain]
    rw [← read_skip, blank, read_write value plain depth fuel rest (by omega) stops]
termination_by fuel

theorem readItems_following (items : List JsValue) (plain : PlainItems numerals items) (depth fuel : Nat) (rest : JsString)
    (enough : (following 93 depth (itemTexts numerals (depth + 1) items)).length ≤ fuel) :
    readItems numerals fuel (following 93 depth (itemTexts numerals (depth + 1) items) ++ rest) = some (items, rest) := by
  match fuel, items with
  | 0, [] => simp [itemTexts, following] at enough
  | 0, item :: items => simp [itemTexts, following] at enough
  | fuel + 1, [] => exact readItems_end depth fuel rest
  | fuel + 1, item :: items =>
    rw [PlainItems] at plain
    rw [itemTexts, following] at enough ⊢
    simp only [List.length_append, List.length_cons, List.cons_append, List.append_assoc] at enough ⊢
    have first := read_write item plain.1 (depth + 1) fuel
      (following 93 depth (itemTexts numerals (depth + 1) items) ++ rest) (by omega) (stops_following _ _ _)
    refine readItems_cons ?_ (readItems_following items plain.2 depth fuel rest (by omega))
    rw [← read_skip, skip_lineBreak, skip_write _ plain.1, first]
termination_by fuel

theorem readMembers_following (members : List (JsString × JsValue)) (plain : PlainMembers numerals members)
    (depth fuel : Nat) (rest : JsString)
    (enough : (following 125 depth (memberTexts numerals (depth + 1) members)).length ≤ fuel) :
    readMembers numerals fuel (following 125 depth (memberTexts numerals (depth + 1) members) ++ rest) =
      some (members, rest) := by
  match fuel, members with
  | 0, [] => simp [memberTexts, following] at enough
  | 0, (key, value) :: members =>
    rw [PlainMembers] at plain
    simp [memberTexts_cons _ plain.1, following] at enough
  | fuel + 1, [] => exact readMembers_end depth fuel rest
  | fuel + 1, (key, value) :: members =>
    rw [PlainMembers] at plain
    rw [memberTexts_cons _ plain.1, following] at enough ⊢
    simp only [List.length_append, List.length_cons, List.cons_append, List.append_assoc] at enough ⊢
    have first := readMember_following key value plain.1 (depth + 1) fuel
      (following 125 depth (memberTexts numerals (depth + 1) members) ++ rest)
      (by simp only [quoted, List.length_append, List.length_cons] at enough ⊢; omega) (stops_following _ _ _)
    exact readMembers_cons first (readMembers_following members plain.2 depth fuel rest (by omega))
termination_by fuel

end

/-- `JSON.parse` of a text that was written, with white space behind it. -/
theorem parse_write {value : JsValue} (plain : Plain numerals value) {blank : JsString} (white : skip blank = []) :
    parse numerals (write numerals 0 value ++ blank) = some value := by
  have stops : Stops blank := by
    intro unit first
    have space : isJsonSpace unit = true := by
      cases blank with
      | nil => cases first
      | cons other rest =>
        cases first
        by_contra other
        rw [skip_of_head (by simpa using other)] at white
        cases white
    by_contra part
    have := (begins_of_numeralUnit (by simpa using part)).1
    rw [space] at this
    cases this
  have whole := read_write value plain 0 (write numerals 0 value ++ blank).length blank (by simp) stops
  rw [parse, whole]
  simp [white]

end RoundTrip

section Lengths

theorem length_escape_le (text : JsString) : (Json.escape text).length ≤ 6 * text.length := by
  have one : ∀ unit : UInt16, (Json.escapeUnit unit).length ≤ 6 := by
    intro unit
    unfold Json.escapeUnit
    split
    · simp
    · split
      · simp [Json.unicodeEscape]
      · simp
  induction text using Json.escape.induct with
  | case1 => exact Nat.zero_le _
  | case2 unit =>
    have bound := one unit
    rw [Json.escape, List.length_singleton]
    omega
  | case3 first second later pair ih =>
    rw [Json.escape, if_pos pair]
    simp only [List.length_cons]
    omega
  | case4 first second later apart ih =>
    have bound := one first
    rw [Json.escape, if_neg apart, List.length_append]
    simp only [List.length_cons] at ih ⊢
    omega

theorem length_quoted_le (text : JsString) : (quoted text).length ≤ 6 * text.length + 2 := by
  have bound := length_escape_le text
  simp only [quoted, List.length_append, List.length_cons, List.length_nil]
  omega

theorem length_following_le (closing : UInt16) (depth : Nat) {parts : List JsString} {bound : Nat}
    (short : ∀ part ∈ parts, part.length ≤ bound) :
    (following closing depth parts).length ≤ parts.length * (bound + 2 * depth + 4) + 2 * depth + 2 := by
  induction parts with
  | nil => simp [following, lineBreak]
  | cons part parts ih =>
    have first := short part List.mem_cons_self
    have rest := ih fun other member => short other (List.mem_cons_of_mem _ member)
    simp only [following, lineBreak, List.length_append, List.length_cons, List.length_replicate, Nat.succ_mul] at rest ⊢
    omega

theorem length_enclose_le (opening closing : UInt16) (depth : Nat) {parts : List JsString} {bound : Nat}
    (short : ∀ part ∈ parts, part.length ≤ bound) :
    (enclose opening closing depth parts).length ≤ parts.length * (bound + 2 * depth + 4) + 2 * depth + 2 := by
  cases parts with
  | nil => simp [enclose]
  | cons part parts =>
    have same : (enclose opening closing depth (part :: parts)).length =
        (following closing depth (part :: parts)).length := by simp [enclose, following]
    rw [same]
    exact length_following_le closing depth short

variable {numerals : Numerals} {depth : Nat}

theorem itemTexts_eq (items : List JsValue) : itemTexts numerals depth items = items.map (write numerals depth) := by
  induction items with
  | nil => rfl
  | cons item items ih => rw [itemTexts, ih, List.map_cons]

theorem memberTexts_eq {members : List (JsString × JsValue)} (plain : PlainMembers numerals members) :
    memberTexts numerals depth members =
      members.map fun member => quoted member.1 ++ 58 :: 32 :: write numerals depth member.2 := by
  induction members with
  | nil => rfl
  | cons member members ih =>
    rw [PlainMembers] at plain
    rw [memberTexts_cons _ plain.1, ih plain.2, List.map_cons]

theorem length_array_le {items : List JsValue} {bound : Nat}
    (short : ∀ item ∈ items, (write numerals (depth + 1) item).length ≤ bound) :
    (write numerals depth (.array items)).length ≤ items.length * (bound + 2 * depth + 4) + 2 * depth + 2 := by
  have parts : ∀ part ∈ items.map (write numerals (depth + 1)), part.length ≤ bound := by simpa using short
  have whole := length_enclose_le 91 93 depth parts
  rw [write, itemTexts_eq]
  rwa [List.length_map] at whole

theorem length_object_le {members : List (JsString × JsValue)} (plain : PlainMembers numerals members) {bound : Nat}
    (short : ∀ member ∈ members, 6 * member.1.length + (write numerals (depth + 1) member.2).length + 4 ≤ bound) :
    (write numerals depth (.object members)).length ≤ members.length * (bound + 2 * depth + 4) + 2 * depth + 2 := by
  have parts : ∀ part ∈ members.map fun member => quoted member.1 ++ 58 :: 32 :: write numerals (depth + 1) member.2,
      part.length ≤ bound := by
    intro part isPart
    obtain ⟨member, isMember, rfl⟩ := List.mem_map.1 isPart
    have key := length_quoted_le member.1
    have all := short member isMember
    simp only [List.length_append, List.length_cons]
    omega
  have whole := length_enclose_le 123 125 depth parts
  rw [write, memberTexts_eq plain]
  rwa [List.length_map] at whole

end Lengths

end JsonText
