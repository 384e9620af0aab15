import Mathlib.Data.List.Nodup
import MaterialEmail.Library.JsDate

/-! JSON values, the texts that `JSON.stringify` makes of them, and the reading of such texts: numbers are whole, and
there is no white space between the tokens. -/

inductive Json where
  | null
  | bool (value : Bool)
  | number (value : Int)
  | string (value : JsString)
  | array (items : List Json)
  | object (members : List (JsString × Json))

namespace Json

open JsString JsDate

section Text

def hexDigit (value : Nat) : UInt16 := UInt16.ofNat (if value < 10 then 48 + value else 87 + value)

/-- `\u` and four digits. -/
def unicodeEscape (unit : UInt16) : JsString :=
  [92, 117, hexDigit (unit.toNat / 4096), hexDigit (unit.toNat / 256 % 16), hexDigit (unit.toNat / 16 % 16),
    hexDigit (unit.toNat % 16)]

/-- The letter behind the backslash, for units that have one. -/
def escapeLetter? (unit : UInt16) : Option UInt16 :=
  if unit = 8 then some 98
  else if unit = 9 then some 116
  else if unit = 10 then some 110
  else if unit = 12 then some 102
  else if unit = 13 then some 114
  else if unit = 34 then some 34
  else if unit = 92 then some 92
  else none

def escapeUnit (unit : UInt16) : JsString :=
  match escapeLetter? unit with
  | some letter => [92, letter]
  | none => if unit < 32 ∨ isHighSurrogate unit ∨ isLowSurrogate unit then unicodeEscape unit else [unit]

/-- Surrogates stand as they are only in pairs. -/
def escape : JsString → JsString
  | [] => []
  | [unit] => escapeUnit unit
  | first :: second :: rest =>
    if isHighSurrogate first ∧ isLowSurrogate second then first :: second :: escape rest
    else escapeUnit first ++ escape (second :: rest)

def quoted (text : JsString) : JsString := 34 :: escape text ++ [34]

mutual

/-- `JSON.stringify`. -/
def stringify : Json → JsString
  | .null => ofString "null"
  | .bool true => ofString "true"
  | .bool false => ofString "false"
  | .number value => if value < 0 then 45 :: decimal value.natAbs else decimal value.natAbs
  | .string value => quoted value
  | .array [] => [91, 93]
  | .array (item :: items) => 91 :: stringify item ++ stringifyItems items
  | .object [] => [123, 125]
  | .object ((key, value) :: members) => 123 :: quoted key ++ 58 :: stringify value ++ stringifyMembers members

/-- What follows an item of an array. -/
def stringifyItems : List Json → JsString
  | [] => [93]
  | item :: items => 44 :: stringify item ++ stringifyItems items

/-- What follows a member of an object. -/
def stringifyMembers : List (JsString × Json) → JsString
  | [] => [125]
  | (key, value) :: members => 44 :: quoted key ++ 58 :: stringify value ++ stringifyMembers members

end

end Text

section Reading

def hexValue? (unit : UInt16) : Option Nat :=
  if 48 ≤ unit ∧ unit ≤ 57 then some (unit.toNat - 48)
  else if 97 ≤ unit ∧ unit ≤ 102 then some (unit.toNat - 87)
  else if 65 ≤ unit ∧ unit ≤ 70 then some (unit.toNat - 55)
  else none

def unescape (letter : UInt16) : Option UInt16 :=
  if letter = 98 then some 8
  else if letter = 116 then some 9
  else if letter = 110 then some 10
  else if letter = 102 then some 12
  else if letter = 114 then some 13
  else if letter = 34 ∨ letter = 92 ∨ letter = 47 then some letter
  else none

def readUnicode (a b c d : UInt16) : Option UInt16 := do
  let a ← hexValue? a
  let b ← hexValue? b
  let c ← hexValue? c
  let d ← hexValue? d
  return UInt16.ofNat (((a * 16 + b) * 16 + c) * 16 + d)

/-- The rest of a string behind its opening mark, and what follows the string. -/
def readString : JsString → Option (JsString × JsString)
  | [] => none
  | unit :: rest =>
    if unit = 34 then some ([], rest)
    else if unit = 92 then
      match rest with
      | 117 :: a :: b :: c :: d :: rest => do
        let unit ← readUnicode a b c d
        let (text, rest) ← readString rest
        return (unit :: text, rest)
      | letter :: rest => do
        let unit ← unescape letter
        let (text, rest) ← readString rest
        return (unit :: text, rest)
      | [] => none
    else if unit < 32 then none
    else do
      let (text, rest) ← readString rest
      return (unit :: text, rest)

def isDigit (unit : UInt16) : Bool := (digit? unit).isSome

def readDigits (text : JsString) : Option (Nat × JsString) :=
  if (text.takeWhile isDigit).isEmpty then none
  else (JsDate.number (text.takeWhile isDigit)).map fun value => (value, text.dropWhile isDigit)

def readWord (text : JsString) : Option (Json × JsString) :=
  if ofString "null" <+: text then some (.null, text.drop 4)
  else if ofString "true" <+: text then some (.bool true, text.drop 4)
  else if ofString "false" <+: text then some (.bool false, text.drop 5)
  else none

mutual

/-- A value, and what follows it. -/
def read : Nat → JsString → Option (Json × JsString)
  | 0, _ => none
  | _, [] => none
  | fuel + 1, unit :: rest =>
    if unit = 34 then do
      let (text, rest) ← readString rest
      return (.string text, rest)
    else if unit = 91 then
      if rest.head? = some 93 then some (.array [], rest.tail)
      else do
        let (item, rest) ← read fuel rest
        let (items, rest) ← readItems fuel rest
        return (.array (item :: items), rest)
    else if unit = 123 then
      if rest.head? = some 125 then some (.object [], rest.tail)
      else do
        let (member, rest) ← readMember fuel rest
        let (members, rest) ← readMembers fuel rest
        return (.object (member :: members), rest)
    else if unit = 45 then do
      let (value, rest) ← readDigits rest
      return (.number (-value), rest)
    else if isDigit unit then do
      let (value, rest) ← readDigits (unit :: rest)
      return (.number value, rest)
    else readWord (unit :: rest)

def readItems : Nat → JsString → Option (List Json × JsString)
  | 0, _ => none
  | _, [] => none
  | fuel + 1, unit :: rest =>
    if unit = 93 then some ([], rest)
    else if unit = 44 then do
      let (item, rest) ← read fuel rest
      let (items, rest) ← readItems fuel rest
      return (item :: items, rest)
    else none

def readMember : Nat → JsString → Option ((JsString × Json) × JsString)
  | 0, _ => none
  | _, [] => none
  | fuel + 1, mark :: rest =>
    if mark = 34 then do
      let (key, rest) ← readString rest
      if rest.head? = some 58 then
        let (value, rest) ← read fuel rest.tail
        return ((key, value), rest)
      else none
    else none

def readMembers : Nat → JsString → Option (List (JsString × Json) × JsString)
  | 0, _ => none
  | _, [] => none
  | fuel + 1, unit :: rest =>
    if unit = 125 then some ([], rest)
    else if unit = 44 then do
      let (member, rest) ← readMember fuel rest
      let (members, rest) ← readMembers fuel rest
      return (member :: members, rest)
    else none

end

/-- `JSON.parse`. -/
def parse (text : JsString) : Option Json :=
  match read text.length text with
  | some (value, []) => some value
  | _ => none

end Reading

section Strings

theorem hexValue_hexDigit {value : Nat} (small : value < 16) : hexValue? (hexDigit value) = some value := by
  revert value
  decide

theorem readUnicode_escape (unit : UInt16) :
    readUnicode (hexDigit (unit.toNat / 4096)) (hexDigit (unit.toNat / 256 % 16)) (hexDigit (unit.toNat / 16 % 16))
      (hexDigit (unit.toNat % 16)) = some unit := by
  have bound : unit.toNat < 65536 := unit.toNat_lt
  have whole : ((unit.toNat / 4096 * 16 + unit.toNat / 256 % 16) * 16 + unit.toNat / 16 % 16) * 16 + unit.toNat % 16 =
      unit.toNat := by omega
  have first : hexValue? (hexDigit (unit.toNat / 4096)) = some (unit.toNat / 4096) := hexValue_hexDigit (by omega)
  simp only [readUnicode, first, hexValue_hexDigit (Nat.mod_lt _ (by decide : 0 < 16)), Option.bind_eq_bind,
    Option.bind_some, whole, UInt16.ofNat_toNat, Option.pure_def]

theorem escapeLetter_eq_some {unit letter : UInt16} (has : escapeLetter? unit = some letter) :
    unescape letter = some unit ∧ letter ≠ 117 := by
  unfold escapeLetter? at has
  split_ifs at has with is is is is is is is
  all_goals
    obtain rfl := Option.some.inj has
    rw [is]
    decide

theorem readString_plain {unit : UInt16} (plain : unit ≠ 34 ∧ unit ≠ 92 ∧ ¬ unit < 32) (rest : JsString) :
    readString (unit :: rest) = (readString rest).map fun ended => (unit :: ended.1, ended.2) := by
  rw [readString.eq_def]
  simp only [plain, if_false]
  cases readString rest <;> rfl

theorem readString_letter {unit letter : UInt16} (back : unescape letter = some unit) (notUnicode : letter ≠ 117)
    (rest : JsString) :
    readString (92 :: letter :: rest) = (readString rest).map fun ended => (unit :: ended.1, ended.2) := by
  rw [readString.eq_def]
  simp only [if_neg (by decide : ¬ (92 : UInt16) = 34), if_true]
  split
  · rename_i same
    exact absurd (List.cons.inj same).1 notUnicode
  · rename_i letter' rest' _ same
    obtain ⟨rfl, rfl⟩ := List.cons.inj same
    rw [back]
    cases readString rest <;> rfl
  · rename_i same
    cases same

theorem readString_unicode (unit : UInt16) (rest : JsString) :
    readString (unicodeEscape unit ++ rest) = (readString rest).map fun ended => (unit :: ended.1, ended.2) := by
  rw [readString.eq_def]
  simp only [unicodeEscape, List.cons_append, List.nil_append, if_neg (by decide : ¬ (92 : UInt16) = 34), if_true,
    readUnicode_escape]
  cases readString rest <;> rfl

theorem readString_escapeUnit (unit : UInt16) (rest : JsString) :
    readString (escapeUnit unit ++ rest) = (readString rest).map fun ended => (unit :: ended.1, ended.2) := by
  unfold escapeUnit
  cases has : escapeLetter? unit with
  | some letter =>
    obtain ⟨back, notUnicode⟩ := escapeLetter_eq_some has
    exact readString_letter back notUnicode rest
  | none =>
    by_cases special : unit < 32 ∨ isHighSurrogate unit = true ∨ isLowSurrogate unit = true
    · simp only [if_pos special]
      exact readString_unicode unit rest
    · simp only [if_neg special]
      have plain : unit ≠ 34 ∧ unit ≠ 92 ∧ ¬ unit < 32 := by
        refine ⟨?_, ?_, fun small => special (Or.inl small)⟩
        · rintro rfl
          cases has
        · rintro rfl
          cases has
      exact readString_plain plain rest

theorem surrogate_plain {unit : UInt16} (surrogate : isHighSurrogate unit = true ∨ isLowSurrogate unit = true) :
    unit ≠ 34 ∧ unit ≠ 92 ∧ ¬ unit < 32 := by
  have above : 0xD800 ≤ unit := by
    rcases surrogate with high | low
    · simp only [isHighSurrogate, Bool.and_eq_true, decide_eq_true_eq] at high
      exact high.1
    · simp only [isLowSurrogate, Bool.and_eq_true, decide_eq_true_eq] at low
      exact UInt16.le_trans (by decide) low.1
  have bound : 0xD800 ≤ unit.toNat := UInt16.le_iff_toNat_le.1 above
  refine ⟨?_, ?_, fun small => ?_⟩
  · rintro rfl
    exact absurd bound (by decide)
  · rintro rfl
    exact absurd bound (by decide)
  · have := UInt16.lt_iff_toNat_lt.1 small
    have : unit.toNat < 32 := this
    omega

theorem readString_end (rest : JsString) : readString (34 :: rest) = some ([], rest) := by
  rw [readString.eq_def]
  rfl

/-- A string that is written is read back. -/
theorem readString_escape (text rest : JsString) : readString (escape text ++ 34 :: rest) = some (text, rest) := by
  induction text using escape.induct with
  | case1 => exact readString_end rest
  | case2 unit =>
    rw [escape, readString_escapeUnit, readString_end]
    rfl
  | case3 first second later pair ih =>
    rw [escape, if_pos pair, List.cons_append, List.cons_append, readString_plain (surrogate_plain (Or.inl pair.1)),
      readString_plain (surrogate_plain (Or.inr pair.2)), ih]
    rfl
  | case4 first second later apart ih =>
    rw [escape, if_neg apart, List.append_assoc, readString_escapeUnit, ih]
    rfl

end Strings

section Values

/-- What comes next is not part of a number. -/
def Stops (rest : JsString) : Prop := ∀ unit ∈ rest.head?, isDigit unit = false

theorem stops_cons {unit : UInt16} (rest : JsString) (other : isDigit unit = false) : Stops (unit :: rest) := by
  intro next is
  cases is
  exact other

theorem isDigit_decimal (value : Nat) : ∀ unit ∈ decimal value, isDigit unit = true := isDigit_digits _ _

theorem readDigits_decimal (value : Nat) {rest : JsString} (stops : Stops rest) :
    readDigits (decimal value ++ rest) = some (value, rest) := by
  have front : rest.takeWhile isDigit = [] ∧ rest.dropWhile isDigit = rest := by
    cases rest with
    | nil => exact ⟨rfl, rfl⟩
    | cons unit rest =>
      have other := stops unit rfl
      exact ⟨List.takeWhile_cons_of_neg (by simp [other]), List.dropWhile_cons_of_neg (by simp [other])⟩
  have filled : decimal value ≠ [] := by
    intro empty
    have lengths := length_decimal value
    rw [empty] at lengths
    cases lengths
  rw [readDigits, List.takeWhile_append_of_pos (isDigit_decimal value), front.1, List.append_nil,
    List.dropWhile_append_of_pos (isDigit_decimal value), front.2, number_decimal]
  simp [filled]

theorem decimal_cons (value : Nat) : ∃ unit rest, decimal value = unit :: rest ∧ isDigit unit = true := by
  cases is : decimal value with
  | nil =>
    have lengths := length_decimal value
    rw [is] at lengths
    cases lengths
  | cons unit rest => exact ⟨unit, rest, rfl, isDigit_decimal value unit (is ▸ List.mem_cons_self)⟩

theorem digit_marks {unit : UInt16} (digit : isDigit unit = true) :
    unit ≠ 34 ∧ unit ≠ 91 ∧ unit ≠ 123 ∧ unit ≠ 45 ∧ unit ≠ 93 ∧ unit ≠ 125 := by
  refine ⟨?_, ?_, ?_, ?_, ?_, ?_⟩
  all_goals
    rintro rfl
    exact absurd digit (by decide)

theorem read_decimal (fuel value : Nat) {rest : JsString} (stops : Stops rest) :
    read (fuel + 1) (decimal value ++ rest) = some (.number value, rest) := by
  obtain ⟨unit, front, is, digit⟩ := decimal_cons value
  have marks := digit_marks digit
  have whole := readDigits_decimal value stops
  rw [is, List.cons_append] at whole ⊢
  rw [read]
  simp only [marks, if_false, digit, if_true, whole]
  rfl

theorem read_word (fuel : Nat) {word : JsString} {value : Json} {rest : JsString}
    (isWord : (word = ofString "null" ∧ value = .null) ∨ (word = ofString "true" ∧ value = .bool true) ∨
      (word = ofString "false" ∧ value = .bool false)) :
    read (fuel + 1) (word ++ rest) = some (value, rest) := by
  rcases isWord with ⟨rfl, rfl⟩ | ⟨rfl, rfl⟩ | ⟨rfl, rfl⟩
  · rfl
  · rfl
  · rfl

/-- The texts of values are not empty, and none begins like the end of an array or an object. -/
theorem stringify_cons (value : Json) :
    ∃ unit rest, stringify value = unit :: rest ∧ unit ≠ 93 ∧ unit ≠ 125 := by
  cases value with
  | null => exact ⟨110, _, rfl, by decide, by decide⟩
  | bool value =>
    cases value with
    | false => exact ⟨102, _, rfl, by decide, by decide⟩
    | true => exact ⟨116, _, rfl, by decide, by decide⟩
  | number value =>
    rw [stringify]
    split
    · exact ⟨45, _, rfl, by decide, by decide⟩
    · obtain ⟨unit, rest, is, digit⟩ := decimal_cons value.natAbs
      exact ⟨unit, rest, is, (digit_marks digit).2.2.2.2⟩
  | string value =>
    rw [stringify]
    exact ⟨34, _, rfl, by decide, by decide⟩
  | array items =>
    cases items with
    | nil => exact ⟨91, _, by rw [stringify], by decide, by decide⟩
    | cons item items =>
      rw [stringify]
      exact ⟨91, _, rfl, by decide, by decide⟩
  | object members =>
    cases members with
    | nil => exact ⟨123, _, by rw [stringify], by decide, by decide⟩
    | cons member members =>
      rw [stringify]
      exact ⟨123, _, rfl, by decide, by decide⟩

theorem stops_items (items : List Json) (rest : JsString) : Stops (stringifyItems items ++ rest) := by
  cases items with
  | nil =>
    rw [stringifyItems]
    exact stops_cons _ (by decide)
  | cons item items =>
    rw [stringifyItems]
    exact stops_cons _ (by decide)

theorem stops_members (members : List (JsString × Json)) (rest : JsString) :
    Stops (stringifyMembers members ++ rest) := by
  cases members with
  | nil =>
    rw [stringifyMembers]
    exact stops_cons _ (by decide)
  | cons member members =>
    rw [stringifyMembers]
    exact stops_cons _ (by decide)

section Steps

variable {fuel : Nat} {text left after : JsString} {item : Json} {items : List Json} {member : JsString × Json}
  {members : List (JsString × Json)}

theorem read_string {value : JsString} (reads : readString text = some (value, after)) :
    read (fuel + 1) (34 :: text) = some (.string value, after) := by
  rw [read]
  simp [reads]

theorem read_negative {value : Nat} (reads : readDigits text = some (value, after)) :
    read (fuel + 1) (45 :: text) = some (.number (-value), after) := by
  rw [read]
  simp [reads]

theorem read_array (more : text.head? ≠ some 93) (first : read fuel text = some (item, left))
    (later : readItems fuel left = some (items, after)) :
    read (fuel + 1) (91 :: text) = some (.array (item :: items), after) := by
  rw [read]
  simp [more, first, later]

theorem read_object (more : text.head? ≠ some 125) (first : readMember fuel text = some (member, left))
    (later : readMembers fuel left = some (members, after)) :
    read (fuel + 1) (123 :: text) = some (.object (member :: members), after) := by
  rw [read]
  simp [more, first, later]

theorem readItems_cons (first : read fuel text = some (item, left)) (later : readItems fuel left = some (items, after)) :
    readItems (fuel + 1) (44 :: text) = some (item :: items, after) := by
  rw [readItems]
  simp [first, later]

theorem readMember_key (fuel : Nat) {key : JsString} {value : Json} (reads : readString text = some (key, 58 :: left))
    (first : read fuel left = some (value, after)) :
    readMember (fuel + 1) (34 :: text) = some ((key, value), after) := by
  rw [readMember]
  simp [reads, first]

theorem readMembers_cons (first : readMember fuel text = some (member, left))
    (later : readMembers fuel left = some (members, after)) :
    readMembers (fuel + 1) (44 :: text) = some (member :: members, after) := by
  rw [readMembers]
  simp [first, later]

end Steps

mutual

/-- What is written is read back, with whatever follows it. The recursion is that of the value; each level of it
takes a unit of the text for its fuel. -/
theorem read_stringify (value : Json) (fuel : Nat) (rest : JsString) (enough : (stringify value).length ≤ fuel)
    (stops : Stops rest) : read fuel (stringify value ++ rest) = some (value, rest) := by
  match fuel with
  | 0 =>
    obtain ⟨unit, front, is, _⟩ := stringify_cons value
    rw [is] at enough
    cases enough
  | fuel + 1 =>
    cases value with
    | null => exact read_word fuel (Or.inl ⟨by rw [stringify], rfl⟩)
    | bool value =>
      cases value with
      | false => exact read_word fuel (Or.inr (Or.inr ⟨by rw [stringify], rfl⟩))
      | true => exact read_word fuel (Or.inr (Or.inl ⟨by rw [stringify], rfl⟩))
    | number value =>
      rw [stringify]
      by_cases negative : value < 0
      · have back : -(value.natAbs : Int) = value := by omega
        rw [if_pos negative, List.cons_append, read_negative (readDigits_decimal value.natAbs stops), back]
      · have back : (value.natAbs : Int) = value := by omega
        rw [if_neg negative, read_decimal fuel value.natAbs stops, back]
    | string value =>
      have text : quoted value ++ rest = 34 :: (escape value ++ 34 :: rest) := by simp [quoted]
      rw [stringify, text]
      exact read_string (readString_escape value rest)
    | array items =>
      cases items with
      | nil =>
        rw [stringify, List.cons_append, read]
        rfl
      | cons item items =>
        rw [stringify] at enough ⊢
        simp only [List.length_append, List.length_cons, List.cons_append, List.append_assoc] at enough ⊢
        have more : (stringify item ++ (stringifyItems items ++ rest)).head? ≠ some 93 := by
          obtain ⟨unit, front, is, other, _⟩ := stringify_cons item
          rw [is]
          simpa using other
        exact read_array more (read_stringify item fuel _ (by omega) (stops_items items rest))
          (readItems_stringify items fuel rest (by omega))
    | object members =>
      cases members with
      | nil =>
        rw [stringify, List.cons_append, read]
        rfl
      | cons member members =>
        obtain ⟨key, value⟩ := member
        rw [stringify] at enough ⊢
        simp only [quoted, List.length_append, List.length_cons, List.cons_append, List.append_assoc] at enough ⊢
        match fuel with
        | 0 => simp at enough
        | fuel + 1 =>
          have first := readMember_key fuel (readString_escape key _)
            (read_stringify value fuel _ (by omega) (stops_members members rest))
          exact read_object (by simp) first (readMembers_stringify members (fuel + 1) rest (by omega))

theorem readItems_stringify (items : List Json) (fuel : Nat) (rest : JsString)
    (enough : (stringifyItems items).length ≤ fuel) :
    readItems fuel (stringifyItems items ++ rest) = some (items, rest) := by
  match fuel, items with
  | 0, [] => simp [stringifyItems] at enough
  | 0, item :: items => simp [stringifyItems] at enough
  | fuel + 1, [] =>
    rw [stringifyItems, List.cons_append, readItems]
    rfl
  | fuel + 1, item :: items =>
    rw [stringifyItems] at enough ⊢
    simp only [List.length_append, List.length_cons, List.cons_append, List.append_assoc] at enough ⊢
    exact readItems_cons (read_stringify item fuel _ (by omega) (stops_items items rest))
      (readItems_stringify items fuel rest (by omega))

theorem readMembers_stringify (members : List (JsString × Json)) (fuel : Nat) (rest : JsString)
    (enough : (stringifyMembers members).length ≤ fuel) :
    readMembers fuel (stringifyMembers members ++ rest) = some (members, rest) := by
  match fuel, members with
  | 0, [] => simp [stringifyMembers] at enough
  | 0, (key, value) :: members => simp [stringifyMembers] at enough
  | fuel + 1, [] =>
    rw [stringifyMembers, List.cons_append, readMembers]
    rfl
  | 1, (key, value) :: members => simp [stringifyMembers, quoted] at enough
  | fuel + 2, (key, value) :: members =>
    rw [stringifyMembers] at enough ⊢
    simp only [quoted, List.length_append, List.length_cons, List.cons_append, List.append_assoc] at enough ⊢
    have first := readMember_key fuel (readString_escape key _)
      (read_stringify value fuel _ (by omega) (stops_members members rest))
    exact readMembers_cons first (readMembers_stringify members (fuel + 1) rest (by omega))

end

/-- `JSON.parse(JSON.stringify(value))`. -/
theorem parse_stringify (value : Json) : parse (stringify value) = some value := by
  have whole := read_stringify value (stringify value).length [] le_rfl (fun unit is => nomatch is)
  rw [List.append_nil] at whole
  rw [parse, whole]

theorem stringify_injective {first second : Json} (same : stringify first = stringify second) : first = second := by
  have back := parse_stringify first
  rw [same, parse_stringify] at back
  exact (Option.some.inj back).symm

end Values

section Codecs

/-- What a program makes of its values before they are written, and of what it has read. -/
structure Codec (α : Type) where
  encode : α → Json
  decode : Json → Option α
  decode_encode : ∀ value, decode (encode value) = some value

variable {α β : Type}

theorem Codec.injective (codec : Codec α) {first second : α} (same : codec.encode first = codec.encode second) :
    first = second := by
  have back := codec.decode_encode first
  rw [same, codec.decode_encode] at back
  exact (Option.some.inj back).symm

/-- A value through a text and back. -/
theorem Codec.parse_stringify (codec : Codec α) (value : α) :
    (parse (stringify (codec.encode value))).bind codec.decode = some value := by
  rw [Json.parse_stringify, Option.bind_some, codec.decode_encode]

/-- Whatever is read as it is. -/
def raw : Codec Json where
  encode := id
  decode := some
  decode_encode _ := rfl

def text : Codec JsString where
  encode := .string
  decode
    | .string value => some value
    | _ => none
  decode_encode _ := rfl

def flag : Codec Bool where
  encode := .bool
  decode
    | .bool value => some value
    | _ => none
  decode_encode _ := rfl

def count : Codec Nat where
  encode value := .number value
  decode
    | .number value => some value.toNat
    | _ => none
  decode_encode _ := rfl

theorem mapM_encode (codec : Codec α) (values : List α) :
    (values.map codec.encode).mapM codec.decode = some values := by
  induction values with
  | nil => rfl
  | cons value values ih => simp [codec.decode_encode, ih]

def list (codec : Codec α) : Codec (List α) where
  encode values := .array (values.map codec.encode)
  decode
    | .array items => items.mapM codec.decode
    | _ => none
  decode_encode := mapM_encode codec

/-- The names of an enumeration. -/
def names [DecidableEq α] (all : List α) (name : α → JsString) (complete : ∀ value, value ∈ all)
    (distinct : (all.map name).Nodup) : Codec α where
  encode value := .string (name value)
  decode
    | .string given => all.find? fun value => name value = given
    | _ => none
  decode_encode value := by
    cases found : all.find? fun other => name other = name value with
    | none =>
      have absent := List.find?_eq_none.1 found value (complete value)
      simp at absent
    | some other =>
      have same := List.find?_some found
      simp only [decide_eq_true_eq] at same
      exact found.trans (congrArg some (List.inj_on_of_nodup_map distinct (complete other) (complete value) same))

/-- A record whose keys are free, such as a dictionary. -/
def dictionary (codec : Codec α) : Codec (List (JsString × α)) where
  encode entries := .object (entries.map fun entry => (entry.1, codec.encode entry.2))
  decode
    | .object members => members.mapM fun member => (codec.decode member.2).map fun value => (member.1, value)
    | _ => none
  decode_encode entries := by
    induction entries with
    | nil => rfl
    | cons entry entries ih => simp_all [codec.decode_encode]

end Codecs

section Members

/-- Some members of an object. They are found among others that have other keys. -/
structure Members (α : Type) where
  keys : List JsString
  encode : α → List (JsString × Json)
  decode : List (JsString × Json) → Option α
  encode_keys : ∀ value, ∀ member ∈ encode value, member.1 ∈ keys
  decode_among : ∀ value before after, (∀ member ∈ before ++ after, member.1 ∉ keys) →
    decode (before ++ (encode value ++ after)) = some value

variable {α β : Type}

def required (key : JsString) (codec : Codec α) : Members α where
  keys := [key]
  encode value := [(key, codec.encode value)]
  decode members := (members.find? fun member => member.1 = key).bind fun member => codec.decode member.2
  encode_keys value member is := by
    obtain rfl := List.mem_singleton.1 is
    exact List.mem_singleton_self _
  decode_among value before after others := by
    have none : before.find? (fun member => member.1 = key) = none := by
      refine List.find?_eq_none.2 fun member is => ?_
      simpa using others member (List.mem_append_left _ is)
    simp [List.find?_append, none, codec.decode_encode]

/-- A member that is left out where there is nothing. -/
def optional (key : JsString) (codec : Codec α) : Members (Option α) where
  keys := [key]
  encode value := value.toList.map fun value => (key, codec.encode value)
  decode members :=
    match members.find? fun member => member.1 = key with
    | none => some none
    | some member => (codec.decode member.2).map some
  encode_keys value member is := by
    obtain ⟨value, _, rfl⟩ := List.mem_map.1 is
    exact List.mem_singleton_self _
  decode_among value before after others := by
    have none : ∀ member ∈ before ++ after, ¬ decide (member.1 = key) = true := fun member is => by
      simpa using others member is
    cases value with
    | none =>
      have absent := List.find?_eq_none.2 none
      simp only [Option.toList_none, List.map_nil, List.nil_append, absent]
    | some value =>
      have absent := List.find?_eq_none.2 fun member is => none member (List.mem_append_left _ is)
      simp [List.find?_append, absent, codec.decode_encode]

def Members.and (first : Members α) (second : Members β) (apart : ∀ key ∈ first.keys, key ∉ second.keys) :
    Members (α × β) where
  keys := first.keys ++ second.keys
  encode value := first.encode value.1 ++ second.encode value.2
  decode members := do
    let one ← first.decode members
    let two ← second.decode members
    return (one, two)
  encode_keys value member is := by
    rcases List.mem_append.1 is with one | two
    · exact List.mem_append_left _ (first.encode_keys _ member one)
    · exact List.mem_append_right _ (second.encode_keys _ member two)
  decode_among value before after others := by
    have one : first.decode (before ++ (first.encode value.1 ++ (second.encode value.2 ++ after))) = some value.1 := by
      refine first.decode_among _ _ _ fun member is => ?_
      rcases List.mem_append.1 is with early | late
      · exact fun has => others member (List.mem_append_left _ early) (List.mem_append_left _ has)
      · rcases List.mem_append.1 late with second' | late
        · exact fun has => apart _ has (second.encode_keys _ member second')
        · exact fun has => others member (List.mem_append_right _ late) (List.mem_append_left _ has)
    have two : second.decode ((before ++ first.encode value.1) ++ (second.encode value.2 ++ after)) = some value.2 := by
      refine second.decode_among _ _ _ fun member is => ?_
      rcases List.mem_append.1 is with early | late
      · rcases List.mem_append.1 early with early | first'
        · exact fun has => others member (List.mem_append_left _ early) (List.mem_append_right _ has)
        · exact fun has => apart _ (first.encode_keys _ member first') has
      · exact fun has => others member (List.mem_append_right _ late) (List.mem_append_right _ has)
    rw [List.append_assoc] at two
    simp only [List.append_assoc, one, two, Option.bind_eq_bind, Option.bind_some, Option.pure_def]

/-- The members of a structure, by those of its fields. -/
def Members.of (members : Members α) (build : α → β) (fields : β → α) (back : ∀ value, build (fields value) = value) :
    Members β where
  keys := members.keys
  encode value := members.encode (fields value)
  decode object := (members.decode object).map build
  encode_keys value := members.encode_keys (fields value)
  decode_among value before after others := by
    rw [members.decode_among _ _ _ others, Option.map_some, back]

def record (members : Members α) : Codec α where
  encode value := .object (members.encode value)
  decode
    | .object given => members.decode given
    | _ => none
  decode_encode value := by
    have alone := members.decode_among value [] [] (fun member is => nomatch is)
    simpa using alone

end Members

end Json
