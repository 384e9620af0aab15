import MaterialEmail.Library.JsonText
import MaterialEmail.Library.Utf8
import MaterialEmail.Library.WhiteSpace

/-! Themes for the tabs: what is accepted of a value as a theme, and what is made of it. A value that has been accepted
is accepted again, as it is. -/
namespace TabAppearance

open JsString
open JsonText (Numerals)

/-- The mapping of letters, the normal form C and the numbers of the language. What is used of the normal form are these
laws: a part of a text in normal form is in normal form, a blank combines with nothing, and no control character is made. -/
structure Host where
  letterCase : LetterCase
  upper_upper : ∀ text, letterCase.upper (letterCase.upper text) = letterCase.upper text
  normalize : JsString → JsString
  normalize_normalize : ∀ text, normalize (normalize text) = normalize text
  normalize_part : ∀ before text after : JsString,
    normalize (before ++ (text ++ after)) = before ++ (text ++ after) → normalize text = text
  normalize_blank : ∀ front rest : JsString, normalize front = front → normalize rest = rest →
    normalize (front ++ 32 :: rest) = front ++ 32 :: rest
  normalize_control : ∀ text : JsString, (∀ unit ∈ text, isControl unit = false) →
    ∀ unit ∈ normalize text, isControl unit = false
  numerals : Numerals

def themeFormat : JsString := ofString "material-email-tab-appearance-theme"
def themeMaxBytes : Nat := 256 * 1024
def presetLimit : Nat := 24
def presetNameLimit : Nat := 48
def themeNameLimit : Nat := 80

def themeTabIds : List JsString :=
  [ofString "mail", ofString "drafts", ofString "outbox", ofString "contacts", ofString "calendar", ofString "tasks",
    ofString "settings", ofString "changelog", ofString "history", ofString "notifications", ofString "tools"]

section Fields

/-- `[0-9a-fA-F]` -/
def isHexDigit (unit : UInt16) : Bool :=
  (48 ≤ unit && unit ≤ 57) || (65 ≤ unit && unit ≤ 70) || (97 ≤ unit && unit ≤ 102)

/-- `/^#[0-9a-f]{6}(?:[0-9a-f]{2})?$/iu` -/
def colorPattern (text : JsString) : Bool :=
  text.head? = some 35 && (text.tail.length = 6 || text.tail.length = 8) && text.tail.all isHexDigit

/-- `[a-z0-9]`, where the long s and the sign for kelvin are taken for s and k. -/
def isIdStart (unit : UInt16) : Bool := isAlphanumeric unit || unit = 0x17F || unit = 0x212A

/-- `/^[a-z0-9][a-z0-9._-]{0,63}$/iu` -/
def presetIdPattern : JsString → Bool
  | [] => false
  | unit :: rest =>
    isIdStart unit && rest.length ≤ 63 && rest.all fun unit => isIdStart unit || unit = 46 || unit = 95 || unit = 45

variable (host : Host)

def normalizedName (value : JsValue) (maximum : Nat) : Option JsString :=
  match value with
  | .string text =>
    if text.any isControl then none
    else
      let name := replaceRuns isWhiteSpace 32 false (trim (host.normalize text))
      if name ≠ [] ∧ name.length ≤ maximum then some name else none
  | _ => none

def normalizedColor (value : JsValue) : Option JsString :=
  match value with
  | .string text =>
    let color := host.letterCase.upper (trim text)
    if colorPattern color then some color else none
  | _ => none

def exactNumber (value : JsValue) (minimum maximum : Rat) : Option Rat :=
  match value with
  | .number (.finite number) => if minimum ≤ number ∧ number ≤ maximum then some number else none
  | _ => none

/-- What a field of a style holds. -/
inductive FieldKind where
  | color
  | number (minimum maximum : Rat)

def FieldKind.check (kind : FieldKind) (value : JsValue) : Option JsValue :=
  match kind with
  | .color => (normalizedColor host value).map .string
  | .number minimum maximum => (exactNumber value minimum maximum).map fun number => .number (.finite number)

/-- The fields of a style, `STYLE_KEYS`. -/
def styleFields : List (JsString × FieldKind) :=
  [(ofString "accent", .color), (ofString "background", .color), (ofString "foreground", .color),
    (ofString "fontSize", .number 11 22), (ofString "fontWeight", .number 300 800), (ofString "radius", .number 0 28)]

def styleKeys : List JsString := styleFields.map Prod.fst

def fieldKind (key : JsString) : Option FieldKind := (styleFields.find? fun field => field.1 = key).map Prod.snd

end Fields

section Validation

variable (host : Host)

def hasOnlyKeys (members : List (JsString × JsValue)) (keys : List JsString) : Bool :=
  members.all fun member => member.1 ∈ keys

/-- The members of a style, in the order in which they were set. -/
abbrev TabAppearanceThemeStyle := List (JsString × JsValue)

/-- The loop over the keys of a style. -/
def setFields : List (JsString × JsValue) → TabAppearanceThemeStyle → Option TabAppearanceThemeStyle
  | [], style => some style
  | (key, value) :: members, style =>
    match fieldKind key with
    | none => setFields members style
    | some kind =>
      match kind.check host value with
      | none => none
      | some field => setFields members (Keyed.put Prod.fst (key, field) style)

def validateTabAppearanceThemeStyle (value : JsValue) : Option TabAppearanceThemeStyle :=
  match value with
  | .object members =>
    if !hasOnlyKeys members styleKeys then none
    else (setFields host members []).filter fun style => !style.isEmpty
  | _ => none

structure UserTabAppearancePreset where
  id : JsString
  name : JsString
  style : TabAppearanceThemeStyle

def presetKeys : List JsString := [ofString "id", ofString "name", ofString "style"]

def normalizePreset (value : JsValue) : Option UserTabAppearancePreset :=
  match value with
  | .object members =>
    if !hasOnlyKeys members presetKeys then none
    else
      match value.get (ofString "id"), normalizedName host (value.get (ofString "name")) presetNameLimit,
        validateTabAppearanceThemeStyle host (value.get (ofString "style")) with
      | .string id, some name, some style => if presetIdPattern id then some ⟨id, name, style⟩ else none
      | _, _, _ => none
  | _ => none

structure TabAppearanceThemeDocument where
  name : JsString
  tabStyles : List (JsString × TabAppearanceThemeStyle)
  presets : List UserTabAppearancePreset

def themeKeys : List JsString :=
  [ofString "format", ofString "version", ofString "name", ofString "tabStyles", ofString "presets"]

/-- The loop over the entries of `tabStyles`. -/
def setTabStyles : List (JsString × JsValue) → List (JsString × TabAppearanceThemeStyle) →
    Except JsString (List (JsString × TabAppearanceThemeStyle))
  | [], tabStyles => .ok tabStyles
  | (id, candidate) :: members, tabStyles =>
    match validateTabAppearanceThemeStyle host candidate with
    | none => .error (ofString "The appearance values for tab “" ++ id ++ ofString "” are invalid.")
    | some style => setTabStyles members (Keyed.put Prod.fst (id, style) tabStyles)

/-- The loop over the presets. -/
def addPresets : List JsValue → List UserTabAppearancePreset → Option (List UserTabAppearancePreset)
  | [], presets => some presets
  | candidate :: candidates, presets =>
    match normalizePreset host candidate with
    | none => none
    | some preset => if preset.id ∈ presets.map (·.id) then none else addPresets candidates (presets ++ [preset])

/-- `value === TAB_APPEARANCE_THEME_FORMAT` -/
def isFormat : JsValue → Bool
  | .string text => text = themeFormat
  | _ => false

/-- `value === TAB_APPEARANCE_THEME_VERSION` -/
def isVersion : JsValue → Bool
  | .number number => number = .finite 1
  | _ => false

def validateTabAppearanceThemeDocument (value : JsValue) : Except JsString TabAppearanceThemeDocument :=
  match value with
  | .object members =>
    if !hasOnlyKeys members themeKeys then .error (ofString "The theme must contain only the supported top-level fields.")
    else if !(isFormat (value.get (ofString "format")) && isVersion (value.get (ofString "version"))) then
      .error (ofString "The theme format or version is not supported.")
    else
      match normalizedName host (value.get (ofString "name")) themeNameLimit with
      | none => .error (ofString "The theme name is missing or invalid.")
      | some name =>
        match value.get (ofString "tabStyles") with
        | .object entries =>
          if !hasOnlyKeys entries themeTabIds then .error (ofString "The theme contains an unknown tab identifier.")
          else
            match setTabStyles host entries [] with
            | .error reason => .error reason
            | .ok tabStyles =>
              match value.get (ofString "presets") with
              | .array candidates =>
                if presetLimit < candidates.length then
                  .error (ofString "A theme can contain at most 24 saved presets.")
                else
                  match addPresets host candidates [] with
                  | none => .error (ofString "A saved preset is invalid or duplicated.")
                  | some presets =>
                    if tabStyles.isEmpty && presets.isEmpty then
                      .error (ofString "The theme does not contain tab styles or saved presets.")
                    else .ok ⟨name, tabStyles, presets⟩
              | _ => .error (ofString "A theme can contain at most 24 saved presets.")
        | _ => .error (ofString "The theme contains an unknown tab identifier.")
  | _ => .error (ofString "The theme must contain only the supported top-level fields.")

end Validation

section Values

def UserTabAppearancePreset.value (preset : UserTabAppearancePreset) : JsValue :=
  .object [(ofString "id", .string preset.id), (ofString "name", .string preset.name),
    (ofString "style", .object preset.style)]

/-- The document as a value. -/
def TabAppearanceThemeDocument.value (theme : TabAppearanceThemeDocument) : JsValue :=
  .object [(ofString "format", .string themeFormat), (ofString "version", .number (.finite 1)),
    (ofString "name", .string theme.name),
    (ofString "tabStyles", .object (theme.tabStyles.map fun entry => (entry.1, .object entry.2))),
    (ofString "presets", .array (theme.presets.map (·.value)))]

/-- The styles of a theme, those of the tabs and those of the presets. -/
def TabAppearanceThemeDocument.styles (theme : TabAppearanceThemeDocument) : List TabAppearanceThemeStyle :=
  theme.tabStyles.map Prod.snd ++ theme.presets.map (·.style)

end Values

section Texts

variable (host : Host)

def parseTabAppearanceThemeText (source : JsString) : Except JsString TabAppearanceThemeDocument :=
  if source = [] ∨ themeMaxBytes < (Utf8.utf8Bytes source).length then
    .error (ofString "Theme files must contain from 1 through 262144 UTF-8 bytes.")
  else
    match JsonText.parse host.numerals source with
    | none => .error (ofString "The selected theme is not valid JSON.")
    | some value => validateTabAppearanceThemeDocument host value

def serializeTabAppearanceTheme (value : JsValue) : Except JsString JsString :=
  match validateTabAppearanceThemeDocument host value with
  | .error reason => .error reason
  | .ok theme =>
    let source := JsonText.write host.numerals 0 theme.value ++ [10]
    if themeMaxBytes < (Utf8.utf8Bytes source).length then
      .error (ofString "The validated theme is too large to export.")
    else .ok source

end Texts

section Rendering

variable (host : Host)

def normalizeTabColor (value : JsValue) : Option JsString :=
  match value with
  | .string text =>
    let normalized := host.letterCase.upper (trim text)
    if colorPattern normalized then some normalized else none
  | _ => none

def boundedNumber (value : JsValue) (minimum maximum : Rat) : Option Rat :=
  match value with
  | .number (.finite number) => some (min maximum (max minimum number))
  | _ => none

/-- One field of the overrides. -/
def overrideField (value : JsValue) (key : JsString) (kind : FieldKind) : Option (JsString × JsValue) :=
  match kind with
  | .color => (normalizeTabColor host (value.get key)).map fun color => (key, .string color)
  | .number minimum maximum =>
    (boundedNumber (value.get key) minimum maximum).map fun number => (key, .number (.finite number))

/-- The renderer keeps what it can of a style, in its own order of the fields. -/
def normalizeTabStyleOverrides (value : JsValue) : Option TabAppearanceThemeStyle :=
  match value with
  | .object _ =>
    let normalized := (
      [overrideField host value (ofString "accent") .color,
        overrideField host value (ofString "background") .color,
        overrideField host value (ofString "foreground") .color,
        overrideField host value (ofString "fontSize") (.number 11 22),
        overrideField host value (ofString "fontWeight") (.number 300 800),
        overrideField host value (ofString "radius") (.number 0 28)]).filterMap id
    if normalized.isEmpty then none else some normalized
  | _ => none

end Rendering

section Names

variable {host : Host} {text : JsString}

def Host.Normal (host : Host) (text : JsString) : Prop := host.normalize text = text

theorem Host.Normal.part {part : JsString} (normal : host.Normal text) (within : part <:+: text) : host.Normal part := by
  obtain ⟨before, after, rfl⟩ := within
  rw [List.append_assoc] at normal
  exact host.normalize_part before part after normal

theorem normal_replaceRuns (text : JsString) :
    (∀ front : JsString, host.Normal (front ++ text) → host.Normal (front ++ replaceRuns isWhiteSpace 32 false text)) ∧
      (host.Normal text → host.Normal (replaceRuns isWhiteSpace 32 true text)) := by
  induction text with
  | nil => exact ⟨fun front normal => normal, id⟩
  | cons unit rest ih =>
    obtain ⟨outside, inside⟩ := ih
    have later : ∀ front : JsString, host.Normal (front ++ unit :: rest) → host.Normal rest := fun front normal =>
      normal.part ⟨front ++ [unit], [], by simp⟩
    cases white : isWhiteSpace unit with
    | true =>
      simp only [replaceRuns, white, if_true, Bool.false_eq_true, if_false]
      refine ⟨fun front normal => ?_, fun normal => inside (later [] normal)⟩
      have before : host.Normal front := normal.part ⟨[], unit :: rest, rfl⟩
      exact host.normalize_blank _ _ before (inside (later front normal))
    | false =>
      simp only [replaceRuns, white, Bool.false_eq_true, if_false]
      refine ⟨fun front normal => ?_, fun normal => outside [unit] normal⟩
      have step := outside (front ++ [unit])
      simp only [List.append_assoc, List.singleton_append] at step
      exact step normal

/-- A name that has been accepted is accepted as it is. -/
theorem normalizedName_normalizedName {value : JsValue} {maximum : Nat} {name : JsString}
    (accepted : normalizedName host value maximum = some name) :
    name.length ≤ maximum ∧ normalizedName host (.string name) maximum = some name := by
  cases value with
  | string text =>
    simp only [normalizedName] at accepted
    split at accepted
    · cases accepted
    · rename_i plain
      obtain ⟨fits, is⟩ := Option.ite_none_right_eq_some.1 accepted
      have made : replaceRuns isWhiteSpace 32 false (trim (host.normalize text)) = name := Option.some.inj is
      have normal : host.Normal (trim (host.normalize text)) :=
        Host.Normal.part (host.normalize_normalize text) trim_within
      have again : host.normalize name = name := made ▸ (normal_replaceRuns _).1 [] normal
      have trimmed : trim name = name := trim_of_trimmed (made ▸ trimmed_replaceRuns (trimmed_trim _))
      have tidy : replaceRuns isWhiteSpace 32 false name = name :=
        replaceRuns_of_tidy (made ▸ tidy_replaceRuns false) (by simp)
      have clean : name.any isControl = false := by
        refine List.any_eq_false.2 fun unit member => ?_
        rw [← made] at member
        rcases mem_replaceRuns member with rfl | ⟨isPart, -⟩
        · decide
        · have plain : ∀ unit ∈ text, isControl unit = false := by simpa using plain
          simp [host.normalize_control text plain unit (trim_within.subset isPart)]
      rw [made] at fits
      refine ⟨fits.2, ?_⟩
      simp only [normalizedName, clean, Bool.false_eq_true, if_false, again, trimmed, tidy]
      exact if_pos fits
  | _ => cases accepted

end Names

section Styles

variable {host : Host}

theorem hexDigit_plain {unit : UInt16} (digit : isHexDigit unit = true) : isWhiteSpace unit = false := by
  have bounds : (48 ≤ unit ∧ unit ≤ 57) ∨ (65 ≤ unit ∧ unit ≤ 70) ∨ (97 ≤ unit ∧ unit ≤ 102) := by
    simpa [isHexDigit, or_assoc] using digit
  by_contra white
  have space : isWhiteSpace unit = true := by simpa using white
  simp only [isWhiteSpace, Bool.or_eq_true, Bool.and_eq_true, decide_eq_true_eq, UInt16.le_iff_toNat_le,
    ← UInt16.toNat_inj] at space bounds
  simp at space bounds
  omega

theorem colorPattern_trimmed {color : JsString} (isColor : colorPattern color = true) : color.Trimmed := by
  simp only [colorPattern, Bool.and_eq_true, decide_eq_true_eq, List.all_eq_true] at isColor
  obtain ⟨⟨mark, -⟩, digits⟩ := isColor
  cases color with
  | nil => cases mark
  | cons unit rest =>
    obtain rfl : unit = 35 := by simpa using mark
    refine ⟨fun unit first => ?_, fun unit last => ?_⟩
    · cases first
      decide
    · rcases List.mem_cons.1 (List.mem_of_getLast? last) with rfl | isDigit
      · decide
      · exact hexDigit_plain (digits unit isDigit)

theorem normalizedColor_normalizedColor {value : JsValue} {color : JsString}
    (accepted : normalizedColor host value = some color) :
    colorPattern color = true ∧ normalizedColor host (.string color) = some color := by
  cases value with
  | string text =>
    obtain ⟨isColor, is⟩ := Option.ite_none_right_eq_some.1 accepted
    have made : host.letterCase.upper (trim text) = color := Option.some.inj is
    rw [made] at isColor
    have trimmed : trim color = color := trim_of_trimmed (colorPattern_trimmed isColor)
    have again : host.letterCase.upper color = color := made ▸ host.upper_upper (trim text)
    refine ⟨isColor, ?_⟩
    simp only [normalizedColor, trimmed, again]
    exact if_pos isColor
  | _ => cases accepted

theorem exactNumber_spec {value : JsValue} {minimum maximum number : Rat}
    (accepted : exactNumber value minimum maximum = some number) :
    value = .number (.finite number) ∧ minimum ≤ number ∧ number ≤ maximum := by
  cases value with
  | number given =>
    cases given with
    | finite given =>
      obtain ⟨within, is⟩ := Option.ite_none_right_eq_some.1 accepted
      cases is
      exact ⟨rfl, within⟩
    | infinite negative => cases accepted
  | _ => cases accepted

/-- What has passed a check passes it again, as it is. -/
theorem FieldKind.check_check {kind : FieldKind} {value field : JsValue} (accepted : kind.check host value = some field) :
    kind.check host field = some field := by
  cases kind with
  | color =>
    obtain ⟨color, isColor, rfl⟩ := Option.map_eq_some_iff.1 accepted
    exact congrArg (Option.map _) (normalizedColor_normalizedColor isColor).2
  | number minimum maximum =>
    obtain ⟨number, isNumber, rfl⟩ := Option.map_eq_some_iff.1 accepted
    have within := (exactNumber_spec isNumber).2
    have again : exactNumber (.number (.finite number)) minimum maximum = some number := if_pos within
    exact congrArg (Option.map _) again

/-- All numbers in a value are numbers of the language. -/
def Numeric (host : Host) (value : JsValue) : Prop := ∀ number ∈ value.numbers, host.numerals.isNumber number

theorem Numeric.get {value : JsValue} (numeric : Numeric host value) (key : JsString) : Numeric host (value.get key) :=
  fun number inside => numeric number (JsValue.mem_numbers_of_get inside)

theorem FieldKind.check_numeric {kind : FieldKind} {value field : JsValue} (accepted : kind.check host value = some field)
    (numeric : Numeric host value) : Numeric host field := by
  cases kind with
  | color =>
    obtain ⟨color, -, rfl⟩ := Option.map_eq_some_iff.1 accepted
    intro number inside
    simp [JsValue.numbers] at inside
  | number minimum maximum =>
    obtain ⟨number, isNumber, rfl⟩ := Option.map_eq_some_iff.1 accepted
    rw [(exactNumber_spec isNumber).1] at numeric
    exact numeric

/-- A field that is checked once more stays as it is. -/
structure Settled (host : Host) (field : JsString × JsValue) : Prop where
  check : ∃ kind, fieldKind field.1 = some kind ∧ kind.check host field.2 = some field.2
  numeric : Numeric host field.2

theorem Settled.key {field : JsString × JsValue} (settled : Settled host field) : field.1 ∈ styleKeys := by
  obtain ⟨kind, isKind, -⟩ := settled.check
  obtain ⟨entry, found, -⟩ := Option.map_eq_some_iff.1 isKind
  have same : entry.1 = field.1 := by simpa using List.find?_some found
  exact same ▸ List.mem_map_of_mem (List.mem_of_find?_eq_some found)

theorem setFields_spec {members : List (JsString × JsValue)} {style style' : TabAppearanceThemeStyle}
    (made : setFields host members style = some style') (distinct : (style.map Prod.fst).Nodup)
    (settled : ∀ field ∈ style, Settled host field) (numeric : ∀ member ∈ members, Numeric host member.2) :
    (style'.map Prod.fst).Nodup ∧ ∀ field ∈ style', Settled host field := by
  induction members generalizing style with
  | nil =>
    cases made
    exact ⟨distinct, settled⟩
  | cons member members ih =>
    obtain ⟨key, value⟩ := member
    have later : ∀ member ∈ members, Numeric host member.2 := fun other isOther =>
      numeric other (List.mem_cons_of_mem _ isOther)
    rw [setFields] at made
    split at made
    · exact ih made distinct settled later
    · rename_i kind isKind
      split at made
      · cases made
      · rename_i field accepted
        refine ih made (Keyed.nodup_put distinct) (fun other isOther => ?_) later
        rcases Keyed.mem_put isOther with rfl | before
        · exact ⟨⟨kind, isKind, kind.check_check accepted⟩, kind.check_numeric accepted (numeric _ List.mem_cons_self)⟩
        · exact settled other before

theorem setFields_settled {members style : List (JsString × JsValue)} (settled : ∀ member ∈ members, Settled host member)
    (distinct : ((style ++ members).map Prod.fst).Nodup) : setFields host members style = some (style ++ members) := by
  induction members generalizing style with
  | nil => rw [setFields, List.append_nil]
  | cons member members ih =>
    obtain ⟨key, value⟩ := member
    obtain ⟨kind, isKind, accepted⟩ := (settled _ List.mem_cons_self).check
    have absent : key ∉ style.map Prod.fst := by
      rw [List.map_append, List.map_cons] at distinct
      exact fun present => List.disjoint_of_nodup_append distinct present List.mem_cons_self
    have rest : setFields host members (style ++ [(key, value)]) = some (style ++ [(key, value)] ++ members) :=
      ih (fun other isOther => settled other (List.mem_cons_of_mem _ isOther)) (by simpa using distinct)
    simp only [setFields, isKind, accepted]
    rw [Keyed.put_of_not_mem absent, rest]
    simp

structure IsStyle (host : Host) (style : TabAppearanceThemeStyle) : Prop where
  filled : style.isEmpty = false
  distinct : (style.map Prod.fst).Nodup
  settled : ∀ field ∈ style, Settled host field

theorem validateTabAppearanceThemeStyle_spec {value : JsValue} {style : TabAppearanceThemeStyle}
    (accepted : validateTabAppearanceThemeStyle host value = some style) (numeric : Numeric host value) :
    IsStyle host style := by
  cases value with
  | object members =>
    rw [validateTabAppearanceThemeStyle] at accepted
    split at accepted
    · cases accepted
    · obtain ⟨made, filled⟩ := Option.filter_eq_some_iff.1 accepted
      obtain ⟨distinct, settled⟩ := setFields_spec made List.nodup_nil (by simp) fun member isMember number inside =>
        numeric number (JsValue.mem_numbers_object.2 ⟨member, isMember, inside⟩)
      exact ⟨by simpa using filled, distinct, settled⟩
  | _ => cases accepted

/-- A style that has been accepted is accepted as it is. -/
theorem IsStyle.validate {style : TabAppearanceThemeStyle} (isStyle : IsStyle host style) :
    validateTabAppearanceThemeStyle host (.object style) = some style := by
  have known : hasOnlyKeys style styleKeys = true :=
    List.all_eq_true.2 fun field member => decide_eq_true (isStyle.settled field member).key
  have made : setFields host style [] = some style := setFields_settled isStyle.settled isStyle.distinct
  rw [validateTabAppearanceThemeStyle, known, made]
  simp [isStyle.filled]

end Styles

section Documents

variable {host : Host}

structure IsPreset (host : Host) (preset : UserTabAppearancePreset) : Prop where
  id : presetIdPattern preset.id = true
  short : preset.name.length ≤ presetNameLimit
  name : normalizedName host (.string preset.name) presetNameLimit = some preset.name
  style : IsStyle host preset.style

theorem normalizePreset_spec {value : JsValue} {preset : UserTabAppearancePreset}
    (accepted : normalizePreset host value = some preset) (numeric : Numeric host value) : IsPreset host preset := by
  cases value with
  | object members =>
    rw [normalizePreset] at accepted
    split at accepted
    · cases accepted
    · split at accepted
      · rename_i id name style isId isName isStyle
        obtain ⟨matched, is⟩ := Option.ite_none_right_eq_some.1 accepted
        cases is
        obtain ⟨short, fixed⟩ := normalizedName_normalizedName isName
        exact ⟨matched, short, fixed, validateTabAppearanceThemeStyle_spec isStyle (numeric.get _)⟩
      · cases accepted
  | _ => cases accepted

theorem IsPreset.normalize {preset : UserTabAppearancePreset} (isPreset : IsPreset host preset) :
    normalizePreset host preset.value = some preset := by
  have isId : preset.value.get (ofString "id") = .string preset.id := rfl
  have isName : preset.value.get (ofString "name") = .string preset.name := rfl
  have isStyle : preset.value.get (ofString "style") = .object preset.style := rfl
  rw [UserTabAppearancePreset.value, normalizePreset, ← UserTabAppearancePreset.value, isId, isName, isStyle,
    isPreset.name, isPreset.style.validate]
  exact (if_neg (by simp [hasOnlyKeys, presetKeys])).trans (if_pos isPreset.id)

theorem setTabStyles_spec {members : List (JsString × JsValue)}
    {tabStyles tabStyles' : List (JsString × TabAppearanceThemeStyle)}
    (made : setTabStyles host members tabStyles = .ok tabStyles') (distinct : (tabStyles.map Prod.fst).Nodup)
    (styles : ∀ entry ∈ tabStyles, entry.1 ∈ themeTabIds ∧ IsStyle host entry.2)
    (known : ∀ member ∈ members, member.1 ∈ themeTabIds) (numeric : ∀ member ∈ members, Numeric host member.2) :
    (tabStyles'.map Prod.fst).Nodup ∧ ∀ entry ∈ tabStyles', entry.1 ∈ themeTabIds ∧ IsStyle host entry.2 := by
  induction members generalizing tabStyles with
  | nil =>
    cases made
    exact ⟨distinct, styles⟩
  | cons member members ih =>
    obtain ⟨id, candidate⟩ := member
    rw [setTabStyles] at made
    split at made
    · cases made
    · rename_i style accepted
      refine ih made (Keyed.nodup_put distinct) (fun entry isEntry => ?_)
        (fun other isOther => known other (List.mem_cons_of_mem _ isOther))
        (fun other isOther => numeric other (List.mem_cons_of_mem _ isOther))
      rcases Keyed.mem_put isEntry with rfl | before
      · exact ⟨known _ List.mem_cons_self, validateTabAppearanceThemeStyle_spec accepted (numeric _ List.mem_cons_self)⟩
      · exact styles entry before

theorem setTabStyles_styles {entries tabStyles : List (JsString × TabAppearanceThemeStyle)}
    (styles : ∀ entry ∈ entries, IsStyle host entry.2) (distinct : ((tabStyles ++ entries).map Prod.fst).Nodup) :
    setTabStyles host (entries.map fun entry => (entry.1, .object entry.2)) tabStyles = .ok (tabStyles ++ entries) := by
  induction entries generalizing tabStyles with
  | nil => rw [List.map_nil, setTabStyles, List.append_nil]
  | cons entry entries ih =>
    have absent : entry.1 ∉ tabStyles.map Prod.fst := by
      rw [List.map_append, List.map_cons] at distinct
      exact fun present => List.disjoint_of_nodup_append distinct present List.mem_cons_self
    have rest : setTabStyles host (entries.map fun entry => (entry.1, .object entry.2)) (tabStyles ++ [entry]) =
        .ok (tabStyles ++ [entry] ++ entries) :=
      ih (fun other isOther => styles other (List.mem_cons_of_mem _ isOther)) (by simpa using distinct)
    rw [List.map_cons, setTabStyles, (styles entry List.mem_cons_self).validate]
    simp only [Keyed.put_of_not_mem absent, rest]
    simp

theorem addPresets_spec {candidates : List JsValue} {presets presets' : List UserTabAppearancePreset}
    (made : addPresets host candidates presets = some presets') (distinct : (presets.map (·.id)).Nodup)
    (valid : ∀ preset ∈ presets, IsPreset host preset) (numeric : ∀ candidate ∈ candidates, Numeric host candidate) :
    (presets'.map (·.id)).Nodup ∧ (∀ preset ∈ presets', IsPreset host preset) ∧
      presets'.length = presets.length + candidates.length := by
  induction candidates generalizing presets with
  | nil =>
    cases made
    exact ⟨distinct, valid, rfl⟩
  | cons candidate candidates ih =>
    rw [addPresets] at made
    split at made
    · cases made
    · rename_i preset accepted
      split at made
      · cases made
      · rename_i absent
        have added : ∀ other ∈ presets ++ [preset], IsPreset host other := by
          intro other isOther
          rcases List.mem_append.1 isOther with before | new
          · exact valid other before
          · exact List.mem_singleton.1 new ▸ normalizePreset_spec accepted (numeric _ List.mem_cons_self)
        obtain ⟨distinct', valid', count⟩ := ih made (Keyed.nodup_append distinct absent) added
          fun other isOther => numeric other (List.mem_cons_of_mem _ isOther)
        refine ⟨distinct', valid', ?_⟩
        rw [count, List.length_append, List.length_singleton, List.length_cons]
        omega

theorem addPresets_presets {entries presets : List UserTabAppearancePreset}
    (valid : ∀ preset ∈ entries, IsPreset host preset) (distinct : ((presets ++ entries).map (·.id)).Nodup) :
    addPresets host (entries.map (·.value)) presets = some (presets ++ entries) := by
  induction entries generalizing presets with
  | nil => rw [List.map_nil, addPresets, List.append_nil]
  | cons preset entries ih =>
    have absent : preset.id ∉ presets.map (·.id) := by
      rw [List.map_append, List.map_cons] at distinct
      exact fun present => List.disjoint_of_nodup_append distinct present List.mem_cons_self
    have rest : addPresets host (entries.map (·.value)) (presets ++ [preset]) = some (presets ++ [preset] ++ entries) :=
      ih (fun other isOther => valid other (List.mem_cons_of_mem _ isOther)) (by simpa using distinct)
    rw [List.map_cons, addPresets, (valid preset List.mem_cons_self).normalize]
    simp only [if_neg absent, rest]
    simp

/-- What holds of a theme that has been accepted. -/
structure IsTheme (host : Host) (theme : TabAppearanceThemeDocument) : Prop where
  short : theme.name.length ≤ themeNameLimit
  name : normalizedName host (.string theme.name) themeNameLimit = some theme.name
  distinctTabs : (theme.tabStyles.map Prod.fst).Nodup
  tabStyles : ∀ entry ∈ theme.tabStyles, entry.1 ∈ themeTabIds ∧ IsStyle host entry.2
  few : theme.presets.length ≤ presetLimit
  distinctPresets : (theme.presets.map (·.id)).Nodup
  presets : ∀ preset ∈ theme.presets, IsPreset host preset
  filled : (theme.tabStyles.isEmpty && theme.presets.isEmpty) = false
  version : host.numerals.isNumber 1

theorem validateTabAppearanceThemeDocument_spec {value : JsValue} {theme : TabAppearanceThemeDocument}
    (accepted : validateTabAppearanceThemeDocument host value = .ok theme) (numeric : Numeric host value) :
    IsTheme host theme := by
  cases value with
  | object members =>
    rw [validateTabAppearanceThemeDocument] at accepted
    split at accepted
    · cases accepted
    split at accepted
    · cases accepted
    rename_i supported
    split at accepted
    · cases accepted
    rename_i name isName
    split at accepted
    case h_2 => cases accepted
    rename_i entries isEntries
    split at accepted
    · cases accepted
    rename_i known
    split at accepted
    · cases accepted
    rename_i tabStyles isTabStyles
    split at accepted
    case h_2 => cases accepted
    rename_i candidates isCandidates
    split at accepted
    · cases accepted
    rename_i few
    split at accepted
    · cases accepted
    rename_i presets isPresets
    split at accepted
    · cases accepted
    rename_i filled
    cases accepted
    obtain ⟨short, fixed⟩ := normalizedName_normalizedName isName
    have inEntries : ∀ member ∈ entries, Numeric host member.2 := fun member isMember number inside =>
      (isEntries ▸ numeric.get (ofString "tabStyles")) number (JsValue.mem_numbers_object.2 ⟨member, isMember, inside⟩)
    have inCandidates : ∀ candidate ∈ candidates, Numeric host candidate := fun candidate isCandidate number inside =>
      (isCandidates ▸ numeric.get (ofString "presets")) number
        (JsValue.mem_numbers_array.2 ⟨candidate, isCandidate, inside⟩)
    obtain ⟨distinctTabs, styles⟩ := setTabStyles_spec isTabStyles List.nodup_nil (by simp)
      (by simpa [hasOnlyKeys] using known) inEntries
    obtain ⟨distinctPresets, valid, count⟩ := addPresets_spec isPresets List.nodup_nil (by simp) inCandidates
    refine ⟨short, fixed, distinctTabs, styles, ?_, distinctPresets, valid, by simpa using filled, ?_⟩
    · rw [count, List.length_nil, Nat.zero_add]
      exact Nat.le_of_not_lt few
    · have version : isVersion ((JsValue.object members).get (ofString "version")) = true := by
        simp only [Bool.not_eq_true', Bool.not_eq_false, Bool.and_eq_true] at supported
        exact supported.2
      have inVersion := numeric.get (ofString "version")
      revert version inVersion
      cases (JsValue.object members).get (ofString "version") with
      | number number =>
        intro version inVersion
        obtain rfl : number = .finite 1 := by simpa [isVersion] using version
        exact inVersion 1 (by simp [JsValue.numbers])
      | _ =>
        intro version
        cases version
  | _ => cases accepted

/-- A theme that has been accepted is accepted as it is. -/
theorem IsTheme.validate {theme : TabAppearanceThemeDocument} (isTheme : IsTheme host theme) :
    validateTabAppearanceThemeDocument host theme.value = .ok theme := by
  have isFormat' : theme.value.get (ofString "format") = .string themeFormat := rfl
  have isVersion' : theme.value.get (ofString "version") = .number (.finite 1) := rfl
  have isName : theme.value.get (ofString "name") = .string theme.name := rfl
  have isTabStyles : theme.value.get (ofString "tabStyles") =
      .object (theme.tabStyles.map fun entry => (entry.1, .object entry.2)) := rfl
  have isPresets : theme.value.get (ofString "presets") = .array (theme.presets.map (·.value)) := rfl
  have known : hasOnlyKeys (theme.tabStyles.map fun entry => (entry.1, .object entry.2)) themeTabIds = true := by
    simpa [hasOnlyKeys] using fun id style isEntry => (isTheme.tabStyles (id, style) isEntry).1
  have styles : setTabStyles host (theme.tabStyles.map fun entry => (entry.1, .object entry.2)) [] = .ok theme.tabStyles :=
    setTabStyles_styles (fun entry isEntry => (isTheme.tabStyles entry isEntry).2) isTheme.distinctTabs
  have presets : addPresets host (theme.presets.map (·.value)) [] = some theme.presets :=
    addPresets_presets isTheme.presets isTheme.distinctPresets
  have few : ¬ presetLimit < (theme.presets.map (·.value)).length := by
    rw [List.length_map]
    exact Nat.not_lt.2 isTheme.few
  rw [TabAppearanceThemeDocument.value, validateTabAppearanceThemeDocument, ← TabAppearanceThemeDocument.value, isFormat',
    isVersion', isName, isTheme.name, isTabStyles, isPresets]
  simp only [known, styles, presets, few, isTheme.filled]
  simp [hasOnlyKeys, themeKeys, isFormat, isVersion]

end Documents

end TabAppearance
