import Mathlib.Data.List.Perm.Subperm
import MaterialEmail.TabAppearance.Theme

/-! Themes as texts. A theme that has been accepted is written and read back, and the renderer takes its styles as they
are. -/
namespace TabAppearance

open JsString
open JsonText (Plain PlainMembers plainMembers_iff plainItems_iff length_quoted_le)

variable {host : Host}

section Fields

theorem length_of_colorPattern {color : JsString} (isColor : colorPattern color = true) : color.length ≤ 9 := by
  simp only [colorPattern, Bool.and_eq_true, Bool.or_eq_true, decide_eq_true_eq, List.length_tail] at isColor
  omega

/-- A settled field is a color or a number. -/
theorem Settled.cases {field : JsString × JsValue} (settled : Settled host field) :
    (∃ color, field.2 = .string color ∧ color.length ≤ 9) ∨
      ∃ number, field.2 = .number (.finite number) ∧ host.numerals.isNumber number := by
  obtain ⟨kind, -, accepted⟩ := settled.check
  have numeric := settled.numeric
  cases kind with
  | color =>
    obtain ⟨color, isColor, is⟩ := Option.map_eq_some_iff.1 accepted
    exact Or.inl ⟨color, is.symm, length_of_colorPattern (normalizedColor_normalizedColor isColor).1⟩
  | number minimum maximum =>
    obtain ⟨number, -, is⟩ := Option.map_eq_some_iff.1 accepted
    rw [← is] at numeric
    exact Or.inr ⟨number, is.symm, numeric number (by simp [JsValue.numbers])⟩

theorem Settled.plain {field : JsString × JsValue} (settled : Settled host field) : Plain host.numerals field.2 := by
  rcases settled.cases with ⟨color, is, -⟩ | ⟨number, is, isNumber⟩
  · rw [is, Plain]
    trivial
  · rwa [is, Plain]

theorem Settled.length_le {field : JsString × JsValue} (settled : Settled host field) (depth : Nat) :
    (JsonText.write host.numerals depth field.2).length ≤ 56 := by
  rcases settled.cases with ⟨color, is, short⟩ | ⟨number, is, isNumber⟩
  · have bound := length_quoted_le color
    rw [is, JsonText.write]
    omega
  · have bound := host.numerals.length_write number isNumber
    rw [is, JsonText.write]
    omega

end Fields

section Values

variable {style : TabAppearanceThemeStyle} {preset : UserTabAppearancePreset} {theme : TabAppearanceThemeDocument}

theorem IsStyle.plainMembers (isStyle : IsStyle host style) : PlainMembers host.numerals style :=
  (plainMembers_iff _).2 fun field member => (isStyle.settled field member).plain

theorem IsStyle.plain (isStyle : IsStyle host style) : Plain host.numerals (.object style) := by
  rw [Plain]
  exact ⟨isStyle.distinct, isStyle.plainMembers⟩

theorem IsStyle.count_le (isStyle : IsStyle host style) : style.length ≤ 6 := by
  have within : style.map Prod.fst ⊆ styleKeys := by
    intro key isKey
    obtain ⟨field, member, rfl⟩ := List.mem_map.1 isKey
    exact (isStyle.settled field member).key
  have short := (List.subperm_of_subset isStyle.distinct within).length_le
  rwa [List.length_map] at short

theorem IsStyle.length_le (isStyle : IsStyle host style) {depth : Nat} (shallow : depth ≤ 3) :
    (JsonText.write host.numerals depth (.object style)).length ≤ 800 := by
  have keys : ∀ key ∈ styleKeys, key.length ≤ 10 := by decide
  have fields : ∀ field ∈ style,
      6 * field.1.length + (JsonText.write host.numerals (depth + 1) field.2).length + 4 ≤ 120 := by
    intro field member
    have key := keys field.1 (isStyle.settled field member).key
    have value := (isStyle.settled field member).length_le (depth + 1)
    omega
  have whole := JsonText.length_object_le isStyle.plainMembers fields
  have count := Nat.mul_le_mul_right (120 + 2 * depth + 4) isStyle.count_le
  omega

theorem IsPreset.plainMembers (isPreset : IsPreset host preset) : PlainMembers host.numerals
    [(ofString "id", .string preset.id), (ofString "name", .string preset.name),
      (ofString "style", .object preset.style)] := by
  simp [PlainMembers, Plain, isPreset.style.distinct, isPreset.style.plainMembers]

theorem IsPreset.plain (isPreset : IsPreset host preset) : Plain host.numerals preset.value := by
  rw [UserTabAppearancePreset.value, Plain]
  exact ⟨by simp; decide, isPreset.plainMembers⟩

theorem length_of_presetIdPattern {id : JsString} (isId : presetIdPattern id = true) : id.length ≤ 64 := by
  cases id with
  | nil => cases isId
  | cons unit rest =>
    simp only [presetIdPattern, Bool.and_eq_true, decide_eq_true_eq] at isId
    rw [List.length_cons]
    omega

theorem IsPreset.length_le (isPreset : IsPreset host preset) :
    (JsonText.write host.numerals 2 preset.value).length ≤ 2600 := by
  have id := length_quoted_le preset.id
  have idLength := length_of_presetIdPattern isPreset.id
  have name := length_quoted_le preset.name
  have nameLength : preset.name.length ≤ 48 := isPreset.short
  have style : (JsonText.write host.numerals (2 + 1) (.object preset.style)).length ≤ 800 :=
    isPreset.style.length_le (le_refl 3)
  have members : ∀ member ∈ [(ofString "id", JsValue.string preset.id), (ofString "name", .string preset.name),
      (ofString "style", .object preset.style)],
      6 * member.1.length + (JsonText.write host.numerals (2 + 1) member.2).length + 4 ≤ 834 := by
    intro member isMember
    simp only [List.mem_cons, List.not_mem_nil, or_false] at isMember
    rcases isMember with rfl | rfl | rfl
    · have key : (ofString "id").length = 2 := by decide
      simp only [key, JsonText.write]
      omega
    · have key : (ofString "name").length = 4 := by decide
      simp only [key, JsonText.write]
      omega
    · have key : (ofString "style").length = 5 := by decide
      simp only [key]
      omega
  have whole := JsonText.length_object_le isPreset.plainMembers members
  rw [UserTabAppearancePreset.value]
  simp only [List.length_cons, List.length_nil] at whole
  omega

theorem IsTheme.plainTabs (isTheme : IsTheme host theme) :
    PlainMembers host.numerals (theme.tabStyles.map fun entry => (entry.1, .object entry.2)) := by
  refine (plainMembers_iff _).2 fun member isMember => ?_
  obtain ⟨entry, isEntry, rfl⟩ := List.mem_map.1 isMember
  exact (isTheme.tabStyles entry isEntry).2.plain

theorem IsTheme.plainMembers (isTheme : IsTheme host theme) : PlainMembers host.numerals
    [(ofString "format", .string themeFormat), (ofString "version", .number (.finite 1)),
      (ofString "name", .string theme.name),
      (ofString "tabStyles", .object (theme.tabStyles.map fun entry => (entry.1, .object entry.2))),
      (ofString "presets", .array (theme.presets.map (·.value)))] := by
  have distinct : ((theme.tabStyles.map fun entry => (entry.1, JsValue.object entry.2)).map Prod.fst).Nodup := by
    rw [List.map_map]
    exact isTheme.distinctTabs
  have presets : ∀ item ∈ theme.presets.map (·.value), Plain host.numerals item := by
    intro item isItem
    obtain ⟨preset, isPreset, rfl⟩ := List.mem_map.1 isItem
    exact (isTheme.presets preset isPreset).plain
  simp only [PlainMembers, Plain, distinct, isTheme.plainTabs, isTheme.version, (plainItems_iff _).2 presets, and_self]

theorem IsTheme.plain (isTheme : IsTheme host theme) : Plain host.numerals theme.value := by
  rw [TabAppearanceThemeDocument.value, Plain]
  exact ⟨by simp; decide, isTheme.plainMembers⟩

theorem IsTheme.tabs_length_le (isTheme : IsTheme host theme) :
    (JsonText.write host.numerals 1 (.object (theme.tabStyles.map fun entry => (entry.1, .object entry.2)))).length ≤
      9800 := by
  have keys : ∀ id ∈ themeTabIds, id.length ≤ 13 := by decide
  have members : ∀ member ∈ theme.tabStyles.map fun entry => (entry.1, JsValue.object entry.2),
      6 * member.1.length + (JsonText.write host.numerals (1 + 1) member.2).length + 4 ≤ 882 := by
    intro member isMember
    obtain ⟨entry, isEntry, rfl⟩ := List.mem_map.1 isMember
    obtain ⟨known, isStyle⟩ := isTheme.tabStyles entry isEntry
    have key := keys entry.1 known
    have style : (JsonText.write host.numerals (1 + 1) (.object entry.2)).length ≤ 800 :=
      isStyle.length_le (by omega)
    simp only
    omega
  have within : theme.tabStyles.map Prod.fst ⊆ themeTabIds := by
    intro id isId
    obtain ⟨entry, isEntry, rfl⟩ := List.mem_map.1 isId
    exact (isTheme.tabStyles entry isEntry).1
  have count : theme.tabStyles.length ≤ 11 := by
    have short := (List.subperm_of_subset isTheme.distinctTabs within).length_le
    rwa [List.length_map] at short
  have whole := JsonText.length_object_le isTheme.plainTabs members
  have product := Nat.mul_le_mul_right (882 + 2 * 1 + 4) count
  rw [List.length_map] at whole
  omega

theorem IsTheme.presets_length_le (isTheme : IsTheme host theme) :
    (JsonText.write host.numerals 1 (.array (theme.presets.map (·.value)))).length ≤ 62600 := by
  have items : ∀ item ∈ theme.presets.map (·.value), (JsonText.write host.numerals (1 + 1) item).length ≤ 2600 := by
    intro item isItem
    obtain ⟨preset, isPreset, rfl⟩ := List.mem_map.1 isItem
    exact (isTheme.presets preset isPreset).length_le
  have whole := JsonText.length_array_le items
  have few : theme.presets.length ≤ 24 := isTheme.few
  have product := Nat.mul_le_mul_right (2600 + 2 * 1 + 4) few
  rw [List.length_map] at whole
  omega

/-- A theme is never too large to be written. -/
theorem IsTheme.length_le (isTheme : IsTheme host theme) :
    (JsonText.write host.numerals 0 theme.value).length ≤ 80000 := by
  have name := length_quoted_le theme.name
  have short : theme.name.length ≤ 80 := isTheme.short
  have version := host.numerals.length_write 1 isTheme.version
  have tabs : (JsonText.write host.numerals (0 + 1)
      (.object (theme.tabStyles.map fun entry => (entry.1, .object entry.2)))).length ≤ 9800 := isTheme.tabs_length_le
  have presets : (JsonText.write host.numerals (0 + 1) (.array (theme.presets.map (·.value)))).length ≤ 62600 :=
    isTheme.presets_length_le
  have fixed : (Json.quoted (ofString "format")).length + (Json.quoted (ofString "version")).length +
      (Json.quoted (ofString "name")).length + (Json.quoted (ofString "tabStyles")).length +
      (Json.quoted (ofString "presets")).length + (Json.quoted themeFormat).length ≤ 100 := by decide
  have texts : ∀ text, JsonText.write host.numerals (0 + 1) (.string text) = Json.quoted text := fun text => by
    rw [JsonText.write]
  have numbers : ∀ number, JsonText.write host.numerals (0 + 1) (.number (.finite number)) = host.numerals.write number :=
    fun number => by rw [JsonText.write]
  rw [TabAppearanceThemeDocument.value, JsonText.write, JsonText.memberTexts_eq isTheme.plainMembers]
  simp only [List.map_cons, List.map_nil, texts, numbers]
  generalize JsonText.write host.numerals (0 + 1) (.object _) = tabsText at tabs ⊢
  generalize JsonText.write host.numerals (0 + 1) (.array _) = presetsText at presets ⊢
  simp only [JsonText.enclose, JsonText.following, JsonText.lineBreak, List.length_append, List.length_cons,
    List.length_nil, List.length_replicate]
  omega

end Values

section Rendering

variable {style : TabAppearanceThemeStyle}

/-- The renderer takes a field of a style as it is. -/
theorem IsStyle.override (isStyle : IsStyle host style) {key : JsString} {kind : FieldKind}
    (isKind : fieldKind key = some kind) :
    overrideField host (.object style) key kind = style.find? fun field => field.1 = key := by
  cases found : style.find? fun field => field.1 = key with
  | none =>
    have missing : (JsValue.object style).get key = .undefined := by simp [JsValue.get, found]
    cases kind with
    | color => simp [overrideField, missing, normalizeTabColor]
    | number minimum maximum => simp [overrideField, missing, boundedNumber]
  | some field =>
    have here : field.1 = key := by simpa using List.find?_some found
    have present : (JsValue.object style).get key = field.2 := by simp [JsValue.get, found]
    obtain ⟨kind', isKind', accepted⟩ := (isStyle.settled field (List.mem_of_find?_eq_some found)).check
    rw [here, isKind] at isKind'
    cases isKind'
    cases kind with
    | color =>
      obtain ⟨color, isColor, is⟩ := Option.map_eq_some_iff.1 accepted
      have kept : normalizeTabColor host field.2 = some color := isColor
      rw [overrideField, present, kept, Option.map_some, is, ← here]
    | number minimum maximum =>
      obtain ⟨number, isNumber, is⟩ := Option.map_eq_some_iff.1 accepted
      obtain ⟨given, low, high⟩ := exactNumber_spec isNumber
      have kept : boundedNumber field.2 minimum maximum = some number := by
        rw [given, boundedNumber, max_eq_right low, min_eq_right high]
      rw [overrideField, present, kept, Option.map_some, is, ← here]

/-- The renderer takes a style as it is, with the fields in its own order. -/
theorem IsStyle.normalize (isStyle : IsStyle host style) :
    ∃ normalized, normalizeTabStyleOverrides host (.object style) = some normalized ∧ normalized.Perm style := by
  have perm : (styleKeys.filterMap fun key => style.find? fun field => field.1 = key).Perm style := by
    refine (List.perm_ext_iff_of_nodup ?_ isStyle.distinct.of_map).2 fun field => ?_
    · refine List.Nodup.filterMap (fun key key' field isFirst isSecond => ?_) (by decide)
      have first : field.1 = key := by simpa using List.find?_some isFirst
      have second : field.1 = key' := by simpa using List.find?_some isSecond
      exact first.symm.trans second
    · refine ⟨fun member => ?_, fun member => ?_⟩
      · obtain ⟨key, -, found⟩ := List.mem_filterMap.1 member
        exact List.mem_of_find?_eq_some found
      · exact List.mem_filterMap.2 ⟨field.1, (isStyle.settled field member).key,
          Keyed.get_of_mem isStyle.distinct member⟩
  have fields : normalizeTabStyleOverrides host (.object style) =
      if (styleKeys.filterMap fun key => style.find? fun field => field.1 = key).isEmpty then none
      else some (styleKeys.filterMap fun key => style.find? fun field => field.1 = key) := by
    rw [normalizeTabStyleOverrides, isStyle.override rfl, isStyle.override rfl, isStyle.override rfl,
      isStyle.override rfl, isStyle.override rfl, isStyle.override rfl]
    rfl
  have filled : (styleKeys.filterMap fun key => style.find? fun field => field.1 = key).isEmpty = false := by
    rw [perm.isEmpty_eq]
    exact isStyle.filled
  rw [filled] at fields
  exact ⟨_, fields, perm⟩

end Rendering

section RoundTrip

variable {theme : TabAppearanceThemeDocument}

theorem IsTheme.parse_write (isTheme : IsTheme host theme) :
    parseTabAppearanceThemeText host (JsonText.write host.numerals 0 theme.value ++ [10]) = .ok theme ∧
      ¬ themeMaxBytes < (Utf8.utf8Bytes (JsonText.write host.numerals 0 theme.value ++ [10])).length := by
  have small : ¬ themeMaxBytes < (Utf8.utf8Bytes (JsonText.write host.numerals 0 theme.value ++ [10])).length := by
    have units := isTheme.length_le
    have bytes := Utf8.length_utf8Bytes_le (JsonText.write host.numerals 0 theme.value ++ [10])
    rw [List.length_append, List.length_singleton] at bytes
    unfold themeMaxBytes
    omega
  refine ⟨?_, small⟩
  rw [parseTabAppearanceThemeText, if_neg (by simpa using small), JsonText.parse_write isTheme.plain (by decide)]
  exact isTheme.validate

/-- A theme that is accepted is written, and the text is read as the same theme; it is accepted again as it is, and the
renderer takes each of its styles as it is. -/
theorem theme_roundTrip (host : Host) (value : JsValue) (theme : TabAppearanceThemeDocument)
    (numeric : ∀ number ∈ value.numbers, host.numerals.isNumber number)
    (accepted : validateTabAppearanceThemeDocument host value = .ok theme) :
    (∃ source, serializeTabAppearanceTheme host value = .ok source ∧
      parseTabAppearanceThemeText host source = .ok theme) ∧
    validateTabAppearanceThemeDocument host theme.value = .ok theme ∧
    ∀ style ∈ theme.styles, ∃ normalized,
      normalizeTabStyleOverrides host (.object style) = some normalized ∧ normalized.Perm style := by
  have isTheme := validateTabAppearanceThemeDocument_spec accepted numeric
  obtain ⟨reads, small⟩ := isTheme.parse_write
  refine ⟨⟨_, ?_, reads⟩, isTheme.validate, fun style member => ?_⟩
  · rw [serializeTabAppearanceTheme, accepted]
    exact if_neg small
  · rcases List.mem_append.1 member with isTab | isPreset
    · obtain ⟨entry, isEntry, rfl⟩ := List.mem_map.1 isTab
      exact (isTheme.tabStyles entry isEntry).2.normalize
    · obtain ⟨preset, listed, rfl⟩ := List.mem_map.1 isPreset
      exact (isTheme.presets preset listed).style.normalize

theorem asciiUpper_asciiUpper (unit : UInt16) : asciiUpper (asciiUpper unit) = asciiUpper unit := by
  by_cases lower : 97 ≤ unit ∧ unit ≤ 122
  · have made : asciiUpper unit = unit - 32 := if_pos lower
    have below : (unit - 32).toNat = unit.toNat - 32 :=
      UInt16.toNat_sub_of_le _ _ (UInt16.le_trans (by decide) lower.1)
    have high : unit.toNat ≤ 122 := UInt16.le_iff_toNat_le.1 lower.2
    rw [made]
    refine if_neg fun again => ?_
    have low : 97 ≤ (unit - 32).toNat := UInt16.le_iff_toNat_le.1 again.1
    omega
  · have kept : asciiUpper unit = unit := if_neg lower
    rw [kept, kept]

/-- A program with the letters of the basic alphabet and with two numbers. -/
def Host.plain : Host where
  letterCase := LetterCase.ascii
  upper_upper := by simp [LetterCase.ascii, asciiUpper_asciiUpper]
  normalize := id
  normalize_normalize _ := rfl
  normalize_part _ _ _ _ := rfl
  normalize_blank _ _ _ _ := rfl
  normalize_control _ plain := plain
  numerals := {
    isNumber := fun value => value = 1 ∨ value = 14
    write := fun value => if value = 1 then [49] else [49, 52]
    read := fun text => .finite (if text = [49] then 1 else 14)
    read_write := by
      rintro value (rfl | rfl)
      · rfl
      · rfl
    numeral_write := by
      rintro value (rfl | rfl)
      · decide
      · decide
    length_write := by
      rintro value (rfl | rfl)
      · decide
      · decide }

def mailThemeValue : JsValue :=
  .object [(ofString "version", .number (.finite 1)), (ofString "format", .string themeFormat),
    (ofString "name", .string (ofString " My  theme")),
    (ofString "tabStyles", .object [(ofString "mail", .object
      [(ofString "fontSize", .number (.finite 14)), (ofString "accent", .string (ofString "#6750a4 "))])]),
    (ofString "presets", .array [])]

def mailTheme : TabAppearanceThemeDocument :=
  ⟨ofString "My theme", [(ofString "mail",
    [(ofString "fontSize", .number (.finite 14)), (ofString "accent", .string (ofString "#6750A4"))])], []⟩

theorem mailTheme_roundTrip :
    (∃ source, serializeTabAppearanceTheme Host.plain mailThemeValue = .ok source ∧
      parseTabAppearanceThemeText Host.plain source = .ok mailTheme) ∧
    validateTabAppearanceThemeDocument Host.plain mailTheme.value = .ok mailTheme ∧
    ∀ style ∈ mailTheme.styles, ∃ normalized,
      normalizeTabStyleOverrides Host.plain (.object style) = some normalized ∧ normalized.Perm style :=
  theme_roundTrip Host.plain mailThemeValue mailTheme
    (by simp [mailThemeValue, JsValue.numbers, JsValue.memberNumbers, JsValue.itemNumbers, Host.plain]) rfl

end RoundTrip

end TabAppearance
