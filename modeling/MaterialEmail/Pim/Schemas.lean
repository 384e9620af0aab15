import MaterialEmail.Pim.Types

/-! What has passed a schema twice is in normal form: the schema returns it as it is. Once is enough for
every field but the types of an address, whose lower case may be longer than what was checked. -/
namespace Pim

open JsString

/-- The second result of a schema is in normal form. -/
def Settles (schema : α → Option α) : Prop :=
  ∀ raw once twice, schema raw = some once → schema once = some twice → schema twice = some twice

/-- The first result of a schema is in normal form. -/
def Normalizes (schema : α → Option α) : Prop := ∀ raw once, schema raw = some once → schema once = some once

theorem Normalizes.settles {schema : α → Option α} (normalizes : Normalizes schema) : Settles schema :=
  fun _ once twice _ second => normalizes once twice second

section Texts

theorem shortText_normalizes (maximum : Nat) : Normalizes (shortText maximum) := by
  intro raw once first
  unfold shortText at first ⊢
  split at first
  · rename_i bounds
    cases first
    rw [trim_trim, if_pos bounds]
  · cases first

theorem shortText_eq {maximum : Nat} {raw once : JsString} (parsed : shortText maximum raw = some once) :
    once = raw.trim ∧ 1 ≤ once.length ∧ once.length ≤ maximum := by
  unfold shortText at parsed
  split at parsed
  · rename_i bounds
    cases parsed
    exact ⟨rfl, bounds⟩
  · cases parsed

theorem uidSchema_normalizes : Normalizes uidSchema := by
  intro raw once first
  unfold uidSchema at first ⊢
  rw [Option.filter_eq_some_iff] at first ⊢
  exact ⟨shortText_normalizes 255 raw once first.1, first.2⟩

theorem isoDateTimeSchema_eq {raw once : JsString} (parsed : isoDateTimeSchema raw = some once) : once = raw := by
  unfold isoDateTimeSchema at parsed
  split at parsed
  · cases parsed
    rfl
  · cases parsed

theorem isoDateTimeSchema_normalizes : Normalizes isoDateTimeSchema := by
  intro raw once first
  have same := isoDateTimeSchema_eq first
  rwa [same] at first ⊢

theorem localDateSchema_normalizes : Normalizes localDateSchema := by
  intro raw once first
  have same : once = raw := by
    unfold localDateSchema at first
    split at first
    · split at first
      · cases first
        rfl
      · cases first
    · cases first
  rwa [same] at first ⊢

theorem emailSchema_normalizes : Normalizes emailSchema := by
  intro raw once first
  unfold emailSchema at first
  split at first
  · rename_i valid
    cases first
    exact if_pos valid
  · cases first

theorem optional_normalizes {schema : α → Option α} (normalizes : Normalizes schema) :
    Normalizes (optional schema) := by
  intro raw once first
  cases raw with
  | none =>
    cases first
    rfl
  | some value =>
    obtain ⟨parsed, isParsed, rfl⟩ := Option.map_eq_some_iff.1 first
    exact Option.map_eq_some_iff.2 ⟨parsed, normalizes value parsed isParsed, rfl⟩

/-- A schema that takes values as they are does so where they may be left out. -/
theorem optional_eq {schema : α → Option α} (keeps : ∀ raw once, schema raw = some once → once = raw)
    {raw once : Option α} (parsed : optional schema raw = some once) : once = raw := by
  cases raw with
  | none => exact (Option.some.inj parsed).symm
  | some value =>
    obtain ⟨value', isParsed, rfl⟩ := Option.map_eq_some_iff.1 parsed
    rw [keeps value value' isParsed]

theorem mapM_settles {schema : α → Option α} (settles : Settles schema) :
    Settles fun values : List α => values.mapM schema := by
  intro raw once twice first second
  induction raw generalizing once twice with
  | nil =>
    cases first
    cases second
    rfl
  | cons value values ih =>
    simp only [List.mapM_cons, Option.pure_def, Option.bind_eq_bind, Option.bind_eq_some_iff, Option.some.injEq] at first
    obtain ⟨parsed, isParsed, rest, areParsed, rfl⟩ := first
    simp only [List.mapM_cons, Option.pure_def, Option.bind_eq_bind, Option.bind_eq_some_iff, Option.some.injEq] at second
    obtain ⟨again, isAgain, rest', areAgain, rfl⟩ := second
    have head := settles value parsed again isParsed isAgain
    have tail := ih rest rest' areParsed areAgain
    simp only [List.mapM_cons, head, tail, Option.pure_def, Option.bind_eq_bind, Option.bind_some]

theorem mapM_length {schema : α → Option β} {values : List α} {parsed : List β}
    (areParsed : values.mapM schema = some parsed) : parsed.length = values.length := by
  induction values generalizing parsed with
  | nil =>
    cases areParsed
    rfl
  | cons value values ih =>
    simp only [List.mapM_cons, Option.pure_def, Option.bind_eq_bind, Option.bind_eq_some_iff, Option.some.injEq] at areParsed
    obtain ⟨head, -, tail, areTail, rfl⟩ := areParsed
    simp [ih areTail]

theorem bounded_eq {maximum : Nat} {schema : α → Option α} {values parsed : List α} :
    bounded maximum schema values = some parsed ↔ values.length ≤ maximum ∧ values.mapM schema = some parsed := by
  unfold bounded
  rw [Option.ite_none_right_eq_some]

theorem bounded_settles {schema : α → Option α} (settles : Settles schema) (maximum : Nat) :
    Settles (bounded maximum schema) := by
  intro raw once twice first second
  rw [bounded_eq] at first second ⊢
  refine ⟨?_, mapM_settles settles raw once twice first.2 second.2⟩
  rw [mapM_length second.2]
  exact second.1

theorem mapM_normalizes {schema : α → Option α} (normalizes : Normalizes schema) :
    Normalizes fun values : List α => values.mapM schema := by
  intro raw once first
  induction raw generalizing once with
  | nil =>
    cases first
    rfl
  | cons value values ih =>
    simp only [List.mapM_cons, Option.pure_def, Option.bind_eq_bind, Option.bind_eq_some_iff, Option.some.injEq] at first
    obtain ⟨parsed, isParsed, rest, areParsed, rfl⟩ := first
    have head := normalizes value parsed isParsed
    have tail := ih rest areParsed
    simp only [List.mapM_cons, head, tail, Option.pure_def, Option.bind_eq_bind, Option.bind_some]

theorem bounded_normalizes {schema : α → Option α} (normalizes : Normalizes schema) (maximum : Nat) :
    Normalizes (bounded maximum schema) := by
  intro raw once first
  rw [bounded_eq] at first ⊢
  rw [mapM_length first.2]
  exact ⟨first.1, mapM_normalizes normalizes raw once first.2⟩

variable (letters : LetterCase)

theorem typeText_settles : Settles (typeText letters) := by
  intro raw once twice first second
  obtain ⟨text, isText, rfl⟩ := Option.map_eq_some_iff.1 first
  obtain ⟨again, isAgain, rfl⟩ := Option.map_eq_some_iff.1 second
  have trimmed : (letters.lower text).Trimmed := by
    apply letters.lower_trimmed
    rw [(shortText_eq isText).1]
    exact trimmed_trim raw
  have same : again = letters.lower text := by
    rw [(shortText_eq isAgain).1]
    exact trim_of_trimmed trimmed
  rw [same] at isAgain ⊢
  rw [letters.lower_lower]
  exact second.trans (by rw [same, letters.lower_lower])

end Texts

section Records

/-- Schemas of records are sequences of the schemas of their fields. -/
theorem bind_eq_some {first : Option α} {next : α → Option β} {value : β} :
    (do let between ← first; next between) = some value ↔ ∃ between, first = some between ∧ next between = some value :=
  Option.bind_eq_some_iff

variable (letters : LetterCase)

theorem optionalText_normalizes (maximum : Nat) : Normalizes (optionalText maximum) :=
  optional_normalizes (shortText_normalizes maximum)

theorem contactName_normalizes : Normalizes ContactName.parse := by
  intro raw once first
  simp only [ContactName.parse, bind_eq_some, Option.pure_def, Option.some.injEq] at first ⊢
  obtain ⟨namePrefix, p₁, given, p₂, additional, p₃, family, p₄, suffix, p₅, rfl⟩ := first
  have texts := optionalText_normalizes
  exact ⟨_, texts _ _ _ p₁, _, texts _ _ _ p₂, _, texts _ _ _ p₃, _, texts _ _ _ p₄, _, texts _ _ _ p₅, rfl⟩

theorem contactEmail_settles : Settles (ContactEmail.parse letters) := by
  intro raw once twice first second
  simp only [ContactEmail.parse, bind_eq_some, Option.pure_def, Option.some.injEq] at first second ⊢
  obtain ⟨value, p₁, types, p₂, rfl⟩ := first
  obtain ⟨value', q₁, types', q₂, rfl⟩ := second
  exact ⟨_, emailSchema_normalizes.settles _ _ _ p₁ q₁, _,
    bounded_settles (typeText_settles letters) 12 _ _ _ p₂ q₂, rfl⟩

theorem contactPhone_settles : Settles (ContactPhone.parse letters) := by
  intro raw once twice first second
  simp only [ContactPhone.parse, bind_eq_some, Option.pure_def, Option.some.injEq] at first second ⊢
  obtain ⟨value, p₁, types, p₂, rfl⟩ := first
  obtain ⟨value', q₁, types', q₂, rfl⟩ := second
  exact ⟨_, (shortText_normalizes 100).settles _ _ _ p₁ q₁, _,
    bounded_settles (typeText_settles letters) 12 _ _ _ p₂ q₂, rfl⟩

theorem contactAddress_settles : Settles (ContactAddress.parse letters) := by
  intro raw once twice first second
  simp only [ContactAddress.parse, bind_eq_some, Option.ite_none_right_eq_some, Option.some.injEq] at first second ⊢
  obtain ⟨a₁, p₁, a₂, p₂, a₃, p₃, a₄, p₄, a₅, p₅, a₆, p₆, a₇, p₇, types, p₈, -, rfl⟩ := first
  obtain ⟨b₁, q₁, b₂, q₂, b₃, q₃, b₄, q₄, b₅, q₅, b₆, q₆, b₇, q₇, types', q₈, present, rfl⟩ := second
  have texts := fun maximum => (optionalText_normalizes maximum).settles
  exact ⟨_, texts _ _ _ _ p₁ q₁, _, texts _ _ _ _ p₂ q₂, _, texts _ _ _ _ p₃ q₃, _, texts _ _ _ _ p₄ q₄,
    _, texts _ _ _ _ p₅ q₅, _, texts _ _ _ _ p₆ q₆, _, texts _ _ _ _ p₇ q₇,
    _, bounded_settles (typeText_settles letters) 12 _ _ _ p₈ q₈, present, rfl⟩

theorem contactContent_settles : Settles (ContactContent.parse letters) := by
  intro raw once twice first second
  simp only [ContactContent.parse, bind_eq_some, Option.ite_none_right_eq_some, Option.some.injEq] at first second ⊢
  obtain ⟨a₁, p₁, a₂, p₂, a₃, p₃, a₄, p₄, a₅, p₅, a₆, p₆, a₇, p₇, a₈, p₈, a₉, p₉, -, rfl⟩ := first
  obtain ⟨b₁, q₁, b₂, q₂, b₃, q₃, b₄, q₄, b₅, q₅, b₆, q₆, b₇, q₇, b₈, q₈, b₉, q₉, consistent, rfl⟩ := second
  have texts := fun maximum => (optionalText_normalizes maximum).settles
  exact ⟨_, (shortText_normalizes 300).settles _ _ _ p₁ q₁, _, contactName_normalizes.settles _ _ _ p₂ q₂,
    _, texts _ _ _ _ p₃ q₃, _, bounded_settles (contactEmail_settles letters) 100 _ _ _ p₄ q₄,
    _, bounded_settles (contactPhone_settles letters) 100 _ _ _ p₅ q₅,
    _, bounded_settles (contactAddress_settles letters) 50 _ _ _ p₆ q₆, _, texts _ _ _ _ p₇ q₇,
    _, texts _ _ _ _ p₈ q₈, _, texts _ _ _ _ p₉ q₉, consistent, rfl⟩

theorem memberUids_normalizes : Normalizes (memberUidsSchema letters) := by
  intro raw once first
  unfold memberUidsSchema at first ⊢
  rw [Option.filter_eq_some_iff] at first ⊢
  exact ⟨bounded_normalizes uidSchema_normalizes 10000 _ _ first.1, first.2⟩

theorem mailingListContent_normalizes : Normalizes (MailingListContent.parse letters) := by
  intro raw once first
  simp only [MailingListContent.parse, bind_eq_some, Option.pure_def, Option.some.injEq] at first ⊢
  obtain ⟨a₁, p₁, a₂, p₂, a₃, p₃, a₄, p₄, rfl⟩ := first
  have texts := optionalText_normalizes
  exact ⟨_, shortText_normalizes 300 _ _ p₁, _, texts _ _ _ p₂, _, texts _ _ _ p₃,
    _, memberUids_normalizes letters _ _ p₄, rfl⟩

theorem temporalValue_normalizes : Normalizes temporalValueSchema := by
  intro raw once first
  cases raw with
  | date value =>
    simp only [temporalValueSchema, bind_eq_some, Option.pure_def, Option.some.injEq] at first
    obtain ⟨value', p, rfl⟩ := first
    simp only [temporalValueSchema, bind_eq_some, Option.pure_def, Option.some.injEq]
    exact ⟨_, localDateSchema_normalizes _ _ p, rfl⟩
  | dateTime value timeZone =>
    simp only [temporalValueSchema, bind_eq_some, Option.pure_def, Option.some.injEq] at first
    obtain ⟨value', p₁, timeZone', p₂, rfl⟩ := first
    simp only [temporalValueSchema, bind_eq_some, Option.pure_def, Option.some.injEq]
    exact ⟨_, isoDateTimeSchema_normalizes _ _ p₁, _, optionalText_normalizes _ _ _ p₂, rfl⟩

theorem recurrence_normalizes : Normalizes Recurrence.parse := by
  intro raw once first
  simp only [Recurrence.parse, bind_eq_some, Option.ite_none_right_eq_some, Option.some.injEq] at first ⊢
  obtain ⟨a₁, p₁, a₂, p₂, a₃, p₃, consistent, rfl⟩ := first
  exact ⟨_, optional_normalizes temporalValue_normalizes _ _ p₁,
    _, bounded_normalizes temporalValue_normalizes 10000 _ _ p₂,
    _, bounded_normalizes temporalValue_normalizes 10000 _ _ p₃, consistent, rfl⟩

theorem attendee_normalizes : Normalizes Attendee.parse := by
  intro raw once first
  simp only [Attendee.parse, bind_eq_some, Option.pure_def, Option.some.injEq] at first ⊢
  obtain ⟨a₁, p₁, a₂, p₂, rfl⟩ := first
  exact ⟨_, emailSchema_normalizes _ _ p₁, _, optionalText_normalizes _ _ _ p₂, rfl⟩

theorem alarmTrigger_normalizes : Normalizes AlarmTrigger.parse := by
  intro raw once first
  cases raw with
  | relative minutes =>
    simp only [AlarmTrigger.parse] at first
    split at first
    · rename_i bounds
      cases first
      exact if_pos bounds
    · cases first
  | absolute moment =>
    obtain ⟨parsed, isParsed, rfl⟩ := Option.map_eq_some_iff.1 first
    exact Option.map_eq_some_iff.2 ⟨parsed, isoDateTimeSchema_normalizes moment parsed isParsed, rfl⟩

theorem alarm_normalizes : Normalizes Alarm.parse := by
  intro raw once first
  simp only [Alarm.parse, bind_eq_some, Option.pure_def, Option.some.injEq] at first ⊢
  obtain ⟨a₁, p₁, a₂, p₂, a₃, p₃, rfl⟩ := first
  exact ⟨_, uidSchema_normalizes _ _ p₁, _, alarmTrigger_normalizes _ _ p₂, _, optionalText_normalizes _ _ _ p₃, rfl⟩

theorem calendarEventContent_normalizes : Normalizes (CalendarEventContent.parse letters) := by
  intro raw once first
  simp only [CalendarEventContent.parse, bind_eq_some, Option.ite_none_right_eq_some, Option.some.injEq] at first ⊢
  obtain ⟨a₁, p₁, a₂, p₂, a₃, p₃, a₄, p₄, a₅, p₅, a₆, p₆, a₇, p₇, a₈, p₈, a₉, p₉, a₀, p₀, consistent, rfl⟩ := first
  have texts := optionalText_normalizes
  exact ⟨_, shortText_normalizes 500 _ _ p₁, _, texts _ _ _ p₂, _, texts _ _ _ p₃,
    _, temporalValue_normalizes _ _ p₄, _, temporalValue_normalizes _ _ p₅,
    _, optional_normalizes recurrence_normalizes _ _ p₆, _, optional_normalizes attendee_normalizes _ _ p₇,
    _, bounded_normalizes attendee_normalizes 1000 _ _ p₈, _, bounded_normalizes alarm_normalizes 100 _ _ p₉,
    _, bounded_normalizes (shortText_normalizes 100) 100 _ _ p₀, consistent, rfl⟩

theorem taskContent_normalizes : Normalizes TaskContent.parse := by
  intro raw once first
  simp only [TaskContent.parse, bind_eq_some, Option.ite_none_right_eq_some, Option.some.injEq] at first ⊢
  obtain ⟨a₁, p₁, a₂, p₂, a₃, p₃, a₄, p₄, a₅, p₅, a₆, p₆, a₇, p₇, a₈, p₈, ⟨low, high, order⟩, rfl⟩ := first
  have texts := optionalText_normalizes
  exact ⟨_, shortText_normalizes 500 _ _ p₁, _, texts _ _ _ p₂,
    _, optional_normalizes temporalValue_normalizes _ _ p₃, _, optional_normalizes temporalValue_normalizes _ _ p₄,
    _, optional_normalizes isoDateTimeSchema_normalizes _ _ p₅,
    _, bounded_normalizes (shortText_normalizes 100) 100 _ _ p₆,
    _, optional_normalizes recurrence_normalizes _ _ p₇, _, texts _ _ _ p₈, ⟨low, high, order⟩, rfl⟩

theorem content_settles (kind : PimEntityKind) : Settles (contentSchema letters kind) := by
  cases kind with
  | contact => exact contactContent_settles letters
  | mailingList => exact (mailingListContent_normalizes letters).settles
  | calendarEvent => exact (calendarEventContent_normalizes letters).settles
  | task => exact taskContent_normalizes.settles

end Records

end Pim
