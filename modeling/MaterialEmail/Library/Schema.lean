import MaterialEmail.Library.JsonText
import Mathlib.Data.List.Forall2

/-! Schemas: what a program accepts of a value from outside, and what it makes of it. What a schema has settled it leaves as
it is, also after it was written as a text and read again. -/

/-- What is made of a value, if it is accepted. Nothing, `undefined`, is made of a member that may be left out. -/
abbrev Schema := JsValue → Option JsValue

namespace Schema

open JsString
open JsonText (Numerals Plain PlainItems PlainMembers)

section Combinators

def text (accepts : JsString → Bool) : Schema
  | .string value => if accepts value then some (.string value) else none
  | _ => none

/-- `z.string().trim()`, and what is asked of the rest. -/
def trimmed (accepts : JsString → Bool) : Schema
  | .string value => if accepts value.trim then some (.string value.trim) else none
  | _ => none

def number (accepts : Rat → Bool) : Schema
  | .number (.finite value) => if accepts value then some (.number (.finite value)) else none
  | _ => none

/-- `z.number().int().min(least).max(most)`. -/
def whole (least most : Int) : Schema :=
  number fun value => value.den = 1 && least ≤ value.num && value.num ≤ most

def boolean : Schema
  | .boolean value => some (.boolean value)
  | _ => none

def literal (value : String) : Schema := text (· = ofString value)

def oneOf (values : List String) : Schema := text (· ∈ values.map ofString)

def nullable (schema : Schema) : Schema
  | .null => some .null
  | value => schema value

def optional (schema : Schema) : Schema := fun value =>
  if value.isUndefined then some .undefined else schema value

/-- `default(value)`, which does not go through the schema. -/
def orDefault (schema : Schema) (default : JsValue) : Schema := fun value =>
  if value.isUndefined then some default else schema value

def refine (schema : Schema) (accepts : JsValue → Bool) : Schema := fun value => (schema value).filter accepts

/-- `transform(() => result)`. -/
def replaced (schema : Schema) (result : JsValue) : Schema := fun value => (schema value).map fun _ => result

/-- `z.union`: the first schema that accepts a value. -/
def union (schemas : List Schema) : Schema := fun value => schemas.findSome? fun schema => schema value

/-- `z.array(schema).min(least).max(most)`. -/
def array (schema : Schema) (least most : Nat) : Schema
  | .array items => if least ≤ items.length ∧ items.length ≤ most then (items.mapM schema).map .array else none
  | _ => none

def protoKey : JsString := ofString "__proto__"

def entry (schema : Schema) (member : JsString × JsValue) : Option (JsString × JsValue) :=
  (schema member.2).map (member.1, ·)

/-- `z.record`, with at most so many keys. The key of the prototype is passed by. -/
def record (accepts : JsString → Bool) (schema : Schema) (most : Nat) : Schema
  | .object members =>
    let own := members.filter (·.1 ≠ protoKey)
    if own.length ≤ most ∧ own.all (fun member => accepts member.1) = true then (own.mapM (entry schema)).map .object
    else none
  | _ => none

abbrev Fields := List (JsString × Schema)

def readFields : Fields → JsValue → Option (List (JsString × JsValue))
  | [], _ => some []
  | (key, schema) :: fields, value => do
    let read ← schema (value.get key)
    let members ← readFields fields value
    return if read.isUndefined then members else (key, read) :: members

/-- `z.strictObject`: no other keys than those of the fields. The result has them in their order. -/
def strictObject (fields : Fields) : Schema
  | .object members =>
    if members.all (fun member => member.1 = protoKey || member.1 ∈ fields.map Prod.fst) = true then
      (readFields fields (.object members)).map .object
    else none
  | _ => none

/-- Fields by their names. -/
def named (fields : List (String × Schema)) : Fields := fields.map fun field => (ofString field.1, field.2)

end Combinators

section Values

variable (numerals : Numerals)

mutual

/-- A value of the language: its numbers are numbers of the language, and an object has a key once. -/
def Proper : JsValue → Prop
  | .number (.finite value) => numerals.isNumber value
  | .array items => ProperItems items
  | .object members => (members.map Prod.fst).Nodup ∧ ProperMembers members
  | .undefined => True
  | .null => True
  | .boolean _ => True
  | .number (.infinite _) => True
  | .nan => True
  | .string _ => True

def ProperItems : List JsValue → Prop
  | [] => True
  | item :: items => Proper item ∧ ProperItems items

def ProperMembers : List (JsString × JsValue) → Prop
  | [] => True
  | (_, value) :: members => Proper value ∧ ProperMembers members

end

theorem properItems_iff {items : List JsValue} : ProperItems numerals items ↔ ∀ item ∈ items, Proper numerals item := by
  induction items with
  | nil => simp [ProperItems]
  | cons item items ih => simp [ProperItems, ih]

theorem properMembers_iff {members : List (JsString × JsValue)} :
    ProperMembers numerals members ↔ ∀ member ∈ members, Proper numerals member.2 := by
  induction members with
  | nil => simp [ProperMembers]
  | cons member members ih => simp [ProperMembers, ih]

variable {numerals} {value : JsValue}

theorem proper_array {items : List JsValue} : Proper numerals (.array items) ↔ ProperItems numerals items := Iff.rfl

theorem proper_object {members : List (JsString × JsValue)} :
    Proper numerals (.object members) ↔ (members.map Prod.fst).Nodup ∧ ProperMembers numerals members := Iff.rfl

theorem Proper.item {items : List JsValue} (proper : Proper numerals (.array items)) {item : JsValue}
    (member : item ∈ items) : Proper numerals item := by
  rw [proper_array] at proper
  exact (properItems_iff numerals).1 proper item member

theorem Proper.ofItems (proper : Proper numerals value) {item : JsValue} (member : item ∈ value.items) :
    Proper numerals item := by
  cases value with
  | array items => exact proper.item member
  | _ => cases member

theorem Proper.member {members : List (JsString × JsValue)} (proper : Proper numerals (.object members))
    {member : JsString × JsValue} (isMember : member ∈ members) : Proper numerals member.2 := by
  rw [proper_object] at proper
  exact (properMembers_iff numerals).1 proper.2 member isMember

theorem Proper.distinct {members : List (JsString × JsValue)} (proper : Proper numerals (.object members)) :
    (members.map Prod.fst).Nodup := by
  rw [proper_object] at proper
  exact proper.1

theorem Proper.get (proper : Proper numerals value) (key : JsString) : Proper numerals (value.get key) := by
  cases value with
  | object members =>
    cases found : members.find? (·.1 = key) with
    | none => simp [JsValue.get, found, Proper]
    | some member =>
      have inside := proper.member (List.mem_of_find?_eq_some found)
      simpa [JsValue.get, found] using inside
  | _ => simp [JsValue.get, Proper]

theorem plain_array {items : List JsValue} (plain : ∀ item ∈ items, Plain numerals item) :
    Plain numerals (.array items) := by
  rw [Plain]
  exact (JsonText.plainItems_iff numerals).2 plain

theorem plain_object {members : List (JsString × JsValue)} (distinct : (members.map Prod.fst).Nodup)
    (plain : ∀ member ∈ members, Plain numerals member.2) : Plain numerals (.object members) := by
  rw [Plain]
  exact ⟨distinct, (JsonText.plainMembers_iff numerals).2 plain⟩

theorem plain_objectOf (names : List String) {members : List (String × JsValue)} (are : members.map Prod.fst = names)
    (distinct : (names.map ofString).Nodup) (plain : ∀ member ∈ members, Plain numerals member.2) :
    Plain numerals (.objectOf members) := by
  refine plain_object ?_ (List.forall_mem_map.2 plain)
  rw [← are, List.map_map] at distinct
  rwa [List.map_map]

end Values

section Laws

variable (numerals : Numerals)

/-- What a schema has left stands in a text as it is, and the schema leaves it as it is. -/
structure Settled (schema : Schema) (result : JsValue) : Prop where
  again : schema result = some result
  plain : Plain numerals result

/-- What is left of a member may also be nothing. -/
structure MemberSettled (schema : Schema) (result : JsValue) : Prop where
  again : schema result = some result
  plain : result = .undefined ∨ Plain numerals result

def Settles (schema : Schema) : Prop :=
  ∀ value result, Proper numerals value → schema value = some result → Settled numerals schema result

def SettlesMember (schema : Schema) : Prop :=
  ∀ value result, Proper numerals value → schema value = some result → MemberSettled numerals schema result

variable {numerals} {schema : Schema} {result : JsValue}

theorem Settled.member (settled : Settled numerals schema result) : MemberSettled numerals schema result :=
  ⟨settled.again, Or.inr settled.plain⟩

@[simp] theorem Settles.member (settles : Settles numerals schema) : SettlesMember numerals schema :=
  fun value result proper ok => (settles value result proper ok).member

section Scalars

theorem text_eq_some {accepts : JsString → Bool} {value : JsValue} :
    text accepts value = some result ↔ ∃ units, value = .string units ∧ accepts units = true ∧ result = value := by
  cases value with
  | string units =>
    constructor
    · intro ok
      obtain ⟨accepted, same⟩ := Option.ite_none_right_eq_some.1 ok
      exact ⟨units, rfl, accepted, (Option.some.inj same).symm⟩
    · rintro ⟨given, ⟨⟩, accepted, rfl⟩
      exact if_pos accepted
  | _ => simp [text]

@[simp] theorem settles_text (accepts : JsString → Bool) : Settles numerals (text accepts) := by
  intro value result _ ok
  obtain ⟨units, rfl, -, rfl⟩ := text_eq_some.1 ok
  exact ⟨ok, by simp [Plain]⟩

@[simp] theorem settles_literal (value : String) : Settles numerals (literal value) := settles_text _

@[simp] theorem settles_oneOf (values : List String) : Settles numerals (oneOf values) := settles_text _

@[simp] theorem settles_trimmed (accepts : JsString → Bool) : Settles numerals (trimmed accepts) := by
  intro value result _ ok
  cases value with
  | string units =>
    obtain ⟨accepted, rfl⟩ : accepts units.trim = true ∧ JsValue.string units.trim = result := by simpa [trimmed] using ok
    exact ⟨by rw [trimmed, trim_trim, if_pos accepted], by simp [Plain]⟩
  | _ => simp [trimmed] at ok

theorem number_eq_some {accepts : Rat → Bool} {value : JsValue} :
    number accepts value = some result ↔
      ∃ finite, value = .number (.finite finite) ∧ accepts finite = true ∧ result = value := by
  cases value with
  | number given =>
    cases given with
    | finite finite =>
      constructor
      · intro ok
        obtain ⟨accepted, same⟩ := Option.ite_none_right_eq_some.1 ok
        exact ⟨finite, rfl, accepted, (Option.some.inj same).symm⟩
      · rintro ⟨given, ⟨⟩, accepted, rfl⟩
        exact if_pos accepted
    | infinite negative => simp [number]
  | _ => simp [number]

@[simp] theorem settles_number (accepts : Rat → Bool) : Settles numerals (number accepts) := by
  intro value result proper ok
  obtain ⟨finite, rfl, -, rfl⟩ := number_eq_some.1 ok
  exact ⟨ok, by simpa [Plain, Proper] using proper⟩

@[simp] theorem settles_whole (least most : Int) : Settles numerals (whole least most) := settles_number _

@[simp] theorem settles_boolean : Settles numerals boolean := by
  intro value result _ ok
  cases value with
  | boolean given =>
    cases ok
    exact ⟨rfl, by simp [Plain]⟩
  | _ => cases ok

end Scalars

section Wrappers

@[simp] theorem settles_nullable (settles : Settles numerals schema) : Settles numerals (nullable schema) := by
  intro value result proper ok
  have given : value = .null ∧ result = .null ∨ schema value = some result := by
    cases value with
    | null =>
      cases ok
      exact Or.inl ⟨rfl, rfl⟩
    | _ => exact Or.inr ok
  rcases given with ⟨-, rfl⟩ | ok
  · exact ⟨rfl, by simp [Plain]⟩
  · have settled := settles value result proper ok
    refine ⟨?_, settled.plain⟩
    cases result with
    | null => rfl
    | _ => exact settled.again

theorem settled_refine {accepts : JsValue → Bool} {value : JsValue} (ok : refine schema accepts value = some result)
    (settled : Settled numerals schema result) : Settled numerals (refine schema accepts) result :=
  ⟨Option.filter_eq_some_iff.2 ⟨settled.again, (Option.filter_eq_some_iff.1 ok).2⟩, settled.plain⟩

@[simp] theorem settles_refine (accepts : JsValue → Bool) (settles : Settles numerals schema) :
    Settles numerals (refine schema accepts) :=
  fun value result proper ok =>
    settled_refine ok (settles value result proper (Option.filter_eq_some_iff.1 ok).1)

/-- A schema of a member that may be left out may itself make nothing of some values. -/
theorem settlesMember_optional
    (settles : ∀ value result, Proper numerals value → schema value = some result →
      result = .undefined ∨ Settled numerals schema result) :
    SettlesMember numerals (optional schema) := by
  intro value result proper ok
  unfold optional at ok
  split at ok
  · cases ok
    exact ⟨rfl, Or.inl rfl⟩
  · rcases settles value result proper ok with rfl | settled
    · exact ⟨rfl, Or.inl rfl⟩
    · exact ⟨by rw [optional, if_neg (by simp [settled.plain.defined]), settled.again], Or.inr settled.plain⟩

@[simp] theorem Settles.optional (settles : Settles numerals schema) : SettlesMember numerals (optional schema) :=
  settlesMember_optional fun value result proper ok => Or.inr (settles value result proper ok)

theorem settled_orDefault {default value : JsValue} (own : Settled numerals schema default)
    (ok : orDefault schema default value = some result)
    (given : schema value = some result → Settled numerals schema result) :
    Settled numerals (orDefault schema default) result := by
  have settled : Settled numerals schema result := by
    unfold orDefault at ok
    split at ok
    · cases ok
      exact own
    · exact given ok
  exact ⟨by rw [orDefault, if_neg (by simp [settled.plain.defined]), settled.again], settled.plain⟩

theorem Settles.orDefault {default : JsValue} (settles : Settles numerals schema) (own : Settled numerals schema default) :
    Settles numerals (orDefault schema default) :=
  fun value result proper ok => settled_orDefault own ok (settles value result proper)

theorem replaced_eq_some {value made : JsValue} (ok : replaced schema result value = some made)
    (accepts : (schema result).isSome = true) : made = result ∧ replaced schema result result = some result := by
  obtain ⟨read, -, rfl⟩ := Option.map_eq_some_iff.1 ok
  obtain ⟨again, isAgain⟩ := Option.isSome_iff_exists.1 accepts
  exact ⟨rfl, by rw [replaced, isAgain, Option.map_some]⟩

theorem settles_replaced (plain : Plain numerals result) (accepts : (schema result).isSome = true) :
    Settles numerals (replaced schema result) := by
  intro value made _ ok
  obtain ⟨rfl, again⟩ := replaced_eq_some ok accepts
  exact ⟨again, plain⟩

theorem settlesMember_dropped (accepts : (schema .undefined).isSome = true) :
    SettlesMember numerals (replaced schema .undefined) := by
  intro value made _ ok
  obtain ⟨rfl, again⟩ := replaced_eq_some ok accepts
  exact ⟨again, Or.inl rfl⟩

end Wrappers

section Collections

variable {α β : Type}

theorem mapM_eq_some {read : α → Option β} {items : List α} {results : List β} :
    items.mapM read = some results ↔ List.Forall₂ (fun item result => read item = some result) items results := by
  induction items generalizing results with
  | nil => simp [eq_comm]
  | cons item items ih =>
    simp only [List.mapM_cons, Option.pure_def, Option.bind_eq_bind, Option.bind_eq_some_iff, Option.some.injEq,
      List.forall₂_cons_left_iff, ih]
    constructor
    · rintro ⟨first, isFirst, rest, areRest, rfl⟩
      exact ⟨first, rest, isFirst, areRest, rfl⟩
    · rintro ⟨first, rest, isFirst, areRest, rfl⟩
      exact ⟨first, isFirst, rest, areRest, rfl⟩

theorem mapM_same {read : α → Option α} {items : List α} (same : ∀ item ∈ items, read item = some item) :
    items.mapM read = some items :=
  mapM_eq_some.2 (List.forall₂_same.2 same)

theorem exists_of_mapM {read : α → Option β} {items : List α} {results : List β} (ok : items.mapM read = some results)
    {result : β} (member : result ∈ results) : ∃ item ∈ items, read item = some result := by
  have pairs := mapM_eq_some.1 ok
  clear ok
  induction pairs with
  | nil => cases member
  | cons reads _ ih =>
    rcases List.mem_cons.1 member with rfl | later
    · exact ⟨_, List.mem_cons_self, reads⟩
    · obtain ⟨item, isItem, reads⟩ := ih later
      exact ⟨item, List.mem_cons_of_mem _ isItem, reads⟩

theorem array_eq_some {least most : Nat} {value : JsValue} :
    array schema least most value = some result ↔ ∃ items results, value = .array items ∧
      (least ≤ items.length ∧ items.length ≤ most) ∧ items.mapM schema = some results ∧ result = .array results := by
  cases value with
  | array items => simp [array, eq_comm]
  | _ => simp [array]

theorem settled_array {least most : Nat} {value : JsValue} (ok : array schema least most value = some result)
    (each : ∀ item ∈ value.items, ∀ read ∈ result.items, schema item = some read → Settled numerals schema read) :
    Settled numerals (array schema least most) result := by
  obtain ⟨items, results, rfl, sizes, reads, rfl⟩ := array_eq_some.1 ok
  have settled (read : JsValue) (member : read ∈ results) : Settled numerals schema read := by
    obtain ⟨item, isItem, isRead⟩ := exists_of_mapM reads member
    exact each item isItem read member isRead
  have lengths := (mapM_eq_some.1 reads).length_eq
  have again := mapM_same fun read member => (settled read member).again
  refine ⟨array_eq_some.2 ⟨results, results, rfl, by omega, again, rfl⟩, ?_⟩
  exact plain_array fun read member => (settled read member).plain

@[simp] theorem settles_array (least most : Nat) (settles : Settles numerals schema) :
    Settles numerals (array schema least most) := by
  intro value result proper ok
  refine settled_array ok fun item isItem read _ isRead => settles item read ?_ isRead
  obtain ⟨items, results, rfl, -⟩ := array_eq_some.1 ok
  exact proper.item isItem

theorem keys_of_mapM {read : JsString × α → Option (JsString × β)} {own : List (JsString × α)}
    {results : List (JsString × β)} (keeps : ∀ member made, read member = some made → made.1 = member.1)
    (reads : own.mapM read = some results) : results.map Prod.fst = own.map Prod.fst := by
  have pairs := mapM_eq_some.1 reads
  clear reads
  induction pairs with
  | nil => rfl
  | cons first _ ih => rw [List.map_cons, List.map_cons, ih, keeps _ _ first]

theorem key_entry (member made : JsString × JsValue) (ok : entry schema member = some made) : made.1 = member.1 := by
  obtain ⟨read, -, rfl⟩ := Option.map_eq_some_iff.1 ok
  rfl

@[simp] theorem settles_record (accepts : JsString → Bool) (most : Nat) (settles : Settles numerals schema) :
    Settles numerals (record accepts schema most) := by
  intro value result proper ok
  cases value with
  | object members =>
    obtain ⟨⟨few, accepted⟩, made⟩ := Option.ite_none_right_eq_some.1 ok
    obtain ⟨results, reads, rfl⟩ := Option.map_eq_some_iff.1 made
    have keys := keys_of_mapM key_entry reads
    have settled (member : JsString × JsValue) (isMember : member ∈ results) : Settled numerals schema member.2 := by
      obtain ⟨given, isGiven, isEntry⟩ := exists_of_mapM reads isMember
      obtain ⟨read, isRead, rfl⟩ := Option.map_eq_some_iff.1 isEntry
      exact settles _ read (proper.member (List.mem_of_mem_filter isGiven)) isRead
    have own : results.filter (·.1 ≠ protoKey) = results := by
      rw [List.filter_eq_self]
      intro member isMember
      have isKey : member.1 ∈ (members.filter (·.1 ≠ protoKey)).map Prod.fst := keys ▸ List.mem_map_of_mem isMember
      obtain ⟨given, isGiven, same⟩ := List.mem_map.1 isKey
      exact same ▸ (List.mem_filter.1 isGiven).2
    have lengths : results.length = (members.filter (·.1 ≠ protoKey)).length := by
      simpa using congrArg List.length keys
    have allAccepted : results.all (fun member => accepts member.1) = true := by
      have onKeys (list : List (JsString × JsValue)) :
          list.all (fun member => accepts member.1) = (list.map Prod.fst).all accepts := by
        rw [List.all_map]
        rfl
      rw [onKeys, keys, ← onKeys]
      exact accepted
    have again : results.mapM (entry schema) = some results :=
      mapM_same fun member isMember => by rw [entry, (settled member isMember).again, Option.map_some]
    refine ⟨?_, plain_object ?_ fun member isMember => (settled member isMember).plain⟩
    · simp only [record, own]
      rw [if_pos ⟨by omega, allAccepted⟩, again, Option.map_some]
    · rw [keys]
      exact proper.distinct.sublist (List.filter_sublist.map _)
  | _ => cases ok

end Collections

section Objects

variable {fields : Fields} {value : JsValue} {members : List (JsString × JsValue)}

theorem readFields_cons {key : JsString} : readFields ((key, schema) :: fields) value = some members ↔
    ∃ read, schema (value.get key) = some read ∧ ∃ rest, readFields fields value = some rest ∧
      (if read.isUndefined then rest else (key, read) :: rest) = members := by
  simp only [readFields, Option.pure_def, Option.bind_eq_bind, Option.bind_eq_some_iff, Option.some.injEq]

theorem keys_readFields (ok : readFields fields value = some members) :
    (members.map Prod.fst).Sublist (fields.map Prod.fst) := by
  induction fields generalizing members with
  | nil =>
    cases ok
    exact List.Sublist.refl _
  | cons field fields ih =>
    obtain ⟨read, -, rest, isRest, rfl⟩ := readFields_cons.1 ok
    split
    · exact (ih isRest).cons _
    · exact (ih isRest).cons_cons _

theorem get_readFields (distinct : (fields.map Prod.fst).Nodup) (ok : readFields fields value = some members)
    {field : JsString × Schema} (isField : field ∈ fields) :
    field.2 (value.get field.1) = some ((JsValue.object members).get field.1) := by
  induction fields generalizing members with
  | nil => cases isField
  | cons first fields ih =>
    obtain ⟨key, schema⟩ := first
    obtain ⟨absent, distinct⟩ := List.nodup_cons.1 distinct
    obtain ⟨read, isRead, rest, isRest, rfl⟩ := readFields_cons.1 ok
    rcases List.mem_cons.1 isField with rfl | later
    · have elsewhere : key ∉ rest.map Prod.fst := fun inside => absent ((keys_readFields isRest).subset inside)
      split
      · rename_i nothing
        have none : read = .undefined := by
          cases read with
          | undefined => rfl
          | _ => cases nothing
        rw [JsValue.get_of_not_mem elsewhere, ← none]
        exact isRead
      · rw [JsValue.get_cons, if_pos rfl]
        exact isRead
    · have inside : field.1 ∈ fields.map Prod.fst := List.mem_map_of_mem later
      have other : key ≠ field.1 := by
        rintro rfl
        exact absent inside
      split
      · exact ih distinct isRest later
      · rw [JsValue.get_cons, if_neg other]
        exact ih distinct isRest later

theorem defined_of_mem_readFields (ok : readFields fields value = some members) {member : JsString × JsValue}
    (isMember : member ∈ members) :
    ∃ field ∈ fields, field.1 = member.1 ∧ field.2 (value.get field.1) = some member.2 ∧ member.2.isUndefined = false := by
  induction fields generalizing members with
  | nil =>
    cases ok
    cases isMember
  | cons first fields ih =>
    obtain ⟨read, isRead, rest, isRest, rfl⟩ := readFields_cons.1 ok
    have later (inside : member ∈ rest) : ∃ field ∈ first :: fields,
        field.1 = member.1 ∧ field.2 (value.get field.1) = some member.2 ∧ member.2.isUndefined = false := by
      obtain ⟨field, isField, is⟩ := ih isRest inside
      exact ⟨field, List.mem_cons_of_mem _ isField, is⟩
    split at isMember
    · exact later isMember
    · rename_i defined
      rcases List.mem_cons.1 isMember with rfl | inside
      · exact ⟨first, List.mem_cons_self, rfl, isRead, by simpa using defined⟩
      · exact later inside

theorem readFields_congr {other : JsValue}
    (same : ∀ field ∈ fields, field.2 (value.get field.1) = field.2 (other.get field.1)) :
    readFields fields value = readFields fields other := by
  induction fields with
  | nil => rfl
  | cons field fields ih =>
    have rest := ih fun later isLater => same later (List.mem_cons_of_mem _ isLater)
    simp only [readFields, rest, same field List.mem_cons_self]

theorem strictObject_eq_some : strictObject fields value = some result ↔ ∃ members read, value = .object members ∧
    members.all (fun member => member.1 = protoKey || member.1 ∈ fields.map Prod.fst) = true ∧
      readFields fields value = some read ∧ result = .object read := by
  cases value with
  | object members =>
    constructor
    · intro ok
      obtain ⟨known, made⟩ := Option.ite_none_right_eq_some.1 ok
      obtain ⟨read, isRead, rfl⟩ := Option.map_eq_some_iff.1 made
      exact ⟨members, read, rfl, known, isRead, rfl⟩
    · rintro ⟨_, read, ⟨⟩, known, isRead, rfl⟩
      rw [strictObject, if_pos known, isRead, Option.map_some]
  | _ => simp [strictObject]

/-- Each member of the result is what its schema made. -/
theorem get_strictObject (distinct : (fields.map Prod.fst).Nodup) (ok : strictObject fields value = some result)
    {field : JsString × Schema} (isField : field ∈ fields) :
    field.2 (value.get field.1) = some (result.get field.1) := by
  obtain ⟨members, read, rfl, -, isRead, rfl⟩ := strictObject_eq_some.1 ok
  exact get_readFields distinct isRead isField

theorem settled_strictObject (distinct : (fields.map Prod.fst).Nodup) (ok : strictObject fields value = some result)
    (each : ∀ field ∈ fields, MemberSettled numerals field.2 (result.get field.1)) :
    Settled numerals (strictObject fields) result := by
  have made {field : JsString × Schema} (isField : field ∈ fields) := get_strictObject distinct ok isField
  obtain ⟨members, read, rfl, -, isRead, rfl⟩ := strictObject_eq_some.1 ok
  have again : readFields fields (.object read) = some read := by
    rw [← isRead]
    exact readFields_congr fun field isField => by rw [(each field isField).again, made isField]
  have known : read.all (fun member => member.1 = protoKey || member.1 ∈ fields.map Prod.fst) = true := by
    rw [List.all_eq_true]
    intro member isMember
    simp [(keys_readFields isRead).subset (List.mem_map_of_mem isMember)]
  refine ⟨strictObject_eq_some.2 ⟨read, read, rfl, known, again, rfl⟩, ?_⟩
  refine plain_object (distinct.sublist (keys_readFields isRead)) fun member isMember => ?_
  obtain ⟨field, isField, -, is, defined⟩ := defined_of_mem_readFields isRead isMember
  have same : (JsValue.object read).get field.1 = member.2 := Option.some.inj ((made isField).symm.trans is)
  rcases (each field isField).plain with nothing | plain
  · rw [← same, nothing] at defined
    cases defined
  · exact same ▸ plain

theorem keys_named (fields : List (String × Schema)) :
    (named fields).map Prod.fst = (fields.map Prod.fst).map ofString := by
  rw [named, List.map_map, List.map_map]
  rfl

theorem settled_named {fields : List (String × Schema)} (distinct : ((fields.map Prod.fst).map ofString).Nodup)
    (proper : Proper numerals value) (ok : strictObject (named fields) value = some result)
    (each : fields.Forall fun field =>
      SettlesMember numerals field.2 ∨ MemberSettled numerals field.2 (result.member field.1)) :
    Settled numerals (strictObject (named fields)) result := by
  rw [← keys_named] at distinct
  refine settled_strictObject distinct ok (List.forall_mem_map.2 fun field isField => ?_)
  have made := get_strictObject distinct ok (List.mem_map_of_mem isField)
  rcases List.forall_iff_forall_mem.1 each field isField with settles | settled
  · exact settles _ _ (proper.get (ofString field.1)) made
  · exact settled

theorem settles_named {fields : List (String × Schema)} (distinct : ((fields.map Prod.fst).map ofString).Nodup)
    (each : (fields.map Prod.snd).Forall (SettlesMember numerals)) : Settles numerals (strictObject (named fields)) := by
  intro value result proper ok
  refine settled_named distinct proper ok (List.forall_iff_forall_mem.2 fun field isField => Or.inl ?_)
  exact List.forall_iff_forall_mem.1 each _ (List.mem_map_of_mem isField)

end Objects

section Unions

/-- What a schema accepts, and what it makes of it, has a mark. -/
def Marked (key mark : JsString) (schema : Schema) : Prop :=
  ∀ value result, schema value = some result → value.get key = .string mark ∧ result.get key = .string mark

theorem marked_strictObject {fields : Fields} {key : JsString} {mark : String} (distinct : (fields.map Prod.fst).Nodup)
    (isField : (key, literal mark) ∈ fields) : Marked key (ofString mark) (strictObject fields) := by
  intro value result ok
  obtain ⟨units, given, same, made⟩ := text_eq_some.1 (get_strictObject distinct ok isField)
  have isMark : units = ofString mark := of_decide_eq_true same
  rw [made, given, isMark]
  exact ⟨rfl, rfl⟩

/-- A union of schemas that no two accept one value of. -/
theorem settles_union {key : JsString} {marked : List (JsString × Schema)} (distinct : (marked.map Prod.fst).Nodup)
    (each : ∀ pair ∈ marked, Settles numerals pair.2 ∧ Marked key pair.1 pair.2) :
    Settles numerals (union (marked.map Prod.snd)) := by
  intro value result proper ok
  have found : marked.findSome? (fun pair => pair.2 value) = some result := by
    rw [← ok, union, List.findSome?_map]
    rfl
  obtain ⟨before, pair, after, rfl, accepts, -⟩ := List.findSome?_eq_some_iff.1 found
  have isPair : pair ∈ before ++ pair :: after := by simp
  obtain ⟨settles, marks⟩ := each pair isPair
  have settled := settles value result proper accepts
  have mark := (marks value result accepts).2
  refine ⟨?_, settled.plain⟩
  have again : (before ++ pair :: after).findSome? (fun pair => pair.2 result) = some result := by
    refine List.findSome?_eq_some_iff.2 ⟨before, pair, after, rfl, settled.again, fun other isOther => ?_⟩
    cases taken : other.2 result with
    | none => rfl
    | some made =>
      have same := ((each other (by simp [isOther])).2 result made taken).1
      rw [mark] at same
      have same : pair.1 = other.1 := by simpa using same
      rw [List.map_append, List.map_cons] at distinct
      exact absurd same.symm ((List.nodup_append.1 distinct).2.2 _ (List.mem_map_of_mem isOther) _ List.mem_cons_self)
  rw [union, List.findSome?_map]
  exact again

end Unions

end Laws

end Schema
