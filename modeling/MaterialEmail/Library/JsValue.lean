import MaterialEmail.Library.JsString

/-! Values that come from outside and are looked at before they are used: objects are lists of members. -/

inductive JsValue where
  | undefined
  | null
  | boolean (value : Bool)
  | number (value : JsNumber)
  | nan
  | string (value : JsString)
  | array (items : List JsValue)
  | object (members : List (JsString × JsValue))

namespace JsValue

/-- `value[key]`, for the members that a value has of its own. -/
def get (value : JsValue) (key : JsString) : JsValue :=
  match value with
  | .object members => ((members.find? (·.1 = key)).map (·.2)).getD .undefined
  | _ => .undefined

/-- `value.name`. -/
def member (value : JsValue) (name : String) : JsValue := value.get (JsString.ofString name)

/-- An object with the members that are named. -/
def objectOf (members : List (String × JsValue)) : JsValue :=
  .object (members.map fun member => (JsString.ofString member.1, member.2))

/-- `typeof value === "object"`, and not `null`. -/
def isObject : JsValue → Bool
  | .array _ | .object _ => true
  | _ => false

def isUndefined : JsValue → Bool
  | .undefined => true
  | _ => false

/-- The items of an array. -/
def items : JsValue → List JsValue
  | .array items => items
  | _ => []

/-- The units of a text. -/
def text : JsValue → JsString
  | .string text => text
  | _ => []

mutual

/-- The finite numbers in a value, at any depth. -/
def numbers : JsValue → List Rat
  | .number (.finite value) => [value]
  | .array items => itemNumbers items
  | .object members => memberNumbers members
  | .undefined => []
  | .null => []
  | .boolean _ => []
  | .number (.infinite _) => []
  | .nan => []
  | .string _ => []

def itemNumbers : List JsValue → List Rat
  | [] => []
  | item :: items => item.numbers ++ itemNumbers items

def memberNumbers : List (JsString × JsValue) → List Rat
  | [] => []
  | (_, value) :: members => value.numbers ++ memberNumbers members

end

theorem get_cons (key name : JsString) (value : JsValue) (members : List (JsString × JsValue)) :
    (JsValue.object ((name, value) :: members)).get key = if name = key then value else (JsValue.object members).get key := by
  by_cases same : name = key <;> simp [get, same]

theorem get_of_not_mem {key : JsString} {members : List (JsString × JsValue)} (absent : key ∉ members.map Prod.fst) :
    (JsValue.object members).get key = .undefined := by
  have none : members.find? (·.1 = key) = none := by
    rw [List.find?_eq_none]
    intro member isMember same
    exact absent (of_decide_eq_true same ▸ List.mem_map_of_mem isMember)
  rw [get, none]
  rfl

theorem member_self (name : String) (value : JsValue) (members : List (String × JsValue)) :
    (objectOf ((name, value) :: members)).member name = value := by
  rw [member, objectOf, List.map_cons, get_cons, if_pos rfl]

theorem member_other {name key : String} (other : JsString.ofString name ≠ JsString.ofString key) (value : JsValue)
    (members : List (String × JsValue)) : (objectOf ((name, value) :: members)).member key = (objectOf members).member key := by
  rw [member, objectOf, List.map_cons, get_cons, if_neg other]
  rfl

theorem member_nil (key : String) : (objectOf []).member key = .undefined := rfl

theorem mem_numbers_array {items : List JsValue} {number : Rat} :
    number ∈ (JsValue.array items).numbers ↔ ∃ item ∈ items, number ∈ item.numbers := by
  rw [numbers]
  induction items with
  | nil => simp [itemNumbers]
  | cons item items ih => simp [itemNumbers, ih]

theorem mem_numbers_object {members : List (JsString × JsValue)} {number : Rat} :
    number ∈ (JsValue.object members).numbers ↔ ∃ member ∈ members, number ∈ member.2.numbers := by
  rw [numbers]
  induction members with
  | nil => simp [memberNumbers]
  | cons member members ih => simp [memberNumbers, ih]

theorem mem_numbers_of_get {value : JsValue} {key : JsString} {number : Rat} (inside : number ∈ (value.get key).numbers) :
    number ∈ value.numbers := by
  cases value with
  | object members =>
    cases found : members.find? (·.1 = key) with
    | none => simp [get, found, numbers] at inside
    | some member =>
      rw [get, found] at inside
      exact mem_numbers_object.2 ⟨member, List.mem_of_find?_eq_some found, inside⟩
  | _ => simp [get, numbers] at inside

end JsValue
