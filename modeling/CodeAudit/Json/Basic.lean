import CodeAudit.Numeric.Number

/-!
JSON values, with whole numbers kept apart from binary64 ones and object keys in their order of appearance.
-/

namespace CodeAudit

inductive Json where
  | null
  | bool (b : Bool)
  | number (n : Number)
  | string (s : String)
  | array (items : List Json)
  | object (members : List (String × Json))
deriving Inhabited

namespace Json

instance : Coe String Json := ⟨string⟩
instance : Coe Bool Json := ⟨bool⟩
instance : Coe Number Json := ⟨number⟩
instance : Coe Int Json := ⟨fun n => .number (.int n)⟩
instance : Coe Nat Json := ⟨fun n => .number (.int n)⟩

/-- A JSON array of texts. -/
def strings (items : List String) : Json :=
  .array (items.map .string)

/-- A JSON array of whole numbers. -/
def ints (items : List Int) : Json :=
  .array (items.map fun n => .number (.int n))

/-- The value of an optional member, null when there is none. -/
def orNull {α : Type} (encode : α → Json) : Option α → Json
  | some a => encode a
  | none => .null

/-- The last member of that name, null when there is none or the value is no object. -/
def get (j : Json) (key : String) : Json :=
  match j with
  | .object members => ((members.reverse.find? (·.1 == key)).map (·.2)).getD .null
  | _ => .null

/-- Whether an object has a member of that name. -/
def has (j : Json) (key : String) : Bool :=
  match j with
  | .object members => members.any (·.1 == key)
  | _ => false

def isNull : Json → Bool
  | .null => true
  | _ => false

/-- Null, false, zero and whatever is empty. -/
def isEmptyValue : Json → Bool
  | .null => true
  | .bool b => !b
  | .number n => n.isZero
  | .string s => s.isEmpty
  | .array items => items.isEmpty
  | .object members => members.isEmpty

end Json

end CodeAudit
