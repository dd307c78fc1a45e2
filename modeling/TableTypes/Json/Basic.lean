import TableTypes.Text.Quoted

/-!
# JSON

The values of JSON and their text. Numbers keep their digits, and the members of an object their
order.
-/

namespace TableTypes

/-- A value of JSON. A text that holds half of a surrogate pair is no Unicode text; `none` stands for
it. -/
inductive Json where
  | null
  | boolean (value : Bool)
  | number (digits : String)
  | text (value : Option String)
  | array (items : List Json)
  | object (members : List (Option String × Json))
  deriving Repr, Inhabited

namespace Json

/-- A text or the missing value. -/
def ofText? (s : Option String) : Json :=
  match s with
  | some s => .text (some s)
  | none => .null

/-- A list of texts. -/
def ofTexts (texts : List String) : Json :=
  .array (texts.map fun s => .text (some s))

/-- An object with Unicode keys. -/
def ofMembers (members : List (String × Json)) : Json :=
  .object (members.map fun (key, value) => (some key, value))

/-- A line break and the indentation of a depth. -/
def newLine (depth : Nat) : String :=
  String.ofList ('\n' :: List.replicate (2 * depth) ' ')

/-- Lines between brackets. -/
def enclose (opening closing : String) (depth : Nat) (lines : List String) : String :=
  match lines with
  | [] => opening ++ closing
  | lines =>
    opening ++ newLine (depth + 1) ++ ("," ++ newLine (depth + 1)).intercalate lines ++
      newLine depth ++ closing

mutual

/-- The text of a value at a depth, with a line for each item and member. -/
def print (depth : Nat) : Json → String
  | .null => "null"
  | .boolean value => if value then "true" else "false"
  | .number digits => digits
  | .text value => Text.quote (value.getD "")
  | .array items => enclose "[" "]" depth (printItems (depth + 1) items)
  | .object members => enclose "\x7b" "\x7d" depth (printMembers (depth + 1) members)

/-- The texts of the items of an array. -/
def printItems (depth : Nat) : List Json → List String
  | [] => []
  | item :: rest => print depth item :: printItems depth rest

/-- The texts of the members of an object. -/
def printMembers (depth : Nat) : List (Option String × Json) → List String
  | [] => []
  | (key, value) :: rest =>
    (Text.quote (key.getD "") ++ ": " ++ print depth value) :: printMembers depth rest

end

end Json

end TableTypes
