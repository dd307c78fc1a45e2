import TableTypes.Settings.Read

/-!
# Settings in layers

The variables whose names begin with `TYPEGEN_` go over the settings of a file. Two underscores in
such a name lead into a table, and values that read as a number or as true or false are taken so.
-/

namespace TableTypes

namespace Value

/-- Whether a character can stand in a key on the way to a value. -/
def isStepChar (c : Char) : Bool :=
  c.isAlphanum || c = '_' || c = '-'

/-- A key at the beginning of a way, and the rest. -/
def readKeyStep? (cs : List Char) : Option (Step × List Char) :=
  match cs.span isStepChar with
  | ([], _) => none
  | (key, rest) => some (.key (String.ofList key), rest)

/-- A place in brackets behind the opening one, and the rest. -/
def readPlaceStep? (cs : List Char) : Option (Step × List Char) :=
  match cs.span (· ≠ ']') with
  | (_, []) => none
  | ('+' :: _, _) => none
  | (number, _ :: rest) => (Binary64.signedDigits? number).map fun n => (.place n, rest)

/-- The steps behind the first one; each turn takes a character at least. -/
def readSteps? : Nat → List Char → Option (List Step)
  | 0, _ => none
  | _ + 1, [] => some []
  | fuel + 1, c :: rest =>
    if c = '.' then do
      let (step, rest) ← readKeyStep? rest
      return step :: (← readSteps? fuel rest)
    else if c = '[' then do
      let (step, rest) ← readPlaceStep? rest
      return step :: (← readSteps? fuel rest)
    else none

/-- The steps that a key names, with a dot before each further key and places in brackets. Any other
key names one step. -/
def stepsOf (key : String) : List Step :=
  let way : Option (List Step) := do
    let (first, rest) ← readKeyStep? key.toList
    return first :: (← readSteps? (rest.length + 1) rest)
  way.getD [.key key]

/-- Puts the entries of a layer over a value. -/
def putLayer (v : Value) (layer : List (String × Value)) : Value :=
  layer.foldl (fun v (key, value) => v.put (stepsOf key) value) v

end Value

/-- How the names of variables with settings begin, in small letters. -/
def variablePrefix : List Char :=
  ['t', 'y', 'p', 'e', 'g', 'e', 'n', '_']

/-- A name with a dot for each pair of underscores. -/
def dotted : List Char → List Char
  | '_' :: '_' :: rest => '.' :: dotted rest
  | c :: rest => c :: dotted rest
  | [] => []

/-- What the text of a variable stands for. -/
def variableValue (text : String) : Value :=
  let word := Unicode.lowercase text
  if word = "true" then .boolean true
  else if word = "false" then .boolean false
  else
    match Binary64.signedDigits? text.toList with
    | some n =>
      if -0x8000000000000000 ≤ n ∧ n < 0x8000000000000000 then .integer n
      else .float ((Binary64.ofText? text).getD ⟨0⟩)
    | none =>
      match Binary64.ofText? text with
      | some x => .float x
      | none => .text text

/-- The key and the value of a variable with a setting. -/
def variableEntry? (binding : String × String) : Option (String × Value) :=
  let name := (Unicode.lowercase binding.1).toList
  if variablePrefix.isPrefixOf name then
    some (String.ofList (dotted (name.drop variablePrefix.length)), variableValue binding.2)
  else none

/-- The settings of a file with variables over it. -/
def Settings.ofLayers? (file : Value) (environment : List (String × String)) : Option Settings :=
  let base := (Value.table []).putLayer file.entries
  Settings.read? .layers (base.putLayer (environment.filterMap variableEntry?))

end TableTypes
