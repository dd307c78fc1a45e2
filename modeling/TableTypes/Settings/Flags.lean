import TableTypes.Json.Reader
import TableTypes.Settings.Basic

/-!
# Settings from JSON

Texts under keys, and overrides by column, as they are given on the command line.
-/

namespace TableTypes

/-- An object whose members are texts; of members with one key the last one counts. -/
def Json.textMap? : Json → Option (Dictionary String)
  | .object members => do
    let pairs ← members.mapM fun (key, value) =>
      match key, value with
      | some key, .text (some s) => some (key, s)
      | _, _ => none
    return Dictionary.ofPairs pairs
  | _ => none

/-- Overrides by column: the member `columns` of an object, which may hold other members but not a
second one of this name, or the only item of an array. -/
def Json.overrides? : Json → Option (Dictionary String)
  | .object members => do
    let keys ← members.mapM (·.1)
    match (keys.zip (members.map (·.2))).filter (·.1 = "columns") with
    | [] => return []
    | [(_, columns)] => columns.textMap?
    | _ => none
  | .array [] => some []
  | .array [columns] => columns.textMap?
  | _ => none

/-- Reads the texts under keys that a flag takes. -/
def parseTextMap (flag json : String) : Except SettingsFault (Dictionary String) :=
  match (Json.read? json).bind Json.textMap? with
  | some map => .ok map
  | none => .error (.badJson flag)

/-- The flag that takes overrides. -/
def overridesFlag : String := "overrides"

/-- Reads the overrides that a flag takes. -/
def parseOverrides (json : String) : Except SettingsFault (Dictionary String) :=
  match (Json.read? json).bind Json.overrides? with
  | some overrides => .ok overrides
  | none => .error (.badJson overridesFlag)

end TableTypes
