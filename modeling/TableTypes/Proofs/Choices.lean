import TableTypes.Proofs.Dictionary
import TableTypes.Settings.Choice

/-!
# The order of choices

Choices that decide different things can be made in any order. Only those of one setting, or under
one key of it, depend on which comes first.
-/

namespace TableTypes

namespace Choice

/-- The key that a choice puts a text under, if it does. -/
def key? : Choice → Option String
  | .singularRule pattern _ => some pattern
  | .overrideColumn column _ => some column
  | .customImport name _ => some name
  | .typeMapping dataType _ => some dataType
  | _ => none

/-- What a choice decides: a setting, or the text under one key of it. -/
def subject (c : Choice) : ℕ × Option String :=
  (c.ctorIdx, c.key?)

end Choice

namespace Settings

/-- Two choices with different subjects can be made in either order. -/
theorem choose_comm {c d : Choice} (h : c.subject ≠ d.subject) (s : Settings) :
    (s.choose c).choose d = (s.choose d).choose c := by
  -- Choices of different settings write different fields; what is left are the pairs of one setting.
  cases c <;> cases d <;> try rfl
  case singularRule.singularRule pattern _ pattern' _ =>
    have hne : pattern ≠ pattern' := fun heq => h (by rw [heq]; rfl)
    simp only [choose, Dictionary.put_comm hne]
  case overrideColumn.overrideColumn column _ column' _ =>
    have hne : column ≠ column' := fun heq => h (by rw [heq]; rfl)
    simp only [choose, Dictionary.put_comm hne]
  case customImport.customImport name _ name' _ =>
    have hne : name ≠ name' := fun heq => h (by rw [heq]; rfl)
    simp only [choose, Dictionary.put_comm hne]
  case typeMapping.typeMapping dataType _ dataType' _ =>
    have hne : dataType ≠ dataType' := fun heq => h (by rw [heq]; rfl)
    simp only [choose, Dictionary.put_comm hne]
  all_goals exact absurd rfl h

/-- Choices of which no two have the same subject can be made in any order. -/
theorem chooseAll_eq_of_perm {choices others : List Choice} (hperm : choices.Perm others)
    (hsubjects : (choices.map Choice.subject).Nodup) (s : Settings) :
    s.chooseAll choices = s.chooseAll others := by
  refine hperm.foldl_eq' ?_ s
  intro c hc d hd s
  by_cases hcd : c = d
  · rw [hcd]
  · exact choose_comm (fun h => hcd (List.inj_on_of_nodup_map hsubjects hc hd h)) s

end Settings

end TableTypes
