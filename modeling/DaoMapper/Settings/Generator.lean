import DaoMapper.Settings.Fault
import DaoMapper.Text.Word

-- Names that the generator chooses, and what is accepted for them.
namespace DaoMapper.Settings

-- Suffixes and header may be of any kind that can be written; the attribute is a text.
structure Generator where
  fieldSuffix : Value
  implementationSuffix : Value
  contextAttribute : String
  headerComment : Value

def Generator.default : Generator :=
  ⟨.text "_cache", .text "Impl", "context", .text "Generated by daogen. Do not edit."⟩

def suffixFits (first : Char) (suffix : Value) : Bool :=
  suffix.given && Text.isName (first :: suffix.plain.toList)

def hasLineFeed? : Value → Option Bool
  | .text s => some (s.toList.contains '\n')
  | .list items | .tuple items | .set items => some (items.any (Value.same (.text "\n")))
  | .map entries => some (entries.any fun e => Value.same (.text "\n") e.1)
  | _ => none

def invalid (field : String) (value : Value) : Fault :=
  .invalid "generator" ("invalid " ++ field ++ " " ++ value.shown)

def Generator.check (fieldSuffix implementationSuffix contextAttribute headerComment : Value) :
    Except Fault Generator := do
  if !suffixFits 'x' fieldSuffix then throw (invalid "field_suffix" fieldSuffix)
  if !suffixFits 'X' implementationSuffix then
    throw (invalid "implementation_suffix" implementationSuffix)
  let .text name := contextAttribute | throw .lacksOperation
  if !Text.isName name.toList then throw (invalid "context_attribute" contextAttribute)
  match hasLineFeed? headerComment with
  | none => throw .unfit
  | some true => throw (.invalid "generator" "header_comment must be a single line")
  | some false => return ⟨fieldSuffix, implementationSuffix, name, headerComment⟩

def Generator.fields (g : Generator) : List (String × Value) := [
  ("field_suffix", g.fieldSuffix), ("implementation_suffix", g.implementationSuffix),
  ("context_attribute", .text g.contextAttribute), ("header_comment", g.headerComment)]

def Generator.fieldNames : List String := Generator.default.fields.map (·.1)

def chosen (values : List (String × Value)) (defaults : List (String × Value)) (name : String) : Value :=
  ((values ++ defaults).find? (·.1 == name)).map (·.2) |>.getD .null

def Generator.ofFields (values : List (String × Value)) : Except Fault Generator :=
  if values.any fun v => !Generator.fieldNames.contains v.1 then .error .unfit
  else
    let value := chosen values Generator.default.fields
    Generator.check (value "field_suffix") (value "implementation_suffix")
      (value "context_attribute") (value "header_comment")

end DaoMapper.Settings
