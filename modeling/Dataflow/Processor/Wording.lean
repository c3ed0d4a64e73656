/-
Operations on text.
-/
import Dataflow.Processor.Input
import Dataflow.Text.Case

namespace Dataflow
namespace Processor

/-- The forms that `change_text_case` knows; `title` is another word for `proper`. -/
def recased (form input : String) : Except ProcessorError String :=
  match form with
  | "upper" => .ok (Text.toUpper input)
  | "lower" => .ok (Text.toLower input)
  | "proper" | "title" => .ok (Text.toProper input)
  | other => .error (.invalidParameter "case" "one of upper, lower, proper, title" other)

def changeTextCase : Operation where
  name := "change_text_case"
  parameters := [.optional "case" (.str "upper")]
  input := .text
  output := .text
  process data params := do
    let input ← textInput "change_text_case" data
    let form ← params.text "case"
    return .text (← recased form input)

/-- Puts one text in front of the input and another behind it. -/
def affixAdder : Operation where
  name := "prefix_suffix_adder"
  parameters := [.optional "prefix" (.str ""), .optional "suffix" (.str "")]
  input := .text
  output := .text
  process data params := do
    let input ← textInput "prefix_suffix_adder" data
    let before ← params.text "prefix"
    let after ← params.text "suffix"
    return .text (before ++ input ++ after)

end Processor
end Dataflow
