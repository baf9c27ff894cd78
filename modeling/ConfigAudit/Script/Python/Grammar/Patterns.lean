/-
# The grammar of patterns

* `Phrase.inPatterns` : the alternatives of the rules for patterns.
-/
import ConfigAudit.Script.Python.Grammar

namespace ConfigAudit.Python

open Phrase Choice

/-- Whether a number is imaginary. -/
def isImaginary (text : String) : Bool :=
  text.toList.getLast?.any fun c => c == 'j' || c == 'J'

/-- A number that has to be imaginary, or must not be. -/
def numberOf ( isWanted : String → Bool) (complaint : String) : Choice :=
  ⟨false, [.number], fun line _ parts =>
    if isWanted (parts.getD 0 .nothing).text then .yield (.list parts)
    else .complain (.on line complaint)⟩

/-- The alternatives of the rules for literal values in patterns. -/
def literalChoices : List Choice := [
  pass [signedNumber, .unless (.either ["+", "-"])],
  pass [complexNumber],
  pass [texts],
  pass [.either ["None", "True", "False"]]]

/-- What may not follow a name or a member that stands for a value. -/
def namedOn : Item := .either [".", "(", "="]

/-- The alternatives of the rules for patterns. -/
def Phrase.inPatterns : Phrase → List Choice
  | patterns => [
      pass [openSequence],
      pass [pattern]]
  | pattern => [
      node .pattern [asPattern],
      node .pattern [orPattern]]
  | asPattern => [
      pass [orPattern, "as", captureTarget],
      mistake wrongAsPattern]
  | orPattern => [pass [.sepBy "|" closedPattern]]
  | closedPattern => [
      pass [literalPattern],
      pass [captureTarget],
      pass [.soft "_"],
      pass [valuePattern],
      pass ["(", pattern, ")"],
      pass [sequencePattern],
      pass [mappingPattern],
      pass [classPattern]]
  | literalPattern => literalChoices
  | literalKey => literalChoices
  | complexNumber => [pass [signedReal, .either ["+", "-"], imaginaryNumber]]
  | signedNumber => [
      pass [.number],
      pass ["-", .number]]
  | signedReal => [
      pass [realNumber],
      pass ["-", realNumber]]
  | realNumber => [numberOf (fun s => !isImaginary s) "real number required in complex literal"]
  | imaginaryNumber => [numberOf isImaginary "imaginary number required in complex literal"]
  | captureTarget => [pass [.unless (.soft "_"), .name, .unless namedOn]]
  | valuePattern => [pass [memberPath, .unless namedOn]]
  | memberPath => [pass [.name, .some (.seq [".", .name])]]
  | namePath => [pass [.name, .many (.seq [".", .name])]]
  | sequencePattern => [
      pass ["[", .option sequenceItems, "]"],
      pass ["(", .option openSequence, ")"]]
  | openSequence => [pass [sequenceItem, ",", .option sequenceItems]]
  | sequenceItems => [pass [.sepBy "," sequenceItem, .option ","]]
  | sequenceItem => [
      pass [starPattern],
      pass [pattern]]
  | starPattern => [
      pass ["*", captureTarget],
      pass ["*", .soft "_"]]
  | mappingPattern => [
      pass ["\x7b", "\x7d"],
      pass ["\x7b", doubleStarPattern, .option ",", "\x7d"],
      pass ["\x7b", mappingItems, ",", doubleStarPattern, .option ",", "\x7d"],
      pass ["\x7b", mappingItems, .option ",", "\x7d"]]
  | mappingItems => [pass [.sepBy "," mappingItem]]
  | mappingItem => [pass [.either [literalKey, memberPath], ":", pattern]]
  | doubleStarPattern => [pass ["**", captureTarget]]
  | classPattern => [
      pass [namePath, "(", ")"],
      pass [namePath, "(", positionalPatterns, .option ",", ")"],
      pass [namePath, "(", keywordPatterns, .option ",", ")"],
      pass [namePath, "(", positionalPatterns, ",", keywordPatterns, .option ",", ")"],
      mistake wrongClassPattern]
  | positionalPatterns => [pass [.sepBy "," pattern]]
  | keywordPatterns => [pass [.sepBy "," keywordPattern]]
  | keywordPattern => [pass [.name, "=", pattern]]
  | _ => []

end ConfigAudit.Python
