/-
# The grammar of parameters and of what is assigned to

* `Phrase.inParameters` : the alternatives of the rules for parameters;
* `Phrase.inTargets` : the alternatives of the rules for what is assigned to or deleted.
-/
import ConfigAudit.Script.Python.Grammar

namespace ConfigAudit.Python

open Phrase Choice

/-- The mark behind the parameters. -/
def Form.closing : Form → String
  | .definition => ")"
  | .lambda => ":"

/-! ## Parameters -/

/-- The alternatives of the rules for parameters. -/
def Phrase.inParameters : Phrase → List Choice
  | params f => [
      mistake (wrongParameters f),
      pass [parameters f]]
  | parameters f => [
      pass [slashPlain f, .many (plainParam f), .many (defaultParam f), .option (starRest f)],
      pass [slashDefault f, .many (defaultParam f), .option (starRest f)],
      pass [.some (plainParam f), .many (defaultParam f), .option (starRest f)],
      pass [.some (defaultParam f), .option (starRest f)],
      pass [starRest f]]
  | slashPlain f => [
      pass [.some (plainParam f), "/", ","],
      pass [.some (plainParam f), "/", .ahead f.closing]]
  | slashDefault f => [
      pass [.many (plainParam f), .some (defaultParam f), "/", ","],
      pass [.many (plainParam f), .some (defaultParam f), "/", .ahead f.closing]]
  | starRest f => [
      mistake (wrongStarRest f),
      pass ["*", plainParam f, .many (maybeParam f), .option (keywordRest f)]] ++
      (if f = .definition then
        [pass ["*", starAnnotated, .many (maybeParam f), .option (keywordRest f)]] else []) ++ [
      pass ["*", ",", .some (maybeParam f), .option (keywordRest f)],
      pass [keywordRest f]]
  | keywordRest f => [
      mistake (wrongKeywordRest f),
      pass ["**", plainParam f]]
  | plainParam f => [
      pass [param f, ","],
      pass [param f, .ahead f.closing]]
  | starAnnotated => [
      pass [.name, ":", starExpression, ","],
      pass [.name, ":", starExpression, .ahead ")"]]
  | defaultParam f => [
      pass [param f, defaultValue, ","],
      pass [param f, defaultValue, .ahead f.closing]]
  | maybeParam f => [
      pass [param f, .option defaultValue, ","],
      pass [param f, .option defaultValue, .ahead f.closing]]
  | param .definition => [pass [.name, .option (.seq [":", expression])]]
  | param .lambda => [pass [.name]]
  | defaultValue => [
      pass ["=", expression],
      mistake wrongDefault]
  | _ => []

/-! ## Targets -/

/-- A member or an item of a value, which nothing may be asked of in turn. -/
def memberChoices : List Choice := [
  node .member [targetPrimary, ".", .name, .unless targetGoesOn],
  node .item [targetPrimary, "[", slices, "]", .unless targetGoesOn]]

/-- The alternatives of the rules for what is assigned to or deleted. -/
def Phrase.inTargets : Phrase → List Choice
  | starTargets => [
      pass [starTarget, .unless ","],
      pass [starTarget, .many (.seq [",", starTarget]), .option ","]]
  | starTargetsList => [pass [.sepBy "," starTarget, .option ","]]
  | starTargetsTuple => [
      pass [starTarget, .some (.seq [",", starTarget]), .option ","],
      pass [starTarget, ","]]
  | starTarget => [
      pass ["*", .unless "*", starTarget],
      pass [starInnerTarget]]
  | starInnerTarget => memberChoices ++ [pass [starAtom]]
  | starAtom => [
      pass [.name],
      pass ["(", starInnerTarget, ")"],
      pass ["(", .option starTargetsTuple, ")"],
      pass ["[", .option starTargetsList, "]"]]
  | singleTarget => [
      pass [memberTarget],
      pass [.name],
      pass ["(", singleTarget, ")"]]
  | memberTarget => memberChoices
  | targetPrimary => [
      pass [atom, .ahead targetGoesOn, .many (.seq [trailer, .ahead targetGoesOn])]]
  | targetGoesOn => [pass [.either ["(", "[", "."]]]
  | deleteTargets => [pass [.sepBy "," deleteTarget, .option ","]]
  | deleteTarget => memberChoices ++ [pass [deleteAtom]]
  | deleteAtom => [
      pass [.name],
      pass ["(", deleteTarget, ")"],
      pass ["(", .option deleteTargets, ")"],
      pass ["[", .option deleteTargets, "]"]]
  | _ => []

end ConfigAudit.Python
