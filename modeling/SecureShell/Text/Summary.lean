/-
Module: SecureShell.Text.Summary
Purpose: The one-line form of records in summaries: the name of the record, then each field with its value,
  lists between brackets, and a tag around a value that may be absent.
Main exports: Summary.record, Summary.openRecord, Summary.tagged, Summary.optional, Summary.list
-/
import SecureShell.Text.Quoted

namespace SecureShell.Summary

/-- The written form of a truth value. -/
def bool : Bool → Text
  | true => "true".toList
  | false => "false".toList

/-- A value with a tag around it. -/
def tagged (tag value : Text) : Text :=
  tag ++ "(".toList ++ value ++ ")".toList

/-- A value that may be absent. -/
def optional : Option Text → Text
  | none => "None".toList
  | some value => tagged "Some".toList value

/-- Values one after the other with a comma between them. -/
def separated (values : List Text) : Text :=
  List.intercalate ", ".toList values

/-- A list between brackets. -/
def list (values : List Text) : Text :=
  "[".toList ++ separated values ++ "]".toList

/-- Fields with their values. -/
def fields (values : List (Text × Text)) : Text :=
  separated (values.map fun field => field.1 ++ ": ".toList ++ field.2)

/-- A record that shows all of its fields. -/
def record (name : Text) (values : List (Text × Text)) : Text :=
  name ++ " \x7b ".toList ++ fields values ++ " \x7d".toList

/-- A record that shows some of its fields. -/
def openRecord (name : Text) (values : List (Text × Text)) : Text :=
  name ++ " \x7b ".toList ++ fields values ++ ", .. \x7d".toList

/-- What stands in the place of a secret. -/
def redacted : Text :=
  Text.quoted "<redacted>".toList

example : record "R".toList [("a".toList, optional (some (bool true))), ("b".toList, list [])]
    = "R \x7b a: Some(true), b: [] \x7d".toList := by decide

end SecureShell.Summary
