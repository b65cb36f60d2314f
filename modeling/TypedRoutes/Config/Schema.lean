import TypedRoutes.Config.Layers
import TypedRoutes.Parameter.Codec

/-!
# Schemas of settings

A schema lists the fields of a section with their types and their values by default. Text and truth
values are recovered from guesses that went another way; every other value has to be of the type of
its field.
-/
namespace TypedRoutes

inductive FieldType where
  | boolean
  | integer
  | float
  | text
  | list
  /-- Null, or a value of a type. -/
  | optional (type : FieldType) (name : String)
  | anything
deriving DecidableEq

namespace FieldType

/-- The name of a type in messages. -/
def name : FieldType → String
  | boolean => "bool"
  | integer => "int"
  | float => "float"
  | text => "str"
  | list => "list"
  | optional _ name => name
  | anything => "object"

/-- Whether a value is of a type. Truth values count as integers. -/
def accepts : FieldType → Value → Bool
  | boolean, .boolean _ => true
  | integer, .integer _ | integer, .boolean _ => true
  | float, .float _ => true
  | text, .text _ => true
  | list, .list _ => true
  | optional _ _, .null => true
  | optional type _, value => type.accepts value
  | anything, _ => true
  | _, _ => false

/-- The text of a number that was meant as text. -/
def recoverText : Value → Except Failure Value
  | .integer n =>
    match Number.intText? n with
    | some cs => .ok (.text (String.ofList cs))
    | none => .error .outOfRange
  | .float x => .ok (.text (String.ofList x.text))
  | value => .ok value

/-- The truth value that a number or a word was meant as. -/
def recoverBoolean : Value → Value
  | .integer n => if n = 0 then .boolean false else if n = 1 then .boolean true else .integer n
  | .text s =>
    match readBoolean? s with
    | some b => .boolean b
    | none => .text s
  | value => value

/-- Undoes a guess that contradicts the type of a field. -/
def recover (type : FieldType) (value : Value) : Except Failure Value :=
  match type with
  | text => recoverText value
  | boolean => .ok (recoverBoolean value)
  | _ => .ok value

end FieldType

structure Field where
  name : String
  type : FieldType
  /-- The value of a field that is left out; without one the field is required. -/
  default : Option Value

structure Schema where
  title : String
  fields : List Field

namespace Schema

/-- The value of a field in a section. Only a mapping has values for names. -/
def find? (data : Value) (name : String) : Except Failure (Option Value) :=
  match data with
  | .mapping entries => .ok (Entries.get? entries name)
  | .list items =>
    if items.any (Value.sameKey (.text name)) then .error .wrongShape else .ok none
  | .text s => if Text.occursIn name.toList s.toList then .error .wrongShape else .ok none
  | _ => .error .wrongShape

def isKnown (schema : Schema) (key : Value) : Bool :=
  schema.fields.any fun field => (Value.text field.name).sameKey key

def unknownKey (schema : Schema) (key : Value) : LogRecord :=
  ⟨.warning, .config, "Ignoring unknown config key '" ++ key.plain ++ "' for " ++ schema.title⟩

/-- Whether a key can be looked at: it has to be possible as a key, and an unknown one is shown. -/
def checkKey (schema : Schema) (key : Value) : Except Failure Unit :=
  if !key.isKey then .error .wrongShape
  else if schema.isKnown key || key.isShowable then .ok ()
  else .error .outOfRange

/-- The warnings about keys that no field has, up to the first key that cannot be looked at. -/
def warnings (schema : Schema) (data : Value) : List LogRecord :=
  let keys := (data.items?.getD []).takeWhile fun key => (schema.checkKey key).toOption.isSome
  (keys.filter fun key => !schema.isKnown key).map schema.unknownKey

/-- The value of a field, from what is given for it. -/
def readField (field : Field) (given : Option Value) : Except Failure Value :=
  match given with
  | some value =>
    match field.type.recover value with
    | .error failure => .error failure
    | .ok value =>
      if field.type.accepts value then .ok value
      else
        .error (.fault (.settingInvalid field.name
          ("expected " ++ field.type.name ++ ", got " ++ value.typeName)))
  | none =>
    match field.default with
    | some value => .ok value
    | none => .error (.fault (.settingInvalid field.name "required field not provided"))

/-- The values of all fields, from a section. -/
def read (schema : Schema) (data : Value) : Except Failure (Named Value) :=
  match data.items? with
  | none => .error .wrongShape
  | some keys => do
    keys.forM schema.checkKey
    schema.fields.mapM fun field => do
      let value ← readField field (← find? data field.name)
      return (field.name, value)

end Schema
end TypedRoutes
