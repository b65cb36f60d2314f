/-!
# Options and arguments

The arguments of a command are options, which start with a hyphen, and everything else. An option
may take a value: the rest of its argument behind an equals sign or behind its letter, or else the
next argument. Two hyphens alone end the options.
-/
namespace TypedRoutes

/-- An option with a long name, perhaps a letter, and perhaps a value. -/
structure OptionSpec where
  name : String
  letter : Option Char
  takesValue : Bool
deriving DecidableEq

/-- An option as it is given. -/
structure GivenOption where
  name : String
  value : Option String
deriving DecidableEq

/-- The options of an argument, the last of which may still need its value. -/
structure OptionArgument where
  given : List GivenOption
  awaiting : Option String

/-- The arguments of a command, read by its options. -/
structure ParsedArguments where
  given : List GivenOption
  others : List String

namespace OptionSpec

/-- Reads letters behind one hyphen. -/
def readLetters (specs : List OptionSpec) : List Char → Option OptionArgument
  | [] => some ⟨[], none⟩
  | c :: rest =>
    match specs.find? fun spec => spec.letter == some c with
    | none => none
    | some spec =>
      if spec.takesValue then
        if rest.isEmpty then some ⟨[], some spec.name⟩
        else some ⟨[⟨spec.name, some (String.ofList rest)⟩], none⟩
      else
        (readLetters specs rest).map fun more =>
          { more with given := ⟨spec.name, none⟩ :: more.given }

/-- Splits an argument at its first equals sign. -/
def splitValue (argument : List Char) : String × Option String :=
  let name := String.ofList (argument.takeWhile (· != '='))
  match argument.dropWhile (· != '=') with
  | _ :: value => (name, some (String.ofList value))
  | [] => (name, none)

/-- Reads an option by its long name. -/
def readLong (spec : OptionSpec) (value : Option String) : Option OptionArgument :=
  match spec.takesValue, value with
  | true, some v => some ⟨[⟨spec.name, some v⟩], none⟩
  | true, none => some ⟨[], some spec.name⟩
  | false, none => some ⟨[⟨spec.name, none⟩], none⟩
  | false, some _ => none

/-- Reads an argument that starts with a hyphen. -/
def readArgument (specs : List OptionSpec) (argument : List Char) : Option OptionArgument :=
  let (name, value) := splitValue argument
  match specs.find? fun spec => spec.name == name with
  | some spec => spec.readLong value
  | none =>
    match argument with
    | '-' :: '-' :: _ => none
    | _ :: letters => readLetters specs letters
    | [] => none

def isOption (argument : String) : Bool :=
  match argument.toList with
  | '-' :: _ :: _ => true
  | _ => false

/-- Reads arguments. Unless options may stand between the others, the first argument that is no
option ends them. -/
def parse? (specs : List OptionSpec) (interspersed : Bool) : List String → Option ParsedArguments
  | [] => some ⟨[], []⟩
  | argument :: rest =>
    if argument = "--" then some ⟨[], rest⟩
    else if isOption argument then
      match readArgument specs argument.toList with
      | none => none
      | some ⟨given, none⟩ =>
        (parse? specs interspersed rest).map fun more => { more with given := given ++ more.given }
      | some ⟨given, some name⟩ =>
        match rest with
        | [] => none
        | value :: rest =>
          (parse? specs interspersed rest).map fun more =>
            { more with given := given ++ ⟨name, some value⟩ :: more.given }
    else if interspersed then
      (parse? specs interspersed rest).map fun more =>
        { more with others := argument :: more.others }
    else some ⟨[], argument :: rest⟩

end OptionSpec

namespace ParsedArguments

def has (parsed : ParsedArguments) (name : String) : Bool :=
  parsed.given.any fun option => option.name == name

/-- The value of an option; the last one counts. -/
def value? (parsed : ParsedArguments) (name : String) : Option String :=
  (parsed.given.reverse.find? fun option => option.name == name).bind (·.value)

end ParsedArguments

end TypedRoutes
