import CircuitAbi.Text.Basic

/-!
# Options and positional arguments

How a list of arguments divides into options and positional arguments.

* An argument of two characters or more that starts with a dash is an option, until `--` ends them.
* A long option may carry its value after `=`; another takes the next argument, whatever it is.
* Short options can stand together after one dash; one that takes a value takes the rest of them.
-/

set_option autoImplicit false

namespace CircuitAbi.Command

/-- An option: its long name with the dashes, its letter if it has one, and whether a value
belongs to it. -/
structure OptionRule where
  long : Text
  short : Option CodePoint
  takesValue : Bool

/-- An option that was given, by its long name, with its value if one belongs to it. -/
abbrev GivenOption := Text × Text

/-- What an argument gives: options, and possibly one that takes its value from the next argument.
-/
structure OptionScan where
  given : List GivenOption
  waiting : Option Text

/-- Short options that stand together; nothing when one is unknown. -/
def shortOptions (rules : List OptionRule) : Text → List GivenOption → Option OptionScan
  | [], given => some ⟨given, none⟩
  | c :: rest, given =>
    match rules.find? (·.short == some c) with
    | none => none
    | some rule =>
      if rule.takesValue then
        if rest.isEmpty then some ⟨given, some rule.long⟩
        else some ⟨given ++ [(rule.long, rest)], none⟩
      else shortOptions rules rest (given ++ [(rule.long, [])])

/-- The options of one argument that starts with a dash; a value may stand after an equals sign
(61). Nothing when it is wrong. -/
def scanOption (rules : List OptionRule) (arg : Text) : Option OptionScan :=
  let (name, value) := Text.cutAt 61 arg
  match rules.find? (·.long == name) with
  | some rule =>
    match rule.takesValue, value with
    | true, some v => some ⟨[(rule.long, v)], none⟩
    | true, none => some ⟨[], some rule.long⟩
    | false, some _ => none
    | false, none => some ⟨[(rule.long, [])], none⟩
  | none =>
    match arg with
    | 45 :: 45 :: _ => none
    | _ => shortOptions rules (arg.drop 1) []

/-- Arguments taken apart. -/
structure Arguments where
  options : List GivenOption
  positional : List Text

/-- Whether an argument is an option: a dash (45) and something after it. -/
def isOption : Text → Bool
  | 45 :: _ :: _ => true
  | _ => false

/-- Takes arguments apart, after those already taken. Unless options may be interspersed, the
first positional argument ends them. Nothing when an option is unknown, lacks its value or has one
too many. -/
def Arguments.scan (rules : List OptionRule) (interspersed : Bool) (done : Arguments) :
    List Text → Option Arguments
  | [] => some done
  | arg :: rest =>
    if arg = "--" then some { done with positional := done.positional ++ rest }
    else if isOption arg then
      match scanOption rules arg with
      | none => none
      | some ⟨given, none⟩ =>
        scan rules interspersed { done with options := done.options ++ given } rest
      | some ⟨given, some long⟩ =>
        match rest with
        | [] => none
        | value :: rest =>
          scan rules interspersed
            { done with options := done.options ++ given ++ [(long, value)] } rest
    else if interspersed then
      scan rules interspersed { done with positional := done.positional ++ [arg] } rest
    else some { done with positional := done.positional ++ arg :: rest }

/-- Takes arguments apart. -/
def Arguments.ofList? (rules : List OptionRule) (interspersed : Bool) (args : List Text) :
    Option Arguments :=
  scan rules interspersed ⟨[], []⟩ args

namespace Arguments

/-- Whether an option was given. -/
def has (a : Arguments) (long : Text) : Bool := a.options.any (·.1 == long)

/-- The value of an option; the last one counts. -/
def value? (a : Arguments) (long : Text) : Option Text := a.options.reverse.lookup long

end Arguments

end CircuitAbi.Command
