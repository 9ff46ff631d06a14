/-!
# Switches

Arguments of a command line are split into switches and positional arguments. Long names
take their value after an equals sign or as the next argument; one-letter names may be
written together, and take what follows the letter or the next argument.
-/

namespace Crosslink.CommandLine

/-- A switch that a command knows. -/
structure Switch (κ : Type) where
  key : κ
  names : List String
  takesValue : Bool
  deriving Repr

/-- A switch that was given, with its value if it takes one. -/
abbrev Given (κ : Type) := κ × Option String

/-- The switch with a given name. -/
def find? {κ : Type} (switches : List (Switch κ)) (name : String) : Option (Switch κ) :=
  switches.find? fun s => s.names.contains name

/-- The switches of letters written together, and the one that still needs a value. -/
def letters? {κ : Type} (switches : List (Switch κ)) :
    List Char → Option (List (Given κ) × Option κ)
  | [] => some ([], none)
  | c :: cs =>
    match find? switches (String.ofList ['-', c]) with
    | none => none
    | some s =>
      if s.takesValue then
        if cs.isEmpty then some ([], some s.key)
        else some ([(s.key, some (String.ofList cs))], none)
      else (letters? switches cs).map fun (given, open') => ((s.key, none) :: given, open')

/-- The name and the value of an argument with an equals sign. -/
def splitValue (arg : String) : String × Option String :=
  let cs := arg.toList
  let name := cs.takeWhile (· != '=')
  match cs.drop name.length with
  | _ :: value => (String.ofList name, some (String.ofList value))
  | [] => (arg, none)

/-- The switches of one argument, and the one that still needs a value. -/
def switch? {κ : Type} (switches : List (Switch κ)) (arg : String) :
    Option (List (Given κ) × Option κ) :=
  let (name, value) := splitValue arg
  match if name.startsWith "--" then find? switches name else none with
  | some s =>
    if s.takesValue then
      match value with
      | some v => some ([(s.key, some v)], none)
      | none => some ([], some s.key)
    else if value.isSome then none
    else some ([(s.key, none)], none)
  | none => if arg.startsWith "--" then none else letters? switches (arg.toList.drop 1)

/-- Is the argument a switch, or several? -/
def isSwitch (arg : String) : Bool := arg.startsWith "-" && arg != "-"

/-- Split arguments into switches and the rest, or find a fault. Two dashes end the
switches; without `mixed`, so does the first argument that is no switch. -/
def split? {κ : Type} (switches : List (Switch κ)) (mixed : Bool) :
    List String → Option (List (Given κ) × List String)
  | [] => some ([], [])
  | arg :: rest =>
    if arg == "--" then some ([], rest)
    else if isSwitch arg then
      match switch? switches arg with
      | none => none
      | some (given, none) =>
        (split? switches mixed rest).map fun (more, args) => (given ++ more, args)
      | some (given, some key) =>
        match rest with
        | [] => none
        | value :: rest =>
          (split? switches mixed rest).map fun (more, args) =>
            (given ++ (key, some value) :: more, args)
    else if mixed then
      (split? switches mixed rest).map fun (given, args) => (given, arg :: args)
    else some ([], arg :: rest)

/-- The value of the last switch of a kind. -/
def lastValue? {κ : Type} [BEq κ] (key : κ) (given : List (Given κ)) : Option String :=
  (given.reverse.find? fun g => g.1 == key).bind (·.2)

end Crosslink.CommandLine
