/-!
# Arguments of a command line

Options begin with two dashes and a name, or with one dash and a letter. The value of an option
stands behind a sign of equality or is the next argument, which then must not look like an option
itself.
-/

namespace SqlTables.Command

structure OptionSpec where
  name : String
  letter : Option Char
  takesValue : Bool
  /-- Whether the option may be given more than once. -/
  repeats : Bool
  /-- Whether the value may be empty. -/
  allowsEmpty : Bool
deriving DecidableEq, Repr

/-- An option with its value, which is empty for an option without one. -/
abbrev Setting := String × String

inductive Stop where
  /-- The arguments make no sense. -/
  | misused
  /-- The version was asked for. -/
  | version
  /-- Help was asked for. -/
  | help
deriving DecidableEq, Repr

inductive Shape where
  /-- Two dashes: only plain arguments follow. -/
  | divider
  | long (name : List Char) (value : Option (List Char))
  | short (letter : Char) (rest : List Char)
  | plain
deriving DecidableEq, Repr

def splitValue : List Char → List Char × Option (List Char)
  | [] => ([], none)
  | '=' :: rest => ([], some rest)
  | c :: rest =>
    let (name, value) := splitValue rest
    (c :: name, value)

/-- What an argument looks like. A single dash is a plain argument. -/
def Shape.of (argument : String) : Shape :=
  match argument.toList with
  | ['-', '-'] => .divider
  | '-' :: '-' :: rest =>
    let (name, value) := splitValue rest
    .long name value
  | '-' :: letter :: rest => .short letter rest
  | _ => .plain

def isGiven (settings : List Setting) (name : String) : Bool :=
  settings.any fun setting => setting.1 == name

/-- Add an option, unless it may be given only once and is given already, or its value is empty
and must not be. -/
def addSetting (spec : OptionSpec) (value : String) (settings : List Setting) :
    Except Stop (List Setting) :=
  if !spec.repeats && isGiven settings spec.name then .error .misused
  else if spec.takesValue && !spec.allowsEmpty && value.isEmpty then .error .misused
  else .ok (settings ++ [(spec.name, value)])

def nextValue : List String → Except Stop (String × List String)
  | [] => .error .misused
  | argument :: rest =>
    match Shape.of argument with
    | .plain => .ok (argument, rest)
    | _ => .error .misused

def readOption (spec : OptionSpec) (attached : Option (List Char)) (rest : List String)
    (settings : List Setting) : Except Stop (List Setting × List String) := do
  if spec.takesValue then
    let (value, rest) ←
      match attached with
      | some value => .ok (String.ofList value, rest)
      | none => nextValue rest
    return (← addSetting spec value settings, rest)
  else
    match attached with
    | some _ => .error .misused
    | none => return (← addSetting spec "" settings, rest)

/-- The value attached to a letter: what follows it, without a sign of equality in front. -/
def attachedTo : List Char → Option (List Char)
  | [] => none
  | '=' :: rest => some rest
  | rest => some rest

/-- Read options up to the first plain argument; gives them and the arguments from there on. At
most `fuel` options are read. -/
def readOptionsWithin (specs : List OptionSpec) (hasVersion : Bool) :
    Nat → List String → List Setting → Except Stop (List Setting × List String)
  | 0, arguments, settings => .ok (settings, arguments)
  | _ + 1, [], settings => .ok (settings, [])
  | fuel + 1, argument :: rest, settings =>
    match Shape.of argument with
    | .plain => .ok (settings, argument :: rest)
    | .divider => if rest.isEmpty then .ok (settings, []) else .error .misused
    | .long name attached =>
      let name := String.ofList name
      match specs.find? fun spec => spec.name == name with
      | some spec => do
        let (settings, rest) ← readOption spec attached rest settings
        readOptionsWithin specs hasVersion fuel rest settings
      | none =>
        if attached.isSome then .error .misused
        else if name == "help" then .error .help
        else if hasVersion && name == "version" then .error .version
        else .error .misused
    | .short letter attached =>
      match specs.find? fun spec => spec.letter == some letter with
      | some spec => do
        let (settings, rest) ← readOption spec (attachedTo attached) rest settings
        readOptionsWithin specs hasVersion fuel rest settings
      | none =>
        if letter == 'h' then .error .help
        else if hasVersion && letter == 'V' then .error .version
        else .error .misused

def readOptions (specs : List OptionSpec) (hasVersion : Bool) (arguments : List String) :
    Except Stop (List Setting × List String) :=
  readOptionsWithin specs hasVersion (arguments.length + 1) arguments []

def valuesOf (settings : List Setting) (name : String) : List String :=
  (settings.filter fun setting => setting.1 == name).map Prod.snd

def valueOf? (settings : List Setting) (name : String) : Option String :=
  (valuesOf settings name).head?

end SqlTables.Command
