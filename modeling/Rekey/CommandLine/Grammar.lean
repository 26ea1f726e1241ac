/-!
# Command-line grammar

How a list of words is taken apart into options with values, flags, positional values and the name
of a subcommand. An option takes the next word for its value, or what follows an equals sign. A
value is looked at only when the next option begins or the words end, so a mistake before a value
is complained of first.
-/

namespace Rekey.CommandLine

/-- What can be wrong with a command line. The last two are answered with a text instead. -/
inductive UsageError where
  | invalidValue
  | unknownArgument
  | invalidSubcommand
  | missingRequiredArgument
  | missingSubcommand
  | tooManyValues
  | valueValidation
  | argumentConflict
  | nothingGiven
  | helpAsked
  | versionAsked
deriving DecidableEq, Repr, Inhabited

/-- The exit code after a usage error: what was asked for is no error. -/
def UsageError.exitCode : UsageError → Nat
  | helpAsked | versionAsked => 0
  | _ => 2

/-- An option that takes a value. -/
structure OptionRule where
  name : String
  check : String → Option UsageError

/-- What words a command accepts. -/
structure Grammar where
  options : List OptionRule
  flags : List String
  positionals : List String
  subcommands : List String
  hasVersion : Bool

/-- Values by option, flag or positional name, each given once. -/
abbrev Given := List (String × String)

/-- Words read so far: what they gave, a name whose value has yet to come or to be looked at, and
the positional names that are still free. -/
structure Progress where
  given : Given
  pending : Option (String × Option String)
  free : List String
deriving Repr, DecidableEq

/-- What a list of words holds: the progress at its end, and a subcommand with its words. -/
structure Parsed where
  progress : Progress
  subcommand : Option (String × List String)
deriving Repr, DecidableEq

namespace Grammar

/-- Nothing is wrong with a value of this name. -/
def check (g : Grammar) (name value : String) : Option UsageError :=
  match g.options.find? (·.name == name) with
  | some o => o.check value
  | none => none

/-- Enters a value; a name can be given once. -/
def enter (g : Grammar) (given : Given) (name value : String) : Except UsageError Given :=
  if (given.lookup name).isSome then .error .argumentConflict
  else
    match g.check name value with
    | some e => .error e
    | none => .ok (given ++ [(name, value)])

/-- Looks at the pending value. -/
def settle (g : Grammar) (p : Progress) : Except UsageError Progress :=
  match p.pending with
  | none => .ok p
  | some (_, none) => .error .invalidValue
  | some (name, some value) =>
    match g.enter p.given name value with
    | .error e => .error e
    | .ok given => .ok { p with given := given, pending := none }

/-- An option or flag that begins with two hyphens, and the value after its equals sign. -/
def readLong (g : Grammar) (p : Progress) (name : String) (value : Option String) :
    Except UsageError Progress :=
  if g.options.any (·.name == name) then
    match g.settle p with
    | .error e => .error e
    | .ok p =>
      match value with
      | none => .ok { p with pending := some (name, none) }
      | some v =>
        match g.enter p.given name v with
        | .error e => .error e
        | .ok given => .ok { p with given := given }
  else if g.flags.contains name || name == "help" || (g.hasVersion && name == "version") then
    if value.isSome then .error .tooManyValues
    else
      match g.settle p with
      | .error e => .error e
      | .ok p =>
        if name == "help" then .error .helpAsked
        else if g.flags.contains name then
          match g.enter p.given name "true" with
          | .error e => .error e
          | .ok given => .ok { p with given := given }
        else .error .versionAsked
  else .error .unknownArgument

/-- A word that begins with one hyphen. Only help and version have short names. -/
def readShort (g : Grammar) (p : Progress) (letter : Char) : Except UsageError Progress :=
  let asked? : Option UsageError :=
    if letter == 'h' then some .helpAsked
    else if g.hasVersion && letter == 'V' then some .versionAsked
    else none
  match asked? with
  | none => .error .unknownArgument
  | some asked =>
    match g.settle p with
    | .error e => .error e
    | .ok _ => .error asked

/-- A word that stands for itself. -/
def readPositional (g : Grammar) (p : Progress) (onlyWords : Bool) (word : String) :
    Except UsageError Progress :=
  match p.free with
  | name :: free =>
    match g.settle p with
    | .error e => .error e
    | .ok p => .ok { p with pending := some (name, some word), free := free }
  | [] =>
    if g.subcommands.isEmpty then .error .unknownArgument
    else if onlyWords && g.subcommands.contains word then .error .unknownArgument
    else .error .invalidSubcommand

/-- Asking for help on a subcommand, which must exist. -/
def readHelp (g : Grammar) : List String → UsageError
  | [] => .helpAsked
  | name :: rest =>
    if g.subcommands.contains name && rest.isEmpty then .helpAsked else .invalidSubcommand

/-- A long name and the value after its equals sign. -/
def cutEquals : List Char → List Char × Option (List Char)
  | [] => ([], none)
  | c :: r =>
    if c = '=' then ([], some r)
    else
      let (name, value) := cutEquals r
      (c :: name, value)

/-- Reads words one by one. After two hyphens alone, all words stand for themselves. -/
def readWords (g : Grammar) (onlyWords : Bool) (p : Progress) :
    List String → Except UsageError Parsed
  | [] => .ok ⟨p, none⟩
  | word :: rest =>
    let awaiting := match p.pending with
      | some (_, none) => true
      | _ => false
    if onlyWords then
      match g.readPositional p true word with
      | .error e => .error e
      | .ok p => readWords g true p rest
    else if !awaiting && g.subcommands.contains word then
      if word == "help" then .error (g.readHelp rest) else .ok ⟨p, some (word, rest)⟩
    else
      match word.toList with
      | ['-', '-'] => readWords g true p rest
      | '-' :: '-' :: cs =>
        let (name, value) := cutEquals cs
        match g.readLong p (String.ofList name) (value.map String.ofList) with
        | .error e => .error e
        | .ok p => readWords g false p rest
      | '-' :: c :: _ =>
        match g.readShort p c with
        | .error e => .error e
        | .ok p => readWords g false p rest
      | _ =>
        match p.pending with
        | some (name, none) => readWords g false { p with pending := some (name, some word) } rest
        | _ =>
          match g.readPositional p false word with
          | .error e => .error e
          | .ok p => readWords g false p rest

/-- Reads the words of a command. -/
def parse (g : Grammar) (words : List String) : Except UsageError Parsed :=
  g.readWords false ⟨[], none, g.positionals⟩ words

end Grammar

end Rekey.CommandLine
