/-!
# The grammar of a command line

The words of a command line name a command by a path through groups, and give
its places and options. This module reads words by any such grammar. Reading
goes from left to right and never back: a value is checked when the next word
that is not its own has come, a request for help ends the reading where it
stands, and the first word that fits nowhere is misuse. Options that every
level admits are read at the level they stand in; which of several wins is
decided by `shared?`, the innermost one before the environment.
-/

namespace Metering.CommandLine

/-- Why there is no command in some words. -/
inductive Stop where
  /-- Help, or the version, was asked for. -/
  | help
  | misuse
deriving DecidableEq, Repr

/-- Whether a text is a value of the kind that is wanted. -/
abbrev Check := String → Bool

/-- An option, which has a value unless it is a switch. -/
structure OptionRule where
  name : String
  value : Option Check
  /-- The variable of the environment that gives a value where the words give none. -/
  fallback : Option String

/-- What one level of the words gives. A switch has the empty value. -/
structure Level where
  options : List (String × String)
  places : List String
deriving DecidableEq, Repr

namespace Level

def empty : Level := ⟨[], []⟩

def option? (name : String) (l : Level) : Option String := l.options.lookup name

def has (name : String) (l : Level) : Bool := (l.option? name).isSome

end Level

/-- The form of a command. -/
structure Form where
  options : List OptionRule
  /-- The names of the options that have to be given. -/
  required : List String
  /-- Pairs of options of which the first is only given with the second. -/
  together : List (String × String)
  places : List Check

/-- A command with its form and its meaning, or a group of further words. -/
inductive Grammar (α : Type) where
  | command (form : Form) (meaning : Level → Option α)
  | group (members : List (String × Grammar α))

namespace Grammar

variable {α : Type}

def member? (word : String) : Grammar α → Option (Grammar α)
  | .command .. => none
  | .group members => members.lookup word

def isGroup : Grammar α → Bool
  | .command .. => false
  | .group _ => true

def options : Grammar α → List OptionRule
  | .command form _ => form.options
  | .group _ => []

def places : Grammar α → List Check
  | .command form _ => form.places
  | .group _ => []

/-- Whether there is help on the words after the word that asks for it. -/
def hasHelp (g : Grammar α) : List String → Bool
  | [] => true
  | word :: rest =>
    match g.member? word with
    | some sub => sub.hasHelp rest
    | none => g.isGroup && word = "help" && rest.isEmpty

end Grammar

/-! ## Words -/

inductive Word where
  /-- The two dashes after which every word is a place. -/
  | divider
  | long (name : String) (value : Option String)
  | short (letter : Char)
  | plain
deriving DecidableEq, Repr

/-- A long option's name, and what comes behind an equals sign. -/
def splitValue (cs : List Char) : Word :=
  match cs.dropWhile (· ≠ '=') with
  | [] => .long (String.ofList cs) none
  | _ :: value => .long (String.ofList (cs.takeWhile (· ≠ '='))) (some (String.ofList value))

def Word.of (s : String) : Word :=
  match s.toList with
  | a :: b :: cs =>
    if a ≠ '-' then .plain
    else if b ≠ '-' then .short b
    else if cs.isEmpty then .divider
    else splitValue cs
  | _ => .plain

/-! ## Reading -/

/-- A value that has been taken and not been checked, or is still to come. -/
inductive Pending where
  | nothing
  | awaited (rule : OptionRule)
  | option (name : String) (check : Check) (value : String)
  | place (check : Check) (value : String)

structure Reader where
  level : Level
  pending : Pending
  /-- Every further word is a place. -/
  onlyPlaces : Bool

namespace Reader

def start : Reader := ⟨.empty, .nothing, false⟩

def isAwaiting (r : Reader) : Bool :=
  match r.pending with
  | .awaited _ => true
  | _ => false

/-- Adds an option, which may come only once. -/
def addOption (name value : String) (l : Level) : Except Stop Level :=
  if l.has name then .error .misuse else .ok { l with options := l.options ++ [(name, value)] }

/-- Checks what is pending and puts it into the level. -/
def settle (r : Reader) : Except Stop Reader := do
  match r.pending with
  | .nothing => pure r
  | .awaited _ => throw .misuse
  | .option name check value =>
    if check value then
      pure { r with level := ← addOption name value r.level, pending := .nothing }
    else throw .misuse
  | .place check value =>
    if check value then
      pure { r with
        level := { r.level with places := r.level.places ++ [value] }
        pending := .nothing }
    else throw .misuse

/-- A word that is a place. -/
def takePlace (places : List Check) (word : String) (r : Reader) : Except Stop Reader := do
  let r ← r.settle
  match places[r.level.places.length]? with
  | some check => pure { r with pending := .place check word }
  | none => throw .misuse

/-- A long option, by the rules in force. -/
def takeLong (rules : List OptionRule) (top : Bool) (name : String) (value : Option String)
    (r : Reader) : Except Stop Reader := do
  if name = "help" ∨ (top ∧ name = "version") then
    if value.isSome then throw .misuse
    let _ ← r.settle
    throw .help
  match rules.find? (·.name = name) with
  | none => throw .misuse
  | some rule =>
    match rule.value, value with
    | none, some _ => throw .misuse
    | none, none =>
      let r ← r.settle
      pure { r with level := ← addOption name "" r.level }
    | some check, some value => settle { (← r.settle) with pending := .option name check value }
    | some _, none => pure { (← r.settle) with pending := .awaited rule }

/-- A short option. There is one for help, and at the top one for the version. -/
def takeShort (top : Bool) (letter : Char) (r : Reader) : Except Stop Reader := do
  if letter = 'h' ∨ (top ∧ letter = 'V') then
    let _ ← r.settle
    throw .help
  else throw .misuse

/-- A word that names no command. -/
def take (rules : List OptionRule) (places : List Check) (top : Bool) (word : String)
    (r : Reader) : Except Stop Reader :=
  if r.onlyPlaces then r.takePlace places word
  else
    match Word.of word with
    | .divider => .ok { r with onlyPlaces := true }
    | .long name value => r.takeLong rules top name value
    | .short letter => r.takeShort top letter
    | .plain =>
      match r.pending with
      | .awaited rule =>
        .ok { r with pending := .option rule.name (rule.value.getD fun _ => true) word }
      | _ => r.takePlace places word

/-- The level at the end of its words. Where an option is not given, the value that the environment
has for it must be one. -/
def finish (environment : String → Option String) (rules : List OptionRule) (r : Reader) :
    Except Stop Level := do
  let r ← r.settle
  let sound (rule : OptionRule) : Bool :=
    match rule.value, rule.fallback.bind environment with
    | some check, some value => r.level.has rule.name || check value
    | _, _ => true
  if rules.all sound then pure r.level else throw .misuse

end Reader

/-- Whether a level has all that a form asks for. -/
def Form.admits (form : Form) (l : Level) : Bool :=
  l.places.length = form.places.length &&
    form.required.all (l.has ·) &&
    form.together.all fun pair => ! l.has pair.1 || l.has pair.2

/-- The command that words give, and the levels it was given in, the outermost first. The options
in `shared` are admitted at every level. -/
def read {α : Type} (environment : String → Option String) (shared : List OptionRule) (top : Bool)
    (g : Grammar α) (r : Reader) : List String → Except Stop (α × List Level)
  | [] => do
    let level ← r.finish environment (shared ++ g.options)
    match g with
    | .group _ => throw .misuse
    | .command form meaning =>
      if form.admits level then
        match meaning level with
        | some command => pure (command, [level])
        | none => throw .misuse
      else throw .misuse
  | word :: rest =>
    match if r.onlyPlaces || r.isAwaiting then none else g.member? word with
    | some sub => do
      let (command, levels) ← read environment shared false sub .start rest
      let level ← r.finish environment shared
      pure (command, level :: levels)
    | none =>
      if g.isGroup && ! r.onlyPlaces && ! r.isAwaiting && word = "help" then
        .error (if g.hasHelp rest then .help else .misuse)
      else do
        let r ← r.take (shared ++ g.options) g.places top word
        read environment shared top g r rest

/-- The value of a shared option: the innermost one given, or else the environment's. -/
def shared? (environment : String → Option String) (rule : OptionRule) (levels : List Level) :
    Option String :=
  (levels.reverse.findSome? (·.option? rule.name)) <|> rule.fallback.bind environment

end Metering.CommandLine
