import MessageForge.Text.Digit
import MessageForge.Text.Quoted

/-!
# Options

The command line. Options have a short and a long spelling, of which the long
one may be abbreviated; a value may be attached to either. There are no
positional arguments, so that what no option takes is refused at the end.
-/

namespace MessageForge

structure Options where
  clean : List Text := []
  paths : List Text := ["**/*_messages.py", "**/*.capnp"]
  excludes : List Text := []
  outputDirectory : Text := []
  importPaths : List Text := []
  skipChecker : Bool := false
  verbose : Bool := false
  recursive : Bool := false
  deriving DecidableEq, Repr

inductive OptionName where
  | help
  | clean
  | paths
  | excludes
  | outputDirectory
  | importPaths
  | skipChecker
  | verbose
  | recursive
  deriving DecidableEq, Repr

/-- How many values an option takes. -/
inductive Arity where
  | none
  | one
  | many
  deriving DecidableEq, Repr

/-- Why a command line is not carried out. Asking for help is one reason. -/
inductive OptionFault where
  | help
  | ambiguous (argument : Text) (candidates : List Text)
  | missingValue (option : OptionName)
  | unwantedValue (option : OptionName) (value : Text)
  | unrecognized (arguments : List Text)
  deriving DecidableEq, Repr

namespace OptionName

def all : List OptionName :=
  [.help, .clean, .paths, .excludes, .outputDirectory, .importPaths, .skipChecker, .verbose,
    .recursive]

def spellings : OptionName → List Text
  | .help => ["-h", "--help"]
  | .clean => ["-c", "--clean"]
  | .paths => ["-p", "--paths"]
  | .excludes => ["-e", "--excludes"]
  | .outputDirectory => ["-o", "--output-dir"]
  | .importPaths => ["-I", "--import-path"]
  | .skipChecker => ["--no-pyright"]
  | .verbose => ["-v", "--verbose"]
  | .recursive => ["-r", "--recursive"]

def arity : OptionName → Arity
  | .help | .skipChecker | .verbose | .recursive => .none
  | .outputDirectory => .one
  | .clean | .paths | .excludes | .importPaths => .many

def label (option : OptionName) : Text :=
  Text.join "/" option.spellings

/-- All spellings in the order in which candidates are listed. -/
def table : List (Text × OptionName) :=
  all.flatMap fun option => option.spellings.map fun spelling => (spelling, option)

def ofSpelling? (spelling : Text) : Option OptionName :=
  (table.find? (·.1 = spelling)).map Prod.snd

end OptionName

def OptionFault.message : OptionFault → Option Text
  | .help => none
  | .ambiguous argument candidates =>
      some ("ambiguous option: " ++ argument ++ " could match " ++ Text.join ", " candidates)
  | .missingValue option =>
      let wanted : Text := if option.arity = .one then "one argument" else "at least one argument"
      some ("argument " ++ option.label ++ ": expected " ++ wanted)
  | .unwantedValue option value =>
      some ("argument " ++ option.label ++ ": ignored explicit argument " ++ Text.quote value)
  | .unrecognized arguments =>
      some ("unrecognized arguments: " ++ Text.join " " arguments)

/-- The exit code: asking for help is no mistake. -/
def OptionFault.exitCode : OptionFault → Nat
  | .help => 0
  | _ => 2

namespace Options

/-- What is attached to the spelling of an option: nothing, further characters
behind a short spelling, or a value behind an equals sign. -/
inductive Attached where
  | nothing
  | tail (text : Text)
  | value (text : Text)

inductive Argument where
  | option (option : OptionName) (isShort : Bool) (attached : Attached)
  | unknown (text : Text)
  | plain (text : Text)

def isShortSpelling (spelling : Text) : Bool :=
  spelling.length = 2

/-- The text before the first equals sign and the text behind it, if any. -/
def splitValue (argument : Text) : Text × Option Text :=
  match argument.dropWhile (· ≠ '=') with
  | [] => (argument, none)
  | _ :: value => (argument.takeWhile (· ≠ '='), some value)

def isNegativeNumber (argument : Text) : Bool :=
  match argument with
  | '-' :: digits =>
      let body := if digits.getLast? = some '\n' then digits.dropLast else digits
      let isDigits (text : Text) : Bool := !text.isEmpty && text.all Text.isDecimalDigit
      match Text.split '.' body with
      | [whole] => isDigits whole
      | [whole, fraction] => (whole.isEmpty || isDigits whole) && isDigits fraction
      | _ => false
  | _ => false

/-- The ways to read an argument as an abbreviated long spelling or as a short
spelling with something attached. -/
def readings (argument : Text) : List (Text × Argument) :=
  if Text.startsWith "--" argument then
    let (start, value) := splitValue argument
    (OptionName.table.filter fun (spelling, _) => Text.startsWith start spelling).map
      fun (spelling, option) =>
        (spelling, .option option (isShortSpelling spelling)
          (value.elim .nothing Attached.value))
  else
    (OptionName.table.filter fun (spelling, _) => spelling = argument.take 2).map
      fun (spelling, option) => (spelling, .option option true (.tail (argument.drop 2)))

def classifyDashed (argument : Text) : Except OptionFault Argument :=
  match readings argument with
  | [] =>
      if isNegativeNumber argument || argument.contains ' ' then .ok (.plain argument)
      else .ok (.unknown argument)
  | [(_, reading)] => .ok reading
  | candidates => .error (.ambiguous argument (candidates.map Prod.fst))

/-- An exact spelling wins over every other reading. A dash alone is no
option. -/
def classify (argument : Text) : Except OptionFault Argument :=
  if !Text.startsWith "-" argument then .ok (.plain argument)
  else
    match OptionName.ofSpelling? argument with
    | some option => .ok (.option option (isShortSpelling argument) .nothing)
    | none =>
        if argument.length = 1 then .ok (.plain argument)
        else
          match splitValue argument with
          | (spelling, some value) =>
              match OptionName.ofSpelling? spelling with
              | some option =>
                  .ok (.option option (isShortSpelling spelling) (.value value))
              | none => classifyDashed argument
          | _ => classifyDashed argument

/-- Two dashes alone are unknown themselves and make all that follows plain. -/
def classifyAll : List Text → Except OptionFault (List Argument)
  | [] => .ok []
  | argument :: rest =>
      if argument = "--" then .ok (.unknown argument :: rest.map Argument.plain)
      else do
        let first ← classify argument
        return first :: (← classifyAll rest)

/-- An argument that is no plain one, with the plain ones behind it. -/
structure Group where
  head : Argument
  values : List Text

/-- The plain arguments at the front, and the groups behind them. -/
def group : List Argument → List Text × List Group
  | [] => ([], [])
  | argument :: rest =>
      let (values, groups) := group rest
      match argument with
      | .plain text => (text :: values, groups)
      | head => ([], ⟨head, values⟩ :: groups)

/-- What one group asks for: options with their values, and what is left. -/
structure Demand where
  settings : List (OptionName × List Text) := []
  extras : List Text := []

def takeValues (option : OptionName) (values : List Text) : Except OptionFault Demand :=
  match option.arity, values with
  | .none, values => .ok { settings := [(option, [])], extras := values }
  | .one, value :: rest => .ok { settings := [(option, [value])], extras := rest }
  | .many, value :: rest => .ok { settings := [(option, value :: rest)] }
  | _, [] => .error (.missingValue option)

/-- Short options that take no value may stand in one argument, the last of
them with a value of its own. -/
def cluster (option : OptionName) (values : List Text) : (tail : Text) → Except OptionFault Demand
  | [] => takeValues option values
  | c :: rest =>
      match option.arity with
      | .none =>
          if c = '-' then .error (.unwantedValue option (c :: rest))
          else
            match OptionName.ofSpelling? ['-', c] with
            | none =>
                .ok { settings := [(option, [])], extras := ('-' :: c :: rest) :: values }
            | some next => do
                let demand ←
                  match rest with
                  | '=' :: value =>
                      if next.arity = .none then .error (.unwantedValue next value)
                      else pure { settings := [(next, [value])], extras := values }
                  | rest => cluster next values rest
                return { demand with settings := (option, []) :: demand.settings }
      | _ => .ok { settings := [(option, [c :: rest])], extras := values }

def Group.demand (group : Group) : Except OptionFault Demand :=
  match group.head with
  | .option option _ .nothing => takeValues option group.values
  | .option option isShort (.tail text) =>
      if isShort then cluster option group.values text else takeValues option group.values
  | .option option _ (.value text) =>
      if option.arity = .none then .error (.unwantedValue option text)
      else .ok { settings := [(option, [text])], extras := group.values }
  | .unknown text | .plain text => .ok { extras := text :: group.values }

/-- A later setting of the same option replaces an earlier one. -/
def set (options : Options) (option : OptionName) (values : List Text) :
    Except OptionFault Options :=
  match option with
  | .help => .error .help
  | .clean => .ok { options with clean := values }
  | .paths => .ok { options with paths := values }
  | .excludes => .ok { options with excludes := values }
  | .outputDirectory => .ok { options with outputDirectory := values.headD [] }
  | .importPaths => .ok { options with importPaths := values }
  | .skipChecker => .ok { options with skipChecker := true }
  | .verbose => .ok { options with verbose := true }
  | .recursive => .ok { options with recursive := true }

def setAll (options : Options) : List (OptionName × List Text) → Except OptionFault Options
  | [] => .ok options
  | (option, values) :: rest => do (← options.set option values).setAll rest

def applyGroups (options : Options) (extras : List Text) :
    List Group → Except OptionFault (Options × List Text)
  | [] => .ok (options, extras)
  | group :: rest => do
      let demand ← group.demand
      (← options.setAll demand.settings).applyGroups (extras ++ demand.extras) rest

/-- Every argument is classified before the first option takes effect. -/
def ofArguments (arguments : List Text) : Except OptionFault Options := do
  let (values, groups) := group (← classifyAll arguments)
  let (options, extras) ← applyGroups {} values groups
  if extras.isEmpty then return options else throw (.unrecognized extras)

end Options

end MessageForge
