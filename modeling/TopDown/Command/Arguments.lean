/-!
The arguments of the command line. They are read from left to right: an option without a value
waits for the next argument that is no option, flags may share one hyphen, and behind `--` all
arguments are names of views. Whatever breaks the rules is refused before anything else happens.
-/

set_option autoImplicit false

namespace TopDown.Command

inductive View where
  | productions
  | sets
  | table
  | conflicts
deriving DecidableEq, Repr

inductive Format where
  | plain
  | latex
  | json
deriving DecidableEq, Repr

structure Invocation where
  grammarPath : Option String
  views : List View
  inputs : List String
  format : Format
  verbosity : Nat
deriving DecidableEq, Repr

inductive UsageError where
  | unknownOption (text : String)
  | unknownView (text : String)
  | missingValue
  | repeatedOption
  | twoFormats
deriving DecidableEq, Repr

-- What the arguments ask for before the program proper runs, or instead of it.
inductive Request where
  | run (invocation : Invocation)
  | version
  | help
deriving DecidableEq, Repr

inductive ValueOption where
  | grammar
  | parse
deriving DecidableEq, Repr

inductive Flag where
  | latex
  | json
  | verbose
deriving DecidableEq, Repr

-- Everything seen so far, in order, and the option that waits for a value.
structure Scan where
  waiting : Option ValueOption
  onlyViews : Bool
  options : List ValueOption
  values : List (ValueOption × String)
  flags : List Flag
  names : List String

-- An argument may end the reading at once: with an error, or with a request that comes first.
inductive Stop where
  | wrong (error : UsageError)
  | early (request : Request)

namespace View

def ofName? : String → Option View
  | "prod" => some productions
  | "ff" => some sets
  | "ll1" => some table
  | "conflicts" => some conflicts
  | _ => none

end View

namespace Scan

def start : Scan := ⟨none, false, [], [], [], []⟩

def addValue (scan : Scan) (option : ValueOption) (value : List Char) : Scan :=
  { scan with waiting := none, values := scan.values ++ [(option, .ofList value)] }

def addOption (scan : Scan) (option : ValueOption) : Scan := { scan with options := scan.options ++ [option] }

-- An option with the text that is attached to it, or without.
def option (scan : Scan) (option : ValueOption) (attached : Option (List Char)) : Scan :=
  match attached with
  | none => { scan.addOption option with waiting := some option }
  | some value => (scan.addOption option).addValue option (value.dropWhile (· = '='))

-- An option by its long name, with what stands behind the first equals sign.
def long (scan : Scan) (text : List Char) : Except Stop Scan :=
  let name := text.takeWhile (· ≠ '=')
  let attached := if '=' ∈ text then some (text.dropWhile (· ≠ '=')) else none
  match String.ofList name with
  | "grammar" => .ok (scan.option .grammar attached)
  | "parse" => .ok (scan.option .parse attached)
  | "help" => .error (.early .help)
  | "version" => .error (.early .version)
  | other => .error (.wrong (.unknownOption other))

-- Options by their letters; one that takes a value takes the rest of the argument.
def letters (scan : Scan) : List Char → Except Stop Scan
  | [] => .ok scan
  | letter :: rest =>
      let attached := if rest.isEmpty then none else some rest
      match letter with
      | 'g' => .ok (scan.option .grammar attached)
      | 'p' => .ok (scan.option .parse attached)
      | 'l' => letters { scan with waiting := none, flags := scan.flags ++ [.latex] } rest
      | 'j' => letters { scan with waiting := none, flags := scan.flags ++ [.json] } rest
      | 'v' => letters { scan with waiting := none, flags := scan.flags ++ [.verbose] } rest
      | 'h' => .error (.early .help)
      | 'V' => .error (.early .version)
      | other => .error (.wrong (.unknownOption (.singleton other)))

def argument (scan : Scan) (text : String) : Except Stop Scan :=
  if scan.onlyViews then .ok { scan with names := scan.names ++ [text] }
  else
    match text.toList with
    | ['-', '-'] => .ok { scan with onlyViews := true }
    | '-' :: '-' :: rest => scan.long (rest.dropWhile (· = '-'))
    | '-' :: letter :: rest => scan.letters (letter :: rest)
    | chars =>
        match scan.waiting with
        | some option => .ok (scan.addValue option chars)
        | none => .ok { scan with names := scan.names ++ [text] }

def valuesOf (scan : Scan) (option : ValueOption) : List String :=
  scan.values.filterMap fun (given, value) => if given = option then some value else none

-- Every option given has a value, and only inputs and verbosity may be given more than once.
def invocation (scan : Scan) : Except UsageError Invocation := do
  if scan.options.any fun option => (scan.valuesOf option).isEmpty then throw .missingValue
  if 1 < scan.options.count .grammar ∨ 1 < scan.flags.count .latex ∨ 1 < scan.flags.count .json then
    throw .repeatedOption
  if .latex ∈ scan.flags ∧ .json ∈ scan.flags then throw .twoFormats
  let views ← scan.names.mapM fun name =>
    match View.ofName? name with
    | some view => pure view
    | none => throw (.unknownView name)
  pure {
    grammarPath := (scan.valuesOf .grammar).head?
    views
    inputs := scan.valuesOf .parse
    format := if .latex ∈ scan.flags then .latex else if .json ∈ scan.flags then .json else .plain
    verbosity := scan.flags.count .verbose }

end Scan

def scanArguments (scan : Scan) : List String → Except Stop Scan
  | [] => .ok scan
  | text :: rest => scan.argument text >>= fun next => scanArguments next rest

def readArguments (arguments : List String) : Except UsageError Request :=
  match scanArguments .start arguments with
  | .error (.early request) => .ok request
  | .error (.wrong error) => .error error
  | .ok scan => scan.invocation.map .run

end TopDown.Command
