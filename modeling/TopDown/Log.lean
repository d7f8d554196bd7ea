import TopDown.Analysis
import TopDown.Parse
import TopDown.Text.Quoted
/-!
Log records. Each stage tells what it did after the fact: its records are read off its result.
-/

set_option autoImplicit false

namespace TopDown

namespace Log

inductive Level where
  | error
  | warn
  | info
  | debug
  | trace
deriving DecidableEq, Repr

namespace Level

def rank : Level → Nat
  | error => 1
  | warn => 2
  | info => 3
  | debug => 4
  | trace => 5

def name : Level → String
  | error => "ERROR"
  | warn => "WARN"
  | info => "INFO"
  | debug => "DEBUG"
  | trace => "TRACE"

def all : List Level := [error, warn, info, debug, trace]

end Level

-- Records come from the stages of the work or from the program around them.
inductive Origin where
  | program
  | rules
  | grammar
  | sets
  | table
  | machine
deriving DecidableEq, Repr

structure Record where
  level : Level
  origin : Origin
  message : String
deriving DecidableEq, Repr

end Log

open Log

namespace Grammar

def undefinedRecords (grammar : Grammar) : List Record :=
  grammar.undefined.map fun nonTerminal =>
    ⟨.warn, .grammar, "non-terminal " ++ .singleton nonTerminal ++ " has no production"⟩

-- The records of reading the grammar from text.
def readRecords (grammar : Grammar) : List Record :=
  ⟨.debug, .rules, "parsed " ++ toString grammar.rules.length ++ " rules"⟩ :: grammar.undefinedRecords

end Grammar

namespace Analysis

def passRecord (name : String) (passes : Nat) : Record :=
  ⟨.debug, .sets, name ++ " sets reached a fixed point after " ++ toString passes ++ " passes"⟩

def records (analysis : Analysis) : List Record :=
  [passRecord "FIRST" analysis.firstPasses, passRecord "FOLLOW" analysis.followPasses]
    ++ analysis.conflicts.map (fun conflict => ⟨.warn, .table, conflict.text⟩)
    ++ [⟨.info, .table, "analyzed " ++ toString analysis.grammar.nonTerminals.size ++ " non-terminals and "
        ++ toString analysis.grammar.terminals.size ++ " terminals, " ++ toString analysis.conflicts.length
        ++ " LL(1) conflicts"⟩]

end Analysis

namespace Parse

-- What is told about the outcome; without a start symbol nothing was tried.
def outcomeMessage (parse : Parse) (input : List Char) : Option String :=
  match parse.failure? with
  | none => some ("accepted " ++ Text.quote input ++ " in " ++ toString parse.trace.length ++ " steps")
  | some .noStartSymbol => none
  | some failure => some ("rejected " ++ Text.quote input ++ ": " ++ failure.text)

def records (parse : Parse) (input : List Char) : List Record :=
  parse.trace.map (fun step => ⟨.trace, .machine, step.text⟩)
    ++ (parse.outcomeMessage input).toList.map fun message => ⟨.debug, .machine, message⟩

end Parse

end TopDown
