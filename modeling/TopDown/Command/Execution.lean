import TopDown.Command.Arguments
import TopDown.Log.Filter
import TopDown.Service
/-!
What the program does with its arguments, its rule text and its log specification: the text it
prints, whether it succeeds, and the log records that pass the filter.
-/

set_option autoImplicit false

namespace TopDown.Command

open Log

inductive SourceFault where
  | notFound
  | isDirectory
  | denied
  | invalidText
  | other (reason : String)
deriving DecidableEq, Repr

namespace SourceFault

def text : SourceFault → String
  | notFound => "No such file or directory (os error 2)"
  | isDirectory => "Is a directory (os error 21)"
  | denied => "Permission denied (os error 13)"
  | invalidText => "stream did not contain valid UTF-8"
  | other reason => reason

end SourceFault

structure Outcome where
  output : String
  success : Bool
  records : List Record

def programName : String := "ll1-helper"

def version : String := programName ++ " 0.1.0\n"

def usage : String :=
  "Builds LL(1) parsing tables and runs a predictive parser.\n\n" ++
  "usage: " ++ programName ++ " [-g FILE] [-p INPUT]... [-l | -j] [-v]... [prod | ff | ll1 | conflicts]...\n"

def render (analysis : Analysis) (format : Format) : View → String
  | .productions =>
      let report := analysis.grammar.report
      match format with
      | .plain => report.plain
      | .latex => report.latex
      | .json => report.json
  | .sets =>
      let report := analysis.setReport
      match format with
      | .plain => report.plain
      | .latex => report.latex
      | .json => report.json
  | .table =>
      let report := analysis.table.report
      match format with
      | .plain => report.plain
      | .latex => report.latex
      | .json => report.json
  | .conflicts => "\n".intercalate (analysis.conflicts.map Conflict.text)

-- A parse has no LaTeX form and is shown as plain text instead.
def renderParse (report : ParseReport) : Format → String
  | .json => report.json
  | .plain | .latex => report.plain

def levelOf : Nat → Level
  | 0 => .warn
  | 1 => .info
  | 2 => .debug
  | _ => .trace

def line (text : String) : String := text ++ "\n"

def refuse (message : String) : Outcome := ⟨"", false, [⟨.error, .program, message⟩]⟩

/-- All that is done and told once the rule text has been read, before any filter. -/
def work (invocation : Invocation) (source : Except SourceFault String) : Outcome :=
  match source with
  | .error fault => refuse ("failed to read grammar: " ++ fault.text)
  | .ok rules =>
      match Grammar.ofText rules with
      | .error error => refuse error.text
      | .ok grammar =>
          let analysis := grammar.analyze
          let inputs := invocation.inputs.map fun input => Text.trim input.toList
          let parses := inputs.map fun input => (input, analysis.table.parse input)
          { output :=
              .join (invocation.views.map fun view => line (render analysis invocation.format view))
                ++ .join (parses.map fun (input, parse) =>
                  line (renderParse (parse.report (.ofList input)) invocation.format))
            success := parses.all fun (_, parse) => parse.isAccepted
            records := grammar.readRecords ++ analysis.records
              ++ parses.flatMap fun (input, parse) => parse.records input }

def run (invocation : Invocation) (source : Except SourceFault String) (specification : String) : Outcome :=
  let outcome := work invocation source
  let filter := (Filter.ofLevel (levelOf invocation.verbosity)).add specification
  { outcome with records := outcome.records.filter filter.admits }

end TopDown.Command
