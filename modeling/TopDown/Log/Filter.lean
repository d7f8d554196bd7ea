import TopDown.Log
import TopDown.Pattern.Reader
import TopDown.Text.WhiteSpace
/-!
Log filters. A filter is a list of directives, each a target prefix with a threshold; the longest
prefix that fits decides, of equals the last one. A specification adds directives, separated by
commas, and may end in a slash and a pattern that every message shown has to contain.
-/

set_option autoImplicit false

namespace TopDown.Log

-- The target a record is filtered by.
def Origin.target : Origin → String
  | .program => "ll1_helper"
  | .rules => "ll1_helper::grammar::parse"
  | .grammar => "ll1_helper::grammar::grammar"
  | .sets => "ll1_helper::grammar::nullable_first_follow"
  | .table => "ll1_helper::grammar::ll1_parsing_table"
  | .machine => "ll1_helper::grammar::predictive_parse"

-- The lowest rank that is no longer shown comes after the threshold; `none` shows nothing.
abbrev Threshold := Option Level

structure Directive where
  target : List Char
  threshold : Threshold

structure Filter where
  directives : List Directive
  pattern : Option Pattern

namespace Level

def ofName? (name : List Char) : Option Level :=
  all.find? fun level => level.name.toList = name.map Char.toUpper

end Level

def threshold? (name : List Char) : Option Threshold :=
  if name.map Char.toUpper = ['O', 'F', 'F'] then some none else (Level.ofName? name).map some

namespace Threshold

def admits (threshold : Threshold) (level : Level) : Bool :=
  match threshold with
  | none => false
  | some highest => level.rank ≤ highest.rank

end Threshold

namespace Directive

-- A level by itself holds for all targets, a target by itself shows all its records.
def read? (text : List Char) : Option Directive :=
  match text.splitOn '=' with
  | [name] =>
      match threshold? name with
      | some threshold => some ⟨[], threshold⟩
      | none => if name.isEmpty then none else some ⟨name, some .trace⟩
  | [name, value] =>
      let value := Text.trim value
      if value.isEmpty then some ⟨name, some .trace⟩ else (threshold? value).map (⟨name, ·⟩)
  | _ => none

end Directive

namespace Filter

def ofLevel (level : Level) : Filter := ⟨[⟨[], some level⟩], none⟩

-- A specification with more than one slash is passed over as a whole; a faulty pattern asks nothing.
def add (filter : Filter) (specification : String) : Filter :=
  let read (directives : List Char) := filter.directives ++ (directives.splitOn ',').filterMap Directive.read?
  match specification.toList.splitOn '/' with
  | [directives] => ⟨read directives, none⟩
  | [directives, pattern] => ⟨read directives, Pattern.ofText? pattern⟩
  | _ => filter

-- The better of two directives; the later one wins among prefixes of the same length.
def closer (target : List Char) (best : Option Directive) (directive : Directive) : Option Directive :=
  if directive.target.isPrefixOf target then
    match best with
    | none => some directive
    | some other => if other.target.length ≤ directive.target.length then some directive else best
  else best

def directive? (filter : Filter) (target : List Char) : Option Directive :=
  filter.directives.foldl (closer target) none

def admits (filter : Filter) (record : Record) : Bool :=
  match filter.directive? record.origin.target.toList with
  | none => false
  | some directive =>
      directive.threshold.admits record.level && filter.pattern.all (·.occursIn record.message.toList)

end Filter

end TopDown.Log
