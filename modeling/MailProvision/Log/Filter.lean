import MailProvision.Event
import MailProvision.Numeral.Reading
import MailProvision.Text.Blank

/-!
# Log filters

Which events are shown. A filter is written as rules separated by commas. A rule is a level, or a
target with an optional level; the target is the beginning of a component's name. Of the rules that
match an event the most specific one decides: the one with the longest target, then the one that
names the most fields.

A rule may also name a span and fields in brackets. There are no spans here, so a rule that names
one decides nothing.
-/

namespace MailProvision

/-- A rule as it is written. -/
structure LogDirective where
  target : Option String
  span : Option String
  /-- The fields that are named, each with whether a value is asked for. -/
  fields : List (String × Bool)
  /-- The rank of the least important level that is shown; zero shows nothing. -/
  threshold : Nat
deriving DecidableEq, Repr

/-- Why a rule cannot be read. -/
inductive LogDirectiveFault where
  | malformed
  | unknownLevel
deriving DecidableEq, Repr

namespace LogDirectiveFault

/-- The fault in words. -/
def message : LogDirectiveFault → String
  | malformed => "invalid filter directive"
  | unknownLevel =>
      "error parsing level filter: expected one of \"off\", \"error\", \"warn\", \"info\", " ++
        "\"debug\", \"trace\", or a number 0-5"

end LogDirectiveFault

namespace LogDirective

/-- The threshold of a level's name or number; small and capital letters are alike. -/
def threshold? (text : String) : Option Nat :=
  let number? := (Numeral.nat? (match text.toList with | '+' :: rest => rest | chars => chars))
  match number?.filter (· ≤ 5) with
  | some number => some number
  | none =>
      ["off", "error", "warn", "info", "debug", "trace"].findIdx? (· = text.map Char.toLower)

/-- The threshold of a level that may be left out. -/
def levelPart (chars : List Char) : Except LogDirectiveFault Nat :=
  if chars.isEmpty then .ok 5
  else
    match threshold? (String.ofList chars) with
    | some threshold => .ok threshold
    | none => .error .unknownLevel

/-- A field with an optional value. -/
def field? (chars : List Char) : Option (String × Bool) :=
  if chars.isEmpty then none
  else some (String.ofList (chars.takeWhile (· ≠ '=')), '=' ∈ chars)

/-- Span and fields after the opening bracket, and what follows the closing one. -/
def spanPart (chars : List Char) :
    Except LogDirectiveFault (Option String × List (String × Bool) × List Char) :=
  let name := chars.takeWhile fun c => c ≠ ']' && c ≠ '{'
  match chars.drop name.length with
  | ']' :: rest => .ok (some (String.ofList name), [], rest)
  | '{' :: rest =>
      let inside := rest.takeWhile (· ≠ '}')
      match rest.drop inside.length, (Text.splitChars ',' inside).mapM field? with
      | '}' :: ']' :: rest, some fields =>
          .ok (if name.isEmpty then none else some (String.ofList name), fields, rest)
      | _, _ => .error .malformed
  | _ => .error .malformed

/-- Whether a rule may start with a character. -/
def canStart (c : Char) : Bool :=
  c.isAlphanum || c = '-' || c = ':' || c = '_' || 128 ≤ c.toNat

/-- A rule after its target. -/
def afterTarget (target : Option String) :
    List Char → Except LogDirectiveFault LogDirective
  | '=' :: rest => do
      let threshold ← levelPart rest
      return { target, span := none, fields := [], threshold }
  | '[' :: rest => do
      let (span, fields, rest) ← spanPart rest
      match rest with
      | [] => return { target, span, fields, threshold := 5 }
      | '=' :: rest => return { target, span, fields, threshold := ← levelPart rest }
      | _ => throw .malformed
  | _ => .ok { target, span := none, fields := [], threshold := 5 }

/-- Reads one rule. -/
def parse (text : String) : Except LogDirectiveFault LogDirective :=
  let chars := Text.trimChars text.toList
  match chars with
  | [] => .error .malformed
  | first :: _ =>
      if first = '[' then afterTarget none chars
      else if !canStart first then .error .malformed
      else
        let head := chars.takeWhile fun c => c ≠ '=' && c ≠ '['
        match chars.drop head.length, threshold? (String.ofList head) with
        | [], some threshold => .ok { target := none, span := none, fields := [], threshold }
        | rest, _ => afterTarget (some (String.ofList head)) rest

/-- Whether the rule has anything to say about events. -/
def isStatic (directive : LogDirective) : Bool :=
  directive.span.isNone && directive.fields.all fun item => !item.2

/-- Whether the rule matches an event. -/
def covers (directive : LogDirective) (event : Event) : Bool :=
  (directive.target.all fun target => target.toList.isPrefixOf event.component.toList) &&
    directive.fields.all fun item =>
      item.1 = "message" || event.fields.any fun field => field.1 = item.1

/-- Whether one rule is at least as specific as another that matches the same event. -/
def isAsSpecificAs (directive other : LogDirective) : Bool :=
  let length (target : Option String) := (target.map fun text => text.utf8ByteSize + 1).getD 0
  if length directive.target ≠ length other.target then
    length other.target < length directive.target
  else if directive.fields.length ≠ other.fields.length then
    other.fields.length < directive.fields.length
  else !(decide (directive.fields.map Prod.fst < other.fields.map Prod.fst))

end LogDirective

/-- A filter: the rules that have a say about events. -/
structure LogFilter where
  directives : List LogDirective
deriving DecidableEq, Repr

namespace LogFilter

/-- A filter from rules; without any rule, errors are shown. -/
def ofDirectives (directives : List LogDirective) : LogFilter :=
  if directives.isEmpty then
    ⟨[{ target := none, span := none, fields := [], threshold := Level.error.rank }]⟩
  else ⟨directives.filter LogDirective.isStatic⟩

/-- The parts of a filter's text. -/
def parts (text : String) : List String :=
  ((Text.splitChars ',' text.toList).filter fun part => !part.isEmpty).map String.ofList

/-- A filter of which every rule can be read. -/
def parse? (text : String) : Option LogFilter :=
  ((parts text).mapM fun part => (LogDirective.parse part).toOption).map ofDirectives

/-- A filter of the rules that can be read, and the complaints about the others. -/
def parseLossy (text : String) : LogFilter × List String :=
  let directives := (parts text).filterMap fun part => (LogDirective.parse part).toOption
  let complaints := (parts text).filterMap fun part =>
    match LogDirective.parse part with
    | .ok _ => none
    | .error fault => some ("ignoring `" ++ part ++ "`: " ++ fault.message)
  (ofDirectives directives, complaints)

/-- The rule that decides about an event. -/
def decisive? (filter : LogFilter) (event : Event) : Option LogDirective :=
  filter.directives.foldl (fun best directive =>
    if directive.covers event && best.all directive.isAsSpecificAs then some directive
    else best) none

/-- Whether an event is shown. -/
def shows (filter : LogFilter) (event : Event) : Bool :=
  match filter.decisive? event with
  | some directive => event.level.rank ≤ directive.threshold
  | none => false

end LogFilter

end MailProvision
