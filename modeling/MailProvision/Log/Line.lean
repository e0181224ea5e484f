import MailProvision.Certificate.Calendar
import MailProvision.Event

/-!
# Log lines

An event as one line of a log: either an object in JSON, or a plain line with its parts coloured
for a terminal.
-/

namespace MailProvision

/-- How events are shown. -/
inductive LogFormat where
  | json
  | plain
deriving DecidableEq, Repr

namespace LogFormat

/-- The format with a name. Every name but one stands for plain lines. -/
def ofName (name : String) : LogFormat :=
  if name = "json" then json else plain

end LogFormat

namespace LogLine

/-- A moment with microseconds. -/
def moment (nanoseconds : Int) : String :=
  let time := CalendarTime.ofSeconds (nanoseconds / 1000000000)
  let pair (n : Nat) := String.ofList (CalendarTime.padded 2 n)
  let micros := (nanoseconds % 1000000000).toNat / 1000
  String.ofList (CalendarTime.padded 4 time.year.toNat) ++ "-" ++ pair time.month ++ "-" ++
    pair time.day ++ "T" ++ pair time.hour ++ ":" ++ pair time.minute ++ ":" ++
    pair time.second ++ "." ++ String.ofList (CalendarTime.padded 6 micros) ++ "Z"

/-- A character inside a text of JSON. -/
def jsonChar (c : Char) : List Char :=
  if c = '"' || c = '\\' then ['\\', c]
  else if c = '\n' then ['\\', 'n']
  else if c = '\r' then ['\\', 'r']
  else if c = '\t' then ['\\', 't']
  else if c = '\x08' then ['\\', 'b']
  else if c = '\x0c' then ['\\', 'f']
  else if c.toNat < 32 then
    let digits := Nat.toDigits 16 c.toNat
    ['\\', 'u'] ++ List.replicate (4 - digits.length) '0' ++ digits
  else [c]

/-- A text of JSON. -/
def jsonText (text : String) : String :=
  String.ofList ('"' :: (text.toList.flatMap jsonChar ++ ['"']))

/-- The members of an object of JSON. -/
def jsonObject (members : List (String × String)) : String :=
  "\x7b" ++ ",".intercalate (members.map fun member => jsonText member.1 ++ ":" ++ member.2) ++
    "\x7d"

/-- The content of a field in JSON. -/
def jsonValue : FieldValue → String
  | .text value => jsonText value
  | .word value => jsonText value
  | .number value => toString value

/-- An event as an object. -/
def json (nanoseconds : Int) (event : Event) : String :=
  let fields := event.fields.map fun field => (field.1, jsonValue field.2)
  jsonObject
    [("timestamp", jsonText (moment nanoseconds)),
      ("level", jsonText event.level.name),
      ("fields", jsonObject (("message", jsonText event.message) :: fields)),
      ("target", jsonText event.component)]

/-- The content of a field on a plain line. -/
def plainValue : FieldValue → String
  | .text value => value
  | .word value => jsonText value
  | .number value => toString value

/-- A text in a style of the terminal. -/
def styled (style text : String) : String :=
  "\x1b[" ++ style ++ "m" ++ text ++ "\x1b[0m"

/-- The colour of a level. -/
def colour : Level → String
  | .error => "31"
  | .warn => "33"
  | .info => "32"
  | .debug => "34"
  | .trace => "35"

/-- An event as a plain line. -/
def plain (nanoseconds : Int) (event : Event) : String :=
  let name := event.level.name
  let level := "".pushn ' ' (5 - name.length) ++ name
  let fields := event.fields.map fun field =>
    " " ++ styled "3" field.1 ++ styled "2" "=" ++ plainValue field.2
  styled "2" (moment nanoseconds) ++ " " ++ styled (colour event.level) level ++ " " ++
    styled "2" event.component ++ styled "2" ":" ++ " " ++ event.message ++ String.join fields

/-- An event in a format, with the moment at which it is shown. -/
def render (format : LogFormat) (nanoseconds : Int) (event : Event) : String :=
  match format with
  | .json => json nanoseconds event
  | .plain => plain nanoseconds event

end LogLine

end MailProvision
