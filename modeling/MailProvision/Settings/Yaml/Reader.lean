import MailProvision.Settings.Yaml.Block

/-!
# Settings in YAML

A reader of YAML streams: block and flow collections, plain and quoted scalars over several lines,
block scalars, anchors and aliases, tags of the common schema, comments and document markers. Keys
are texts or integers. It follows the `yaml-rust` package, and the `config` package in what becomes
of each node.
-/

namespace MailProvision

namespace Settings

namespace Yaml

/-- Drops blanks, comments and line ends. The first argument bounds the work. -/
def skipTrivia : Nat → Position → Position
  | 0, position => position
  | limit + 1, position =>
      let blanks := position.rest.takeWhile fun c => c = ' ' || c = '\t'
      let next := position.advance blanks.length
      match next.rest with
      | '\n' :: _ => skipTrivia limit next.nextLine
      | '#' :: _ =>
          if blanks.isEmpty && position.column ≠ 0 then next
          else skipTrivia limit (next.advance (next.rest.takeWhile (· ≠ '\n')).length)
      | _ => next

/-- The next place with text. -/
def skip (position : Position) : Position :=
  skipTrivia (2 * position.rest.length + 1) position

/-- Whether a line end lies between two places. -/
def crosses (before after : Position) : Bool :=
  '\n' ∈ before.rest.take (before.rest.length - after.rest.length)

/-- Whether a text starts with three given signs that stand alone. -/
def startsMark (sign : Char) : List Char → Bool
  | a :: b :: c :: rest => a = sign && b = sign && c = sign && startsBlank rest
  | _ => false

/-- Whether a document ends here. -/
def atEnd (position : Position) : Bool :=
  position.rest.isEmpty ||
    (position.column = 0 && (startsMark '-' position.rest || startsMark '.' position.rest))

/-- The signs that end a plain scalar inside brackets. -/
def isFlowSign (c : Char) : Bool :=
  c = ',' || c = '[' || c = ']' || c = '\x7b' || c = '\x7d'

/-- Whether a plain scalar can start like this. -/
def startsPlain : List Char → Bool
  | [] => false
  | c :: rest =>
      if c = '-' || c = '?' || c = ':' then !startsBlank rest
      else !(isFlowSign c || c ∈ ['#', '&', '*', '!', '|', '>', '\'', '"', '%', '@', '`', '\n'])

/-- The part of a plain scalar on one line, and what follows it. -/
def plainLine (flow : Bool) : List Char → List Char × List Char
  | [] => ([], [])
  | c :: rest =>
      let next := rest.head?.getD '\n'
      if c = '\n' then ([], c :: rest)
      else if c = ':' && (startsBlank rest || (flow && isFlowSign next)) then ([], c :: rest)
      else if (c = ' ' || c = '\t') && next = '#' then ([], c :: rest)
      else if flow && isFlowSign c then ([], c :: rest)
      else
        let (line, after) := plainLine flow rest
        (c :: line, after)

/-- The text without blanks at its end. -/
def trimEnd (chars : List Char) : List Char :=
  (chars.reverse.dropWhile fun c => c = ' ' || c = '\t').reverse

/-- The further lines of a plain scalar, as long as they are indented more than `parent`. -/
def plainMore? (flow : Bool) (parent : Int) : Nat → Position → Option (List Char × Position)
  | 0, _ => none
  | limit + 1, position =>
      let here := position.moveTo (position.rest.dropWhile fun c => c = ' ' || c = '\t')
      match here.rest with
      | '\n' :: _ =>
          let (breaks, rest) := skipFolded here.rest.length 0 here.rest
          let next := here.moveTo rest
          let ends := atEnd next || rest.head? = some '#' || (!flow && (next.column : Int) ≤ parent)
          if ends || (flow && (rest.head?.map isFlowSign).getD true) then some ([], position)
          else
            let (line, after) := plainLine flow rest
            if !flow && after.head? = some ':' then none
            else if line.isEmpty then some ([], position)
            else do
              let (more, final) ← plainMore? flow parent limit (next.moveTo after)
              return (foldBreaks breaks ++ trimEnd line ++ more, final)
      | _ => some ([], position)

/-- A plain scalar. -/
def plain (flow : Bool) (parent : Int) (position : Position) : Option (String × Position) := do
  if !startsPlain position.rest then none
  let (line, after) := plainLine flow position.rest
  if !flow && after.head? = some ':' then none
  let (more, final) ← plainMore? flow parent position.rest.length (position.moveTo after)
  return (String.ofList (trimEnd line ++ more), final)

/-- The text of a key. -/
def keyText? : Value → Option String
  | .scalar _ (.text text) => some text
  | .scalar _ (.integer i) => some (toString i)
  | _ => none

/-- The place after the colon of a key, for a place after its text. -/
def afterColon? (position : Position) : Option Position :=
  let here := position.moveTo (position.rest.dropWhile fun c => c = ' ' || c = '\t')
  match here.rest with
  | ':' :: rest => if startsBlank rest then some (here.advance 1) else none
  | _ => none

/-- A key on one line with its colon. -/
def implicitKey? (position : Position) : Option (String × Position) :=
  match quoted? position.rest with
  | some none => none
  | some (some (text, rest)) =>
      let next := position.moveTo rest
      if crosses position next then none
      else (afterColon? next).map fun after => (text, after)
  | none =>
      if startsPlain position.rest then do
        let (line, rest) := plainLine false position.rest
        let after ← afterColon? (position.moveTo rest)
        let content ← plain? (String.ofList (trimEnd line))
        return (← keyText? (.scalar none content), after)
      else none

/-- The name of an anchor or alias, or a tag, after its sign. -/
def word (position : Position) : String × Position :=
  let name := position.rest.takeWhile fun c => !(startsBlank [c] || isFlowSign c)
  (String.ofList name, position.advance name.length)

/-- A scalar with an optional tag, from the text of a plain one. -/
def resolve? (origin : Origin) (tag : Option String) (text : String) : Option Value :=
  (match tag with
    | some tag => tagged? tag text
    | none => plain? text).map fun content => .scalar origin content

/-- The value of a node without text: nil, unless it has a tag. -/
def emptyNode (origin : Origin) (tag : Option String) : Value :=
  .scalar origin (if tag = some "!!str" then .text "~" else .nil)

mutual

/-- A node inside brackets. -/
def flow? (origin : Origin) (tag : Option String) : Nat → Position → Option (Value × Position)
  | 0, _ => none
  | limit + 1, start =>
      let position := skip start
      match position.rest with
      | '[' :: _ => do
          let (items, after) ← flowItems? origin limit (position.advance 1)
          return (.array origin items, after)
      | '\x7b' :: _ => do
          let (entries, after) ← flowEntries? origin limit [] (position.advance 1)
          return (.table origin entries, after)
      | '*' :: _ => do
          let (name, after) := word (position.advance 1)
          return (← position.named.lookup name, after)
      | '&' :: _ => do
          let (name, after) := word (position.advance 1)
          let (value, final) ← flow? origin tag limit after
          return (value, { final with named := (name, value) :: final.named })
      | '!' :: _ =>
          let (name, after) := word position
          flow? origin (some name) limit after
      | _ =>
          match quoted? position.rest with
          | some none => none
          | some (some (text, rest)) => some (.scalar origin (.text text), position.moveTo rest)
          | none =>
              if startsPlain position.rest then do
                let (text, after) ← plain true (-1) position
                return (← resolve? origin tag text, after)
              else some (emptyNode origin tag, position)

/-- The items up to a closing bracket. -/
def flowItems? (origin : Origin) : Nat → Position → Option (List Value × Position)
  | 0, _ => none
  | limit + 1, start =>
      let position := skip start
      match position.rest with
      | ']' :: _ => some ([], position.advance 1)
      | ',' :: _ => none
      | _ => do
          let (first, afterFirst) ← flow? origin none limit position
          let next := skip afterFirst
          let (item, after) ←
            match next.rest with
            | ':' :: _ => do
                let (value, after) ← flow? origin none limit (next.advance 1)
                let key ← keyText? first
                pure (Value.table origin [(key, value)], skip after)
            | _ => some (first, next)
          match after.rest with
          | ',' :: _ => do
              let (others, final) ← flowItems? origin limit (after.advance 1)
              return (item :: others, final)
          | ']' :: _ => return ([item], after.advance 1)
          | _ => none

/-- The entries up to a closing brace, added to those read before. -/
def flowEntries? (origin : Origin) : Nat → Entries → Position → Option (Entries × Position)
  | 0, _, _ => none
  | limit + 1, before, start =>
      let position := skip start
      match position.rest with
      | '\x7d' :: _ => some (before, position.advance 1)
      | ',' :: _ => none
      | _ => do
          let (keyNode, afterKey) ← flow? origin none limit position
          let key ← keyText? keyNode
          let next := skip afterKey
          let (value, afterValue) ←
            match next.rest with
            | ':' :: _ => flow? origin none limit (next.advance 1)
            | _ => some (emptyNode origin none, next)
          let after := skip afterValue
          let entries := before.put key value
          match after.rest with
          | ',' :: _ => flowEntries? origin limit entries (after.advance 1)
          | '\x7d' :: _ => return (entries, after.advance 1)
          | _ => none

end

/-- Whether an item of a block sequence starts here. -/
def startsItem : List Char → Bool
  | '-' :: rest => startsBlank rest
  | _ => false

mutual

/-- A node indented more than `parent`; nothing at all stands for nil. -/
def block? (origin : Origin) (tag : Option String) :
    Nat → Int → Position → Option (Value × Position)
  | 0, _, _ => none
  | limit + 1, parent, start =>
      let position := skip start
      if atEnd position || (position.column : Int) ≤ parent then
        some (emptyNode origin tag, position)
      else content? origin tag limit parent false position

/-- A node at its first sign. On the line of a key there is no room for block collections. -/
def content? (origin : Origin) (tag : Option String) :
    Nat → Int → Bool → Position → Option (Value × Position)
  | 0, _, _, _ => none
  | limit + 1, parent, inline, position =>
      let continued (tag : Option String) (after : Position) : Option (Value × Position) :=
        if inline && !crosses after (skip after) && !atEnd (skip after) then
          content? origin tag limit parent true (skip after)
        else block? origin tag limit parent after
      match position.rest with
      | '&' :: _ => do
          let (name, after) := word (position.advance 1)
          let (value, final) ← continued tag after
          return (value, { final with named := (name, value) :: final.named })
      | '!' :: _ =>
          let (name, after) := word position
          continued (some name) after
      | '*' :: _ => do
          let (name, after) := word (position.advance 1)
          return (← position.named.lookup name, after)
      | '|' :: rest => do
          let (header, body) ← blockHeader? false rest
          let (text, after) := blockText header parent body
          return (.scalar origin (.text text), { position with rest := after, column := 0 })
      | '>' :: rest => do
          let (header, body) ← blockHeader? true rest
          let (text, after) := blockText header parent body
          return (.scalar origin (.text text), { position with rest := after, column := 0 })
      | _ =>
          if startsItem position.rest then
            if inline then none
            else do
              let (items, after) ← items? origin limit position.column position
              return (.array origin items, after)
          else if (implicitKey? position).isSome || position.rest.head? = some '?' &&
              startsBlank (position.rest.drop 1) then
            if inline then none
            else do
              let (entries, after) ← entries? origin limit position.column [] position
              return (.table origin entries, after)
          else
            match quoted? position.rest with
            | some none => none
            | some (some (text, rest)) => some (.scalar origin (.text text), position.moveTo rest)
            | none =>
                if position.rest.head? = some '[' || position.rest.head? = some '\x7b' then
                  flow? origin tag (2 * position.rest.length + 2) position
                else do
                  let (text, after) ← plain false parent position
                  return (← resolve? origin tag text, after)

/-- The items of a block sequence at a column. -/
def items? (origin : Origin) : Nat → Nat → Position → Option (List Value × Position)
  | 0, _, _ => none
  | limit + 1, column, position => do
      let (first, afterFirst) ← block? origin none limit column (position.advance 1)
      let next := skip afterFirst
      if atEnd next || next.column < column then return ([first], next)
      else if next.column = column then
        if startsItem next.rest then
          let (others, final) ← items? origin limit column next
          return (first :: others, final)
        else return ([first], next)
      else none

/-- The entries of a block mapping at a column, added to those read before. -/
def entries? (origin : Origin) : Nat → Nat → Entries → Position → Option (Entries × Position)
  | 0, _, _, _ => none
  | limit + 1, column, before, position => do
      let (key, value, afterValue) ←
        if position.rest.head? = some '?' && startsBlank (position.rest.drop 1) then do
          let (keyNode, afterKey) ← block? origin none limit column (position.advance 1)
          let key ← keyText? keyNode
          let next := skip afterKey
          if next.column = column && next.rest.head? = some ':' then
            let (value, after) ← entryValue? origin limit column (next.advance 1)
            pure (key, value, after)
          else pure (key, emptyNode origin none, next)
        else do
          let (key, afterKey) ← implicitKey? position
          let (value, after) ← entryValue? origin limit column afterKey
          pure (key, value, after)
      let entries := before.put key value
      let next := skip afterValue
      if atEnd next || next.column < column then return (entries, next)
      else if next.column = column then entries? origin limit column entries next
      else none

/-- The value after the colon of a key at a column. -/
def entryValue? (origin : Origin) : Nat → Nat → Position → Option (Value × Position)
  | 0, _, _ => none
  | limit + 1, column, start =>
      let position := skip start
      if atEnd position then some (emptyNode origin none, position)
      else if !crosses start position then content? origin none limit column true position
      else if position.column = column && startsItem position.rest then do
        let (items, after) ← items? origin limit column position
        return (.array origin items, after)
      else block? origin none limit column start

end

/-- Drops the directives in front of a document. -/
def skipDirectives : Nat → Position → Position
  | 0, position => position
  | limit + 1, position =>
      let next := skip position
      if next.column = 0 && next.rest.head? = some '%' then
        skipDirectives limit (next.advance (next.rest.takeWhile (· ≠ '\n')).length)
      else next

/-- The documents of a stream. The first argument bounds their number. -/
def documents? (origin : Origin) : Nat → Position → Option (List Value)
  | 0, _ => none
  | limit + 1, start =>
      let position := skipDirectives start.rest.length start
      let fuel := 4 * position.rest.length + 4
      if position.rest.isEmpty then some []
      else if position.column = 0 && startsMark '.' position.rest then
        documents? origin limit (position.advance 3)
      else do
        let marked := position.column = 0 && startsMark '-' position.rest
        let body := if marked then position.advance 3 else position
        let (value, after) ← block? origin none fuel (-1) { body with named := [] }
        let next := skip after
        if atEnd next then return value :: (← documents? origin limit next) else none

/-- Reads all documents of a stream. -/
def read? (origin : Origin) (chars : List Char) : Option (List Value) :=
  let text := unifyLineEnds chars
  documents? origin (text.length + 1) { rest := text, column := 0, named := [] }

end Yaml

end Settings

end MailProvision
