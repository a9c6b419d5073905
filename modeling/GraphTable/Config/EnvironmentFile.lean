import GraphTable.Config.Environment
import GraphTable.Text.Alphanumeric
import GraphTable.Text.Blank

/-!
# Files of environment variables

Each line of such a file assigns a value to a name. Values may be quoted, may go
on over line breaks inside quotes, and may refer to variables and to earlier
assignments by a dollar sign. An assignment counts only for a variable that has
no text yet. The first line that cannot be read ends the reading; what came
before it stays.
-/

namespace GraphTable

namespace EnvironmentFile

/-- Where the reading of a line stands, as far as it matters for where the line
ends. -/
inductive LineState where
  | plain
  /-- Behind a blank, where a comment may start. -/
  | blank
  | escape
  | single
  | singleEscape
  | double
  | doubleEscape
  deriving Repr, DecidableEq

/-- The state behind a character outside quotes that is not blank. -/
def LineState.behind (c : Char) : LineState :=
  if c = '\\' then .escape
  else if c = '"' then .double
  else if c = '\'' then .single
  else .plain

/-- The state behind a character; none where a comment starts. -/
def LineState.next? (state : LineState) (c : Char) : Option LineState :=
  match state with
  | .plain =>
      if Text.isBlank c ∧ c ≠ '\n' ∧ c ≠ '\r' then some .blank
      else some (behind c)
  | .blank => if c = '#' then none else some (behind c)
  | .escape => some .plain
  | .single =>
      if c = '\\' then some .singleEscape
      else if c = '\'' then some .plain
      else some .single
  | .singleEscape => some .single
  | .double =>
      if c = '\\' then some .doubleEscape
      else if c = '"' then some .plain
      else some .double
  | .doubleEscape => some .double

/-- How a physical line ends. -/
inductive LineEnd where
  | state (state : LineState)
  | comment (text : List Char)

/-- Read a physical line; `seen` holds the characters read so far, last first. -/
def scanLine (state : LineState) (seen : List Char) : List Char → LineEnd
  | [] => .state state
  | c :: rest =>
      match state.next? c with
      | some state => scanLine state (c :: seen) rest
      | none => .comment seen.reverse

/-- Split a text behind its line breaks; `seen` holds the characters of the
first line read so far, last first. -/
def physicalLines (seen : List Char) : List Char → List (List Char)
  | [] => if seen.isEmpty then [] else [seen.reverse]
  | c :: rest =>
      if c = '\n' then (c :: seen).reverse :: physicalLines [] rest
      else physicalLines (c :: seen) rest

/-- Join physical lines that belong together. A line that is never completed is
none. `pending` is what was read of the line so far. -/
def logicalLines (pending : List Char) (state : LineState) :
    List (List Char) → List (Option (List Char))
  | [] => if state = .plain then [] else [none]
  | line :: rest =>
      let whole := pending ++ line
      if (Text.trimStart whole).head? = some '#' then
        some [] :: logicalLines [] .plain rest
      else match scanLine state [] line with
        | .comment text => some (pending ++ text) :: logicalLines [] .plain rest
        | .state .plain => some whole :: logicalLines [] .plain rest
        | .state state => logicalLines whole state rest

/-- Where the reading of a value stands. The truth value tells whether double
quotes are open. -/
inductive ValueState where
  | plain (double : Bool)
  | escape (double : Bool)
  | single
  /-- Behind a dollar sign and a part of a name. -/
  | name (double : Bool) (name : List Char)
  /-- Behind a dollar sign, a brace and a part of a name. -/
  | braced (double : Bool) (name : List Char)
  /-- Behind a blank outside quotes, where only a comment may follow. -/
  | ending

def escape? (c : Char) : Option Char :=
  if c = '\\' ∨ c = '\'' ∨ c = '"' ∨ c = '$' ∨ c = ' ' then some c
  else if c = 'n' then some '\n'
  else none

/-- Read a value. `refer` gives the text of a name. -/
def readValue (refer : String → String) (state : ValueState) :
    List Char → Option (List Char)
  | [] =>
      match state with
      | .plain false | .escape false | .ending => some []
      | .name false name => some (refer (String.ofList name)).toList
      | _ => none
  | c :: rest =>
      let push (text : List Char) (state : ValueState) :=
        (readValue refer state rest).map (text ++ ·)
      match state with
      | .ending =>
          if c = ' ' ∨ c = '\t' then readValue refer .ending rest
          else if c = '#' then some []
          else none
      | .escape double =>
          match escape? c with
          | some c => push [c] (.plain double)
          | none => none
      | .single =>
          if c = '\'' then readValue refer (.plain false) rest
          else push [c] .single
      | .name double name =>
          if Text.isAlphanumeric c then readValue refer (.name double (name ++ [c])) rest
          else if c = '\x7b' ∧ name = [] then readValue refer (.braced double []) rest
          else
            let text := (refer (String.ofList name)).toList
            if c = '$' then push text (.name double [])
            else push (text ++ [c]) (.plain double)
      | .braced double name =>
          if c = '\x7d' then push (refer (String.ofList name)).toList (.plain double)
          else readValue refer (.braced double (name ++ [c])) rest
      | .plain double =>
          if c = '$' then readValue refer (.name double []) rest
          else if c = '\\' then readValue refer (.escape double) rest
          else if c = '"' then readValue refer (.plain (!double)) rest
          else if double then push [c] (.plain true)
          else if c = '\'' then readValue refer .single rest
          else if c = ' ' ∨ c = '\t' then readValue refer .ending rest
          else push [c] (.plain false)

def startsName (c : Char) : Bool :=
  c.isAlpha || c == '_'

def isInName (c : Char) : Bool :=
  c.isAlphanum || c == '_' || c == '.'

def readName? : List Char → Option (List Char × List Char)
  | [] => none
  | c :: rest =>
      if startsName c then
        some (c :: rest.takeWhile isInName,
          Text.trimStart (rest.dropWhile isInName))
      else none

def readEquals? : List Char → Option (List Char)
  | '=' :: rest => some (Text.trimStart rest)
  | _ => none

/-- Read the name of an assignment up to its value. The word `export` in front
of the name is passed over. -/
def readTarget? (line : List Char) : Option (List Char × List Char) := do
  let (name, rest) ← readName? line
  match readEquals? rest with
  | some rest => return (name, rest)
  | none =>
      if name = "export".toList then
        let (name, rest) ← readName? rest
        return (name, ← readEquals? rest)
      else none

/-- Decide whether nothing but a comment follows. -/
def isVoid (line : List Char) : Bool :=
  line.isEmpty || line.head? == some '#'

inductive Assignment where
  | nothing
  | value (name : String) (value : String)

/-- Read a line; none if it cannot be read. -/
def readAssignment? (refer : String → String) (line : List Char) :
    Option Assignment := do
  let line := Text.trimStart (Text.trimEnd line)
  if isVoid line then return .nothing
  let (name, rest) ← readTarget? line
  if isVoid rest then return .value (String.ofList name) ""
  let value ← readValue refer (.plain false) rest
  return .value (String.ofList name) (String.ofList value)

/-- The text that a name stands for. Variables are kept as `NAME=VALUE`, so that
a name with an equals sign in it reaches into a value. -/
def reach? (environment : Environment) (name : String) : Option String :=
  let (name, front) := name.toList.span (· != '=')
  match front with
  | [] => environment.text? (String.ofList name)
  | _ :: front => do
      let bytes ← environment.get? (String.ofList name)
      let front := Text.encodeUtf8 (String.ofList (front ++ ['=']))
      if front.isPrefixOf bytes then
        (Text.decodeUtf8 (bytes.drop front.length)).toOption
      else none

/-- The text that a name refers to: that of the variable, else that of the last
assignment before. -/
def refer (environment : Environment) (assigned : Dict String) (name : String) :
    String :=
  match reach? environment name with
  | some text => text
  | none => (assigned.get? name).getD ""

/-- Carry out the assignments of lines. -/
def assign (environment : Environment) (assigned : Dict String) :
    List (Option (List Char)) → Environment
  | [] | none :: _ => environment
  | some line :: rest =>
      match readAssignment? (refer environment assigned) line with
      | none => environment
      | some .nothing => assign environment assigned rest
      | some (.value name value) =>
          let set := match environment.text? name with
            | some _ => environment
            | none => environment.insert name (Text.encodeUtf8 value)
          assign set (assigned.insert name value) rest

/-- The characters of a text without a byte order mark in front. -/
def withoutMark (text : String) : List Char :=
  match text.toList with
  | '\uFEFF' :: rest => rest
  | cs => cs

/-- Carry out the assignments of a file. -/
def load (text : String) (environment : Environment) : Environment :=
  assign environment Dict.empty
    (logicalLines [] .plain (physicalLines [] (withoutMark text)))

/-- The first file that exists, from the current directory upwards. -/
def nearest? : List (Option String) → Option String
  | [] => none
  | some text :: _ => some text
  | none :: above => nearest? above

/-- Carry out the assignments of the nearest file, if there is one. -/
def loadNearest (files : List (Option String)) (environment : Environment) :
    Environment :=
  match nearest? files with
  | some text => load text environment
  | none => environment

end EnvironmentFile

end GraphTable
