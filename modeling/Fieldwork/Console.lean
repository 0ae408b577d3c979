import Fieldwork.Config.Load
import Fieldwork.Options.Document
import Fieldwork.Plan.Compile
import Fieldwork.Text.Typing

/-!
# The console

Reads query options line by line and shows the two queries that they compile to, the one that
fetches the rows and the one that counts them. Everything shown is a function of the configuration
and the lines.
-/

namespace Fieldwork.Console

def defaultPath : String := "query_flow.json"

def promptText : String := "query> "

structure Output where
  stdout : String
  stderr : String := ""
  status : Nat := 0

/-- The configuration in use and the line that says where it is from. -/
def configure (path : String) (file : File) : Config × String :=
  match Config.load path file with
  | .ok c => (c, "loaded configuration from " ++ path ++ "\n")
  | .error fault => (.demo, fault.message ++ ", using built-in demo configuration\n")

/-! ## What is shown of an object -/

def padTo (width : Nat) (s : String) : String :=
  s ++ String.ofList (List.replicate (width - s.length) ' ')

def fieldNotes (f : Field) : List String :=
  let choices := f.choices.map fun c => c.id ++ "=" ++ c.text
  (if f.multilingual then ["multilingual"] else []) ++
  (if choices.isEmpty then [] else ["options [" ++ String.intercalate ", " choices ++ "]"]) ++
  (if f.relation.isSome then ["relation"] else [])

def fieldLine (f : Field) : String :=
  "  " ++ f.id ++ "  " ++ padTo 10 f.column ++ " " ++ String.intercalate ", " (fieldNotes f)
    ++ "\n"

def objectText (o : Object) : String :=
  "\nobject \x60" ++ o.id ++ "\x60 on \x60" ++ o.source ++ "\x60\n"
    ++ String.join (o.fields.map fieldLine)

def invitation : String :=
  "\nenter query options as JSON, e.g. \x7b\"where\": \x7b\"glue\": \"and\", \"rules\": []\x7d, "
    ++ "\"limit\": 10\x7d\n"

/-! ## Answers -/

/-- The queries for the options, up to the first that does not compile. -/
def queriesText (o : Object) (u : User) (options : Options) : String :=
  match Plan.compile o options u with
  | .error fault => "error: " ++ fault.chain ++ "\n"
  | .ok fetch =>
    "\n[fetch]\n" ++ fetch.sql ++ "\n" ++
    match Plan.compileCount o options u with
    | .error fault => "error: " ++ fault.chain ++ "\n"
    | .ok count => "\n[count]\n" ++ count.sql ++ "\n\n"

/-- The answer to a line as it was typed; a blank line gets none. -/
def respond (o : Object) (u : User) (line : String) : String :=
  let line := Text.trim (Text.typed line)
  if line.isEmpty then ""
  else match (Document.ofText? line).bind Options.ofDocument? with
    | none => "error: query options must be a JSON object: \n"
    | some options => queriesText o u options

/-- The lines of a text, each ended by a line feed but perhaps the last. -/
def linesOf (text : String) : List String :=
  let parts := text.toList.splitOn '\n'
  let ended := if parts.getLast? = some [] then parts.dropLast else parts
  ended.map String.ofList

/-- The user that queries are compiled for. -/
def user (name : Option String) : User :=
  { username := name, languageCode := some "en" }

def noObjects : String := "Error: configuration defines no objects\n"

/-- What is shown for a whole input; the prompt comes before each line and once more at the end. -/
def run (path : String) (file : File) (name : Option String) (input : String) : Output :=
  let (config, origin) := configure path file
  match config.objects with
  | [] => { stdout := origin, stderr := noObjects, status := 1 }
  | o :: _ =>
    let answers := (linesOf input).map fun line => promptText ++ respond o (user name) line
    { stdout := origin ++ objectText o ++ invitation ++ String.join answers ++ promptText }

end Fieldwork.Console
