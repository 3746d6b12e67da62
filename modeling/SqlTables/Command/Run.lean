import SqlTables.Command.Parse
import SqlTables.Json.Mapping
import SqlTables.Json.Write
import SqlTables.Request

/-!
# Running commands

A command is run on the files at hand and on its input. The outcome is what it writes and the
code with which it ends.
-/

namespace SqlTables.Command

structure Outcome where
  code : UInt32
  output : String
  complaint : String
deriving DecidableEq, Repr

structure Complaint where
  message : String
  cause : Option String
deriving DecidableEq, Repr

namespace Complaint

/-- Write an error; further lines of its cause are indented. -/
def render (complaint : Complaint) : String :=
  "Error: " ++ complaint.message ++ "\n" ++
    match complaint.cause with
    | none => ""
    | some cause => "\nCaused by:\n    " ++ "\n    ".intercalate (cause.splitOn "\n") ++ "\n"

def ofError (error : RenameError) : Complaint :=
  ⟨error.message, error.cause?⟩

end Complaint

/-- What a command can read: files, by their path or the reason why they cannot be read, and the
input. -/
structure Surroundings where
  file : String → Except String String
  input : String

def Source.read (surroundings : Surroundings) : Source → Except Complaint String
  | .text sql => .ok sql
  | .input => .ok surroundings.input
  | .file path =>
    (surroundings.file path).mapError fun reason =>
      ⟨"Failed to read SQL file: " ++ path, some reason⟩

def readMappingFile (surroundings : Surroundings) (path : String) : Except Complaint Mapping := do
  let text ← (surroundings.file path).mapError fun reason =>
    Complaint.mk ("Failed to read mapping file: " ++ path) (some reason)
  (Json.readMapping text).mapError fun error =>
    ⟨"Mapping file is not a JSON object: " ++ path, some (error.message text)⟩

/-- The mapping that a source gives: the entries win over the file. It must not be empty. -/
def MappingSource.read (surroundings : Surroundings) (source : MappingSource) :
    Except Complaint Mapping := do
  let base ←
    match source.file with
    | some path => readMappingFile surroundings path
    | none => .ok Mapping.empty
  match Mapping.parseEntries source.entries with
  | .error entry => .error (Complaint.ofError (.malformedEntry entry))
  | .ok entries =>
    let mapping := base.override entries
    if mapping.isEmpty then
      .error ⟨"Table mapping cannot be empty (use --map old=new or --mapping-file)", none⟩
    else
      .ok mapping

def occurrenceJson (occurrence : Occurrence) : Json :=
  .object [("end", .natural occurrence.stop), ("kind", .string occurrence.kind.label),
    ("start", .natural occurrence.start), ("text", .string occurrence.text)]

def referencesJson (found : References) (occurrences : Bool) : Json :=
  .object <| ("tableNames", .strings found.tables.names) ::
    if occurrences then [("tokens", .array (found.occurrences.map occurrenceJson))] else []

def occurrenceLine (sql : String) (occurrence : Occurrence) : String :=
  let live := (Text.slice? sql.toList occurrence.start occurrence.stop).getD []
  toString occurrence.start ++ ".." ++ toString occurrence.stop ++ "\t" ++ occurrence.kind.title
    ++ "\t" ++ String.ofList live

def unlines (lines : List String) : String :=
  String.join (lines.map (· ++ "\n"))

def analysisJson (analysis : Analysis) : Json :=
  .object [("allTables", .strings analysis.allTables),
    ("affectedTables", .strings analysis.affectedTables),
    ("mapping", .object (analysis.mapping.entries.map fun entry => (entry.1, .string entry.2)))]

def analysisLines (analysis : Analysis) : List String :=
  ["All tables: " ++ ", ".intercalate analysis.allTables,
    "Affected tables: " ++ ", ".intercalate analysis.affectedTables,
    "Has changes: " ++ if analysis.hasChanges then "true" else "false"]

def withLineEnd (text : String) : String :=
  if text.toList.getLast? = some '\n' then text else text ++ "\n"

def Action.run (renamer : Renamer) (surroundings : Surroundings) :
    Action → Except Complaint (Bool × String)
  | .extract source occurrences json => do
    let sql ← source.read surroundings
    let found ← (renamer.references sql).mapError Complaint.ofError
    if json then
      return (true, (referencesJson found occurrences).pretty ++ "\n")
    else
      let lines := if occurrences then found.occurrences.map (occurrenceLine sql) else []
      return (true, unlines (found.tables.names ++ lines))
  | .replace source mapping => do
    let sql ← source.read surroundings
    let mapping ← mapping.read surroundings
    let renamed ← (renamer.rename sql mapping).mapError Complaint.ofError
    return (true, withLineEnd renamed)
  | .analyze source mapping json => do
    let sql ← source.read surroundings
    let mapping ← mapping.read surroundings
    let analysis ← (renamer.analyze sql mapping).mapError Complaint.ofError
    return (true, if json then (analysisJson analysis).pretty ++ "\n"
      else unlines (analysisLines analysis))
  | .validate source => do
    let valid := renamer.accepts (← source.read surroundings)
    return (valid, if valid then "valid\n" else "invalid\n")
  | .serve => do
    let request ← (Request.read surroundings.input).mapError fun error =>
      Complaint.mk "Request is not a valid JSON request body"
        (some (error.message surroundings.input))
    let response := renamer.respond request
    return (response.success, response.toJson.pretty ++ "\n")

/-- Run a command. The renamer is made before anything is read. -/
def run (command : Command) (surroundings : Surroundings) : Outcome :=
  let phrases := if command.anchors.isEmpty then none else some command.anchors
  match Renamer.ofNames command.dialect phrases with
  | .error error => ⟨1, "", (Complaint.ofError error).render⟩
  | .ok renamer =>
    match command.action.run renamer surroundings with
    | .error complaint => ⟨1, "", complaint.render⟩
    | .ok (success, output) => ⟨if success then 0 else 1, output, ""⟩

def helpText : String :=
  unlines ["Rename table references in SQL without touching anything else", "",
    "Usage: sql-table-rewrite [OPTIONS] <COMMAND>", "",
    "Commands: extract, replace, analyze, validate, serve-json, help"]

def Stop.outcome : Stop → Outcome
  | .misused => ⟨2, "", "error: these arguments make no sense\n\n" ++ helpText⟩
  | .version => ⟨0, "sql-table-rewrite 0.1.0\n", ""⟩
  | .help => ⟨0, helpText, ""⟩

def runArguments (arguments : List String) (surroundings : Surroundings) : Outcome :=
  match ofArguments arguments with
  | .ok command => command.run surroundings
  | .error stop => stop.outcome

/-- Whether a path names a folder: the one at hand, one above it, or one that holds a file. -/
def isFolder (names : List String) (path : String) : Bool :=
  [".", "./", "..", "../", "/"].contains path ||
    names.any fun name => name.startsWith (path ++ "/")

def absenceReason (names : List String) (path : String) : String :=
  if isFolder names path then "Is a directory (os error 21)"
  else if names.any fun name => path.startsWith (name ++ "/") then
    "Not a directory (os error 20)"
  else "No such file or directory (os error 2)"

/-- A path without a leading `./`, unless nothing else is left. -/
def plainPath (path : String) : String :=
  match path.toList with
  | '.' :: '/' :: c :: rest => String.ofList (c :: rest)
  | _ => path

def Surroundings.ofFiles (files : List (String × String)) (input : String) : Surroundings where
  file path :=
    match files.find? fun entry => entry.1 == plainPath path with
    | some entry => .ok entry.2
    | none => .error (absenceReason (files.map Prod.fst) (plainPath path))
  input := input

end SqlTables.Command
