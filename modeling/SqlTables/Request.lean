import SqlTables.Json.Read
import SqlTables.Renamer

/-!
# Requests and responses

A request is a JSON value that asks for the tables of a text, or for a renaming. It is a renaming
if it can be read as one, and otherwise the other if it can be read so. Responses never fail:
what goes wrong is told in their message.
-/

namespace SqlTables

/-- What is asked for; a missing text is as good as an empty one. -/
inductive Request where
  | replace (sql : Option String) (mapping : Mapping)
  | extract (sql : Option String)
deriving DecidableEq, Repr

namespace Request

/-- The value of the only member with a key; `none` if there are several, and `some none` if
there is no such member. -/
def member? (key : String) (members : List (String × Json)) : Option (Option Json) :=
  match members.filter fun entry => entry.1 == key with
  | [] => some none
  | [entry] => some (some entry.2)
  | _ => none

def text? : Option Json → Option (Option String)
  | none => some none
  | some .null => some none
  | some (.string text) => some (some text)
  | some _ => none

def pair? (member : String × Json) : Option (String × String) :=
  match member.2 with
  | .string value => some (member.1, value)
  | _ => none

/-- A mapping of strings to strings; the last member of a key wins. -/
def mapping? : Json → Option Mapping
  | .object members => (members.mapM pair?).map Mapping.ofList
  | _ => none

/-- A value read as the request for a renaming: an object, or an array of the fields in order. -/
def replace? : Json → Option Request
  | .object members => do
    let sql ← text? (← member? "sql" members)
    let mapping ← mapping? (← ← member? "tableMapping" members)
    return .replace sql mapping
  | .array [sql, mapping] => do
    return .replace (← text? (some sql)) (← mapping? mapping)
  | _ => none

def extract? : Json → Option Request
  | .object members => do
    return .extract (← text? (← member? "sql" members))
  | .array [] => some (.extract none)
  | .array [sql] => do
    return .extract (← text? (some sql))
  | _ => none

def ofJson? (value : Json) : Option Request :=
  replace? value <|> extract? value

end Request

inductive RequestError where
  /-- The text is not JSON. -/
  | malformed (error : Json.ReadError)
  /-- The value has the shape of no request. -/
  | unknownShape
deriving DecidableEq, Repr

def RequestError.message (text : String) : RequestError → String
  | malformed error => error.message text
  | unknownShape => "data did not match any variant of untagged enum ApiRequest"

/-- The request that a text holds. The shape of the value is judged before the text behind it. -/
def Request.read (text : String) : Except RequestError Request :=
  match (Json.Read.value Json.Read.depthLimit).run ⟨0, text.toList⟩ with
  | .error error => .error (.malformed error)
  | .ok (value, place) =>
    match ofJson? value with
    | none => .error .unknownShape
    | some request =>
      match Json.Read.finish.run place with
      | .error error => .error (.malformed error)
      | .ok _ => .ok request

inductive Response where
  | replaced (sql : Option String) (success : Bool) (message : String)
  | extracted (tables : Option (List String)) (success : Bool) (message : String)
deriving DecidableEq, Repr

namespace Response

def success : Response → Bool
  | replaced _ success _ => success
  | extracted _ success _ => success

def toJson : Response → Json
  | replaced sql success message =>
    .object [("sql", .optional sql), ("success", .bool success), ("message", .string message)]
  | extracted tables success message =>
    .object [("tableNames", (tables.map Json.strings).getD .null), ("success", .bool success),
      ("message", .string message)]

end Response

def notBlank? (sql : Option String) : Option String :=
  sql.filter fun text => !(Text.trim text).isEmpty

def Renamer.respond (renamer : Renamer) : Request → Response
  | .extract sql =>
    match notBlank? sql with
    | none => .extracted none false "SQL cannot be empty"
    | some sql =>
      match renamer.tables sql with
      | .ok tables => .extracted (some tables) true "Success"
      | .error error => .extracted none false ("Error parsing SQL: " ++ error.message)
  | .replace sql mapping =>
    match notBlank? sql with
    | none => .replaced none false "SQL cannot be empty"
    | some sql =>
      if mapping.isEmpty then .replaced none false "Table mapping cannot be empty"
      else
        match renamer.rename sql mapping with
        | .ok renamed => .replaced (some renamed) true "Success"
        | .error error => .replaced none false ("Error processing SQL: " ++ error.message)

end SqlTables
