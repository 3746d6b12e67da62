import SqlTables.Command.Arguments

/-!
# Commands

The first plain argument names the command. Options of the dialect and the anchors may stand
before and behind it; those behind it win.
-/

namespace SqlTables.Command

inductive Source where
  | text (sql : String)
  | file (path : String)
  | input
deriving DecidableEq, Repr

/-- Where the mapping comes from: a file, with entries of the form `old=new` on top of it. -/
structure MappingSource where
  entries : List String
  file : Option String
deriving DecidableEq, Repr

inductive Action where
  | extract (source : Source) (occurrences json : Bool)
  | replace (source : Source) (mapping : MappingSource)
  | analyze (source : Source) (mapping : MappingSource) (json : Bool)
  | validate (source : Source)
  /-- Answer the request that is given as input. -/
  | serve
deriving DecidableEq, Repr

end Command

/-- A command with the dialect and the anchors to use; no anchors stand for the usual ones. -/
structure Command where
  dialect : String
  anchors : List String
  action : Command.Action
deriving DecidableEq, Repr

namespace Command

def commonOptions : List OptionSpec :=
  [⟨"dialect", some 'd', true, false, true⟩, ⟨"anchor", none, true, true, true⟩]

def sourceOptions : List OptionSpec :=
  [⟨"sql", none, true, false, true⟩, ⟨"file", some 'f', true, false, false⟩]

def mappingOptions : List OptionSpec :=
  [⟨"map", some 'm', true, true, true⟩, ⟨"mapping-file", none, true, false, false⟩]

def switch (name : String) : OptionSpec :=
  ⟨name, none, false, false, true⟩

def optionsOf? : String → Option (List OptionSpec)
  | "extract" => some (sourceOptions ++ [switch "tokens", switch "json"])
  | "replace" => some (sourceOptions ++ mappingOptions)
  | "analyze" => some (sourceOptions ++ mappingOptions ++ [switch "json"])
  | "validate" => some sourceOptions
  | "serve-json" => some []
  | _ => none

/-- The source of the text. A text and a file exclude each other. -/
def sourceOf (settings : List Setting) : Except Stop Source :=
  match valueOf? settings "sql", valueOf? settings "file" with
  | some _, some _ => .error .misused
  | some sql, none => .ok (.text sql)
  | none, some path => .ok (.file path)
  | none, none => .ok .input

def mappingOf (settings : List Setting) : MappingSource :=
  ⟨valuesOf settings "map", valueOf? settings "mapping-file"⟩

def actionOf (name : String) (settings : List Setting) : Except Stop Action := do
  let source ← sourceOf settings
  let json := isGiven settings "json"
  match name with
  | "extract" => return .extract source (isGiven settings "tokens") json
  | "replace" => return .replace source (mappingOf settings)
  | "analyze" => return .analyze source (mappingOf settings) json
  | "validate" => return .validate source
  | _ => return .serve

def Source.path? : Source → Option String
  | .file path => some path
  | _ => none

def Action.paths : Action → List String
  | .extract source _ _ => source.path?.toList
  | .replace source mapping => source.path?.toList ++ mapping.file.toList
  | .analyze source mapping _ => source.path?.toList ++ mapping.file.toList
  | .validate source => source.path?.toList
  | .serve => []

def Action.readsInput : Action → Bool
  | .extract source _ _ => source == .input
  | .replace source _ => source == .input
  | .analyze source _ _ => source == .input
  | .validate source => source == .input
  | .serve => true

def ofArguments (arguments : List String) : Except Stop Command := do
  let (outer, rest) ← readOptions commonOptions true arguments
  match rest with
  | [] => .error .misused
  | name :: rest =>
    match optionsOf? name with
    | none => .error (if name == "help" then .help else .misused)
    | some specs =>
      let (inner, rest) ← readOptions (commonOptions ++ specs) false rest
      if rest.isEmpty then
        let action ← actionOf name inner
        let dialect := (valueOf? inner "dialect" <|> valueOf? outer "dialect").getD "generic"
        let anchors := if isGiven inner "anchor" then inner else outer
        return ⟨dialect, valuesOf anchors "anchor", action⟩
      else
        .error .misused

end SqlTables.Command
