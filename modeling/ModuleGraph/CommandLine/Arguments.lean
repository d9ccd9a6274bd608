import ModuleGraph.CommandLine.Flag
import ModuleGraph.Settings.Validation

/-! The arguments of a call, and the settings that they stand for. -/

namespace ModuleGraph.CommandLine

inductive Operand where
  | missing
  | text (s : Text)
  | nothing
  deriving DecidableEq, Repr

def Operand.toJson : Operand → Json.Value
  | .missing => .null
  | .text s => .str s
  | .nothing => .arr []

structure Arguments where
  filename : Text
  directory : Operand
  resolverConfigPath : Operand
  listForm : Bool
  pretty : Bool
  json : Bool
  showNonExistent : Bool
  excludePatterns : Operand
  includeCore : Bool
  keepLoaderPlugins : Bool
  debug : Bool
  logFile : Operand
  deriving DecidableEq, Repr

namespace Arguments

def none : Arguments where
  filename := []
  directory := .missing
  resolverConfigPath := .missing
  listForm := false
  pretty := false
  json := false
  showNonExistent := false
  excludePatterns := .missing
  includeCore := false
  keepLoaderPlugins := false
  debug := false
  logFile := .missing

/-- The arguments after one more flag; of several values the last one counts. -/
def withFlag (a : Arguments) (f : Flag) (v : Operand) : Arguments :=
  match f with
  | .help => a
  | .directory => { a with directory := v }
  | .resolverConfig => { a with resolverConfigPath := v }
  | .listForm => { a with listForm := true }
  | .pretty => { a with pretty := true }
  | .json => { a with json := true }
  | .showNonExistent => { a with showNonExistent := true }
  | .exclude => { a with excludePatterns := v }
  | .includeCore => { a with includeCore := true }
  | .keepLoaderPlugins => { a with keepLoaderPlugins := true }
  | .debug => { a with debug := true }
  | .logFile => { a with logFile := v }

def toObject (a : Arguments) : Json.Object :=
  [("filename".toList, .str a.filename),
   ("directory".toList, a.directory.toJson),
   ("resolver_config_path".toList, a.resolverConfigPath.toJson),
   ("list_form".toList, .bool a.listForm),
   ("pretty".toList, .bool a.pretty),
   ("json_output".toList, .bool a.json),
   ("show_non_existent".toList, .bool a.showNonExistent),
   ("exclude_patterns".toList, a.excludePatterns.toJson),
   ("include_core".toList, .bool a.includeCore),
   ("keep_loader_plugins".toList, .bool a.keepLoaderPlugins),
   ("debug".toList, .bool a.debug),
   ("log_file".toList, a.logFile.toJson)]

def when (b : Bool) (f : Settings.Field) (v : Json.Value) : Json.Object :=
  if b then [(f.key, v)] else []

def overrides (a : Arguments) : Json.Object :=
  [(Settings.Field.filename.key, .str a.filename),
   (Settings.Field.directory.key, a.directory.toJson),
   (Settings.Field.resolverConfigPath.key, a.resolverConfigPath.toJson)]
    ++ when a.listForm .listForm (.bool true)
    ++ (match a.excludePatterns with
      | .text (c :: s) =>
        [(Settings.Field.excludePatterns.key,
          .arr ((Settings.commaParts (c :: s)).map .str))]
      | _ => [])
    ++ when a.includeCore .includeCore (.bool true)
    ++ when a.keepLoaderPlugins .skipLoaderPlugins (.bool false)
    ++ when a.showNonExistent .showNonExistent (.bool true)

/-- Settings with the overrides put over them, as far as they are not null. -/
def merged (base overrides : Json.Object) : Json.Object :=
  base.update (overrides.filter fun (_, v) => match v with
    | .null => false
    | _ => true)

end Arguments
end ModuleGraph.CommandLine
