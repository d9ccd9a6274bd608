import ModuleGraph.Json.Value

/-! The settings of a run, with a type for each of them. Members that the library does not know
are kept beside them. -/

namespace ModuleGraph

structure Settings where
  filename : Text
  directory : Text
  listForm : Bool
  excludePatterns : List Text
  includeCore : Bool
  skipLoaderPlugins : Bool
  resolverConfig : Json.Object
  resolverConfigPath : Text
  showNonExistent : Bool
  others : Json.Object

namespace Settings

def default (workingDirectory : Text) : Settings where
  filename := []
  directory := workingDirectory
  listForm := false
  excludePatterns := []
  includeCore := false
  skipLoaderPlugins := true
  resolverConfig := []
  resolverConfigPath := []
  showNonExistent := false
  others := []

inductive Field where
  | filename
  | directory
  | listForm
  | excludePatterns
  | includeCore
  | skipLoaderPlugins
  | resolverConfig
  | resolverConfigPath
  | showNonExistent
  deriving DecidableEq, Repr

def Field.name : Field → String
  | .filename => "filename"
  | .directory => "directory"
  | .listForm => "list_form"
  | .excludePatterns => "exclude_patterns"
  | .includeCore => "include_core"
  | .skipLoaderPlugins => "skip_loader_plugins"
  | .resolverConfig => "resolver_config"
  | .resolverConfigPath => "resolver_config_path"
  | .showNonExistent => "show_non_existent"

def Field.key (f : Field) : Text := f.name.toList

def Field.all : List Field :=
  [.filename, .directory, .listForm, .excludePatterns, .includeCore, .skipLoaderPlugins,
   .resolverConfig, .resolverConfigPath, .showNonExistent]

def value (s : Settings) : Field → Json.Value
  | .filename => .str s.filename
  | .directory => .str s.directory
  | .listForm => .bool s.listForm
  | .excludePatterns => .arr (s.excludePatterns.map .str)
  | .includeCore => .bool s.includeCore
  | .skipLoaderPlugins => .bool s.skipLoaderPlugins
  | .resolverConfig => .obj s.resolverConfig
  | .resolverConfigPath => .str s.resolverConfigPath
  | .showNonExistent => .bool s.showNonExistent

def toObject (s : Settings) : Json.Object :=
  Field.all.map (fun f => (f.key, s.value f)) ++ s.others

end Settings
end ModuleGraph
