import ModuleGraph.Text.Basic

/-! The flags of the command line: their names, the name of the value that some of them take, and
what they are for. -/

namespace ModuleGraph.CommandLine

inductive Flag where
  | help
  | directory
  | resolverConfig
  | listForm
  | pretty
  | json
  | showNonExistent
  | exclude
  | includeCore
  | keepLoaderPlugins
  | debug
  | logFile
  deriving DecidableEq, Repr

namespace Flag

def all : List Flag :=
  [help, directory, resolverConfig, listForm, pretty, json, showNonExistent, exclude, includeCore,
   keepLoaderPlugins, debug, logFile]

def spellings : Flag → List String
  | help => ["-h", "--help"]
  | directory => ["-d", "--directory"]
  | resolverConfig => ["-c", "--resolver-config"]
  | listForm => ["--list-form"]
  | pretty => ["--pretty"]
  | json => ["--json"]
  | showNonExistent => ["--show-non-existent"]
  | exclude => ["--exclude"]
  | includeCore => ["--include-core"]
  | keepLoaderPlugins => ["--keep-loader-plugins"]
  | debug => ["--debug"]
  | logFile => ["--log-file"]

def names (f : Flag) : List Text := f.spellings.map String.toList

def valueName? : Flag → Option String
  | directory => some "DIRECTORY"
  | resolverConfig => some "RESOLVER_CONFIG_PATH"
  | exclude => some "EXCLUDE_PATTERNS"
  | logFile => some "LOG_FILE"
  | _ => none

def takesValue (f : Flag) : Bool := f.valueName?.isSome

def purpose : Flag → String
  | help => "show this help message and exit"
  | directory => "Base directory for non-relative specifiers (default: cwd)."
  | resolverConfig => "JSON file with resolver settings (aliases, paths, module_dirs...)."
  | listForm => "Print the post-order list (dependencies first), one path per line."
  | pretty => "Print the tree as ASCII art instead of JSON."
  | json => "Print the complete traversal result as JSON."
  | showNonExistent => "Report specifiers that could not be resolved on stderr."
  | exclude => "Comma-separated regexes; matching paths are not traversed."
  | includeCore => "Keep standard library and Node.js core modules."
  | keepLoaderPlugins => "Keep AMD loader plugin specifiers such as 'text!tpl.html'."
  | debug => "Elevate logging verbosity to DEBUG."
  | logFile => "Also write logs to this file (rotated)."

def byName : List (Text × Flag) := all.flatMap fun f => f.names.map fun n => (n, f)

def named? (name : Text) : Option Flag := byName.lookup name

def title (f : Flag) : String := "/".intercalate f.spellings

end Flag

def programName : String := "deptree"

def programPurpose : String := "Print the dependency tree (or bundle order) of a source file."

def argumentName : String := "filename"

def argumentPurpose : String := "Entry file whose dependencies are traversed."

end ModuleGraph.CommandLine
