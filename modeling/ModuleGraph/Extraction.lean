import ModuleGraph.FileSystem.World
import ModuleGraph.Json.Value
import ModuleGraph.Log.Record
import ModuleGraph.Program.Reference
import ModuleGraph.Script.Reference
import ModuleGraph.Stylesheet.Reference

/-! The specifiers of a file, by its family. A file that is of no family, that cannot be read or
that is no program has none. A path with U+0000 breaks off the reading of it. -/

namespace ModuleGraph.Extraction

structure Config where
  includeCore : Bool
  skipLoaderPlugins : Bool

def Config.ofObject (o : Json.Object) : Config where
  includeCore := ((o.get? "include_core".toList).map Json.Value.isTruthy).getD false
  skipLoaderPlugins := ((o.get? "skip_loader_plugins".toList).map Json.Value.isTruthy).getD true

def extract (w : World) (file : Path) (c : Config) : Noted (Except String (List Text)) := do
  let name := Text.string (Path.baseName file)
  match Family.of? file with
  | none =>
    .note .debug s!"No extractor for '{name}'"
    return .ok []
  | some family =>
    match w.read file with
    | .error .nullCharacter => return .error World.ReadFault.nullCharacter.message
    | .error fault =>
      .note .debug s!"Could not read '{name}': {fault.message}"
      return .ok []
    | .ok source =>
      match family with
      | .script => return .ok (Script.specifiers source c.includeCore c.skipLoaderPlugins)
      | .stylesheet => return .ok (Stylesheet.specifiers source)
      | .python =>
        match Program.specifiers w.isCharacterName source c.includeCore with
        | .ok ss => return .ok ss
        | .error fault =>
          let reason := fault.message (Path.baseName file)
          .note .debug s!"Syntax error in {Text.string file}: {reason}"
          return .ok []

end ModuleGraph.Extraction
