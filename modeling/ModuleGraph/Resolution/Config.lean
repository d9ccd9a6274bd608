import ModuleGraph.Family
import ModuleGraph.Json.Value
import ModuleGraph.Log.Record
import ModuleGraph.Text.Utf8

/-! The settings of the resolver. A setting of the wrong kind does no harm until it is used: it is
kept as the fault that its use raises. -/

namespace ModuleGraph.Resolution

open Json (Value)

inductive Fault where
  | unusable (reason : String)
  | lacksMember (reason : String)
  | undecodable (fault : Text.Utf8.Fault)
  | hugeInteger (digits : Nat)
  | tooDeep
  | nullCharacter
  deriving DecidableEq

def Fault.message : Fault → String
  | .unusable reason => reason
  | .lacksMember reason => reason
  | .undecodable fault => fault.message
  | .hugeInteger digits => Text.tooManyDigits digits
  | .tooDeep => "maximum recursion depth exceeded"
  | .nullCharacter => "embedded null byte"

abbrev Setting (α : Type) := Except Fault α

structure Config where
  suffixes : Option (Setting (List Text))
  aliases : Setting (List (Text × Setting Text))
  baseUrl : Setting Text
  paths : Setting (List (Text × Setting (List Text)))
  moduleDirs : Setting (List (Setting Text))
  pythonPaths : Setting (List Text)

namespace Config

def pathPart : Value → Setting Text
  | .str s => .ok s
  | v => .error (.unusable
      s!"join() argument must be str, bytes, or os.PathLike object, not '{v.kindName}'")

def suffix : Value → Setting Text
  | .str s => .ok s
  | v => .error (.unusable s!"can only concatenate str (not \"{v.kindName}\") to str")

def starred : Value → Setting Text
  | .str s => .ok s
  | v => .error (.lacksMember s!"'{v.kindName}' object has no attribute 'replace'")

/-- The items of a list; a single text counts as the list of its characters, a mapping as the
list of its names. -/
def items : Value → Setting (List Value)
  | .arr items => .ok items
  | .str s => .ok (s.map fun c => .str [c])
  | .obj o => .ok ((Table.keys o).map .str)
  | v => .error (.unusable s!"'{v.kindName}' object is not iterable")

def texts (item : Value → Setting Text) (v : Value) : Setting (List Text) := do
  (← items v).mapM item

def targets (pattern : Text) : Value → Setting (List Text)
  | .str s => .ok [s]
  | v => texts (if pattern.contains '*' then starred else pathPart) v

def aliasTable : Value → Setting (List (Text × Setting Text))
  | .obj o => .ok (o.map fun (name, v) => (name, pathPart v))
  | .arr items => do
    let names ← items.mapM fun
      | .str s => Except.ok s
      | v => .error (.unusable s!"object of type '{v.kindName}' has no len()")
    return names.map fun n =>
      (n, .error (.unusable "list indices must be integers or slices, not str"))
  | .str s => .ok (s.map fun c =>
      ([c], .error (.unusable "string indices must be integers, not 'str'")))
  | v => .error (.unusable s!"'{v.kindName}' object is not iterable")

def pathTable : Value → Setting (List (Text × Setting (List Text)))
  | .obj o => .ok (o.map fun (pattern, v) => (pattern, targets pattern v))
  | v => .error (.lacksMember s!"'{v.kindName}' object has no attribute 'items'")

def switchedOn? (o : Json.Object) (name : String) : Option Value :=
  (Table.get? o name.toList).bind fun v => if v.isTruthy then some v else none

def defaultModuleDirs : List Text := ["node_modules".toList]

def ofObject (o : Json.Object) : Config where
  suffixes := (switchedOn? o "extensions").map (texts suffix)
  aliases := ((switchedOn? o "aliases").map aliasTable).getD (.ok [])
  baseUrl := ((Table.get? o "base_url".toList).map pathPart).getD (.ok [])
  paths := ((switchedOn? o "paths").map pathTable).getD (.ok [])
  moduleDirs := ((Table.get? o "module_dirs".toList).map fun v =>
    (items v).map (·.map pathPart)).getD (.ok (defaultModuleDirs.map .ok))
  pythonPaths := ((Table.get? o "python_paths".toList).map (texts pathPart)).getD (.ok [])

def suffixesFor (c : Config) (f : Family) : Setting (List Text) := c.suffixes.getD (.ok f.suffixes)

end Config
end ModuleGraph.Resolution
