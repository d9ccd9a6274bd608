import ModuleGraph.Settings.Basic
import ModuleGraph.Text.Blank

/-! From arbitrary values to settings. The lenient reading converts what it can, falls back to
the default otherwise, and warns of both; the strict reading refuses instead. A value that is
missing or null stands for the default in either. -/

namespace ModuleGraph.Settings

open Json (Value)

inductive Complaint where
  | notAnObject (received : String)
  | wrongKind (field : Field) (expected received : String)
  | wrongItem (field : Field) (index : Nat)
  deriving DecidableEq, Repr

def Complaint.message : Complaint → String
  | .notAnObject received => s!"Invalid config type: expected dict, received {received}."
  | .wrongKind field expected received =>
    s!"Invalid field '{field.name}': expected {expected}, received {received}."
  | .wrongItem field index => s!"Invalid item in '{field.name}[{index}]': expected str."

inductive Warning where
  | complained (c : Complaint) (remedy : String)
  | fromNumber (field : Field) (shown : String)
  | fromWord (field : Field) (written : Text) (result : Bool)
  | fromCommas (field : Field)
  deriving DecidableEq, Repr

def Warning.message : Warning → String
  | .complained c remedy => s!"{c.message} {remedy}"
  | .fromNumber field shown => s!"Field '{field.name}' converted from number {shown} to bool."
  | .fromWord field written result =>
    let word := if result then "True" else "False"
    s!"Field '{field.name}' converted from '{written.string}' to {word}."
  | .fromCommas field => s!"Field '{field.name}' converted from CSV string to list."

structure Coerced (α : Type) where
  value : α
  warnings : List Warning

abbrev Outcome (α : Type) := Except Complaint (Coerced α)

def complain {α : Type} (strict : Bool) (c : Complaint) (fallback : α) (remedy : String) :
    Outcome α :=
  if strict then .error c else .ok ⟨fallback, [.complained c remedy]⟩

def asText (strict : Bool) (field : Field) (fallback : Text) (v : Value) : Outcome Text :=
  match v with
  | .null => .ok ⟨fallback, []⟩
  | .str s =>
    let t := Text.trim s
    .ok ⟨if t.isEmpty then fallback else t, []⟩
  | v => complain strict (.wrongKind field "str" v.kindName) fallback "Using fallback."

def yesWords : List Text :=
  ["true".toList, "1".toList, "yes".toList, "y".toList, "on".toList]

def noWords : List Text :=
  ["false".toList, "0".toList, "no".toList, "n".toList, "off".toList]

/-- The truth value that a number or a word stands for, with the warning about it. Case does not
matter; no character outside ASCII has a letter of these words as its lower case. -/
def converted? (field : Field) (v : Value) : Option (Coerced Bool) :=
  match v with
  | .int n =>
    if n = 0 ∨ n = 1 then some ⟨n = 1, [.fromNumber field (toString n)]⟩ else none
  | .float x =>
    if x == 0.0 || x == 1.0 then some ⟨x == 1.0, [.fromNumber field (Json.floatText x)]⟩
    else none
  | .str s =>
    let w := Text.lowerAscii (Text.trim s)
    if yesWords.contains w then some ⟨true, [.fromWord field s true]⟩
    else if noWords.contains w then some ⟨false, [.fromWord field s false]⟩
    else none
  | _ => none

def asBool (strict : Bool) (field : Field) (fallback : Bool) (v : Value) : Outcome Bool :=
  match v with
  | .bool b => .ok ⟨b, []⟩
  | .null => .ok ⟨fallback, []⟩
  | v =>
    match if strict then none else converted? field v with
    | some c => .ok c
    | none => complain strict (.wrongKind field "bool" v.kindName) fallback "Using fallback."

def textItems (strict : Bool) (field : Field) :
    (index : Nat) → List Value → Except Complaint (Coerced (List Text))
  | _, [] => .ok ⟨[], []⟩
  | i, v :: rest =>
    match v with
    | .str s => do
      let ⟨ts, ws⟩ ← textItems strict field (i + 1) rest
      let t := Text.trim s
      return ⟨if t.isEmpty then ts else t :: ts, ws⟩
    | _ => do
      let ⟨_, first⟩ ← complain strict (.wrongItem field i) () "Item discarded."
      let ⟨ts, ws⟩ ← textItems strict field (i + 1) rest
      return ⟨ts, first ++ ws⟩

def commaParts (s : Text) : List Text :=
  ((Text.fields ',' s).map Text.trim).filter fun t => !t.isEmpty

def asTexts (strict : Bool) (field : Field) (v : Value) : Outcome (List Text) :=
  match v with
  | .null => .ok ⟨[], []⟩
  | .arr items => textItems strict field 0 items
  | v =>
    match v, strict with
    | .str s, false =>
      let parts := commaParts s
      .ok ⟨parts, if parts.isEmpty then [] else [.fromCommas field]⟩
    | v, strict =>
      complain strict (.wrongKind field "list[str]" v.kindName) [] "Using fallback."

def asObject (strict : Bool) (field : Field) (v : Value) : Outcome Json.Object :=
  match v with
  | .null => .ok ⟨[], []⟩
  | .obj o => .ok ⟨o, []⟩
  | v => complain strict (.wrongKind field "dict" v.kindName) [] "Using empty mapping."

def given (d : Settings) (o : Json.Object) (f : Field) : Value :=
  (o.get? f.key).getD (d.value f)

/-- Reads settings. The fields are looked at in a fixed order: texts, truth values, lists and
mappings; the strict reading reports the first complaint. -/
def validate (workingDirectory : Text) (strict : Bool) (config : Value) :
    Except Complaint (Coerced Settings) :=
  let d := Settings.default workingDirectory
  match config with
  | .obj o => do
    let text (f : Field) (fallback : Text) := asText strict f fallback (given d o f)
    let flag (f : Field) (fallback : Bool) := asBool strict f fallback (given d o f)
    let filename ← text .filename d.filename
    let directory ← text .directory d.directory
    let resolverConfigPath ← text .resolverConfigPath d.resolverConfigPath
    let listForm ← flag .listForm d.listForm
    let includeCore ← flag .includeCore d.includeCore
    let skipLoaderPlugins ← flag .skipLoaderPlugins d.skipLoaderPlugins
    let showNonExistent ← flag .showNonExistent d.showNonExistent
    let excludePatterns ← asTexts strict .excludePatterns (given d o .excludePatterns)
    let resolverConfig ← asObject strict .resolverConfig (given d o .resolverConfig)
    return {
      value := {
        filename := filename.value
        directory := directory.value
        listForm := listForm.value
        excludePatterns := excludePatterns.value
        includeCore := includeCore.value
        skipLoaderPlugins := skipLoaderPlugins.value
        resolverConfig := resolverConfig.value
        resolverConfigPath := resolverConfigPath.value
        showNonExistent := showNonExistent.value
        others := o.filter fun m => !(Field.all.map Field.key).contains m.1 }
      warnings := filename.warnings ++ directory.warnings ++ resolverConfigPath.warnings
        ++ listForm.warnings ++ includeCore.warnings ++ skipLoaderPlugins.warnings
        ++ showNonExistent.warnings ++ excludePatterns.warnings ++ resolverConfig.warnings }
  | v => complain strict (.notAnObject v.kindName) d "Using defaults."

end ModuleGraph.Settings
