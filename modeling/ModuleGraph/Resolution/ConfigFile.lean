import ModuleGraph.Resolution.Document

/-! Settings of the resolver in a file of their own. A file that is asked for and cannot be used
is an error: no walk starts with half of its settings. -/

namespace ModuleGraph.Resolution.ConfigFile

inductive Fault where
  | unreadable (file : Path) (reason : String)
  | notAnObject (file : Path)
  | escaping (fault : Resolution.Fault)
  deriving DecidableEq

def Fault.message : Fault → String
  | .unreadable file reason => s!"cannot read resolver config '{Text.string file}': {reason}"
  | .notAnObject file => s!"resolver config '{Text.string file}' must contain a JSON object"
  | .escaping fault => fault.message

/-- Whether the settings are at fault, so that the call is rejected. -/
def Fault.isRejection : Fault → Bool
  | .unreadable .. => true
  | .notAnObject _ => true
  | .escaping _ => false

def load (w : World) (file : Path) : Except Fault Json.Object :=
  match Document.load w file with
  | .ok (.obj o) => .ok o
  | .ok _ => .error (.notAnObject file)
  | .error (.caught reason) => .error (.unreadable file reason)
  | .error (.escaping fault) => .error (.escaping fault)

end ModuleGraph.Resolution.ConfigFile
