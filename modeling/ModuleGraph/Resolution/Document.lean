import ModuleGraph.Json.Reader
import ModuleGraph.Resolution.Search

/-! JSON documents that a search reads. What is wrong with a document is caught if the system
refuses to open it or if it is no JSON; other faults get past those who read it. -/

namespace ModuleGraph.Resolution.Document

inductive Fault where
  | caught (reason : String)
  | escaping (fault : Resolution.Fault)
  deriving DecidableEq

def ofReading : World.ReadFault → Fault
  | .encoding fault => .escaping (.undecodable fault)
  | .nullCharacter => .escaping .nullCharacter
  | .system path fault => .caught (World.ReadFault.system path fault).message

def ofParsing (doc : Text) (fault : Json.Fault) : Fault :=
  match fault.complaint with
  | .hugeInteger digits => .escaping (.hugeInteger digits)
  | .tooDeep => .escaping .tooDeep
  | _ => .caught (fault.message doc)

def load (w : World) (file : Path) : Except Fault Json.Value :=
  match w.read file with
  | .error fault => .error (ofReading fault)
  | .ok doc => (Json.parse w.nesting doc).mapError (ofParsing doc)

end ModuleGraph.Resolution.Document
