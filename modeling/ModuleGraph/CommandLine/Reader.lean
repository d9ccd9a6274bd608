import ModuleGraph.CommandLine.Arguments
import ModuleGraph.Text.Quoted

/-! Reading the words of a call. A word that begins with a hyphen is a flag, by its name, by the
beginning of a long name if only one flag has it, or by a short name with a value attached. Behind
`--` all words are plain. -/

namespace ModuleGraph.CommandLine

inductive Refusal where
  | ambiguous (word : Text) (names : List Text)
  | noValue (flag : Flag)
  | unwantedValue (flag : Flag) (value : Text)
  | noArgument
  | unrecognized (words : List Text)
  deriving DecidableEq, Repr

def Refusal.message : Refusal → String
  | .ambiguous word names =>
    let shown := ", ".intercalate (names.map Text.string)
    s!"ambiguous option: {Text.string word} could match {shown}"
  | .noValue flag => s!"argument {flag.title}: expected one argument"
  | .unwantedValue flag value =>
    let shown := (Text.quoted value).string
    s!"argument {flag.title}: ignored explicit argument {shown}"
  | .noArgument => s!"the following arguments are required: {argumentName}"
  | .unrecognized words =>
    let shown := " ".intercalate (words.map Text.string)
    s!"unrecognized arguments: {shown}"

inductive Word where
  | plain (s : Text)
  | divider
  | flag (f : Flag) (name : Text) (attached : Option Text)
  | unknown (s : Text)
  deriving DecidableEq, Repr

def candidates (word : Text) : List (Flag × Text × Option Text) :=
  match word with
  | '-' :: '-' :: _ =>
    let (start, attached) := match Text.cut? '=' word with
      | some (start, value) => (start, some value)
      | none => (word, none)
    Flag.byName.filterMap fun (name, f) =>
      if Text.beginsWith start name then some (f, name, attached) else none
  | _ =>
    Flag.byName.filterMap fun (name, f) =>
      if name = word.take 2 then some (f, name, some (word.drop 2))
      else if Text.beginsWith word name then some (f, name, none)
      else none

def isNegativeNumber (word : Text) : Bool :=
  let body := word.drop 1
  let body := if body.getLast? = some '\n' then body.dropLast else body
  let isNumber (s : Text) := !s.isEmpty && s.all Text.isDecimal
  isNumber body || (match Text.cut? '.' body with
    | some (whole, fraction) => whole.all Text.isDecimal && isNumber fraction
    | none => false)

def classify (word : Text) : Except Refusal Word :=
  if word.head? ≠ some '-' then .ok (.plain word)
  else match Flag.named? word with
  | some f => .ok (.flag f word none)
  | none =>
    if word.length = 1 then .ok (.plain word)
    else
      let exact := (Text.cut? '=' word).bind fun (name, value) =>
        (Flag.named? name).map fun f => Word.flag f name (some value)
      match exact with
      | some w => .ok w
      | none =>
        match candidates word with
        | [(f, name, attached)] => .ok (.flag f name attached)
        | [] =>
          if isNegativeNumber word || word.contains ' ' then .ok (.plain word)
          else .ok (.unknown word)
        | several => .error (.ambiguous word (several.map fun c => c.2.1))

def classifyAll : List Text → Except Refusal (List Word)
  | [] => .ok []
  | ['-', '-'] :: rest => .ok (.divider :: rest.map .plain)
  | word :: rest => do
    let w ← classify word
    return w :: (← classifyAll rest)

def isShort (name : Text) : Bool := (name.drop 1).head? ≠ some '-'

/-- The flags of one word with a text attached. A short flag without a value may be followed by
further short ones; the last flag keeps what is attached to it. -/
def unpack (f : Flag) (name : Text) : Text → Except Refusal (List Flag × Flag × Option Text)
  | [] => if f.takesValue then .ok ([], f, some []) else .error (.unwantedValue f [])
  | c :: rest =>
    if f.takesValue then .ok ([], f, some (c :: rest))
    else if isShort name then
      match Flag.named? ['-', c] with
      | none => .error (.unwantedValue f (c :: rest))
      | some g =>
        if rest.isEmpty then .ok ([f], g, none)
        else (unpack g ['-', c] rest).map fun (before, last) => (f :: before, last)
    else .error (.unwantedValue f (c :: rest))

structure Reading where
  filename : Option Text
  arguments : Arguments
  extras : List Text

inductive Request where
  | help
  | run (a : Arguments)
  deriving DecidableEq, Repr

def Reading.finish (r : Reading) : Except Refusal Request :=
  match r.filename with
  | none => .error .noArgument
  | some filename =>
    if r.extras.isEmpty then .ok (.run { r.arguments with filename := filename })
    else .error (.unrecognized r.extras)

def operandOf (s : Text) : Operand := if s = ['-', '-'] then .nothing else .text s

def operand (f : Flag) (attached : Option Text) (rest : List Word) :
    Except Refusal (Operand × Nat) :=
  if f.takesValue then
    match attached, rest with
    | some s, _ => .ok (operandOf s, 0)
    | none, .plain s :: _ => .ok (.text s, 1)
    | none, _ => .error (.noValue f)
  else .ok (.missing, 0)

def Reading.withFlags (r : Reading) (flags : List (Flag × Operand)) : Option Reading :=
  if flags.any fun f => f.1 = .help then none
  else some { r with arguments := flags.foldl (fun a f => a.withFlag f.1 f.2) r.arguments }

/-- Reads the words in order. The first plain word is the argument, and takes a divider beside
it along. Help is given as soon as it is asked for. -/
def read (r : Reading) : List Word → Except Refusal Request
  | [] => r.finish
  | .unknown s :: rest => read { r with extras := r.extras ++ [s] } rest
  | .divider :: rest =>
    match r.filename, rest.head? with
    | none, some (.plain s) => read { r with filename := some s } (rest.drop 1)
    | _, _ => read { r with extras := r.extras ++ [['-', '-']] } rest
  | .plain s :: rest =>
    match r.filename with
    | some _ => read { r with extras := r.extras ++ [s] } rest
    | none =>
      let taken := if rest.head? = some .divider then 1 else 0
      read { r with filename := some s } (rest.drop taken)
  | .flag f name attached :: rest => do
    let (before, last, value) ← match attached with
      | none => .ok ([], f, none)
      | some text => unpack f name text
    let (operand, taken) ← operand last value rest
    match r.withFlags (before.map (·, Operand.missing) ++ [(last, operand)]) with
    | none => return .help
    | some r => read r (rest.drop taken)
termination_by ws => ws.length

def requestOf (words : List Text) : Except Refusal Request := do
  read ⟨none, .none, []⟩ (← classifyAll words)

end ModuleGraph.CommandLine
