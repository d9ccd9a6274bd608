import ModuleGraph.CommandLine.Flag
import ModuleGraph.Text.Number
import ModuleGraph.Text.Wrapped

/-! The usage line and the help text, laid out for a number of columns. -/

namespace ModuleGraph.CommandLine

def spaces (n : Nat) : Text := List.replicate n ' '

def columnsOf (setting : Option Text) : Nat :=
  match setting.bind Text.writtenNumber? with
  | some (n + 1) => n + 1
  | _ => 80

def widthIn (columns : Nat) : Nat := columns - 2

def Flag.usagePart (f : Flag) : Text :=
  let name := f.spellings.headD ""
  match f.valueName? with
  | some v => s!"[{name} {v}]".toList
  | none => s!"[{name}]".toList

def packParts (width indent : Nat) : (line : Text) → (used : Nat) → List Text → List Text
  | line, _, [] => if line.isEmpty then [] else [line]
  | line, used, part :: rest =>
    if line.isEmpty then packParts width indent part (used + part.length) rest
    else if used + 1 + part.length ≤ width then
      packParts width indent (line ++ ' ' :: part) (used + 1 + part.length) rest
    else line :: packParts width indent part (indent + part.length) rest

def usagePrefix : String := "usage: "

/-- The usage line; if it is too wide, the flags fill lines of their own beside the program's name,
and the argument begins another one. -/
def usage (width : Nat) : Text :=
  let intro := usagePrefix.toList
  let name := programName.toList
  let flags := Flag.all.map Flag.usagePart
  let argument := [argumentName.toList]
  let whole := Text.joined [' '] (name :: flags ++ argument)
  let body :=
    if intro.length + whole.length ≤ width then whole
    else if 4 * (intro.length + name.length) ≤ 3 * width then
      let indent := intro.length + name.length + 1
      let lines := packParts width indent [] intro.length (name :: flags)
        ++ packParts width indent [] indent argument
      Text.joined ('\n' :: spaces indent) lines
    else
      let indent := intro.length
      let together := packParts width indent [] indent (flags ++ argument)
      let lines :=
        if together.length ≤ 1 then together
        else packParts width indent [] indent flags ++ packParts width indent [] indent argument
      Text.joined ('\n' :: spaces indent) (name :: lines)
  intro ++ body ++ ['\n']

def Flag.heading (f : Flag) : Text :=
  let shown := f.spellings.map fun n => match f.valueName? with
    | some v => s!"{n} {v}"
    | none => n
  (", ".intercalate shown).toList

/-- An entry of the help text: its heading, and its purpose beside it from column `position` on.
A heading that is too long for that has a line of its own. -/
def entry (width position : Nat) (heading purpose : Text) : Text :=
  let lines := Text.wrapped (max (width - position) 11) purpose
  let room := position - 4
  let indented (ls : List Text) := ls.flatMap fun l => spaces position ++ l ++ ['\n']
  if heading.length ≤ room then
    match lines with
    | [] => []
    | first :: rest =>
      spaces 2 ++ heading ++ spaces (room - heading.length + 2) ++ first ++ '\n' :: indented rest
  else spaces 2 ++ heading ++ '\n' :: indented lines

def purposeColumn (width : Nat) : Nat :=
  let headings := argumentName.toList :: Flag.all.map Flag.heading
  let longest := (headings.map List.length).foldl max 0
  min (longest + 4) (min 24 (max (width - 20) 4))

def help (width : Nat) : Text :=
  let position := purposeColumn width
  let section_ (title : String) (entries : List Text) : Text :=
    '\n' :: title.toList ++ ':' :: '\n' :: entries.flatten
  usage width
    ++ '\n' :: Text.joined ['\n'] (Text.wrapped (max width 11) programPurpose.toList) ++ ['\n']
    ++ section_ "positional arguments"
      [entry width position argumentName.toList argumentPurpose.toList]
    ++ section_ "options"
      (Flag.all.map fun f => entry width position f.heading f.purpose.toList)

end ModuleGraph.CommandLine
