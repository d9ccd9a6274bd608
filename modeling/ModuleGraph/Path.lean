import ModuleGraph.Text.Blank

/-! Paths as texts: joining, cutting and normal forms. A normal form is computed on the
components alone; it is a fixed point of normalization and, below an absolute anchor, absolute. -/

namespace ModuleGraph

abbrev Path := Text

namespace Path

def isAbsolute (p : Path) : Bool := p.head? = some '/'

def join (base p : Path) : Path :=
  if isAbsolute p then p
  else if base.isEmpty || base.getLast? = some '/' then base ++ p
  else base ++ '/' :: p

def joinAll (base : Path) (parts : List Path) : Path := parts.foldl join base

def components (p : Path) : List Text := Text.fields '/' p

def here : Text := ['.']

def parentName : Text := ['.', '.']

/-- One component put on the components so far, the innermost first. A step to the parent
takes the innermost one away; above the root there is nothing to take. -/
def push (rooted : Bool) (inner : List Text) (c : Text) : List Text :=
  if c.isEmpty || c = here then inner
  else if c = parentName then
    match inner with
    | [] => if rooted then [] else [c]
    | top :: outer => if top = parentName then c :: inner else outer
  else c :: inner

/-- Exactly two leading slashes have a meaning of their own, more are one. -/
def leadingSlashes : Path → Text
  | '/' :: '/' :: '/' :: _ => ['/']
  | '/' :: '/' :: _ => ['/', '/']
  | '/' :: _ => ['/']
  | _ => []

def normal (p : Path) : Path :=
  let inner := (components p).foldl (push (isAbsolute p)) []
  let text := leadingSlashes p ++ Text.joined ['/'] inner.reverse
  if text.isEmpty then here else text

def split (p : Path) : Path × Text :=
  let (head, tail) := Text.splitLast (· = '/') p
  (if head.all (· = '/') then head else Text.dropTail (· = '/') head, tail)

def parent (p : Path) : Path := (split p).1

def baseName (p : Path) : Text := (split p).2

/-- The extension with its dot: what follows the last dot of the base name, unless only dots
stand before it. -/
def extension (p : Path) : Text :=
  let (stem, tail) := Text.splitLast (· = '.') (baseName p)
  if stem.dropLast.all (· = '.') then [] else '.' :: tail

def canonical (anchor p : Path) : Path := normal (join anchor p)

def absolute (cwd p : Path) : Path := if isAbsolute p then normal p else normal (join cwd p)

theorem join_of_isAbsolute {p : Path} (base : Path) (h : isAbsolute p = true) :
    join base p = p := by
  simp [join, h]

theorem isAbsolute_append {base : Path} (p : Path) (h : isAbsolute base = true) :
    isAbsolute (base ++ p) = true := by
  cases base with
  | nil => simp [isAbsolute] at h
  | cons c rest => simpa [isAbsolute] using h

theorem isAbsolute_join {base : Path} (p : Path) (h : isAbsolute base = true) :
    isAbsolute (join base p) = true := by
  unfold join
  split
  · assumption
  · split <;> exact isAbsolute_append _ h

end Path
end ModuleGraph
