import TopicShell.Text.Pieces

/-!
# Paths

A path is written with slashes.  `normal` is its shortest spelling that names the same place without
looking at the files: no empty and no `.` components; `..` stays.
-/

namespace TopicShell.Files

open TopicShell.Text

structure Path where
  /-- The slashes in front: none, one, or exactly two. -/
  root : String
  parts : List String
  deriving DecidableEq

namespace Path

def ofChars (cs : List Char) : Path :=
  let slashes := (cs.takeWhile (· = '/')).length
  let parts := (pieces '/' cs).filter fun p => !p.isEmpty && p ≠ ['.']
  { root := if slashes = 0 then "" else if slashes = 2 then "//" else "/"
    parts := parts.map String.ofList }

def parse (s : String) : Path :=
  ofChars s.toList

def text (p : Path) : String :=
  if p.root.isEmpty && p.parts.isEmpty then "." else p.root ++ "/".intercalate p.parts

def isAbsolute (p : Path) : Bool :=
  !p.root.isEmpty

/-- A path seen from another one. -/
def join (base p : Path) : Path :=
  if p.isAbsolute then p else { base with parts := base.parts ++ p.parts }

/-- A path with one more component. -/
def child (base : Path) (name : String) : Path :=
  base.join (parse name)

def normal (s : String) : String :=
  (parse s).text

end Path

example : Path.normal "a//b/./c/" = "a/b/c" := by decide +kernel
example : Path.normal "" = "." := by decide +kernel

end TopicShell.Files
