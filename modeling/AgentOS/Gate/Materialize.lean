import AgentOS.Gate.Acceptance
import AgentOS.Library.OrderedMap

/-! The file tree the trusted command runs in: the source bundle's files, then the
changes in their order, each at the place its path resolves to. -/
namespace AgentOS.Gate
open Library

structure SourceFile where
  path : String
  executable : Bool
  content : String
  deriving DecidableEq

structure StoredFile where
  executable : Bool
  content : String

abbrev Place : Type := List Segment

structure Tree where
  files : OrderedMap Place StoredFile := .empty
  directories : List Place

namespace Tree

def fresh (root : Place) : Tree := {directories := root.inits}

def above (place : Place) : List Place := place.inits.dropLast

section
variable (tree : Tree) (place : Place)

def blocked : Bool :=
  place ∈ tree.directories || (above place).any fun directory => (tree.files.get? directory).isSome

def write (file : StoredFile) : Option Tree :=
  if tree.blocked place then none
  else some {files := tree.files.set place file,directories := tree.directories ++ above place}

def remove : Option Tree :=
  if tree.blocked place then none else some {tree with files := tree.files.erase place}

end

end Tree

section
variable (root : Place)

def safe (path : String) : Option Place :=
  if path.toList.head? = some '/' ∨ path.toList.contains '\\' = true ∨ path.toList.contains '\x00' = true then none
  else if root.isPrefixOf (resolve root path) then some (resolve root path) else none

def placeSource (tree : Tree) (file : SourceFile) : Option Tree := do
  let place ← safe root file.path
  tree.write place {
    executable := ((tree.files.get? place).map StoredFile.executable).getD file.executable
    content := file.content}

def placeChange (tree : Tree) : Change → Option Tree
  | .write _ path executable content => do
    let place ← safe root path
    tree.write place {executable,content}
  | .delete path => do
    let place ← safe root path
    tree.remove place

def placeSources (files : List SourceFile) : Option Tree := files.foldlM (placeSource root) (.fresh root)

def materialize (files : List SourceFile) (changes : List Change) : Option Tree := do
  let tree ← placeSources root files
  changes.foldlM (placeChange root) tree

end

end AgentOS.Gate
