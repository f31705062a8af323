import SourceAttest.Fault.Basic
import SourceAttest.Repository.Path

/-!
# File trees

A tree binds places to files and directories. A place is the list of names that leads to it from
the top. Operations take paths, which are followed name by name as an operating system does it:
double dots go up, every name on the way must be a directory, and names have a greatest length.

The file system itself never fails: there is room for everything, and everything is permitted. There
are no links, and nobody else changes the tree. Any number of directories can be made or removed at once.
-/
namespace SourceAttest

/-- The names that lead to a place from the top. -/
abbrev Place := List String

inductive Node where
  | file (content : List UInt8)
  | directory
deriving Repr, DecidableEq

/-- Places and what they hold. The top is always a directory. -/
abbrev Tree := Table Place Node

namespace Tree

/-- A name may have this many bytes. -/
def maxNameBytes : Nat := 255

/-- A whole path may have this many bytes. -/
def maxPathBytes : Nat := 4095

def isTooLong (name : String) : Bool := maxNameBytes < name.utf8ByteSize

def node? (tree : Tree) (place : Place) : Option Node :=
  if place = [] then some .directory else tree.get? place

def isInside (outer inner : Place) : Bool := outer.isPrefixOf inner && outer ≠ inner

/-- Go down or up from a place by one name after the other. -/
def walk (tree : Tree) (place : Place) : List String → Except SystemFault Place
  | [] => .ok place
  | name :: rest =>
    match tree.node? place with
    | none => .error .notFound
    | some (.file _) => .error .notDirectory
    | some .directory =>
      -- Going up needs no name that fits, and above the top is the top.
      if name = ".." then walk tree place.dropLast rest
      else if isTooLong name then .error .nameTooLong
      else
        match tree.node? (place ++ [name]) with
        | none => .error .notFound
        | some _ => walk tree (place ++ [name]) rest

/-- The names from the top, when relative paths start at `here`. -/
def namesFrom (here : Place) (path : Path) : List String :=
  if path.anchor = .here then here ++ path.names else path.names

def locate (tree : Tree) (here : Place) (path : Path) : Except SystemFault Place :=
  if maxPathBytes < path.text.utf8ByteSize then .error .nameTooLong
  else walk tree [] (namesFrom here path)

def isDirectory (tree : Tree) (here : Place) (path : Path) : Bool :=
  match tree.locate here path with
  | .ok place => tree.node? place = some .directory
  | .error _ => false

/-- The place of a new entry: the directory that the path leads to without its last name, and that
name. `none` stands for a path that ends in an existing directory by itself. -/
def entryPlace (tree : Tree) (here : Place) (path : Path) : Except SystemFault (Option Place) :=
  if maxPathBytes < path.text.utf8ByteSize then .error .nameTooLong
  else
    let names := namesFrom here path
    match names.getLast? with
    | none => .ok none
    | some name =>
      match walk tree [] names.dropLast with
      | .error fault => .error fault
      | .ok place =>
        if tree.node? place = some .directory then
          if name = ".." then .ok none
          else if isTooLong name then .error .nameTooLong
          else .ok (some (place ++ [name]))
        else .error .notDirectory

def makeDirectory (tree : Tree) (here : Place) (path : Path) : Except SystemFault Tree :=
  match tree.entryPlace here path with
  | .error fault => .error fault
  | .ok none => .error .exists
  | .ok (some place) =>
    match tree.node? place with
    | some _ => .error .exists
    | none => .ok (tree.put place .directory)

/-- Make a directory unless it is there; its parent directory must exist. -/
def ensureDirectory (tree : Tree) (here : Place) (path : Path) : Except FileFault Unit × Tree :=
  match tree.makeDirectory here path with
  | .ok made => (.ok (), made)
  | .error fault =>
    if fault ≠ .notFound ∧ tree.isDirectory here path then (.ok (), tree)
    else (.error ⟨fault, path.quoted⟩, tree)

/-- Make the directory of the first `count` names of a path with all that are missing above it. -/
def ensureFirst (tree : Tree) (here : Place) (path : Path) : Nat → Except FileFault Unit × Tree
  | 0 => tree.ensureDirectory here ⟨path.anchor, []⟩
  | count + 1 =>
    let target : Path := ⟨path.anchor, path.names.take (count + 1)⟩
    match tree.makeDirectory here target with
    -- The path itself comes first, so that a fault names the first directory that cannot be made.
    | .error .notFound =>
      match ensureFirst tree here path count with
      | (.ok (), made) => made.ensureDirectory here target
      | failed => failed
    | _ => tree.ensureDirectory here target

def ensureDirectories (tree : Tree) (here : Place) (path : Path) : Except FileFault Unit × Tree :=
  tree.ensureFirst here path path.names.length

/-- Open a file for writing, a new one or an old one. What an old one held is gone from then on. -/
def openFile (tree : Tree) (here : Place) (path : Path) : Except SystemFault (Place × Tree) :=
  match tree.entryPlace here path with
  | .error fault => .error fault
  | .ok none => .error .isDirectory
  | .ok (some place) =>
    if tree.node? place = some .directory then .error .isDirectory
    else .ok (place, tree.put place (.file []))

/-- Write into a file that is open. -/
def fillFile (tree : Tree) (place : Place) (content : List UInt8) : Tree :=
  tree.put place (.file content)

/-- Remove everything inside a place. -/
def clear (tree : Tree) (place : Place) : Tree := tree.filter fun entry => !isInside place entry.1

def remove (tree : Tree) (place : Place) : Tree := tree.filter fun entry => entry.1 ≠ place

/-- Remove a directory and everything inside it. -/
def removeDirectory (tree : Tree) (here : Place) (path : Path) : Except FileFault Unit × Tree :=
  match tree.locate here path with
  | .error fault => (.error ⟨fault, path.quoted⟩, tree)
  | .ok place =>
    if tree.node? place = some .directory then
      let cleared := tree.clear place
      -- The path may have led through what was inside the directory, so it is looked up once more.
      match cleared.locate here path with
      | .error fault => (.error ⟨fault, path.quoted⟩, cleared)
      | .ok place => (.ok (), cleared.remove place)
    else (.error ⟨.notDirectory, "PosixPath(" ++ path.quoted ++ ")"⟩, tree)

end Tree

end SourceAttest
