import ScopeCheck.Toml.Number
import ScopeCheck.Toml.Table
import ScopeCheck.Toml.Text

/-!
# Documents

A document is a list of lines: headers, keys with values, comments.  `Document.parse?` reads one
as a table.

* Lists may run over several lines, tables between braces may not.
* Lists and tables between braces may stand inside each other less than 80 deep.
* A header starts a table, to which the keys of the lines behind it belong.
-/

namespace ScopeCheck.Toml

open ScopeCheck.Text

/-- Passes over blanks. -/
def skipBlanks (cs : List Char) : List Char := cs.dropWhile isBlank

/-- Passes over a comment, if there is one. -/
def skipComment (cs : List Char) : List Char :=
  match cs with
  | '#' :: rest => rest.dropWhile isPlain
  | _ => cs

/-- Passes over the rest of a line, which holds nothing but a comment. -/
def endLine (cs : List Char) : Option (List Char) :=
  match skipComment (skipBlanks cs) with
  | [] => some []
  | '\n' :: rest => some rest
  | _ => none

/-- Passes over blanks, breaks and comments; `comment` says whether the reader is inside one. -/
def skipLines (comment : Bool) : List Char → Option (List Char)
  | [] => if comment then none else some []
  | c :: rest =>
    if c = '\n' then skipLines false rest
    else if comment then if isPlain c then skipLines true rest else none
    else if isBlank c then skipLines false rest
    else if c = '#' then skipLines true rest
    else some (c :: rest)

/-- Whether a character may stand in a key without quotes. -/
def isKeyChar (c : Char) : Bool := c.isAlphanum || c = '_' || c = '-'

/-- Reads a key without dots. -/
def scanKey (cs : List Char) : Option (String × List Char) :=
  match cs with
  | '"' :: rest => scanLineText '"' rest
  | '\'' :: rest => scanLineText '\'' rest
  | _ =>
    let (key, rest) := Numeral.spanWhile isKeyChar cs
    if key = [] then none else some (String.ofList key, rest)

/-- Reads at most `fuel` keys with dots between them, and blanks around each. -/
def scanKeys : Nat → List Char → Option (List String × List Char)
  | 0, _ => none
  | fuel + 1, cs => do
    let (key, rest) ← scanKey (skipBlanks cs)
    match skipBlanks rest with
    | '.' :: rest =>
      let (keys, rest) ← scanKeys fuel rest
      return (key :: keys, rest)
    | rest => return ([key], rest)

/-- Reads a path of keys and the sign behind it. -/
def scanPath (cs : List Char) : Option (List String × List Char) := scanKeys (cs.length + 1) cs

/-- How deep lists and tables between braces may stand inside each other. -/
def depthLimit : Nat := 79

mutual

/-- Reads a value; `room` is how many levels it may have inside. -/
def scanValue (room : Nat) : Nat → List Char → Option (Value × List Char)
  | 0, _ => none
  | fuel + 1, cs =>
    match cs with
    | [] => none
    | '"' :: rest => (scanAnyText '"' rest).map fun p => (.text p.1, p.2)
    | '\'' :: rest => (scanAnyText '\'' rest).map fun p => (.text p.1, p.2)
    | '[' :: rest => do
      if room = 0 then none
      else
        let (items, rest) ← scanItems (room - 1) fuel rest
        return (.list items, rest)
    | '{' :: rest => do
      if room = 0 then none
      else
        match skipBlanks rest with
        | '}' :: rest => return (.table [], rest)
        | rest =>
          let (t, rest) ← scanMembers (room - 1) fuel .empty rest
          return (.table t.toMembers, rest)
    | 't' :: 'r' :: 'u' :: 'e' :: rest => some (.truth true, rest)
    | 'f' :: 'a' :: 'l' :: 's' :: 'e' :: rest => some (.truth false, rest)
    | _ =>
      if startsMoment cs then (scanMoment cs).map fun p => (.text (String.ofList p.1), p.2)
      else
        (scanNumber cs).map fun p =>
          match p.1 with
          | .whole n => (.whole n, p.2)
          | .float d => (.float d, p.2)

/-- Reads the rest of a list, where a value may start. -/
def scanItems (room : Nat) : Nat → List Char → Option (List Value × List Char)
  | 0, _ => none
  | fuel + 1, cs => do
    match ← skipLines false cs with
    | ']' :: rest => return ([], rest)
    | start =>
      let (item, rest) ← scanValue room fuel start
      match ← skipLines false rest with
      | ']' :: rest => return ([item], rest)
      | ',' :: rest =>
        let (items, rest) ← scanItems room fuel rest
        return (item :: items, rest)
      | _ => none

/-- Reads the rest of a table between braces, where a key must start. -/
def scanMembers (room : Nat) : Nat → Table → List Char → Option (Table × List Char)
  | 0, _, _ => none
  | fuel + 1, t, cs => do
    let (path, rest) ← scanPath cs
    match rest with
    | '=' :: rest =>
      let (value, rest) ← scanValue room fuel (skipBlanks rest)
      let t ← t.addAt path value
      match skipBlanks rest with
      | '}' :: rest => return (t, rest)
      | ',' :: rest => scanMembers room fuel t rest
      | _ => none
    | _ => none

end

/-- A document of which some lines have been read: its table, and the path of the last header. -/
structure Document where
  table : Table
  header : List String

namespace Document

/-- A document without a line. -/
def empty : Document := ⟨.empty, []⟩

/-- Reads a header from behind its opening brackets, up to as many closing ones. -/
def readHeader (d : Document) (several : Bool) (cs : List Char) :
    Option (Document × List Char) := do
  let (path, rest) ← scanPath cs
  let rest ←
    match several, rest with
    | true, ']' :: ']' :: rest => some rest
    | false, ']' :: rest => some rest
    | _, _ => none
  let rest ← endLine rest
  let table ← d.table.header (if several then Table.append else Table.name) path
  return (⟨table, path⟩, rest)

/-- Reads a key with its value. -/
def readMember (d : Document) (cs : List Char) : Option (Document × List Char) := do
  let (path, rest) ← scanPath cs
  match rest with
  | '=' :: rest =>
    let (value, rest) ← scanValue depthLimit (2 * rest.length + 2) (skipBlanks rest)
    let rest ← endLine rest
    let table ← d.table.change false (Table.addAt path value) d.header
    return (⟨table, d.header⟩, rest)
  | _ => none

/-- Reads at most `fuel` lines. -/
def read : Nat → Document → List Char → Option Document
  | 0, _, _ => none
  | fuel + 1, d, cs =>
    match skipBlanks cs with
    | [] => some d
    | '\n' :: rest => d.read fuel rest
    | '#' :: rest => (endLine ('#' :: rest)).bind (d.read fuel)
    | '[' :: '[' :: rest => (d.readHeader true rest).bind fun p => p.1.read fuel p.2
    | '[' :: rest => (d.readHeader false rest).bind fun p => p.1.read fuel p.2
    | cs => (d.readMember cs).bind fun p => p.1.read fuel p.2

/-- Writes the breaks that come from other systems as line feeds, and drops a mark at the start. -/
def plainBreaks : List Char → List Char
  | [] => []
  | '\r' :: '\n' :: rest => '\n' :: plainBreaks rest
  | c :: rest => c :: plainBreaks rest

/-- Reads a document. -/
def parse? (text : String) : Option (List (String × Value)) :=
  let cs := plainBreaks (match text.toList with
    | '\uFEFF' :: rest => rest
    | cs => cs)
  (empty.read (cs.length + 1) cs).map fun d => d.table.toMembers

end Document

end ScopeCheck.Toml
