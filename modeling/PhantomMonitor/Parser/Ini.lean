import Mathlib.Data.List.DropRight
import PhantomMonitor.Misc.Numeral
import PhantomMonitor.Parser.MfParser

/-!
# The INI reader

`ini.c`: the configuration file is read in lines of at most 199 characters. A line is a comment, the
continuation of the last value, a section, a pair of a name and a value, or an error; pairs and
continuations are handed to `handle_parser`, which takes all of them.
-/

namespace PhantomMonitor

open CText

/-- `INI_MAX_LINE` (`ini.h:70`). -/
def iniMaxLine : Nat := 200

/-- `MAX_SECTION` (`ini.c:20`). -/
def maxSection : Nat := 50

/-- `MAX_NAME` (`ini.c:21`). -/
def maxName : Nat := 50

/-- `rstrip` (`ini.c:24-30`). -/
def rstrip (s : CText) : CText := s.rdropWhile isSpace

/-- `lskip` (`ini.c:33-38`). -/
def lskip (s : CText) : CText := s.dropWhile isSpace

/-- `find_char_or_comment` (`ini.c:43-51`): the text before the place that is found, and the text
from there on. -/
def findCharOrComment (c : Char) (wasWhitespace : Bool) : CText → CText × CText
  | [] => ([], [])
  | x :: s =>
      if x = c ∨ (wasWhitespace ∧ x = ';') then ([], x :: s)
      else
        let (before, found) := findCharOrComment c (isSpace x) s
        (x :: before, found)

/-- `strncpy0` (`ini.c:54-59`): the string that `dest` holds after it. -/
def strncpy0 (src : CText) (size : Nat) : CText := src.take (size - 1)

/-- What a line asks for. -/
inductive IniLine where
  | ignored
  | continuation (value : CText)
  | newSection (sect : CText)
  | pair (name value : CText)
  | bad
  deriving DecidableEq, Repr

/-- The byte order mark (`ini.c:96-100`): whether it is there, and the line without it. -/
def skipBom (line : CText) : Bool × CText :=
  match line with
  | a :: b :: c :: rest =>
      if a.toNat = 0xEF ∧ b.toNat = 0xBB ∧ c.toNat = 0xBF then (true, rest) else (false, line)
  | _ => (false, line)

/-- A section line after its bracket (`ini.c:117-126`). -/
def sectionLine (rest : CText) : IniLine :=
  match findCharOrComment ']' false rest with
  | (sect, ']' :: _) => .newSection (strncpy0 sect maxSection)
  | _ => .bad

/-- The value behind the separator, without its comment (`ini.c:137-141`). -/
def iniValue (rest : CText) : CText := rstrip (findCharOrComment nul false (lskip rest)).1

/-- The line of a pair (`ini.c:130-151`). A colon is looked for when there is no equals sign. -/
def pairLine (start : CText) : IniLine :=
  let found := match findCharOrComment '=' false start with
    | (before, '=' :: rest) => (before, '=' :: rest)
    | _ => findCharOrComment ':' false start
  match found with
  | (before, '=' :: rest) => .pair (rstrip before) (iniValue rest)
  | (before, ':' :: rest) => .pair (rstrip before) (iniValue rest)
  | _ => .bad

/-- The tests on one line (`ini.c:94-152`). `first` is `lineno == 1` and `named` is `*prev_name`;
the test `start > line` holds when the mark or white space has been skipped. -/
def iniLine (first named : Bool) (line : CText) : IniLine :=
  let (marked, unmarked) := if first then skipBom line else (false, line)
  let stripped := rstrip unmarked
  let start := lskip stripped
  let skipped := marked || decide (start.length < stripped.length)
  match start with
  | [] => .ignored
  | ';' :: _ => .ignored
  | '#' :: _ => .ignored
  | c :: rest =>
      if named && skipped then .continuation start
      else if c = '[' then sectionLine rest
      else pairLine start

/-- The variables of `ini_parse_file` and the calls of the handler so far. -/
structure IniReader where
  sect : CText
  prevName : CText
  lineno : Nat
  error : Nat
  calls : List IniEntry
  deriving DecidableEq, Repr

/-- The variables before the first line. -/
def IniReader.init : IniReader := ⟨[], [], 0, 0, []⟩

/-- The body of the loop (`ini.c:92-152`). The handler returns 1, so an error is a bad line. -/
def iniStep (r : IniReader) (line : CText) : IniReader :=
  let r := { r with lineno := r.lineno + 1 }
  match iniLine (r.lineno = 1) (r.prevName ≠ []) (cstr line) with
  | .ignored => r
  | .continuation value => { r with calls := r.calls ++ [⟨r.sect, r.prevName, value⟩] }
  | .newSection sect => { r with sect := sect, prevName := [] }
  | .pair name value =>
      { r with prevName := strncpy0 name maxName, calls := r.calls ++ [⟨r.sect, name, value⟩] }
  | .bad => if r.error = 0 then { r with error := r.lineno } else r

/-- `ini_parse` (`ini.c:168-181`) for the content of the file; `none` when it cannot be opened. -/
def iniParse : Option CText → IniFile
  | none => .notOpened
  | some content =>
      let r := (readLines iniMaxLine content).foldl iniStep .init
      .opened r.calls r.error

end PhantomMonitor
