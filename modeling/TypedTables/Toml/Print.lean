import TypedTables.Text.Split
import TypedTables.Toml.Value

/-!
# Writing settings documents

The text of values. A string is written in the first of these forms that can hold it as it is:
double quotes, single quotes, three double quotes, three single quotes. What none of them can hold
is escaped.
-/

namespace TypedTables.Toml

def needsCode (c : Char) : Bool :=
  c != '\t' && c != '\n' && (decide (c.toNat < 32) || c.toNat == 127)

/-- The length of the longest run of a character; `run` of them stand right before. -/
def longestRun (c : Char) (run : Nat) : List Char → Nat
  | [] => run
  | d :: rest => if d = c then longestRun c (run + 1) rest else max run (longestRun c 0 rest)

/-- The upper-case hexadecimal digits of a number, at least four. -/
def fourDigits (n : Nat) : List Char :=
  let ds := (Nat.toDigits 16 n).map Char.toUpper
  List.replicate (4 - ds.length) '0' ++ ds

/-- The characters of a string with escapes. Of `allowed` double quotes in a row none is escaped,
the next one is; `run` of them stand right before. -/
def escaped (keepLines : Bool) (allowed run : Nat) : List Char → List Char
  | [] => []
  | c :: rest =>
    if c = '"' then
      if run < allowed then c :: escaped keepLines allowed (run + 1) rest
      else '\\' :: c :: escaped keepLines allowed 0 rest
    else
      let shown : List Char :=
        if c = '\x08' then ['\\', 'b']
        else if c = '\t' then ['\\', 't']
        else if c = '\n' then if keepLines then [c] else ['\\', 'n']
        else if c = '\x0c' then ['\\', 'f']
        else if c = '\x0d' then ['\\', 'r']
        else if c = '\\' then ['\\', '\\']
        else if needsCode c then '\\' :: 'u' :: fourDigits c.toNat
        else [c]
      shown ++ escaped keepLines allowed 0 rest

/-- A string in the first form that can hold it. -/
def stringText (s : String) : String :=
  let cs := s.toList
  let hasCodes := cs.any needsCode
  let hasLines := cs.contains '\n'
  let hasBackslash := cs.contains '\\'
  let singles := longestRun '\'' 0 cs
  let doubles := longestRun '"' 0 cs
  let lineStart := if hasLines then ['\n'] else []
  let inDouble := ['"'] ++ escaped false 0 0 cs ++ ['"']
  let inDoubles := ['"', '"', '"'] ++ lineStart ++ escaped true 2 0 cs ++ ['"', '"', '"']
  String.ofList <|
    if !hasCodes && !hasBackslash && doubles == 0 && !hasLines then inDouble
    else if !hasCodes && singles == 0 && !hasLines then ['\''] ++ cs ++ ['\'']
    else if !hasCodes && !hasBackslash && doubles ≤ 2 then inDoubles
    else if !hasCodes && singles ≤ 2 then
      ['\'', '\'', '\''] ++ lineStart ++ cs ++ ['\'', '\'', '\'']
    else if hasLines then inDoubles
    else inDouble

/-- An array of texts of values: on one line if it has at most one item, else one line for each. -/
def arrayText (items : List String) : String :=
  match items with
  | [] => "[]"
  | [item] => s!"[{item}]"
  | _ => "[" ++ String.join (items.map fun item => s!"\n    {item},") ++ "\n]"

def entryText (key value : String) : String := s!"{key} = {value}\n"

/-- A table: its header and its lines. -/
def tableText (name : String) (entries : List String) : String :=
  s!"[{name}]\n" ++ String.join entries

def documentText (tables : List String) : String := Text.joinWith "\n" tables

end TypedTables.Toml
