import TypedTables.RowType.Block
import TypedTables.Table.DataTable

/-!
# Templates of emitted code

A template is a text with placeholders. They are replaced one after the other, in a fixed order; a
placeholder for a block that is empty takes its line with it. At the end every line loses the white
space at its end.
-/

namespace TypedTables

/-- What emitted code depends on besides its table. -/
structure EmitOptions where
  /-- The path under which emitted code finds the types it uses. -/
  space : String := "tablegen::runtime"
  /-- What the names of row types begin with. -/
  classStart : String := "DR"
  /-- The characters that the parser of text removes at the ends of a field. -/
  trimChars : List Char := ['"']
deriving DecidableEq, Repr

/-- The template that is used if no other is given. -/
def standardTemplate : String := codeLines [
  "// Generated by tablegen at __DATA_TABLE_CREATE_TIME__.",
  "// Changes are overwritten on the next generation run.",
  "",
  "use __DATA_TABLE_NAME_SPACE__::*;",
  "",
  "/// __DATA_TABLE_COMMENT__",
  "#[derive(Debug, Clone, PartialEq)]",
  "pub struct __DATA_TABLE_CLASS_NAME__ \x7b",
  "    id: i32,",
  "__DATA_TABLE_FIELDS__",
  "\x7d",
  "",
  "impl __DATA_TABLE_CLASS_NAME__ \x7b",
  "    /// __DATA_TABLE_ID_COMMENT__",
  "    pub fn id(&self) -> i32 \x7b",
  "        self.id",
  "    \x7d",
  "__DATA_TABLE_PROPERTIES__",
  "__DATA_TABLE_PARSER__",
  "__DATA_TABLE_PROPERTY_ARRAY__",
  "\x7d",
  ""]

namespace Template

def fill (token value : String) (text : List Char) : List Char :=
  Text.replaceAll token.toList value.toList text

/-- Replaces a placeholder that has a line to itself; an empty value removes the line. -/
def fillBlock (token value : String) (text : List Char) : List Char :=
  if value.isEmpty then fill token "" (fill (token ++ "\n") "" text) else fill token value text

/-- The text without white space at the ends of its lines. -/
def trimLineEnds (text : List Char) : List Char :=
  Text.joinChars ['\n'] ((Text.splitOn '\n' text).map (Text.dropEndWhile Text.isBlank))

end Template

def DataTable.emit (t : DataTable) (tableName template : String) (options : EmitOptions)
    (timestamp : String) : Except TableError String := do
  let schema ← t.schema
  let rowType ← RowType.ofSchema options.space schema
  let idComment ← t.comment t.layout.idColumn
  let headed := template.toList
    |> Template.fill "__DATA_TABLE_CREATE_TIME__" timestamp
    |> Template.fill "__DATA_TABLE_NAME_SPACE__" options.space
    |> Template.fill "__DATA_TABLE_CLASS_NAME__" (Naming.className options.classStart tableName)
    |> Template.fill "__DATA_TABLE_COMMENT__" (Text.trim t.summary)
    |> Template.fill "__DATA_TABLE_ID_COMMENT__" (Text.trim idComment)
  let whole := headed
    |> Template.fillBlock "__DATA_TABLE_FIELDS__" rowType.fieldsBlock
    |> Template.fillBlock "__DATA_TABLE_PROPERTIES__" rowType.propertiesBlock
    |> Template.fillBlock "__DATA_TABLE_PARSER__" (rowType.parserBlock options.trimChars)
    |> Template.fillBlock "__DATA_TABLE_PROPERTY_ARRAY__" rowType.collectionsBlock
  return String.ofList (Template.trimLineEnds whole)

end TypedTables
