import TypedTables.RowType
import TypedTables.Text.Literal

/-!
# Blocks of emitted code

The text of a row type in four blocks: what it stores, its accessors, its parsers, and its
collections.
-/

namespace TypedTables

def codeLines (lines : List String) : String := "\n".intercalate lines

def codeItems (items : List String) : String :=
  "\n".intercalate (items.map fun item => "\n" ++ item)

namespace Handing

def resultType (h : Handing) (keyword : String) : String :=
  match h with
  | copy => keyword
  | text => "&str"
  | reference => "&" ++ keyword

def handedOut (h : Handing) (place : String) : String :=
  match h with
  | copy => place
  | text | reference => "&" ++ place

def owned (h : Handing) (place : String) : String :=
  match h with
  | copy => place
  | text | reference => place ++ ".clone()"

def entryValue : Handing → String
  | copy => "*value"
  | text => "value.as_str()"
  | reference => "value"

end Handing

namespace RowType

variable (t : RowType)

def fieldsBlock : String :=
  codeLines (t.properties.map (fun f => s!"    {f.ident}: {f.keyword},") ++
    t.groups.map fun g => s!"    {g.itemsName}: Vec<(i32, {g.keyword})>,")

/-- The accessor of a property, below its comment if it has one. -/
def propertyItem (f : Field) : String :=
  let handing := Handing.of f.type f.keyword
  let comment := Text.trim f.comment
  codeLines ((if comment.isEmpty then [] else ["    /// " ++ comment]) ++ [
    s!"    pub fn {f.ident}(&self) -> {handing.resultType f.keyword} \x7b",
    "        " ++ handing.handedOut ("self." ++ f.ident),
    "    \x7d"])

def propertiesBlock : String := codeItems (t.properties.map propertyItem)

/-- The expression that makes a row. A row with collections fills them before it is handed out. -/
def construction {Call : Type} (callText : Call → String) (assignments : List (Assignment Call)) :
    String :=
  let lines := assignments.map fun a =>
    s!"            {a.ident}: {callText a.call}" ++ (if a.converts then "?.into()," else "?,")
  if t.groups.isEmpty then
    codeLines ("        Ok(Self \x7b" :: lines ++ ["        \x7d)"])
  else
    codeLines ("        let mut row = Self \x7b" :: lines ++
      t.groups.map (fun g => s!"            {g.itemsName}: Vec::new(),") ++ [
      "        \x7d;",
      "        row.generate_property_array();",
      "        Ok(row)"])

def textParser (trimChars : List Char) : String :=
  let literals := ", ".intercalate (trimChars.map Text.charLiteral)
  codeLines [
    "    pub fn parse_data_row(data_row_string: &str) -> Result<Self, DataRowError> \x7b",
    s!"        let mut fields = TextRowFields::new(data_row_string, &[{literals}]);",
    t.construction TextCall.text t.fromText,
    "    \x7d"]

def bytesParser : String :=
  codeLines [
    "    pub fn parse_data_row_bytes(data_row_bytes: &[u8]) -> Result<Self, DataRowError> \x7b",
    "        let mut reader = DataRowReader::new(data_row_bytes);",
    "        let row = Self::read_data_row(&mut reader)?;",
    "        if !reader.is_at_end() \x7b",
    "            return Err(DataRowError::Malformed(format!(",
    "                \"\x7b\x7d trailing bytes after row\",",
    "                data_row_bytes.len() - reader.position()",
    "            )));",
    "        \x7d",
    "        Ok(row)",
    "    \x7d"]

def rowReader : String :=
  codeLines [
    "    /// Read one record; records are stored back to back without delimiters.",
    "    pub fn read_data_row(reader: &mut DataRowReader<'_>) -> Result<Self, DataRowError> \x7b",
    t.construction ReaderCall.text t.fromBytes,
    "    \x7d"]

def parserBlock (trimChars : List Char) : String :=
  codeItems [t.textParser trimChars, bytesParser, t.rowReader]

def fillLine (g : RowGroup) : String :=
  let pairs := ", ".intercalate (g.entries.map fun entry =>
    let owned := g.handing.owned ("self." ++ entry.2)
    s!"({Number.intText entry.1.toInt}, {owned})")
  s!"        self.{g.itemsName} = vec![{pairs}];"

/-- The accessors of a collection: its size, an entry by key, and an entry by position. -/
def groupItems (g : RowGroup) : List String :=
  let result := g.handing.resultType g.keyword
  let hand := s!"            .map(|(_, value)| {g.handing.entryValue})"
  [ codeLines [
      s!"    pub fn {g.countName}(&self) -> usize \x7b",
      s!"        self.{g.itemsName}.len()",
      "    \x7d"],
    codeLines [
      s!"    pub fn {g.entryName}(&self, id: i32) -> Result<{result}, DataRowError> \x7b",
      s!"        self.{g.itemsName}",
      "            .iter()",
      "            .find(|(key, _)| *key == id)",
      hand,
      "            .ok_or(DataRowError::Lookup \x7b",
      s!"                accessor: \"{g.entryName}\",",
      "                key: id,",
      "            \x7d)",
      "    \x7d"],
    codeLines [
      s!"    pub fn {g.entryAtName}(&self, index: usize) -> Result<{result}, DataRowError> \x7b",
      s!"        self.{g.itemsName}",
      "            .get(index)",
      hand,
      "            .ok_or(DataRowError::Range \x7b",
      s!"                accessor: \"{g.entryAtName}\",",
      "                index,",
      "            \x7d)",
      "    \x7d"]]

/-- The method that fills the collections, and their accessors; nothing if there are none. -/
def collectionsBlock : String :=
  if t.groups.isEmpty then ""
  else
    let filler := codeLines ("    fn generate_property_array(&mut self) \x7b" ::
      t.groups.map fillLine ++ ["    \x7d"])
    codeItems (filler :: t.groups.flatMap groupItems)

end RowType

end TypedTables
