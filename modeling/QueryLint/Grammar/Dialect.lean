import QueryLint.Failure
import QueryLint.Text.Lowercase
import QueryLint.Text.Similarity

/-!
# SQL dialects

The dialects that texts can be checked against, by name. The empty name stands for
no dialect in particular. After the name there may be settings, set off by commas: the
version of a dialect, and how the case of its names is treated.
-/

namespace QueryLint.Dialect

def names : List String :=
  ["athena", "bigquery", "clickhouse", "databricks", "dax", "doris", "dremio", "drill", "druid",
    "duckdb", "dune", "exasol", "fabric", "hive", "materialize", "mysql", "oracle", "postgres",
    "presto", "prql", "redshift", "risingwave", "snowflake", "solr", "spark", "spark2", "sqlite",
    "starrocks", "tableau", "teradata", "trino", "tsql"]

def default : String := "tsql"

/-! ### Settings -/

/-- The value of a setting. -/
inductive SettingValue where
  | flag (b : Bool)
  | text (s : String)
  /-- The setting has several values and so none. -/
  | none
deriving DecidableEq

structure Setting where
  key : String
  value : SettingValue

namespace Setting

def keys : List String := ["normalization_strategy", "version"]

def strategies : List String :=
  ["LOWERCASE", "UPPERCASE", "CASE_SENSITIVE", "CASE_INSENSITIVE", "CASE_INSENSITIVE_UPPERCASE"]

/-- The value that a text stands for. -/
def valueOf (cs : List Char) : SettingValue :=
  let s := String.ofList (Text.trim cs)
  match Text.lower s with
  | "true" | "1" => .flag true
  | "false" | "0" => .flag false
  | _ => .text s

/-- A key alone, or a key and its value around an equals sign. -/
def ofText (cs : List Char) : Setting :=
  match Text.cutAt '=' cs with
  | [key] => ⟨String.ofList (Text.trim key), .flag true⟩
  | [key, value] => ⟨String.ofList (Text.trim key), valueOf value⟩
  | parts => ⟨String.ofList (Text.trim (parts.headD [])), .none⟩

/-- The last value of a key. -/
def find? (key : String) (settings : List Setting) : Option SettingValue :=
  (settings.reverse.find? (·.key == key)).map (·.value)

/-- The parts of a version are whole numbers. -/
def checkVersion : SettingValue → Except Failure Unit
  | .text s =>
      if s.isEmpty then .ok ()
      else
        (Text.cutAt '.' s.toList).forM fun part =>
          match Number.whole 10 (String.ofList part) with
          | .ok _ => .ok ()
          | .error fault => .error (.number fault)
  | .flag true => .error (.noMember "bool" "split")
  | .flag false => .ok ()
  | .none => .ok ()

def checkStrategy : SettingValue → Except Failure Unit
  | .text s =>
      let name := String.ofList (s.toList.map Char.toUpper)
      if strategies.contains name then .ok () else .error (.notAMember "NormalizationStrategy" (.text name))
  | .flag _ => .error (.noMember "bool" "upper")
  | .none => .ok ()

/-- Checks the version, then the strategy, and then that there is nothing else. -/
def check (settings : List Setting) : Except Failure Unit := do
  checkVersion ((find? "version" settings).getD .none)
  checkStrategy ((find? "normalization_strategy" settings).getD .none)
  match settings.find? fun s => !keys.contains s.key with
  | some s => throw (.unknownSetting s.key (Text.closest? s.key keys))
  | none => return

end Setting

/-! ### Names -/

/-- Checks the name of a dialect and the settings after it. A name that is nearly right
is put right in the message. -/
def checkName (s : String) : Except Failure Unit :=
  let parts := Text.cutAt ',' s.toList
  let written := parts.headD []
  let name := String.ofList (Text.trim written)
  if name.isEmpty || names.contains name then Setting.check ((parts.drop 1).map Setting.ofText)
  else
    let written := String.ofList written
    .error (.unknownDialect written (Text.closest? written names))

/-- Checks a value that has to name a dialect; an empty one names none. -/
def check (d : Datum) : Except Failure Unit :=
  if !d.isFilled then .ok ()
  else
    match d with
    | .text s => checkName s
    | d => .error (.invalidDialect d)

/-- The dialect that a setting names; an empty setting names the default. -/
def ofSetting (d : Datum) : Except Failure String :=
  if !d.isFilled then .ok default
  else do
    check d
    return d.plain

end QueryLint.Dialect
