import LineShell.IoError
import LineShell.Log
import LineShell.Settings.Basic
import LineShell.Text.Blank
import LineShell.Text.Utf8

/-!
# Settings files

A settings file holds one `key = value` to a line, besides blank lines and comments. Lines act in
order: a later assignment replaces an earlier one, an invalid value ends the reading, and a line that
names no key is warned of and passed over.
-/

namespace LineShell

inductive ConfigError where
  | fileNotFound (path : String)
  | unknownKey (key : String)
  | invalidValue (key value reason : String)
  | io (cause : IoError)
  deriving DecidableEq, Repr

namespace ConfigError

def message : ConfigError → String
  | .fileNotFound path => "Config file not found: " ++ path
  | .unknownKey key => "Unknown config key: " ++ key
  | .invalidValue key value reason =>
    "Invalid value for " ++ key ++ ": " ++ Text.quoted value ++ " (" ++ reason ++ ")"
  | .io cause => "IO error: " ++ cause.message

def diagnosis : ConfigError → String
  | .fileNotFound path => "ConfigFileNotFound(" ++ Text.quoted path ++ ")"
  | .unknownKey key => "UnknownKey(" ++ Text.quoted key ++ ")"
  | .invalidValue key value reason =>
    "InvalidValue \x7b key: " ++ Text.quoted key ++ ", value: " ++ Text.quoted value ++
      ", reason: " ++ Text.quoted reason ++ " \x7d"
  | .io cause => "IoError(" ++ cause.diagnosis ++ ")"

def ofSetting : SettingError → ConfigError
  | .unknownKey key => .unknownKey key
  | .invalidValue key value fault => .invalidValue key value fault.message

end ConfigError

namespace SettingsFile

/-- What one line of a settings file asks for: nothing if it is blank or a comment. A line without an
equals sign is malformed. -/
inductive Entry where
  | nothing
  | malformed
  | setting (key value : List Char)
  deriving DecidableEq, Repr

/-- A value without the pair of quotes around it, if there is one. -/
def unquote : List Char → List Char
  | '"' :: rest => if rest.getLast? = some '"' then rest.dropLast else '"' :: rest
  | value => value

def Entry.ofLine (line : List Char) : Entry :=
  let text := Text.trim line
  match text with
  | [] => .nothing
  | '#' :: _ => .nothing
  | _ =>
    match text.span (· != '=') with
    | (_, []) => .malformed
    | (key, _ :: value) => .setting (Text.trim key) (unquote (Text.trim value))

/-- The lines of a text; a newline at the end opens no further line. -/
def lines (text : List Char) : List (List Char) :=
  match (text.splitOn '\n').reverse with
  | [] :: rest => rest.reverse
  | pieces => pieces.reverse

/-- What reading settings leaves: the records it logged, and the settings or the error. -/
structure Outcome where
  records : List Log.Record
  result : Except ConfigError Settings

def readLines (number : Nat) (s : Settings) : List (List Char) → Outcome
  | [] => ⟨[], .ok s⟩
  | line :: rest =>
    let warn (message : String) : Outcome :=
      let later := readLines (number + 1) s rest
      ⟨Log.warn ("config line " ++ toString number ++ ": " ++ message) :: later.records,
        later.result⟩
    match Entry.ofLine line with
    | .nothing => readLines (number + 1) s rest
    | .malformed => warn "expected key = value"
    | .setting key value =>
      match s.set (String.ofList key) (String.ofList value) with
      | .ok changed => readLines (number + 1) changed rest
      | .error (.unknownKey key) => warn ("unknown key " ++ key)
      | .error e => ⟨[], .error (.ofSetting e)⟩

def read (text : List Char) : Outcome := readLines 1 {} (lines text)

/-- Where settings are looked for. A file that the operator named is required to be there. -/
structure Location where
  path : Option String
  required : Bool
  deriving DecidableEq, Repr

/-- The file in a home directory, which need not be there. -/
def Location.home (directory : Option String) : Location :=
  { path := directory.map fun home =>
      if home.endsWith "/" then home ++ ".krshrc" else home ++ "/.krshrc"
    required := false }

def Location.explicit (path : String) : Location := { path := some path, required := true }

inductive Found where
  | nothing
  | file (content : Except IoError (List UInt8))

/-- Loads the settings from a location, given what is found there. -/
def load (location : Location) (find : String → Found) : Outcome :=
  match location.path with
  | none => ⟨[], .ok {}⟩
  | some path =>
    match find path with
    | .nothing => ⟨[], if location.required then .error (.fileNotFound path) else .ok {}⟩
    | .file content =>
      let reading := Log.debug ("reading config from " ++ path)
      match content with
      | .error cause => ⟨[reading], .error (.io cause)⟩
      | .ok bytes =>
        match Text.Utf8.decode? bytes with
        | none => ⟨[reading], .error (.io .invalidUtf8)⟩
        | some text =>
          let outcome := read text
          ⟨reading :: outcome.records, outcome.result⟩

end SettingsFile

end LineShell
