import LineShell.Text.Utf8

/-!
# The environment

Variables that a process inherits, each a name with some bytes, which are most often text.
-/

namespace LineShell

structure Environment.Value where
  bytes : List UInt8
  deriving DecidableEq, Repr

abbrev Environment := List (String × Environment.Value)

namespace Environment

instance : Coe String Value := ⟨fun text => ⟨Text.Utf8.encode text.toList⟩⟩

/-- The value of a variable; `none` if it is unset. -/
def get? (env : Environment) (name : String) : Option Value := env.lookup name

/-- The text of a variable; `none` if it is unset or no text. -/
def text? (env : Environment) (name : String) : Option String :=
  (env.get? name).bind fun value => (Text.Utf8.decode? value.bytes).map String.ofList

def unset (env : Environment) (name : String) : Environment := env.filter (·.1 != name)

def set (env : Environment) (name : String) (value : Value) : Environment :=
  (name, value) :: env.unset name

end Environment

end LineShell
