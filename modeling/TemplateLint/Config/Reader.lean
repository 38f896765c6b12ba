import TemplateLint.Config.Basic
import TemplateLint.Json.Reader
import TemplateLint.Toml.Reader

/-!
# Reading configurations

A configuration is an object with plugins and rules, either of which may be missing. It is written
in JSON or in TOML.

## Main definitions

* `Config.decode`: a configuration from data
* `Config.ofJson?`, `Config.ofToml?`: the configuration that a text spells
-/

namespace TemplateLint.Config

open Json (Record Decoder Outline)

/-! ### Data -/

/-- The fields of a configuration. -/
def record : Record := ⟨"Config", ["plugins", "rules"]⟩

/-- The settings of rules: an object. -/
def ruleTable : Decoder (List (String × Json))
  | .obj members => .ok (Json.canonicalMembers members)
  | j => .error (.wrongType j "a map")

/-- Reads a configuration. -/
def decode : Decoder Config :=
  record.decode .plain fun s =>
    ofSettings <$> s.optional "plugins" [] (Json.list Json.text) <*> s.optional "rules" [] ruleTable

/-- The used parts of the text of a configuration. -/
def outline : Outline := .record [("plugins", .whole), ("rules", .whole)]

/-! ### Texts -/

/-- The configuration that a JSON text spells. -/
def ofJson? (text : String) : Option Config := do
  let j ← Json.ofTextBy? outline text
  (decode j).toOption

/-- The configuration that a TOML text spells. -/
def ofToml? (text : String) : Option Config := do
  let j ← Toml.ofText? text
  (decode j).toOption

end TemplateLint.Config
