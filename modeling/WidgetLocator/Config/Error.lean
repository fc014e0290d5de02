/-! Why no configuration comes out of the layers. -/

namespace WidgetLocator

inductive ConfigError where
  /-- A setting is to be made under a text that is no key. -/
  | badKey (text : String)
  | missingFile (name : String)
  | malformedFile (name : String)
  | mismatch (key found expected : String)
  | notASection (found type : String)
  /-- A section is written as an array that has too few items. -/
  | tooShort (length : Nat) (type : String) (members : Nat)
  | missing (member : String)
  | unknownMode (name : String)
  | notAMode
deriving DecidableEq, Repr

def ConfigError.message : ConfigError → String
  | badKey text => s!"'{text}' is not a configuration key"
  | missingFile name => s!"configuration file \"{name}\" not found"
  | malformedFile name => s!"configuration file \"{name}\" is not valid TOML"
  | mismatch key found expected => s!"invalid type: {found}, expected {expected} for key `{key}`"
  | notASection found type => s!"invalid type: {found}, expected {type}"
  | tooShort length type members =>
    let noun := if members = 1 then "element" else "elements"
    s!"invalid length {length}, expected {type} with {members} {noun}"
  | missing member => s!"missing field `{member}`"
  | unknownMode name => s!"enum ParserMode does not have variant constructor {name}"
  | notAMode =>
    "value of enum ParserMode should be represented by either string or table with exactly one key"

end WidgetLocator
