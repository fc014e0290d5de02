import WidgetLocator.Widget.Archetype

/-! The rules that sort tags into archetypes. A rule compares a whole tag, its end or any part of it
with a pattern; the first rule of the table that matches decides, after the ASCII letters of the tag
have been lower-cased. Whole tags come first, ends next, parts last. -/

namespace WidgetLocator

inductive Tier where
  | exact | suffix | substring
deriving DecidableEq, Repr

def Tier.name : Tier → String
  | exact => "Exact"
  | suffix => "Suffix"
  | substring => "Substring"

structure Rule where
  tier : Tier
  pattern : String
  archetype : Archetype
deriving DecidableEq, Repr

/-- Whether `pattern` occurs in the text as consecutive characters. -/
def occursIn (pattern : List Char) : List Char → Bool
  | [] => pattern.isEmpty
  | c :: cs => pattern.isPrefixOf (c :: cs) || occursIn pattern cs

namespace Rule

def accepts (r : Rule) (tag : String) : Bool :=
  match r.tier with
  | .exact => tag == r.pattern
  | .suffix => r.pattern.toList.isSuffixOf tag.toList
  | .substring => occursIn r.pattern.toList tag.toList

/-- All rules, in the order in which they are tried. -/
def table : List Rule :=
  [⟨.exact, "button", .pushButton⟩,
   ⟨.exact, "container", .scrollView⟩,
   ⟨.exact, "form", .module⟩,
   ⟨.exact, "textfield", .textField⟩,
   ⟨.suffix, "button", .pushButton⟩,
   ⟨.suffix, "checkbox", .checkBox⟩,
   ⟨.suffix, "radiobutton", .radioButton⟩,
   ⟨.suffix, "combobox", .comboBox⟩,
   ⟨.suffix, "slider", .slider⟩,
   ⟨.suffix, "label", .label⟩,
   ⟨.suffix, "view", .scrollView⟩,
   ⟨.suffix, "field", .textField⟩,
   ⟨.substring, "button", .pushButton⟩,
   ⟨.substring, "field", .textField⟩,
   ⟨.substring, "text", .textField⟩,
   ⟨.substring, "container", .scrollView⟩,
   ⟨.substring, "panel", .scrollView⟩,
   ⟨.substring, "form", .module⟩]

end Rule

/-- The tag with its ASCII letters in lower case and all other characters as they are. -/
def lowerAscii (tag : String) : String := String.ofList (tag.toList.map Char.toLower)

namespace Archetype

def ruleFor? (tag : String) : Option Rule := Rule.table.find? (·.accepts (lowerAscii tag))

def ofTag (tag : String) : Archetype := ((ruleFor? tag).map Rule.archetype).getD .widget

end Archetype

/-- Gives a tag the word that stands for its archetype. -/
abbrev Classifier := String → String

def Classifier.heuristic : Classifier := fun tag => (Archetype.ofTag tag).text

end WidgetLocator
