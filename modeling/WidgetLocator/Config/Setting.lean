import WidgetLocator.Text.Double
import WidgetLocator.Text.LowerCase
import WidgetLocator.Text.Quoted

/-! The tree of settings that a configuration is read from. Keys do not distinguish the case of
letters, and are kept in lower case. Laying one tree over another merges the tables that stand under
the same key; anything else under a key takes the place of what was there. -/

namespace WidgetLocator

open Text

inductive Setting where
  | null
  | bool (b : Bool)
  | int (n : Int)
  | double (negative : Bool) (size : Double)
  | infinite (negative : Bool)
  | notANumber
  | string (s : String)
  | array (items : List Setting)
  | table (fields : List (String × Setting))
deriving Repr, Inhabited

namespace Setting

def signText (negative : Bool) : String := if negative then "-" else ""

def text? : Setting → Option String
  | bool b => some (toString b)
  | int n => some (toString n)
  | double negative size => some (signText negative ++ String.ofList size.text)
  | infinite negative => some (signText negative ++ "inf")
  | notANumber => some "NaN"
  | string s => some s
  | null | array _ | table _ => none

/-- How an error names the setting. A double that is whole is given a fraction here. -/
def describe (s : Setting) : String :=
  let text := s.text?.getD ""
  match s with
  | null => "unit value"
  | bool _ => s!"boolean `{text}`"
  | int _ => s!"integer `{text}`"
  | double _ size =>
    let fraction := if size.text.contains '.' then "" else ".0"
    s!"floating point `{text}{fraction}`"
  | infinite _ | notANumber => s!"floating point `{text}`"
  | string s => s!"string {quoted s}"
  | array _ => "sequence"
  | table _ => "map"

/-- The fields of a table; a setting that is no table counts as an empty one. -/
def fields : Setting → List (String × Setting)
  | table fields => fields
  | _ => []

/-- The items of an array; a setting that is no array counts as an empty one. -/
def items : Setting → List Setting
  | array items => items
  | _ => []

end Setting

def alterField (f : Option Setting → Setting) (key : String) :
    List (String × Setting) → List (String × Setting)
  | [] => [(key, f none)]
  | (k, s) :: rest => if k = key then (key, f (some s)) :: rest else (k, s) :: alterField f key rest

/-- Changes the item at an index. A list that is too short is filled up with empty settings. -/
def alterItem (f : Option Setting → Setting) : (index : Nat) → List Setting → List Setting
  | 0, [] => [f (some .null)]
  | 0, s :: rest => f (some s) :: rest
  | index + 1, [] => .null :: alterItem f index []
  | index + 1, s :: rest => s :: alterItem f index rest

mutual

def Setting.overlay : Setting → Option Setting → Setting
  | .table fields, old => overlayFields fields (old.getD (.table []))
  | new, _ => new

/-- Lays fields over a setting one by one, which thereby becomes a table. -/
def overlayFields : List (String × Setting) → Setting → Setting
  | [], old => old
  | (key, new) :: rest, old =>
    overlayFields rest (.table (alterField new.overlay (lowerCase key) old.fields))

end

end WidgetLocator
