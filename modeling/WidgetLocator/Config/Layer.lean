import WidgetLocator.Config.Basic
import WidgetLocator.Config.Key
import WidgetLocator.Toml.Document

/-! Layers over the default configuration. Files are laid over the defaults in their order, and single
settings over all files, wherever they stand among them. -/

namespace WidgetLocator

open Text

inductive Layer where
  /-- A file with its text, if it is there. One that is not there is left out unless it is
  required. -/
  | file (name : String) (required : Bool) (text : Option String)
  | set (key : String) (value : Setting)

namespace Layer

/-- Lays the fields of a file over a tree. The name of a field counts as a key if it is one. -/
def layFields (root : Setting) : List (String × Setting) → Setting
  | [] => root
  | (name, s) :: rest =>
    let key := (Key.ofText? name).getD ⟨lowerCase name, []⟩
    layFields (key.put s root) rest

def layFile (root : Setting) : Layer → Except ConfigError Setting
  | file name required text? =>
    match text? with
    | none => if required then .error (.missingFile name) else .ok root
    | some text =>
      match Toml.read? text.toList with
      | some fields => .ok (layFields root fields)
      | none => .error (.malformedFile name)
  | set _ _ => .ok root

def settings : List Layer → Except ConfigError (List (Key × Setting))
  | [] => .ok []
  | set key value :: rest =>
    match Key.ofText? key with
    | some key => return (key, value) :: (← settings rest)
    | none => .error (.badKey key)
  | file .. :: rest => settings rest

end Layer

/-- The configuration after all layers. A key that cannot be read is an error before any file is
looked at. -/
def Config.load (layers : List Layer) : Except ConfigError Config := do
  let settings ← Layer.settings layers
  let root ← layers.foldlM Layer.layFile defaults
  Config.ofSetting (settings.foldl (fun root (key, s) => key.put s root) root)

end WidgetLocator
