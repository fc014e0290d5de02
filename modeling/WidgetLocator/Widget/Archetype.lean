/-! The kinds of widgets that tags are sorted into. -/

namespace WidgetLocator

inductive Archetype where
  | pushButton | checkBox | radioButton | comboBox | slider | label | scrollView | textField | module
  /-- Any other widget. -/
  | widget
deriving DecidableEq, Repr

namespace Archetype

def name : Archetype → String
  | pushButton => "PushButton"
  | checkBox => "CheckBox"
  | radioButton => "RadioButton"
  | comboBox => "ComboBox"
  | slider => "Slider"
  | label => "Label"
  | scrollView => "ScrollView"
  | textField => "TextField"
  | module => "Module"
  | widget => "Widget"

def text : Archetype → String
  | pushButton => "PushButtonQT"
  | checkBox => "CheckBoxQT"
  | radioButton => "RadioButtonQT"
  | comboBox => "ComboBoxQT"
  | slider => "SliderQT"
  | label => "LabelQT"
  | scrollView => "ScrollViewQT"
  | textField => "TextFieldQT"
  | module => "ModuleQT"
  | widget => "QWidget"

end Archetype
end WidgetLocator
