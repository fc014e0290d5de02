/-! Values of metadata: what a JSON document can hold, without fractions. The fields of an object
keep the order in which they were written. -/

namespace WidgetLocator

inductive Value where
  | null
  | bool (b : Bool)
  | int (n : Int)
  | string (s : String)
  | array (items : List Value)
  | object (fields : List (String × Value))
deriving BEq, Repr, Inhabited

def Value.string? : Value → Option String
  | string s => some s
  | _ => none

end WidgetLocator
