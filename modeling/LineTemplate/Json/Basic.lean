import LineTemplate.Members

/-!
JSON values. Objects keep their members in the order in which they are listed.
-/

set_option autoImplicit false

namespace LineTemplate

inductive Json where
  | null
  | bool (value : Bool)
  | number (value : Float)
  | text (value : Text)
  | array (items : List Json)
  | object (members : List (Text × Json))
deriving Inhabited

namespace Json

def ofNat (n : Nat) : Json := .number (Float.ofNat n)

def ofInt (n : Int) : Json := .number (Float.ofInt n)

def string (s : String) : Json := .text s

def record (members : List (String × Json)) : Json :=
  .object (members.map fun (key, value) => ((key : Text), value))

def member? (j : Json) (key : Text) : Option Json :=
  match j with
  | .object members => Members.get? members key
  | _ => none

end Json

end LineTemplate
