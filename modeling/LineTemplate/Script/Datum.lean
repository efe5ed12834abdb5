import LineTemplate.Members

/-!
Described values: what a caller hands in and what is reported back. A datum has no identity; giving
it to a scope creates fresh objects. Functions are described by what they do.
-/

set_option autoImplicit false

namespace LineTemplate

mutual

inductive Datum where
  | undefined
  | null
  | bool (value : Bool)
  | number (value : Float)
  | bigint (value : Int)
  | text (value : Text)
  | symbol (description : Text)
  | array (items : List Datum)
  | object (members : List (Text × Datum))
  | map (pairs : List (Datum × Datum))
  | set (items : List Datum)
  /-- A text wrapped as an object. -/
  | boxedText (content : Text)
  | error (name message : Text) (stack : Option Text)
  /-- A sequence that can be read once. -/
  | generator (supply : Supply)
  /-- A sequence that starts anew each time it is read. -/
  | iterable (supply : Supply)
  | function (behaviour : HostFunction)
  /-- A function of which nothing more is reported. -/
  | someFunction
  /-- A sequence of which nothing more is reported. -/
  | someIterable

/-- The items of a sequence, and the error that ends it, if one does. -/
inductive Supply where
  | mk (items : List Datum) (failure : Option Datum)

inductive HostFunction where
  /-- Returns the same value each time. -/
  | const (value : Datum)
  /-- Throws an error made at each call. -/
  | throw (error : Datum)
  /-- Puts text around its converted argument. -/
  | wrap (lead trail : Text)
  | identity
  /-- Names the type of its argument. -/
  | typeName
  /-- Counts its calls. -/
  | counter (start : Float)
  /-- Looks its converted argument up. -/
  | lookup (table : List (Text × Datum)) (otherwise : Datum)
  /-- Returns a fresh generator each time. -/
  | sequence (supply : Supply)
  /-- Decorates the items of a sequence with text before and after them. -/
  | decorate (items : Datum) (lead trail : Text)
  | indexed
  | entries
  /-- Evaluates a loaded template to its lines. -/
  | evaluate (template : Text) (options : Datum)

end

instance : Inhabited Datum := ⟨.undefined⟩

instance : Inhabited Supply := ⟨.mk [] none⟩

instance : Inhabited HostFunction := ⟨.identity⟩

namespace Datum

def string (s : String) : Datum := .text s

def ofNat (n : Nat) : Datum := .number (Float.ofNat n)

def record (members : List (String × Datum)) : Datum :=
  .object (members.map fun (key, value) => ((key : Text), value))

def members : Datum → Members Datum
  | .object ms => Members.listed ms
  | .array items => (List.range items.length).zipWith (fun i item => (Text.ofNat i, item)) items
  | .text t | .boxedText t =>
    (List.range t.length).zipWith (fun i c => (Text.ofNat i, .text [c])) t
  | .error name _ _ => [("name", .text name)]
  | _ => []

def spread (base more : Datum) : Datum := .object (Members.setAll base.members more.members)

end Datum

end LineTemplate
