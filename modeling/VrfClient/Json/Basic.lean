import VrfClient.Number.Decimal

/-!
Documents as a node returns them, and the loose way in which they are looked into. A missing member
reads as null; null, false, zero and everything empty count as absent; looking for a member in
anything but an object, or for items in a number or a boolean, is a misuse. -/

namespace VrfClient

/-- A document. Whole numbers are kept apart from those written with a point or an exponent. -/
inductive Json where
  | null
  | bool (b : Bool)
  | int (i : Int)
  | decimal (d : Decimal)
  | str (s : String)
  | arr (items : List Json)
  | obj (members : List (String × Json))

namespace Json

/-- A document that lacks the shape an operation needs. -/
inductive Misuse where
  /-- A member was sought in something that is not an object. -/
  | notAnObject
  /-- Items were sought in something that has none. -/
  | notIterable
deriving DecidableEq

/-- Whether a document counts as absent. -/
def isAbsent : Json → Bool
  | .null => true
  | .bool b => !b
  | .int i => i == 0
  | .decimal d => d.vanishes
  | .str s => s.isEmpty
  | .arr items => items.isEmpty
  | .obj members => members.isEmpty

/-- Whether a document is null. -/
def isNull : Json → Bool
  | .null => true
  | _ => false

/-- The document, or another in its place if it is absent. -/
def orElse (j fallback : Json) : Json := if j.isAbsent then fallback else j

/-- The member of a name, null if there is none. -/
def member (j : Json) (name : String) : Except Misuse Json :=
  match j with
  | .obj members => .ok ((members.lookup name).getD .null)
  | _ => .error .notAnObject

/-- The items: of an array its elements, of a text its characters, of an object its names. -/
def items : Json → Except Misuse (List Json)
  | .arr xs => .ok xs
  | .str s => .ok (s.toList.map fun c => .str (String.singleton c))
  | .obj members => .ok (members.map fun m => .str m.1)
  | _ => .error .notIterable

/-- Whether a document is this very text. -/
def isText (j : Json) (text : String) : Bool :=
  match j with
  | .str s => s == text
  | _ => false

end Json

end VrfClient
