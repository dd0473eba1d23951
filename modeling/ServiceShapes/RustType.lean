import ServiceShapes.Json.Printer

/-!
# Types of generated code

A `RustType` describes a type as it will appear in generated Rust code.  Named types may live in a
namespace such as `crate::model`.

`RustType.render` writes a type as source text, in short or in full: in full, named types carry
their namespaces and the hash map its own.
-/

namespace ServiceShapes

/-- A type of generated code. -/
inductive RustType
  | unit
  | bool
  | string
  | integer (bits : Nat)
  | float (bits : Nat)
  | vec (item : RustType)
  | hashMap (key value : RustType)
  | option (content : RustType)
  | box (content : RustType)
  /-- A named type, possibly in a namespace. -/
  | named (name : String) (ns : Option String)
  /-- A named type applied to arguments. -/
  | generic (name : String) (ns : Option String) (args : List RustType)
deriving Repr, Inhabited

namespace RustType

/-! ### Equality -/

mutual

/-- Whether two types are equal. -/
def decEq : (a b : RustType) → Decidable (a = b)
  | .unit, b => match b with
    | .unit => isTrue rfl
    | .bool | .string | .integer _ | .float _ | .vec _ | .hashMap .. | .option _ | .box _
    | .named .. | .generic .. => isFalse nofun
  | .bool, b => match b with
    | .bool => isTrue rfl
    | .unit | .string | .integer _ | .float _ | .vec _ | .hashMap .. | .option _ | .box _
    | .named .. | .generic .. => isFalse nofun
  | .string, b => match b with
    | .string => isTrue rfl
    | .unit | .bool | .integer _ | .float _ | .vec _ | .hashMap .. | .option _ | .box _
    | .named .. | .generic .. => isFalse nofun
  | .integer m, b => match b with
    | .integer n => if h : m = n then isTrue (h ▸ rfl) else isFalse fun e => h (integer.inj e)
    | .unit | .bool | .string | .float _ | .vec _ | .hashMap .. | .option _ | .box _
    | .named .. | .generic .. => isFalse nofun
  | .float m, b => match b with
    | .float n => if h : m = n then isTrue (h ▸ rfl) else isFalse fun e => h (float.inj e)
    | .unit | .bool | .string | .integer _ | .vec _ | .hashMap .. | .option _ | .box _
    | .named .. | .generic .. => isFalse nofun
  | .vec s, b => match b with
    | .vec t => match decEq s t with
      | isTrue h => isTrue (h ▸ rfl)
      | isFalse h => isFalse fun e => h (vec.inj e)
    | .unit | .bool | .string | .integer _ | .float _ | .hashMap .. | .option _ | .box _
    | .named .. | .generic .. => isFalse nofun
  | .hashMap k s, b => match b with
    | .hashMap l t => match decEq k l, decEq s t with
      | isTrue h, isTrue g => isTrue (h ▸ g ▸ rfl)
      | isFalse h, _ => isFalse fun e => h (hashMap.inj e).1
      | _, isFalse g => isFalse fun e => g (hashMap.inj e).2
    | .unit | .bool | .string | .integer _ | .float _ | .vec _ | .option _ | .box _
    | .named .. | .generic .. => isFalse nofun
  | .option s, b => match b with
    | .option t => match decEq s t with
      | isTrue h => isTrue (h ▸ rfl)
      | isFalse h => isFalse fun e => h (option.inj e)
    | .unit | .bool | .string | .integer _ | .float _ | .vec _ | .hashMap .. | .box _
    | .named .. | .generic .. => isFalse nofun
  | .box s, b => match b with
    | .box t => match decEq s t with
      | isTrue h => isTrue (h ▸ rfl)
      | isFalse h => isFalse fun e => h (box.inj e)
    | .unit | .bool | .string | .integer _ | .float _ | .vec _ | .hashMap .. | .option _
    | .named .. | .generic .. => isFalse nofun
  | .named m p, b => match b with
    | .named n q =>
      if h : m = n ∧ p = q then isTrue (h.1 ▸ h.2 ▸ rfl) else isFalse fun e => h (named.inj e)
    | .unit | .bool | .string | .integer _ | .float _ | .vec _ | .hashMap .. | .option _ | .box _
    | .generic .. => isFalse nofun
  | .generic m p ss, b => match b with
    | .generic n q ts =>
      if h : m = n ∧ p = q then
        match decEqAll ss ts with
        | isTrue g => isTrue (h.1 ▸ h.2 ▸ g ▸ rfl)
        | isFalse g => isFalse fun e => g (generic.inj e).2.2
      else isFalse fun e => h ⟨(generic.inj e).1, (generic.inj e).2.1⟩
    | .unit | .bool | .string | .integer _ | .float _ | .vec _ | .hashMap .. | .option _ | .box _
    | .named .. => isFalse nofun

/-- Whether two lists of types are equal. -/
def decEqAll : (ss ts : List RustType) → Decidable (ss = ts)
  | [], [] => isTrue rfl
  | [], _ :: _ | _ :: _, [] => isFalse nofun
  | s :: ss, t :: ts => match decEq s t, decEqAll ss ts with
    | isTrue h, isTrue g => isTrue (h ▸ g ▸ rfl)
    | isFalse h, _ => isFalse fun e => h (List.cons.inj e).1
    | _, isFalse g => isFalse fun e => g (List.cons.inj e).2

end

instance : DecidableEq RustType := decEq

/-! ### Parts -/

/-- The type without one outer `Option`. -/
def stripOption : RustType → RustType
  | .option content => content
  | other => other

/-! ### Source text -/

/-- A name, in full with its namespace before it. -/
def qualify (full : Bool) (name : String) (ns : Option String) : List Char :=
  match full, ns with
  | true, some ns => ns.toList ++ ':' :: ':' :: name.toList
  | _, _ => name.toList

/-- What stands before the name of the hash map. -/
def hashMapPath (full : Bool) : List Char :=
  if full then "std::collections::".toList else []

mutual

/-- A type as source text. -/
def chars (full : Bool) : RustType → List Char
  | .unit => ['(', ')']
  | .bool => "bool".toList
  | .string => "String".toList
  | .integer bits => 'i' :: Nat.toDigits 10 bits
  | .float bits => 'f' :: Nat.toDigits 10 bits
  | .vec item => "Vec<".toList ++ chars full item ++ ['>']
  | .hashMap key value =>
    hashMapPath full ++ "HashMap<".toList ++ chars full key ++ ", ".toList ++ chars full value ++
      ['>']
  | .option content => "Option<".toList ++ chars full content ++ ['>']
  | .box content => "Box<".toList ++ chars full content ++ ['>']
  | .named name ns => qualify full name ns
  | .generic name ns args => qualify full name ns ++ '<' :: argsChars full args ++ ['>']

/-- Arguments as source text, separated by commas. -/
def argsChars (full : Bool) : List RustType → List Char
  | [] => []
  | arg :: rest => chars full arg ++ moreArgsChars full rest

/-- The arguments after the first, each behind a comma. -/
def moreArgsChars (full : Bool) : List RustType → List Char
  | [] => []
  | arg :: rest => ',' :: ' ' :: chars full arg ++ moreArgsChars full rest

end

theorem chars_generic (full : Bool) (name : String) (ns : Option String) (args : List RustType) :
    (generic name ns args).chars full =
      qualify full name ns ++ '<' :: argsChars full args ++ ['>'] := rfl

/-- A type as source text: in full with namespaces, in short without. -/
def render (full : Bool) (t : RustType) : String := String.ofList (t.chars full)

/-! ### JSON -/

mutual

/-- A type as JSON: its kind, then its parts. -/
def toJson : RustType → Json
  | .unit => .object [("kind", .string "unit")]
  | .bool => .object [("kind", .string "bool")]
  | .string => .object [("kind", .string "string")]
  | .integer bits => .object [("kind", .string "integer"), ("bits", .integer bits)]
  | .float bits => .object [("kind", .string "float"), ("bits", .integer bits)]
  | .vec item => .object [("kind", .string "vec"), ("member", toJson item)]
  | .hashMap key value =>
    .object [("kind", .string "hashMap"), ("key", toJson key), ("value", toJson value)]
  | .option content => .object [("kind", .string "option"), ("member", toJson content)]
  | .box content => .object [("kind", .string "box"), ("member", toJson content)]
  | .named name ns =>
    .object [("kind", .string "opaque"), ("name", .string name), ("namespace", Json.stringOrNull ns)]
  | .generic name ns args =>
    .object [("kind", .string "generic"), ("name", .string name),
      ("namespace", Json.stringOrNull ns), ("args", .array (listToJson args))]

/-- Types as JSON. -/
def listToJson : List RustType → List Json
  | [] => []
  | t :: rest => toJson t :: listToJson rest

end

end RustType

end ServiceShapes
