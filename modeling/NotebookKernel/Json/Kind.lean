import NotebookKernel.Json.Reader
import NotebookKernel.Json.Printer

/-!
# Descriptions of typed JSON

A `Kind` describes what a document holds; `Kind.Carrier` is the type of what is read.
One description gives three functions: reading a text, converting a value that
is already in memory, and writing. Records accept unknown fields, and arrays
that list their fields in order.

Reading a text reports where it fails; converting a value visits the fields in
the order of the object and reports no place.
-/

namespace NotebookKernel.Json

mutual

/-- What a document or one of its fields holds. -/
inductive Kind where
  | text (fallback : String)
  | flag
  | natural (name : String) (limit : Nat)
  | integer
  | any
  | dict
  | choice (variants : List String)
  | optional (k : Kind)
  | list (k : Kind)
  | record (name : String) (fields : Fields)

/-- The fields of a record in the order in which they are written. -/
inductive Fields where
  | nil
  | cons (name : String) (required : Bool) (k : Kind) (rest : Fields)

end

mutual

/-- What is read for a kind. -/
@[reducible] def Kind.Carrier : Kind → Type
  | .text _ => String
  | .flag => Bool
  | .natural _ _ => Nat
  | .integer => Int
  | .any => Value
  | .dict => Dict
  | .choice _ => String
  | .optional k => Option k.Carrier
  | .list k => List k.Carrier
  | .record _ fields => fields.Carrier

/-- What is read for all fields of a record. -/
@[reducible] def Fields.Carrier : Fields → Type
  | .nil => Unit
  | .cons _ _ k rest => k.Carrier × rest.Carrier

end

/-- The fields read so far. -/
@[reducible] def Fields.Slots : Fields → Type
  | .nil => Unit
  | .cons _ _ k rest => Option k.Carrier × rest.Slots

def Fields.noSlots : (fields : Fields) → fields.Slots
  | .nil => ()
  | .cons _ _ _ rest => (none, rest.noSlots)

def Fields.count : Fields → Nat
  | .nil => 0
  | .cons _ _ _ rest => rest.count + 1

mutual

/-- The value of a field that is absent. -/
def Kind.fallback : (k : Kind) → k.Carrier
  | .text s => s
  | .flag => false
  | .natural _ _ => (0 : Nat)
  | .integer => (0 : Int)
  | .any => Value.null
  | .dict => ([] : Dict)
  | .choice variants => variants.headD ""
  | .optional _ => none
  | .list _ => []
  | .record _ fields => fields.fallback

def Fields.fallback : (fields : Fields) → fields.Carrier
  | .nil => ()
  | .cons _ _ k rest => (k.fallback, rest.fallback)

end

/-- The words for what was wanted. -/
def Kind.wanted : Kind → String
  | .text _ => "a string"
  | .flag => "a boolean"
  | .natural name _ => name
  | .integer => "i64"
  | .any => "any valid JSON value"
  | .dict => "a map"
  | .choice _ => "string or map"
  | .optional k => k.wanted
  | .list _ => "a sequence"
  | .record name _ => name

/-- The words for an array that is too short. -/
def elementsWanted (name : String) (n : Nat) : String :=
  if n = 1 then name ++ " with 1 element" else s!"{name} with {n} elements"

/-- Every field that was read, the others by default. The error is the first required one that
is missing. -/
def Fields.complete : (fields : Fields) → fields.Slots → Except Mismatch fields.Carrier
  | .nil, () => .ok ()
  | .cons name required k rest, (slot, slots) =>
      match slot with
      | some v =>
          match rest.complete slots with
          | .ok vs => .ok (v, vs)
          | .error m => .error m
      | none =>
          if required then .error (.missing name)
          else
            match rest.complete slots with
            | .ok vs => .ok (k.fallback, vs)
            | .error m => .error m

/-! ## Converting numbers -/

/-- A natural number within a limit. -/
def naturalOf (name : String) (limit : Nat) : Number → Except Mismatch Nat
  | .whole w =>
      if 0 ≤ w.val ∧ w.val.toNat ≤ limit then .ok w.val.toNat
      else .error (.value (.number (.whole w)) name)
  | .real x => .error (.type (.number (.real x)) name)

/-- A signed number of 64 bits. -/
def integerOf : Number → Except Mismatch Int
  | .whole w =>
      if w.val < 0x8000000000000000 then .ok w.val else .error (.value (.number (.whole w)) "i64")
  | .real x => .error (.type (.number (.real x)) "i64")

/-! ## Reading a text -/

/-- Report that the value at the cursor is of another kind. A scalar is read first; a bracket is
not, so that the place is before it. -/
def readOther {α : Type} (wanted : String) (c : Cursor) : Except Fault α :=
  match c.peek with
  | none => c.fail .valueExpected
  | some b =>
      match readScalar b c with
      | some (.ok (v, after)) => .error (.mismatch (.type v.found wanted) (some after.place))
      | some (.error f) => .error f
      | none =>
          if b = 0x5B then .error (.mismatch (.type .sequence wanted) (some c.place))
          else if b = 0x7B then .error (.mismatch (.type .map wanted) (some c.place))
          else c.failNext .valueExpected

/-- A number, converted; the place of a mismatch is after it. -/
def readConverted {α : Type} (convert : Number → Except Mismatch α) (wanted : String)
    (b : UInt8) (c : Cursor) : Except Fault (α × Cursor) :=
  let number := if b = 0x2D then some (readNumber true c.next)
    else if isDigit b then some (readNumber false c)
    else none
  match number with
  | none => readOther wanted c
  | some (.error f) => .error f
  | some (.ok (n, after)) =>
      match convert n with
      | .ok a => .ok (a, after)
      | .error m => .error (.mismatch m (some after.place))

/-- One bracket more may be opened only if there is room. -/
def withRoom {α : Type} (room : Nat) (c : Cursor) (read : Nat → Except Fault α) : Except Fault α :=
  match room with
  | 0 => c.failNext .tooDeep
  | room + 1 => read room

mutual

/-- Read a text as a kind. -/
def Kind.read : (k : Kind) → Nat → Cursor → Except Fault (k.Carrier × Cursor)
  | .any, room, c => readValue room c
  | .optional k, room, c =>
      let c := c.skipBlanks
      match c.peek with
      | some 0x6E =>
          match readIdent [0x75, 0x6C, 0x6C] c.next with
          | .ok c => .ok (none, c)
          | .error f => .error f
      | _ =>
          match k.read room c with
          | .ok (v, c) => .ok (some v, c)
          | .error f => .error f
  | .text s, _, c =>
      let c := c.skipBlanks
      match c.peek with
      | none => c.fail .endInValue
      | some b => if b = 0x22 then readString c.next else readOther (Kind.text s).wanted c
  | .flag, _, c =>
      let c := c.skipBlanks
      match c.peek with
      | none => c.fail .endInValue
      | some b =>
          if b = 0x74 then
            match readIdent [0x72, 0x75, 0x65] c.next with
            | .ok c => .ok (true, c)
            | .error f => .error f
          else if b = 0x66 then
            match readIdent [0x61, 0x6C, 0x73, 0x65] c.next with
            | .ok c => .ok (false, c)
            | .error f => .error f
          else readOther Kind.flag.wanted c
  | .natural name limit, _, c =>
      let c := c.skipBlanks
      match c.peek with
      | none => c.fail .endInValue
      | some b => readConverted (naturalOf name limit) name b c
  | .integer, _, c =>
      let c := c.skipBlanks
      match c.peek with
      | none => c.fail .endInValue
      | some b => readConverted integerOf Kind.integer.wanted b c
  | .dict, room, c =>
      let c := c.skipBlanks
      match c.peek with
      | none => c.fail .endInValue
      | some b =>
          if b = 0x7B then withRoom room c fun room => readObject (readEntry (readValue room)) [] c
          else readOther Kind.dict.wanted c
  | .choice variants, _, c =>
      let c := c.skipBlanks
      match c.peek with
      | none => c.fail .endInValue
      | some b =>
          if b = 0x22 then
            match readString c.next with
            | .error f => .error f
            | .ok (s, after) =>
                if variants.contains s then .ok (s, after)
                else .error (.mismatch (.variant s variants) (some after.place))
          else readOther (Kind.choice variants).wanted c
  | .list k, room, c =>
      let c := c.skipBlanks
      match c.peek with
      | none => c.fail .endInValue
      | some b =>
          if b = 0x5B then withRoom room c fun room => readList (fun c => k.read room c) c
          else readOther (Kind.list k).wanted c
  | .record name fields, room, c =>
      let c := c.skipBlanks
      match c.peek with
      | none => c.fail .endInValue
      | some b =>
          if b = 0x7B then withRoom room c fun room =>
            match readFields (fun key slots c => fields.readSlot key slots room c)
                (c.rest.length + 1) true fields.noSlots c.next with
            | .error f => .error f
            | .ok (slots, c) =>
                match fields.complete slots with
                | .error m => .error (.mismatch m (some (settleObject c).place))
                | .ok vs =>
                    match closeObject c with
                    | .ok c => .ok (vs, c)
                    | .error f => .error f
          else if b = 0x5B then withRoom room c fun room =>
            match fields.readElements name fields.count 0 true room c.next with
            | .error f => .error f
            | .ok (vs, c) =>
                match closeList c with
                | .ok c => .ok (vs, c)
                | .error f => .error f
          else readOther name c

/-- Read one field of an object into its slot, or skip it. -/
def Fields.readSlot : (fields : Fields) → String → fields.Slots → Nat → Cursor →
    Except Fault (fields.Slots × Cursor)
  | .nil, _, (), _, c =>
      match readColon c with
      | .error f => .error f
      | .ok c =>
          match skipValue c with
          | .ok c => .ok ((), c)
          | .error f => .error f
  | .cons name _ k rest, key, (slot, slots), room, c =>
      if key = name then
        match slot with
        | some _ => .error (.mismatch (.duplicate name) (some (settleObject c).place))
        | none =>
            match readColon c with
            | .error f => .error f
            | .ok c =>
                match k.read room c with
                | .ok (v, c) => .ok ((some v, slots), c)
                | .error f => .error f
      else
        match rest.readSlot key slots room c with
        | .ok (slots, c) => .ok ((slot, slots), c)
        | .error f => .error f

/-- Read the fields from the items of an array; `total` is their number and `index` the next. -/
def Fields.readElements : (fields : Fields) → String → Nat → Nat → Bool → Nat → Cursor →
    Except Fault (fields.Carrier × Cursor)
  | .nil, _, _, _, _, _, c => .ok ((), c)
  | .cons _ required k rest, name, total, index, first, room, c =>
      match anotherItem first c with
      | .error f => .error f
      | .ok (true, c) =>
          match k.read room c with
          | .error f => .error f
          | .ok (v, c) =>
              match rest.readElements name total (index + 1) false room c with
              | .ok (vs, c) => .ok ((v, vs), c)
              | .error f => .error f
      | .ok (false, c) =>
          if required then
            .error (.mismatch (.length index (elementsWanted name total))
              (some (settleList c).place))
          else
            match rest.readElements name total (index + 1) first room c with
            | .ok (vs, c) => .ok ((k.fallback, vs), c)
            | .error f => .error f

end

/-- Read a whole text as a kind. -/
def Kind.parse (k : Kind) (bs : Bytes) : Except Fault k.Carrier :=
  finish (k.read standardRoom (.start bs))

/-! ## Converting a value -/

/-- Every item converted, in order. -/
def convertAll {α : Type} (convert : Value → Except Mismatch α) :
    List Value → Except Mismatch (List α)
  | [] => .ok []
  | v :: vs =>
      match convert v with
      | .error m => .error m
      | .ok a =>
          match convertAll convert vs with
          | .ok as => .ok (a :: as)
          | .error m => .error m

/-- Every entry put into its slot, in the order of the object. -/
def fillSlots {σ : Type} (fill : String → Value → σ → Except Mismatch σ) :
    Dict → σ → Except Mismatch σ
  | [], s => .ok s
  | (n, v) :: rest, s =>
      match fill n v s with
      | .ok s => fillSlots fill rest s
      | .error m => .error m

/-- One name out of a few, alone or as the only field of an object whose value is null. -/
def convertChoice (variants : List String) : Value → Except Mismatch String
  | .string s => if variants.contains s then .ok s else .error (.variant s variants)
  | .fields [(n, v)] =>
      if variants.contains n then
        match v with
        | .null => .ok n
        | v => .error (.type v.found "unit")
      else .error (.variant n variants)
  | .fields _ => .error (.value .map "map with a single key")
  | v => .error (.type v.found "string or map")

mutual

/-- Convert a value to a kind. -/
def Kind.convert : (k : Kind) → Value → Except Mismatch k.Carrier
  | .any, v => .ok v
  | .optional k, v =>
      match v with
      | .null => .ok none
      | v =>
          match k.convert v with
          | .ok a => .ok (some a)
          | .error m => .error m
  | .text _, v =>
      match v with
      | .string s => .ok s
      | v => .error (.type v.found "a string")
  | .flag, v =>
      match v with
      | .bool b => .ok b
      | v => .error (.type v.found "a boolean")
  | .natural name limit, v =>
      match v with
      | .number n => naturalOf name limit n
      | v => .error (.type v.found name)
  | .integer, v =>
      match v with
      | .number n => integerOf n
      | v => .error (.type v.found "i64")
  | .dict, v =>
      match v with
      | .fields d => .ok d
      | v => .error (.type v.found "a map")
  | .choice variants, v => convertChoice variants v
  | .list k, v =>
      match v with
      | .array items => convertAll (fun v => k.convert v) items
      | v => .error (.type v.found "a sequence")
  | .record name fields, v =>
      match v with
      | .fields d =>
          match fillSlots (fun key v slots => fields.fill key v slots) d fields.noSlots with
          | .error m => .error m
          | .ok slots => fields.complete slots
      | .array items =>
          match fields.convertElements name fields.count 0 items with
          | .error m => .error m
          | .ok (vs, []) => .ok vs
          | .ok (_, _ :: _) => .error (.length items.length "fewer elements in array")
      | v => .error (.type v.found name)

/-- Put one entry into its slot, or ignore it. -/
def Fields.fill : (fields : Fields) → String → Value → fields.Slots →
    Except Mismatch fields.Slots
  | .nil, _, _, () => .ok ()
  | .cons name _ k rest, key, v, (slot, slots) =>
      if key = name then
        match k.convert v with
        | .ok a => .ok (some a, slots)
        | .error m => .error m
      else
        match rest.fill key v slots with
        | .ok slots => .ok (slot, slots)
        | .error m => .error m

/-- Take the fields from the items of an array; the items left over are returned. -/
def Fields.convertElements : (fields : Fields) → String → Nat → Nat → List Value →
    Except Mismatch (fields.Carrier × List Value)
  | .nil, _, _, _, items => .ok ((), items)
  | .cons _ required k rest, name, total, index, items =>
      match items with
      | v :: items =>
          match k.convert v with
          | .error m => .error m
          | .ok a =>
              match rest.convertElements name total (index + 1) items with
              | .ok (vs, left) => .ok ((a, vs), left)
              | .error m => .error m
      | [] =>
          if required then .error (.length index (elementsWanted name total))
          else
            match rest.convertElements name total (index + 1) [] with
            | .ok (vs, left) => .ok ((k.fallback, vs), left)
            | .error m => .error m

end

/-! ## Writing -/

mutual

/-- The value that stands for a carrier. -/
def Kind.toValue : (k : Kind) → k.Carrier → Value
  | .text _, (s : String) => .string s
  | .flag, (b : Bool) => .bool b
  | .natural _ _, (n : Nat) => .nat n
  | .integer, (i : Int) => .int i
  | .any, (v : Value) => v
  | .dict, (d : Dict) => .fields d
  | .choice _, (s : String) => .string s
  | .optional k, o =>
      match o with
      | none => .null
      | some a => k.toValue a
  | .list k, items => .array (items.map fun a => k.toValue a)
  | .record _ fields, vs => .object (fields.toEntries vs)

def Fields.toEntries : (fields : Fields) → fields.Carrier → List (String × Value)
  | .nil, () => []
  | .cons name _ k rest, (v, vs) => (name, k.toValue v) :: rest.toEntries vs

end

/-- Texts between commas. -/
def separated : List (List Char) → List Char
  | [] => []
  | [t] => t
  | t :: ts => t ++ ',' :: separated ts

mutual

/-- The text of a carrier; a record keeps its own order of fields. -/
def Kind.render : (k : Kind) → k.Carrier → List Char
  | .text _, (s : String) => renderString s
  | .flag, (b : Bool) => Value.render (.bool b)
  | .natural _ _, (n : Nat) => renderInt n
  | .integer, (i : Int) => renderInt i
  | .any, (v : Value) => v.render
  | .dict, (d : Dict) => Value.render (.fields d)
  | .choice _, (s : String) => renderString s
  | .optional k, o =>
      match o with
      | none => Value.render .null
      | some a => k.render a
  | .list k, items => '[' :: (separated (items.map fun a => k.render a) ++ [']'])
  | .record _ fields, vs => '\x7b' :: (separated (fields.renderEntries vs) ++ ['\x7d'])

def Fields.renderEntries : (fields : Fields) → fields.Carrier → List (List Char)
  | .nil, () => []
  | .cons name _ k rest, (v, vs) =>
      (renderString name ++ ':' :: k.render v) :: rest.renderEntries vs

end

end NotebookKernel.Json
