import Tether.Json.Value

/-!
# Schemas

A `Schema` describes the form of a JSON value: what kind of value it is and, for
a record, the names, forms and order of its fields.

* `Schema.Denote`: the type of the values that are read by a schema;
* `Schema.ofJson`: reads a document by a schema. Fields come in the order of the
  document, so in a value by key, and the first mismatch in that order counts;
* `Schema.toJson`: writes fields in the order of the schema, and leaves absent
  ones out.

A record may also be given as an array of its fields, in the order of the schema,
unless it is open: an open record keeps the fields that it does not know.
-/

namespace Tether

/-- The widths of natural numbers. -/
inductive Width
  | bits32
  | bits64
  | size
  deriving DecidableEq, Repr

namespace Width

/-- The name of a width in messages. -/
def name : Width → String
  | bits32 => "u32"
  | bits64 => "u64"
  | size => "usize"

/-- The machine words of a width. -/
@[reducible]
def Word : Width → Type
  | bits32 => UInt32
  | bits64 => UInt64
  | size => UInt64

/-- The word with the value of a whole number, if there is one. -/
def ofInteger? : (w : Width) → Integer → Option w.Word
  | bits32, n => n.toUInt32?
  | bits64, n => n.toUInt64?
  | size, n => n.toUInt64?

/-- The whole number of a word. -/
def toInteger : (w : Width) → w.Word → Integer
  | bits32, n => .ofUInt32 n
  | bits64, n => .ofUInt64 n
  | size, n => .ofUInt64 n

/-- The word zero. -/
def zero : (w : Width) → w.Word
  | bits32 => (0 : UInt32)
  | bits64 => (0 : UInt64)
  | size => (0 : UInt64)

end Width

mutual

/-- The form of a JSON value. -/
inductive Schema
  /-- A text. -/
  | text
  /-- A truth value. -/
  | flag
  /-- A natural number. -/
  | natural (w : Width)
  /-- Any value. -/
  | any
  /-- A text, or a whole number that counts as its decimal text. -/
  | label
  /-- A value that may be null. -/
  | optional (s : Schema)
  /-- An array of values of one form. -/
  | list (s : Schema)
  /-- A record. -/
  | record (name : String) (fields : Fields)
  /-- A record that keeps the fields it does not know. -/
  | openRecord (name : String) (fields : Fields)

/-- The fields of a record, in order. -/
inductive Fields
  | nil
  /-- A field. If it may be missing, its value is then the blank one. -/
  | cons (name : String) (isRequired : Bool) (s : Schema) (rest : Fields)

end

namespace Fields

/-- A field that must be there. -/
@[reducible]
def required (name : String) (s : Schema) (rest : Fields) : Fields := cons name true s rest

/-- A field that may be missing. -/
@[reducible]
def defaulted (name : String) (s : Schema) (rest : Fields) : Fields := cons name false s rest

/-- A field that may be missing or null. -/
@[reducible]
def optional (name : String) (s : Schema) (rest : Fields) : Fields :=
  cons name false (.optional s) rest

/-- The names of the fields. -/
def names : Fields → List String
  | nil => []
  | cons name _ _ rest => name :: rest.names

end Fields

/-! ## Values -/

mutual

/-- The values of a form. -/
@[reducible]
def Schema.Denote : Schema → Type
  | .text => String
  | .flag => Bool
  | .natural w => w.Word
  | .any => Value
  | .label => String
  | .optional s => Option s.Denote
  | .list s => List s.Denote
  | .record _ fs => fs.Denote
  | .openRecord _ fs => fs.Denote × Object

/-- The values of all fields. -/
@[reducible]
def Fields.Denote : Fields → Type
  | .nil => Unit
  | .cons _ _ s fs => s.Denote × fs.Denote

end

/-- The fields of a record as far as they have been read. -/
@[reducible]
def Fields.Slots : Fields → Type
  | .nil => Unit
  | .cons _ _ s fs => Option s.Denote × fs.Slots

/-- No field has been read. -/
def Fields.unread : (fs : Fields) → fs.Slots
  | .nil => ()
  | .cons _ _ _ fs => (none, fs.unread)

mutual

/-- The value of a missing field. -/
def Schema.blank : (s : Schema) → s.Denote
  | .text => ""
  | .flag => false
  | .natural w => w.zero
  | .any => .null
  | .label => ""
  | .optional _ => none
  | .list _ => []
  | .record _ fs => fs.blank
  | .openRecord _ fs => (fs.blank, .empty)

/-- The values of a record none of whose fields is there. -/
def Fields.blank : (fs : Fields) → fs.Denote
  | .nil => ()
  | .cons _ _ s fs => (s.blank, fs.blank)

end

/-- What messages say is expected for a schema. -/
def Schema.expected : Schema → String
  | .text => "a string"
  | .flag => "a boolean"
  | .natural w => w.name
  | .any => "any value"
  | .label => "a string or integer request id"
  | .optional s => s.expected
  | .list _ => "a sequence"
  | .record name _ => s!"struct {name}"
  | .openRecord name _ => s!"struct {name}"

/-- The number of the fields. -/
def Fields.size (fs : Fields) : Nat := fs.names.length

/-- The record, once no more fields follow: the first missing field that is
    required counts. -/
def Fields.close : (fs : Fields) → fs.Slots → Except Mismatch fs.Denote
  | .nil, _ => .ok ()
  | .cons name isRequired s fs, (slot, slots) =>
    match slot with
    | some a =>
      match fs.close slots with
      | .ok as => .ok (a, as)
      | .error e => .error e
    | none =>
      if isRequired then .error (.missing name)
      else
        match fs.close slots with
        | .ok as => .ok (s.blank, as)
        | .error e => .error e

/-- The fields from one on, once an array holds no more items: `index` is the
    place of that field in the record. -/
def Fields.cut (record : String) (size : Nat) :
    (fs : Fields) → (index : Nat) → Except Mismatch fs.Denote
  | .nil, _ => .ok ()
  | .cons _ isRequired s fs, index =>
    if isRequired then .error (.tooShort index record size)
    else
      match fs.cut record size (index + 1) with
      | .ok as => .ok (s.blank, as)
      | .error e => .error e

/-! ## Reading documents -/

mutual

/-- Reads a document. -/
def Schema.ofJson : (s : Schema) → Json → Except Mismatch s.Denote
  | .text, j =>
    match j with
    | .text t => .ok t
    | j => .error (.kind (.ofJson j) "a string")
  | .flag, j =>
    match j with
    | .bool b => .ok b
    | j => .error (.kind (.ofJson j) "a boolean")
  | .natural w, j =>
    match j with
    | .number (.integer n) =>
      match w.ofInteger? n with
      | some a => .ok a
      | none => .error (.range n w.name)
    | j => .error (.kind (.ofJson j) w.name)
  | .any, j => .ok (.ofJson j)
  | .label, j =>
    match j with
    | .text t => .ok t
    | .number (.integer n) => .ok n.text
    | j => .error (.kind (.ofJson j) Schema.label.expected)
  | .optional s, j =>
    match j with
    | .null => .ok none
    | j => (s.ofJson j).map some
  | .list s, j =>
    match j with
    | .array js => js.mapM s.ofJson
    | j => .error (.kind (.ofJson j) "a sequence")
  | .record name fs, j =>
    match j with
    | .array js => fs.ofItems name js.length fs.size 0 js
    | .object ms =>
      match ms.foldlM (fun slots m => (fs.enter m.1 m.2 slots).getD (.ok slots)) fs.unread with
      | .ok slots => fs.close slots
      | .error e => .error e
    | j => .error (.kind (.ofJson j) s!"struct {name}")
  | .openRecord name fs, j =>
    match j with
    | .object ms =>
      match ms.foldlM (fun slots m => (fs.enter m.1 m.2 slots).getD (.ok slots)) fs.unread with
      | .ok slots =>
        (fs.close slots).map fun as =>
          (as, .ofMembers (ms.filter fun m => m.1 ∉ fs.names))
      | .error e => .error e
    | j => .error (.kind (.ofJson j) s!"struct {name}")

/-- Reads the field with the key `key`, if there is one of that name. -/
def Fields.enter : (fs : Fields) → String → Json → fs.Slots → Option (Except Mismatch fs.Slots)
  | .nil, _, _, _ => none
  | .cons name _ s fs, key, j, (slot, slots) =>
    if key = name then
      match slot with
      | some _ => some (.error (.repeated name))
      | none => some ((s.ofJson j).map fun a => (some a, slots))
    else (fs.enter key j slots).map fun r => r.map fun slots => (slot, slots)

/-- Reads fields from the items of an array: `index` is the place of the first
    one in the record. -/
def Fields.ofItems (record : String) (count size : Nat) :
    (fs : Fields) → (index : Nat) → List Json → Except Mismatch fs.Denote
  | .nil, _, js =>
    match js with
    | [] => .ok ()
    | _ :: _ => .error (.tooLong count)
  | .cons name isRequired s fs, index, js =>
    match js with
    | [] => Fields.cut record size (.cons name isRequired s fs) index
    | j :: js =>
      match s.ofJson j with
      | .error e => .error e
      | .ok a =>
        match fs.ofItems record count size (index + 1) js with
        | .error e => .error e
        | .ok as => .ok (a, as)

end

/-! ## Writing documents -/

/-- Whether a field with this value is written: an absent one is not. -/
def Schema.isPresent : (s : Schema) → s.Denote → Bool
  | .optional _, a => a.isSome
  | _, _ => true

mutual

/-- Writes a value. -/
def Schema.toJson : (s : Schema) → s.Denote → Json
  | .text, a => .text a
  | .flag, a => .bool a
  | .natural w, a => .number (.integer (w.toInteger a))
  | .any, a => a.json
  | .label, a => .text a
  | .optional s, a =>
    match a with
    | some a => s.toJson a
    | none => .null
  | .list s, a => .array (a.map s.toJson)
  | .record _ fs, a => .object (fs.toMembers a)
  | .openRecord _ fs, a => .object (fs.toMembers a.1 ++ a.2.members)

/-- Writes fields. -/
def Fields.toMembers : (fs : Fields) → fs.Denote → List (String × Json)
  | .nil, _ => []
  | .cons name _ s fs, a =>
    if s.isPresent a.1 then (name, s.toJson a.1) :: fs.toMembers a.2 else fs.toMembers a.2

end

end Tether
