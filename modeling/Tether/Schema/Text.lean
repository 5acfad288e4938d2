import Tether.Schema.Basic

/-!
# Reading texts by a schema

A text is read by a schema in one pass, so the first fault in the order of the
text counts, be it a fault of the text or of its form. A field may not be
repeated here, and the value of a field that a record does not know is passed
over.

* `Schema.reader`: reads a value by a schema;
* `Schema.read`: reads a whole text.
-/

namespace Tether

namespace Reader

variable {α : Type}

/-- The fault of a value that is not of the expected kind. A word, a number or a
    text is read first, and a fault in it counts. -/
def unexpected (expected : String) : List Char → Fault
  | [] => .before .endInValue []
  | 'n' :: cs => after (word .null ['u', 'l', 'l'] cs)
  | 't' :: cs => after (word (.bool true) ['r', 'u', 'e'] cs)
  | 'f' :: cs => after (word (.bool false) ['a', 'l', 's', 'e'] cs)
  | '"' :: cs => after (map .text quoted cs)
  | '[' :: _ => .mismatch (.kind .sequence expected)
  | '\x7b' :: _ => .mismatch (.kind .map expected)
  | c :: cs =>
    if c = '-' || c.isDigit then after (map .number number (c :: cs))
    else .on .valueExpected (c :: cs)
where
  /-- The fault that the read value is not the expected one. -/
  after : Except Fault (Found × List Char) → Fault
    | .ok (found, _) => .mismatch (.kind found expected)
    | .error e => e

/-- Reads the word null as none, and all else as `r` does. -/
def nullable (r : Reader α) : Reader (Option α) := fun cs =>
  match skipGap cs with
  | 'n' :: cs => word none ['u', 'l', 'l'] cs
  | cs => map some r cs

/-- Reads a natural number. -/
def natural (w : Width) : Reader w.Word := fun cs =>
  match skipGap cs with
  | [] => .error (.before .endInValue [])
  | c :: cs =>
    if c = '-' || c.isDigit then
      match number (c :: cs) with
      | .error e => .error e
      | .ok (.integer n, cs) =>
        match w.ofInteger? n with
        | some a => .ok (a, cs)
        | none => .error (.mismatch (.range n w.name))
      | .ok (.real x, _) => .error (.mismatch (.kind (.number (.real x)) w.name))
    else .error (unexpected w.name (c :: cs))

/-- Reads a text, or a whole number as its decimal text. -/
def label (expected : String) : Reader String := fun cs =>
  match skipGap cs with
  | [] => .error (.before .endInValue [])
  | c :: cs =>
    if c = '"' then quoted cs
    else if c = '-' || c.isDigit then
      match number (c :: cs) with
      | .error e => .error e
      | .ok (.integer n, cs) => .ok (n.text, cs)
      | .ok (.real x, _) => .error (.mismatch (.kind (.number (.real x)) expected))
    else .error (unexpected expected (c :: cs))

/-- Passes over the value of a field, after its key. -/
def ignored (bound : Nat) (a : α) : Reader α := fun cs =>
  match afterColon cs with
  | .error e => .error e
  | .ok cs => map (fun _ => a) (skip bound bound) cs

end Reader

open Reader in
mutual

/-- Reads a value with at most `depth` arrays and objects inside each other. -/
def Schema.reader (bound : Nat) : (s : Schema) → (depth : Nat) → Reader s.Denote
  | .text, _, cs =>
    match skipGap cs with
    | '"' :: cs => quoted cs
    | cs => .error (unexpected "a string" cs)
  | .flag, _, cs =>
    match skipGap cs with
    | 't' :: cs => word true ['r', 'u', 'e'] cs
    | 'f' :: cs => word false ['a', 'l', 's', 'e'] cs
    | cs => .error (unexpected "a boolean" cs)
  | .natural w, _, cs => natural w cs
  | .any, depth, cs => map .ofJson (document bound depth) cs
  | .label, _, cs => label Schema.label.expected cs
  | .optional s, depth, cs => nullable (s.reader bound depth) cs
  | .list s, depth, cs =>
    match skipGap cs with
    | '[' :: cs =>
      match depth with
      | 0 => .error (.on .tooDeep ('[' :: cs))
      | depth + 1 => items false (s.reader bound depth) bound true cs
    | cs => .error (unexpected "a sequence" cs)
  | .record name fs, depth, cs =>
    match skipGap cs with
    | '[' :: cs =>
      match depth with
      | 0 => .error (.on .tooDeep ('[' :: cs))
      | depth + 1 => fs.itemReader bound name fs.size depth 0 cs
    | '\x7b' :: cs =>
      match depth with
      | 0 => .error (.on .tooDeep ('\x7b' :: cs))
      | depth + 1 =>
        match
          fields false
            (fun slots cs =>
              match quoted cs with
              | .error e => .error e
              | .ok (key, cs) =>
                match fs.fieldReader bound depth key slots with
                | some r => r cs
                -- What has no meaning here is passed over, however deep it is.
                | none => ignored bound slots cs)
            bound true fs.unread cs with
        | .error e => .error e
        | .ok (slots, cs) =>
          match fs.close slots with
          | .ok as => .ok (as, cs)
          | .error m => .error (.mismatch m)
    | cs => .error (unexpected s!"struct {name}" cs)
  | .openRecord name fs, depth, cs =>
    match skipGap cs with
    | '\x7b' :: cs =>
      match depth with
      | 0 => .error (.on .tooDeep ('\x7b' :: cs))
      | depth + 1 =>
        match
          fields false
            (fun (s : fs.Slots × List (String × Json)) cs =>
              match quoted cs with
              | .error e => .error e
              | .ok (key, cs) =>
                match fs.fieldReader bound depth key s.1 with
                | some r => map (·, s.2) r cs
                -- Here it is kept as a document, to which the limit applies.
                | none => map (s.1, ·) (member (document bound depth) key s.2) cs)
            bound true (fs.unread, []) cs with
        | .error e => .error e
        | .ok ((slots, others), cs) =>
          match fs.close slots with
          | .ok as => .ok ((as, .ofMembers others.reverse), cs)
          | .error m => .error (.mismatch m)
    | cs => .error (unexpected s!"struct {name}" cs)

/-- Reads the field with the key `key`, after the key, if there is one of that name. -/
def Fields.fieldReader (bound : Nat) :
    (fs : Fields) → (depth : Nat) → String → fs.Slots → Option (Reader fs.Slots)
  | .nil, _, _, _ => none
  | .cons name _ s fs, depth, key, (slot, slots) =>
    if key = name then
      match slot with
      | some _ => some fun _ => .error (.mismatch (.repeated name))
      | none => some fun cs =>
        match afterColon cs with
        | .error e => .error e
        | .ok cs => map (fun a => (some a, slots)) (s.reader bound depth) cs
    else (fs.fieldReader bound depth key slots).map fun r => map (slot, ·) r

/-- Reads fields from the items of an array: `index` is the place of the first
    one in the record. -/
def Fields.itemReader (bound : Nat) (record : String) (size : Nat) :
    (fs : Fields) → (depth : Nat) → (index : Nat) → Reader fs.Denote
  | .nil, _, _, cs => (afterArray cs).map ((), ·)
  | .cons name isRequired s fs, depth, index, cs =>
    match nextItem false (index == 0) cs with
    | .error e => .error e
    | .ok (.close cs) =>
      -- No items are left for this field and those after it.
      match Fields.cut record size (.cons name isRequired s fs) index with
      | .ok as => .ok (as, cs)
      | .error m => .error (.mismatch m)
    | .ok (.item cs) =>
      match s.reader bound depth cs with
      | .error e => .error e
      | .ok (a, cs) =>
        match fs.itemReader bound record size depth (index + 1) cs with
        | .error e => .error e
        | .ok (as, cs) => .ok ((a, as), cs)

end

/-- Reads a whole text by a schema. -/
def Schema.read (s : Schema) (text : String) : Except Fault s.Denote :=
  Reader.all (fun bound => s.reader bound maxDepth) text

end Tether
