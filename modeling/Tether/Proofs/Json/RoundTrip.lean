import Tether.Json.Value
import Tether.Proofs.Json.Literal

/-!
# Documents, read as they are written

A document without floats is read back from its text, if no more arrays and objects
are inside each other than a reader takes. The proof is by induction on the document,
together with the loops over arrays and objects; what follows a part of the text is
left as it is.

* `Json.isWhole`, `Json.depth`: no number is a float; how many arrays and objects are
  inside each other;
* `Reader.document_characters`: the induction;
* `Json.read_write`, `Value.read_write`: whole texts.
-/

namespace Tether

namespace Json

mutual

/-- Whether no number is a float. -/
def isWhole : Json → Bool
  | number (.real _) => false
  | array items => isWholeItems items
  | object members => isWholeMembers members
  | _ => true

/-- The same for all items. -/
def isWholeItems : List Json → Bool
  | [] => true
  | j :: js => isWhole j && isWholeItems js

/-- The same for the values of all members. -/
def isWholeMembers : List (String × Json) → Bool
  | [] => true
  | (_, j) :: ms => isWhole j && isWholeMembers ms

end

mutual

/-- How many arrays and objects are inside each other. -/
def depth : Json → Nat
  | array items => depthItems items + 1
  | object members => depthMembers members + 1
  | _ => 0

/-- The most of all items. -/
def depthItems : List Json → Nat
  | [] => 0
  | j :: js => max (depth j) (depthItems js)

/-- The most of the values of all members. -/
def depthMembers : List (String × Json) → Nat
  | [] => 0
  | (_, j) :: ms => max (depth j) (depthMembers ms)

end

theorem isGap_of_isDigit {c : Char} (hc : c = '-' ∨ c.isDigit = true) : isGap c = false := by
  simp only [isGap, Bool.or_eq_false_iff, decide_eq_false_iff_not]
  refine ⟨⟨⟨?_, ?_⟩, ?_⟩, ?_⟩ <;> rintro rfl <;> simp at hc

/-- A document starts with a character of its own. -/
theorem characters_eq_cons (j : Json) (hj : j.isWhole = true) :
    ∃ c cs, j.characters = c :: cs ∧ isGap c = false ∧ c ≠ ']' := by
  cases j with
  | null => exact ⟨'n', _, rfl, rfl, by decide⟩
  | bool b =>
    cases b with
    | true => exact ⟨'t', _, rfl, rfl, by decide⟩
    | false => exact ⟨'f', _, rfl, rfl, by decide⟩
  | number n =>
    cases n with
    | real x => simp [isWhole] at hj
    | integer n =>
      obtain ⟨c, cs, hcs, hc⟩ := Reader.numeral_eq_cons n
      refine ⟨c, cs, by rw [characters, hcs], isGap_of_isDigit hc, ?_⟩
      rintro rfl
      simp at hc
  | text s => exact ⟨'"', _, rfl, rfl, by decide⟩
  | array items => exact ⟨'[', _, by rw [characters], rfl, by decide⟩
  | object members => exact ⟨'\x7b', _, by rw [characters], rfl, by decide⟩

end Json

namespace Reader

open Json

theorem skipGap_cons {c : Char} (hc : isGap c = false) (cs : List Char) :
    skipGap (c :: cs) = c :: cs := by
  simp [skipGap, hc]

/-! ## Punctuation -/

theorem nextItem_characters {j : Json} (hj : j.isWhole = true) (cs : List Char) :
    nextItem false true (j.characters ++ cs) = .ok (.item (j.characters ++ cs)) := by
  obtain ⟨c, ds, hds, hgap, hclose⟩ := characters_eq_cons j hj
  rw [hds, List.cons_append, nextItem, skipGap_cons hgap]
  split <;> simp_all

theorem nextItem_comma_characters {j : Json} (hj : j.isWhole = true) (cs : List Char) :
    nextItem false false (',' :: (j.characters ++ cs)) = .ok (.item (j.characters ++ cs)) := by
  obtain ⟨c, ds, hds, hgap, hclose⟩ := characters_eq_cons j hj
  rw [hds, List.cons_append]
  simp [nextItem, skipGap_cons (c := ',') rfl, skipGap_cons hgap, hclose]

theorem nextMember_quote (cs : List Char) : nextMember false true ('"' :: cs) = .ok (.item cs) :=
  rfl

theorem nextMember_comma_quote (cs : List Char) :
    nextMember false false (',' :: '"' :: cs) = .ok (.item cs) := rfl

/-- A member is read back, if its value is. -/
theorem keyedMember_flatMap_escape {value : Reader Json} {key : String} {j : Json}
    {others : List (String × Json)} {cs rest : List Char} (hvalue : value cs = .ok (j, rest)) :
    keyedMember value others (key.toList.flatMap escape ++ '"' :: ':' :: cs) =
      .ok ((key, j) :: others, rest) := by
  have hcolon : afterColon (':' :: cs) = .ok cs := rfl
  rw [keyedMember, quoted_flatMap_escape]
  simp only [member, hcolon, hvalue]

/-! ## Documents -/

variable {bound : Nat}

theorem document_of_isDigit {c : Char} (hc : c = '-' ∨ c.isDigit = true) (depth : Nat)
    (cs : List Char) : document bound depth (c :: cs) = map .number number (c :: cs) := by
  rw [document, skipGap_cons (isGap_of_isDigit hc)]
  split
  case h_8 heq =>
    cases heq
    exact if_pos (by simpa using hc)
  all_goals simp_all

/-- What follows an item or a member does not go on with a number. -/
theorem stops_moreItemCharacters (js : List Json) (rest : List Char) :
    Stops (moreItemCharacters js ++ rest) := by
  cases js <;> simp only [moreItemCharacters, List.cons_append]
  · exact stops_cons _ rfl (by decide) (by decide) (by decide)
  · exact stops_cons _ rfl (by decide) (by decide) (by decide)

theorem stops_moreMemberCharacters (ms : List (String × Json)) (rest : List Char) :
    Stops (moreMemberCharacters ms ++ rest) := by
  cases ms <;> simp only [moreMemberCharacters, List.cons_append]
  · exact stops_cons _ rfl (by decide) (by decide) (by decide)
  · exact stops_cons _ rfl (by decide) (by decide) (by decide)

theorem length_lt_moreItemCharacters (js : List Json) :
    js.length < (moreItemCharacters js).length := by
  induction js with
  | nil => simp [moreItemCharacters]
  | cons j js ih => simp [moreItemCharacters]; omega

theorem length_lt_moreMemberCharacters (ms : List (String × Json)) :
    ms.length < (moreMemberCharacters ms).length := by
  induction ms with
  | nil => simp [moreMemberCharacters]
  | cons m ms ih => simp [moreMemberCharacters]; omega

theorem length_le_itemCharacters (js : List Json) : js.length ≤ (itemCharacters js).length := by
  cases js with
  | nil => simp
  | cons j js =>
    have := length_lt_moreItemCharacters js
    simp only [itemCharacters, List.length_cons, List.length_append]
    omega

theorem length_le_memberCharacters (ms : List (String × Json)) :
    ms.length ≤ (memberCharacters ms).length := by
  cases ms with
  | nil => simp
  | cons m ms =>
    have := length_lt_moreMemberCharacters ms
    simp only [memberCharacters, List.length_cons, List.length_append]
    omega

mutual

/-- A document is read back. -/
theorem document_characters : ∀ (j : Json) (depth : Nat) (rest : List Char),
    j.isWhole = true → j.depth ≤ depth → j.characters.length ≤ bound → Stops rest →
      document bound depth (j.characters ++ rest) = .ok (j, rest)
  | .null, depth, rest, _, _, _, _ => by
    rw [Json.characters, document]
    rfl
  | .bool true, depth, rest, _, _, _, _ => by
    rw [Json.characters, document]
    rfl
  | .bool false, depth, rest, _, _, _, _ => by
    rw [Json.characters, document]
    rfl
  | .number (.real x), depth, rest, hwhole, _, _, _ => by simp [isWhole] at hwhole
  | .number (.integer n), depth, rest, _, _, _, hrest => by
    obtain ⟨c, cs, hcs, hc⟩ := numeral_eq_cons n
    have hnumber := number_numeral n hrest
    rw [hcs, List.cons_append] at hnumber
    rw [Json.characters, hcs, List.cons_append, document_of_isDigit hc, map, hnumber]
  | .text s, depth, rest, _, _, _, _ => by
    have hquoted := quoted_flatMap_escape s rest
    rw [Json.characters, quote, List.cons_append, List.append_assoc, document]
    show map Json.text quoted (s.toList.flatMap escape ++ '"' :: rest) = _
    rw [map, hquoted]
  | .array js, 0, rest, _, hdepth, _, _ => by simp [Json.depth] at hdepth
  | .array js, depth + 1, rest, hwhole, hdepth, hbound, _ => by
    rw [isWhole] at hwhole
    rw [Json.depth] at hdepth
    rw [Json.characters, List.length_cons] at hbound
    rw [Json.characters, List.cons_append, document]
    show map Json.array (items false (document bound depth) bound true)
      (itemCharacters js ++ rest) = _
    -- Every item takes a character, so the loop does not run out of its bound.
    have hlength := length_le_itemCharacters js
    rw [map, items_itemCharacters js depth bound rest hwhole (Nat.le_of_succ_le_succ hdepth)
      (by omega) (by omega)]
  | .object ms, 0, rest, _, hdepth, _, _ => by simp [Json.depth] at hdepth
  | .object ms, depth + 1, rest, hwhole, hdepth, hbound, _ => by
    rw [isWhole] at hwhole
    rw [Json.depth] at hdepth
    rw [Json.characters, List.length_cons] at hbound
    rw [Json.characters, List.cons_append, document]
    show map (fun ms => Json.object ms.reverse)
      (fields false (keyedMember (document bound depth)) bound true [])
      (memberCharacters ms ++ rest) = _
    have hlength := length_le_memberCharacters ms
    rw [map, fields_memberCharacters ms depth bound rest hwhole (Nat.le_of_succ_le_succ hdepth)
      (by omega) (by omega)]
    simp only [List.reverse_reverse]

/-- The items of an array are read back. -/
theorem items_itemCharacters : ∀ (js : List Json) (depth n : Nat) (rest : List Char),
    isWholeItems js = true → depthItems js ≤ depth → (itemCharacters js).length ≤ bound →
      js.length < n →
      items false (document bound depth) n true (itemCharacters js ++ rest) = .ok (js, rest)
  | [], depth, n + 1, rest, _, _, _, _ => by
    rw [itemCharacters]
    rfl
  | j :: js, depth, n + 1, rest, hwhole, hdepth, hbound, hn => by
    rw [isWholeItems, Bool.and_eq_true] at hwhole
    rw [depthItems, Nat.max_le] at hdepth
    rw [itemCharacters, List.length_append] at hbound
    rw [itemCharacters, List.append_assoc, items, nextItem_characters hwhole.1]
    simp only [document_characters j depth _ hwhole.1 hdepth.1 (by omega)
      (stops_moreItemCharacters js rest)]
    rw [items_moreItemCharacters js depth n rest hwhole.2 hdepth.2 (by omega)
      (Nat.lt_of_succ_lt_succ hn)]

/-- The items of an array are read back, after the first one. -/
theorem items_moreItemCharacters : ∀ (js : List Json) (depth n : Nat) (rest : List Char),
    isWholeItems js = true → depthItems js ≤ depth → (moreItemCharacters js).length ≤ bound →
      js.length < n →
      items false (document bound depth) n false (moreItemCharacters js ++ rest) = .ok (js, rest)
  | [], depth, n + 1, rest, _, _, _, _ => by
    rw [moreItemCharacters]
    rfl
  | j :: js, depth, n + 1, rest, hwhole, hdepth, hbound, hn => by
    rw [isWholeItems, Bool.and_eq_true] at hwhole
    rw [depthItems, Nat.max_le] at hdepth
    rw [moreItemCharacters, List.length_cons, List.length_append] at hbound
    rw [moreItemCharacters, List.cons_append, List.append_assoc, items,
      nextItem_comma_characters hwhole.1]
    simp only [document_characters j depth _ hwhole.1 hdepth.1 (by omega)
      (stops_moreItemCharacters js rest)]
    rw [items_moreItemCharacters js depth n rest hwhole.2 hdepth.2 (by omega)
      (Nat.lt_of_succ_lt_succ hn)]

/-- The members of an object are read back. -/
theorem fields_memberCharacters : ∀ (ms : List (String × Json)) (depth n : Nat)
    (rest : List Char), isWholeMembers ms = true → depthMembers ms ≤ depth →
      (memberCharacters ms).length ≤ bound → ms.length < n →
      fields false (keyedMember (document bound depth)) n true []
        (memberCharacters ms ++ rest) = .ok (ms.reverse, rest)
  | [], depth, n + 1, rest, _, _, _, _ => by
    rw [memberCharacters]
    rfl
  | (k, j) :: ms, depth, n + 1, rest, hwhole, hdepth, hbound, hn => by
    rw [isWholeMembers, Bool.and_eq_true] at hwhole
    rw [depthMembers, Nat.max_le] at hdepth
    simp only [memberCharacters, List.length_append, List.length_cons] at hbound
    have hvalue := document_characters j depth _ hwhole.1 hdepth.1 (by omega)
      (stops_moreMemberCharacters ms rest)
    have htext : memberCharacters ((k, j) :: ms) ++ rest = '"' :: (k.toList.flatMap escape ++
        '"' :: ':' :: (j.characters ++ (moreMemberCharacters ms ++ rest))) := by
      simp [memberCharacters, quote]
    rw [htext, fields, nextMember_quote]
    simp only [keyedMember_flatMap_escape hvalue]
    rw [fields_moreMemberCharacters ms depth n _ rest hwhole.2 hdepth.2 (by omega)
      (Nat.lt_of_succ_lt_succ hn), List.reverse_cons]

/-- The members of an object are read back, after the first one. -/
theorem fields_moreMemberCharacters : ∀ (ms : List (String × Json)) (depth n : Nat)
    (others : List (String × Json)) (rest : List Char), isWholeMembers ms = true →
      depthMembers ms ≤ depth → (moreMemberCharacters ms).length ≤ bound → ms.length < n →
      fields false (keyedMember (document bound depth)) n false others
        (moreMemberCharacters ms ++ rest) = .ok (ms.reverse ++ others, rest)
  | [], depth, n + 1, others, rest, _, _, _, _ => by
    rw [moreMemberCharacters]
    rfl
  | (k, j) :: ms, depth, n + 1, others, rest, hwhole, hdepth, hbound, hn => by
    rw [isWholeMembers, Bool.and_eq_true] at hwhole
    rw [depthMembers, Nat.max_le] at hdepth
    simp only [moreMemberCharacters, List.length_append, List.length_cons] at hbound
    have hvalue := document_characters j depth _ hwhole.1 hdepth.1 (by omega)
      (stops_moreMemberCharacters ms rest)
    have htext : moreMemberCharacters ((k, j) :: ms) ++ rest =
        ',' :: '"' :: (k.toList.flatMap escape ++
          '"' :: ':' :: (j.characters ++ (moreMemberCharacters ms ++ rest))) := by
      simp [moreMemberCharacters, quote]
    rw [htext, fields, nextMember_comma_quote]
    simp only [keyedMember_flatMap_escape hvalue]
    rw [fields_moreMemberCharacters ms depth n _ rest hwhole.2 hdepth.2 (by omega)
      (Nat.lt_of_succ_lt_succ hn), List.reverse_cons, List.append_assoc]
    rfl

end

end Reader

/-! ## Whole texts -/

/-- A document without floats is read back, if it is not too deep. -/
theorem Json.read_write {j : Json} (hwhole : j.isWhole = true) (hdepth : j.depth ≤ maxDepth) :
    Json.read j.write = .ok j := by
  have hbound : j.characters.length ≤ j.characters.length + 1 := Nat.le_succ _
  have hread := Reader.document_characters j maxDepth [] hwhole hdepth hbound Reader.stops_nil
  rw [List.append_nil] at hread
  rw [Json.read, Reader.all, Json.write, String.toList_ofList, hread]
  rfl

theorem Value.read_write {j : Json} (hwhole : j.isWhole = true) (hdepth : j.depth ≤ maxDepth) :
    Value.read j.write = .ok (.ofJson j) := by
  rw [Value.read, Json.read_write hwhole hdepth]
  rfl

end Tether
