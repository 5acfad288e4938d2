import Tether.Proofs.Json.Nesting
import Tether.Proofs.Schema.Repeats
import Tether.Proofs.Schema.Text

/-!
# Values, read back as they were

What is written for a value is read back tidy, that is, without what is present and null. Where
nothing that may be absent writes null, there is no such thing, and the value itself is read back.

* `Schema.isFaithful`: the schemas of such values;
* `Schema.tidy_eq_self`: their values are tidy;
* `Wire.ofValue_toValue`, `Wire.read_write`: an element is read back, from its value and from its
  text.
-/

namespace Tether

/-- Whether null may stand for a value of the schema. -/
def Schema.mayBeNull : Schema → Bool
  | .any => true
  | .optional _ => true
  | _ => false

mutual

/-- Whether nothing that may be absent is written as null when it is present. -/
def Schema.isFaithful : Schema → Bool
  | .optional s => !s.mayBeNull && s.isFaithful
  | .list s => s.isFaithful
  | .record _ fs => fs.isFaithful
  | .openRecord _ fs => fs.isFaithful
  | _ => true

/-- The same for fields. -/
def Fields.isFaithful : Fields → Bool
  | .nil => true
  | .cons _ _ s fs => s.isFaithful && fs.isFaithful

end

theorem Schema.toJson_ne_null {s : Schema} (h : s.mayBeNull = false) (a : s.Denote) :
    s.toJson a ≠ .null := by
  cases s <;> simp_all [mayBeNull, toJson]

theorem Schema.ofJson_null_ne_ok {s : Schema} (h : s.mayBeNull = false) (a : s.Denote) :
    s.ofJson .null ≠ .ok a := by
  cases s <;> simp_all [mayBeNull, ofJson]

mutual

/-- The values of a faithful schema are tidy. -/
theorem Schema.tidy_eq_self : ∀ {s : Schema} (a : s.Denote), s.isFaithful = true → s.tidy a = a
  | .text, _, _ | .flag, _, _ | .natural _, _, _ | .any, _, _ | .label, _, _ => by rw [Schema.tidy]
  | .optional s, none, _ => by rw [Schema.tidy]
  | .optional s, some a, h => by
    simp only [Schema.isFaithful, Bool.and_eq_true, Bool.not_eq_true'] at h
    rw [Schema.tidy, if_neg (Schema.toJson_ne_null h.1 a), Schema.tidy_eq_self a h.2]
  | .list s, as, h => by
    rw [Schema.isFaithful] at h
    rw [Schema.tidy]
    exact (List.map_congr_left fun a _ => Schema.tidy_eq_self a h).trans (List.map_id as)
  | .record _ fs, as, h => by
    rw [Schema.isFaithful] at h
    rw [Schema.tidy, Fields.tidy_eq_self as h]
  | .openRecord _ fs, (as, extra), h => by
    rw [Schema.isFaithful] at h
    rw [Schema.tidy, Fields.tidy_eq_self as h]

theorem Fields.tidy_eq_self : ∀ {fs : Fields} (as : fs.Denote), fs.isFaithful = true →
    fs.tidy as = as
  | .nil, _, _ => rfl
  | .cons _ _ s fs, (a, as), h => by
    rw [Fields.isFaithful, Bool.and_eq_true] at h
    rw [Fields.tidy, Schema.tidy_eq_self a h.1, Fields.tidy_eq_self as h.2]

end

namespace Wire

variable {α : Type} [Wire α]

/-- An element is read back from its value. -/
theorem ofValue_toValue (hregular : (schema α).isRegular = true)
    (hfaithful : (schema α).isFaithful = true) (a : α) : ofValue (toValue a) = .ok a := by
  show ((schema α).ofJson ((schema α).toJson (parts a)).canonical).map build = _
  rw [Schema.ofJson_toJson _ _ hregular, Schema.tidy_eq_self _ hfaithful, Except.map, build_parts]

/-- An element is read back from its text, if a reader gets that deep. -/
theorem read_write (hregular : (schema α).isRegular = true)
    (hfaithful : (schema α).isFaithful = true) (a : α)
    (hwithin : (toJson a).Within maxDepth) : read (write a) = .ok a := by
  rw [write, read_eq_ok_iff (Json.read_write hwithin.1 hwithin.2),
    ofJson_eq_ok_iff_ofValue (Schema.isDistinct_of_isRegular hregular)]
  exact ⟨ofValue_toValue hregular hfaithful a, Schema.once_toJson _ hregular⟩

end Wire

end Tether
